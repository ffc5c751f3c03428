import PageExtract.Css.Match
import PageExtract.Proofs.Html.Part

/-!
# What a selector sees above a part of a document

Take an element inside a part of a document and ask whether a selector matches it.
Its conditions look at the element, below it and at its siblings, and all that is in
the part.  Only a combinator that looks up, to a parent or to some ancestor, can
leave the part.  When it does, it looks for an element from the root of the part
upward.  `Left.holdsAbove` says whether it finds one.

This is all that comes in from outside.  If the answers of `Left.holdsAbove` are the
same for two parts that are equal as nodes, then a selector matches the same elements
in both, wherever the parts stand (`matches?_under`).

The element that `:has` looks from is inside the part and is never found above it
(`Left.holds_some_of_lower`).  So the answers do not depend on it.
-/

namespace PageExtract.Css

open Html

/-! ## Looking for an element -/

/-- The places of the elements from which a combinator leads to a place, nearest first. -/
def Combinator.places (c : Combinator) (p : Place) : List Place :=
  match c with
  | .descendant => p.ancestors
  | .child => p.parent?.toList
  | .next => p.elementsBefore.take 1
  | .later => p.elementsBefore

/-- Whether something holds at one of some places that fits, or at the first that fits. -/
def search (first : Bool) (fits goal : Place → Bool) (places : List Place) : Bool :=
  if first then
    match places.find? fits with
    | some q => goal q
    | none => false
  else places.any fun q => fits q && goal q

theorem search_cons (first : Bool) (fits goal : Place → Bool) (q : Place) (places : List Place) :
    search first fits goal (q :: places) =
      if fits q then if first then goal q else goal q || search first fits goal places
      else search first fits goal places := by
  cases first with
  | true => cases fit : fits q <;> simp [search, fit]
  | false => cases fit : fits q <;> simp [search, fit]

/-- Two searches end alike if they go alike as long as they pass corresponding places and end
alike in what comes after. -/
theorem search_append_congr {first : Bool} {fits goal fits' goal' : Place → Bool}
    {f g : Place → Place} {places : List Place}
    (alike : ∀ q ∈ places, fits (f q) = fits' (g q) ∧ goal (f q) = goal' (g q))
    {later later' : List Place}
    (rest : search first fits goal later = search first fits' goal' later') :
    search first fits goal (places.map f ++ later) =
      search first fits' goal' (places.map g ++ later') := by
  induction places with
  | nil => exact rest
  | cons q places ih =>
    obtain ⟨here, there⟩ := List.forall_mem_cons.mp alike
    rw [List.map_cons, List.map_cons, List.cons_append, List.cons_append, search_cons, search_cons,
      ih there, here.1, here.2]

theorem search_map_congr {first : Bool} {fits goal fits' goal' : Place → Bool}
    {f g : Place → Place} {places : List Place}
    (alike : ∀ q ∈ places, fits (f q) = fits' (g q) ∧ goal (f q) = goal' (g q)) :
    search first fits goal (places.map f) = search first fits' goal' (places.map g) := by
  have none : search first fits goal [] = search first fits' goal' [] := by cases first <;> rfl
  rw [← List.append_nil (places.map f), ← List.append_nil (places.map g)]
  exact search_append_congr alike none

theorem search_congr {first : Bool} {fits goal fits' goal' : Place → Bool} {places : List Place}
    (alike : ∀ q ∈ places, fits q = fits' q ∧ goal q = goal' q) :
    search first fits goal places = search first fits' goal' places := by
  rw [← List.map_id places]
  exact search_map_congr alike

theorem Left.holds_seenFrom (anchor : Option Place) (p : Place) (c : Combinator)
    (conditions : List Condition) (left : Left) :
    (Left.seenFrom c conditions left).holds anchor p =
      search (left.looksBy c) (fun q => Condition.allHold anchor q conditions)
        (fun q => left.holds anchor q) (c.places p) := by
  cases c <;> rw [Left.holds] <;> rfl

/-! ## Looking up from the root of a part -/

/-- The places from which a combinator leads to an element right below a place. -/
def Combinator.placesAbove (c : Combinator) (p : Place) : List Place :=
  match c with
  | .descendant => p :: p.ancestors
  | .child => [p]
  | .next => []
  | .later => []

/-- Whether a combinator looks up. -/
def Combinator.looksUp : Combinator → Bool
  | .descendant => true
  | .child => true
  | .next => false
  | .later => false

/-- Whether there is an element from a place upward as a selector says, for an element that
stands below the place. -/
def Left.holdsAbove (p : Place) : Left → Bool
  | .nothing => true
  | .seenFrom c conditions left =>
      search (left.looksBy c) (fun q => Condition.allHold none q conditions)
        (fun q => left.holds none q) (c.placesAbove p)

mutual

/-- What a condition says with combinators that look up. -/
def Condition.upward : Condition → List Left
  | .none list => Selector.upwardOf list
  | .some list => Selector.upwardOf list
  | .has list => Selector.upwardOf list
  | _ => []

/-- What conditions say with combinators that look up. -/
def Condition.upwardOf : List Condition → List Left
  | [] => []
  | c :: rest => c.upward ++ Condition.upwardOf rest

/-- What a selector says with combinators that look up. -/
def Selector.upward : Selector → List Left
  | .mk subject left => Condition.upwardOf subject ++ left.upward

/-- What selectors say with combinators that look up. -/
def Selector.upwardOf : List Selector → List Left
  | [] => []
  | s :: rest => s.upward ++ Selector.upwardOf rest

/-- What is said with combinators that look up of where an element stands. -/
def Left.upward : Left → List Left
  | .nothing => []
  | .seenFrom c conditions left =>
      (if c.looksUp then [.seenFrom c conditions left] else []) ++
        Condition.upwardOf conditions ++ left.upward

end

/-! ## The element that `:has` looks from -/

theorem Combinator.length_above_places {c : Combinator} {p q : Place} (h : q ∈ c.places p) :
    q.above.length ≤ p.above.length := by
  cases c with
  | descendant => exact Place.length_above_ancestorsFrom h
  | child =>
    rw [places, Place.parent?_toList] at h
    exact Place.length_above_ancestorsFrom (List.mem_of_mem_take h)
  | next => exact Place.length_above_elementsBefore (List.mem_of_mem_take h)
  | later => exact Place.length_above_elementsBefore h

section

variable {anchor : Place}

mutual

theorem Condition.holds_some_of_lower : ∀ (c : Condition) (p : Place),
    p.above.length < anchor.above.length → c.holds (some anchor) p = c.holds none p
  | .anchor, p, lower => by
    -- A path has a step for each level, so the two paths differ in length.
    have differ : anchor.path ≠ p.path := by
      intro same
      have lengths := congrArg List.length same
      rw [Place.path, Place.path, List.length_map, List.length_map] at lengths
      exact Nat.ne_of_gt lower lengths
    simpa [Condition.holds] using differ
  | .none list, p, lower => by
    rw [Condition.holds, Condition.holds, Selector.anyMatches_some_of_lower list p lower]
  | .some list, p, lower => by
    rw [Condition.holds, Condition.holds, Selector.anyMatches_some_of_lower list p lower]
  | .has _, _, _ => by rw [Condition.holds, Condition.holds]
  | .named _, _, _ => by rw [Condition.holds, Condition.holds]
  | .universal, _, _ => by rw [Condition.holds, Condition.holds]
  | .noVocabulary, _, _ => by rw [Condition.holds, Condition.holds]
  | .hasId _, _, _ => by rw [Condition.holds, Condition.holds]
  | .hasClass _, _, _ => by rw [Condition.holds, Condition.holds]
  | .hasAttr _ _ _, _, _ => by rw [Condition.holds, Condition.holds]
  | .at _, _, _ => by rw [Condition.holds, Condition.holds]
  | .only _, _, _ => by rw [Condition.holds, Condition.holds]
  | .root, _, _ => by rw [Condition.holds, Condition.holds]
  | .empty, _, _ => by rw [Condition.holds, Condition.holds]
  | .onlyText, _, _ => by rw [Condition.holds, Condition.holds]
  | .link, _, _ => by rw [Condition.holds, Condition.holds]
  | .contains _, _, _ => by rw [Condition.holds, Condition.holds]
  | .hasText _, _, _ => by rw [Condition.holds, Condition.holds]
  | .never, _, _ => by rw [Condition.holds, Condition.holds]

theorem Condition.allHold_some_of_lower : ∀ (cs : List Condition) (p : Place),
    p.above.length < anchor.above.length →
      Condition.allHold (some anchor) p cs = Condition.allHold none p cs
  | [], _, _ => rfl
  | c :: rest, p, lower => by
    rw [Condition.allHold, Condition.allHold, Condition.holds_some_of_lower c p lower,
      Condition.allHold_some_of_lower rest p lower]

theorem Selector.matchesFrom_some_of_lower : ∀ (s : Selector) (p : Place),
    p.above.length < anchor.above.length →
      s.matchesFrom (some anchor) p = s.matchesFrom none p
  | .mk subject left, p, lower => by
    rw [Selector.matchesFrom, Selector.matchesFrom,
      Condition.allHold_some_of_lower subject p lower, Left.holds_some_of_lower left p lower]

theorem Selector.anyMatches_some_of_lower : ∀ (list : List Selector) (p : Place),
    p.above.length < anchor.above.length →
      Selector.anyMatches (some anchor) p list = Selector.anyMatches none p list
  | [], _, _ => rfl
  | s :: rest, p, lower => by
    rw [Selector.anyMatches, Selector.anyMatches, Selector.matchesFrom_some_of_lower s p lower,
      Selector.anyMatches_some_of_lower rest p lower]

/-- From a place that has fewer levels above it than the element that `:has` looks from, that
element is not found. -/
theorem Left.holds_some_of_lower : ∀ (left : Left) (p : Place),
    p.above.length < anchor.above.length → left.holds (some anchor) p = left.holds none p
  | .nothing, _, _ => by rw [Left.holds, Left.holds]
  | .seenFrom c conditions left, p, lower => by
    rw [Left.holds_seenFrom, Left.holds_seenFrom]
    refine search_congr ?_
    intro q hq
    have higher := Nat.lt_of_le_of_lt (Combinator.length_above_places hq) lower
    exact ⟨Condition.allHold_some_of_lower conditions q higher,
      Left.holds_some_of_lower left q higher⟩

end

end

/-! ## The same part in two places -/

theorem counted_under (same : Bool) (above : List Level) (p : Place) (siblings : List Place) :
    counted same (p.under above) (siblings.map (Place.under above)) = counted same p siblings := by
  rw [counted, List.countP_map]
  rfl

theorem any_map_congr {has has' : Place → Bool} {f g : Place → Place} {places : List Place}
    (alike : ∀ q ∈ places, has (f q) = has' (g q)) :
    (places.map f).any has = (places.map g).any has' := by
  rw [List.any_map, List.any_map, Bool.eq_iff_iff, List.any_eq_true, List.any_eq_true]
  refine exists_congr fun q => and_congr_right fun hq => ?_
  rw [Function.comp_apply, Function.comp_apply, alike q hq]

/-- Something holds at a place below in one document if what corresponds to it holds at the same
place in the other. -/
theorem any_below_congr {root : Node} {p : Place} (h : p.Inside root) {above above' : List Level}
    (has has' : Place → Bool)
    (alike : ∀ q : Place, q.Inside root → has (q.under above) = has' (q.under above')) :
    (p.under above).below.any has = (p.under above').below.any has' := by
  rw [Place.below_under, Place.below_under]
  exact any_map_congr fun q hq => alike q (h.of_mem_below hq)

theorem any_elementsAfter_congr {root : Node} {p : Place} (h : p.Inside root)
    {above above' : List Level} (has has' : Place → Bool)
    (alike : ∀ q : Place, q.Inside root → has (q.under above) = has' (q.under above')) :
    (p.under above).elementsAfter.any has = (p.under above').elementsAfter.any has' := by
  rw [h.elementsAfter_under, h.elementsAfter_under]
  exact any_map_congr fun q hq => alike q (h.of_mem_elementsAfter hq)

theorem Position.holds_under {root : Node} {p : Place} (h : p.Inside root) (above : List Level)
    (position : Position) : position.holds (p.under above) = position.holds p := by
  rw [Position.holds, Position.holds, h.elementsBefore_under, h.elementsAfter_under, ← apply_ite,
    counted_under]

/-- From a place inside a part a combinator leads to places inside the part, and to none above
it but those that `placesAbove` lists. -/
theorem Combinator.places_under {root : Node} {p : Place} (h : p.Inside root) (c : Combinator) :
    ∃ places : List Place, (∀ q ∈ places, q.Inside root) ∧
      ((∀ above, c.places (p.under above) = places.map (Place.under above)) ∨
        c.looksUp = true ∧ ∀ above, c.places (p.under above) =
          places.map (Place.under above) ++ c.placesAbove ⟨root, above⟩) := by
  cases c with
  | descendant =>
    obtain ⟨places, inside, ancestors⟩ := h.ancestors_under
    exact ⟨places, inside, .inr ⟨rfl, ancestors⟩⟩
  | child =>
    obtain ⟨places, inside, ancestors⟩ := h.ancestors_under
    simp only [Combinator.places, Place.parent?_toList, ancestors]
    cases places with
    | nil => exact ⟨[], inside, .inr ⟨rfl, fun _ => rfl⟩⟩
    | cons q places =>
      exact ⟨[q], List.forall_mem_singleton.mpr (inside q (.head _)), .inl fun _ => rfl⟩
  | next =>
    refine ⟨p.elementsBefore.take 1, ?_, .inl ?_⟩
    · intro q hq
      exact h.of_mem_elementsBefore (List.mem_of_mem_take hq)
    · intro above
      rw [Combinator.places, h.elementsBefore_under, List.map_take]
  | later =>
    refine ⟨p.elementsBefore, fun q hq => h.of_mem_elementsBefore hq, .inl ?_⟩
    intro above
    exact h.elementsBefore_under above

/-- Whether what a selector says with some combinator that looks up is answered alike from the
root of a part below some levels and below others. -/
def AnswersAlike (root : Node) (above above' : List Level) (lefts : List Left) : Prop :=
  ∀ left ∈ lefts, left.holdsAbove ⟨root, above⟩ = left.holdsAbove ⟨root, above'⟩

section

variable {root : Node} {above above' : List Level}

theorem AnswersAlike.append {lefts more : List Left}
    (h : AnswersAlike root above above' (lefts ++ more)) :
    AnswersAlike root above above' lefts ∧ AnswersAlike root above above' more :=
  List.forall_mem_append.mp h

/-- What a search above a part finds does not depend on the element that `:has` looks from. -/
theorem Left.search_placesAbove {anchor : Option Place} (inside : ∀ a ∈ anchor, a.Inside root)
    (above : List Level) (c : Combinator) (conditions : List Condition) (left : Left) :
    search (left.looksBy c)
        (fun q => Condition.allHold (anchor.map (Place.under above)) q conditions)
        (fun q => left.holds (anchor.map (Place.under above)) q) (c.placesAbove ⟨root, above⟩) =
      (Left.seenFrom c conditions left).holdsAbove ⟨root, above⟩ := by
  rw [Left.holdsAbove]
  cases anchor with
  | none => rfl
  | some a =>
    refine search_congr ?_
    intro q hq
    have lower : q.above.length < (a.under above).above.length := by
      have upper : q.above.length ≤ above.length := by
        cases c with
        | descendant =>
          rcases List.mem_cons.mp hq with rfl | later
          · exact Nat.le_refl _
          · exact Place.length_above_ancestorsFrom later
        | child => exact List.mem_singleton.mp hq ▸ Nat.le_refl _
        | next => exact absurd hq List.not_mem_nil
        | later => exact absurd hq List.not_mem_nil
      have deeper := List.length_pos_iff.mpr (inside a rfl).above_ne_nil
      rw [Place.under, List.length_append]
      omega
    exact ⟨Condition.allHold_some_of_lower conditions q lower, Left.holds_some_of_lower left q lower⟩

mutual

theorem Condition.holds_under : ∀ (c : Condition), AnswersAlike root above above' c.upward →
    ∀ (anchor : Option Place) (p : Place), (∀ a ∈ anchor, a.Inside root) → p.Inside root →
      c.holds (anchor.map (Place.under above)) (p.under above) =
        c.holds (anchor.map (Place.under above')) (p.under above')
  | .none list, alike, anchor, p, ha, hp => by
    rw [Condition.holds, Condition.holds, Selector.anyMatches_under list alike anchor p ha hp]
  | .some list, alike, anchor, p, ha, hp => by
    rw [Condition.holds, Condition.holds, Selector.anyMatches_under list alike anchor p ha hp]
  | .has list, alike, anchor, p, ha, hp => by
    have own : ∀ a ∈ some p, a.Inside root := fun _ ha => Option.mem_some.mp ha ▸ hp
    let has (levels : List Level) (q : Place) : Bool :=
      Selector.anyMatches (some (p.under levels)) q list
    have found : ∀ q : Place, q.Inside root →
        has above (q.under above) = has above' (q.under above') :=
      fun q hq => Selector.anyMatches_under list alike (some p) q own hq
    have below (q : Place) (hq : q.Inside root) := any_below_congr hq _ _ found
    have beside := any_elementsAfter_congr hp (fun q => has above q || q.below.any (has above))
      (fun q => has above' q || q.below.any (has above'))
      fun q hq => by rw [found q hq, below q hq]
    rw [Condition.holds, Condition.holds]
    exact congr (congrArg or (below p hp)) beside
  | .anchor, _, anchor, p, _, _ => by
    cases anchor with
    | none => rw [Option.map_none, Option.map_none, Condition.holds, Condition.holds]
    | some a =>
      have path (levels : List Level) :
          ((a.under levels).path == (p.under levels).path) = (a.path == p.path) := by
        rw [Place.path_under, Place.path_under, Bool.eq_iff_iff, beq_iff_eq, beq_iff_eq,
          List.append_left_inj]
      rw [Option.map_some, Option.map_some, Condition.holds, Condition.holds, path, path]
  | .at position, _, _, p, _, hp => by
    rw [Condition.holds, Condition.holds, Position.holds_under hp, Position.holds_under hp]
  | .only same, _, _, p, _, hp => by
    rw [Condition.holds, Condition.holds, hp.elementsBefore_under, hp.elementsBefore_under,
      hp.elementsAfter_under, hp.elementsAfter_under, counted_under, counted_under, counted_under,
      counted_under]
  | .root, _, _, p, _, hp => by
    have below (levels : List Level) : (p.under levels).above.isEmpty = false :=
      List.isEmpty_eq_false_iff.mpr (List.append_ne_nil_of_left_ne_nil hp.above_ne_nil levels)
    rw [Condition.holds, Condition.holds, below, below]
  | .named _, _, _, _, _, _ => by rw [Condition.holds, Condition.holds]; rfl
  | .universal, _, _, _, _, _ => by rw [Condition.holds, Condition.holds]
  | .noVocabulary, _, _, _, _, _ => by rw [Condition.holds, Condition.holds]
  | .hasId _, _, _, _, _, _ => by rw [Condition.holds, Condition.holds]; rfl
  | .hasClass _, _, _, _, _, _ => by rw [Condition.holds, Condition.holds]; rfl
  | .hasAttr _ _ _, _, _, _, _, _ => by rw [Condition.holds, Condition.holds]; rfl
  | .empty, _, _, _, _, _ => by rw [Condition.holds, Condition.holds]; rfl
  | .onlyText, _, _, _, _, _ => by rw [Condition.holds, Condition.holds]; rfl
  | .link, _, _, _, _, _ => by rw [Condition.holds, Condition.holds]; rfl
  | .contains _, _, _, _, _, _ => by rw [Condition.holds, Condition.holds]; rfl
  | .hasText _, _, _, _, _, _ => by rw [Condition.holds, Condition.holds]; rfl
  | .never, _, _, _, _, _ => by rw [Condition.holds, Condition.holds]

theorem Condition.allHold_under : ∀ (cs : List Condition),
    AnswersAlike root above above' (Condition.upwardOf cs) →
    ∀ (anchor : Option Place) (p : Place), (∀ a ∈ anchor, a.Inside root) → p.Inside root →
      Condition.allHold (anchor.map (Place.under above)) (p.under above) cs =
        Condition.allHold (anchor.map (Place.under above')) (p.under above') cs
  | [], _, _, _, _, _ => rfl
  | c :: rest, alike, anchor, p, ha, hp => by
    obtain ⟨first, later⟩ := alike.append
    rw [Condition.allHold, Condition.allHold, Condition.holds_under c first anchor p ha hp,
      Condition.allHold_under rest later anchor p ha hp]

theorem Selector.matchesFrom_under : ∀ (s : Selector), AnswersAlike root above above' s.upward →
    ∀ (anchor : Option Place) (p : Place), (∀ a ∈ anchor, a.Inside root) → p.Inside root →
      s.matchesFrom (anchor.map (Place.under above)) (p.under above) =
        s.matchesFrom (anchor.map (Place.under above')) (p.under above')
  | .mk subject left, alike, anchor, p, ha, hp => by
    obtain ⟨own, further⟩ := alike.append
    rw [Selector.matchesFrom, Selector.matchesFrom,
      Condition.allHold_under subject own anchor p ha hp,
      Left.holds_under left further anchor p ha hp]

theorem Selector.anyMatches_under : ∀ (list : List Selector),
    AnswersAlike root above above' (Selector.upwardOf list) →
    ∀ (anchor : Option Place) (p : Place), (∀ a ∈ anchor, a.Inside root) → p.Inside root →
      Selector.anyMatches (anchor.map (Place.under above)) (p.under above) list =
        Selector.anyMatches (anchor.map (Place.under above')) (p.under above') list
  | [], _, _, _, _, _ => rfl
  | s :: rest, alike, anchor, p, ha, hp => by
    obtain ⟨first, later⟩ := alike.append
    rw [Selector.anyMatches, Selector.anyMatches, Selector.matchesFrom_under s first anchor p ha hp,
      Selector.anyMatches_under rest later anchor p ha hp]

theorem Left.holds_under : ∀ (left : Left), AnswersAlike root above above' left.upward →
    ∀ (anchor : Option Place) (p : Place), (∀ a ∈ anchor, a.Inside root) → p.Inside root →
      left.holds (anchor.map (Place.under above)) (p.under above) =
        left.holds (anchor.map (Place.under above')) (p.under above')
  | .nothing, _, _, _, _, _ => by rw [Left.holds, Left.holds]
  | .seenFrom c conditions left, alike, anchor, p, ha, hp => by
    obtain ⟨ownAndConditions, further⟩ := alike.append
    obtain ⟨own, ofConditions⟩ := ownAndConditions.append
    obtain ⟨places, inside, led⟩ := c.places_under hp
    have same : ∀ q ∈ places, _ := fun q hq => And.intro
      (Condition.allHold_under conditions ofConditions anchor q ha (inside q hq))
      (Left.holds_under left further anchor q ha (inside q hq))
    rw [Left.holds_seenFrom, Left.holds_seenFrom]
    -- Past the places in the part the search goes on above it, where the answers are alike.
    rcases led with within | ⟨up, beyond⟩
    · rw [within above, within above']
      exact search_map_congr same
    · rw [beyond above, beyond above']
      refine search_append_congr same ?_
      rw [Left.search_placesAbove ha, Left.search_placesAbove ha]
      exact own _ (by simp [up])

end

/-- A selector matches the same places of a part below some levels and below others, if its
combinators that look up are answered alike. -/
theorem matches?_under {list : List Selector}
    (alike : AnswersAlike root above above' (Selector.upwardOf list)) {p : Place}
    (h : p.Inside root) : matches? list (p.under above) = matches? list (p.under above') :=
  Selector.anyMatches_under list alike none p (fun _ ha => nomatch ha) h

end

end PageExtract.Css
