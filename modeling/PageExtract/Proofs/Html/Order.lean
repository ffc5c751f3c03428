import Mathlib.Data.List.Lex
import Mathlib.Logic.Relation
import PageExtract.Proofs.Html.Part

/-!
# The order of a document

An element is a *child* of the place that is its parent, and it stands *below* the places from
which children lead to it.  `Place.below` lists just these elements (`mem_below_iff`).

Paths that start at the document give the order of the document: of two places the one comes
*before* the other whose path is first in the order of words.  So a place comes before what is
below it, and what is below a place comes before its next sibling.  `Place.below` lists the
elements in this order (`pairwise_below`), and so none of them twice.

The order is proved along the recursion of the list.  All that is below the children from some
number on has that number or a greater one in its path (`way_of_mem_belowNodes`), which parts it
from the children before and from what is below those.
-/

namespace PageExtract.Html.Place

/-! ## Children -/

/-- Whether an element has a place as its parent. -/
def IsChild (p q : Place) : Prop := q.node.isElement = true ∧ q.parent? = some p

/-- Whether children lead from a place to an element. -/
def IsBelow : Place → Place → Prop := Relation.TransGen IsChild

/-- A child is an element on a level, and its parent is that level with the element in it. -/
theorem IsChild.exists_level {p q : Place} (h : IsChild p q) :
    ∃ (n : Node) (l : Level) (above : List Level),
      n.isElement = true ∧ q = ⟨n, l :: above⟩ ∧ p = ⟨l.close n, above⟩ := by
  obtain ⟨n, above⟩ := q
  obtain ⟨element, parent⟩ := h
  cases above with
  | nil => exact nomatch parent
  | cons l above => exact ⟨n, l, above, element, rfl, (Option.some.inj parent).symm⟩

theorem IsChild.length_above {p q : Place} (h : IsChild p q) :
    q.above.length = p.above.length + 1 := by
  obtain ⟨n, l, above, -, rfl, rfl⟩ := h.exists_level
  rfl

theorem IsBelow.length_above_lt {p q : Place} (h : IsBelow p q) :
    p.above.length < q.above.length := by
  induction h with
  | single child => exact child.length_above ▸ Nat.lt_succ_self _
  | tail _ child ih => exact child.length_above ▸ Nat.lt_succ_of_lt ih

/-- No place stands below itself. -/
theorem not_isBelow_self (p : Place) : ¬ p.IsBelow p := fun h =>
  Nat.lt_irrefl _ h.length_above_lt

/-! ## What is listed -/

theorem isChild_close (parent : Option (ElementName × List Attr)) (above : List Level)
    (before after : List Node) {n : Node} (element : n.isElement = true) :
    IsChild ⟨around parent (before.reverse ++ n :: after), above⟩
      ⟨n, ⟨parent, before, after⟩ :: above⟩ :=
  ⟨element, rfl⟩

mutual

theorem isBelow_of_mem_belowNode {q : Place} : ∀ (above : List Level) (n : Node),
    q ∈ belowNode above n → IsBelow ⟨n, above⟩ q
  | above, .document cs, h => isBelow_of_mem_belowNodes none above [] cs h
  | above, .element name attrs cs, h => isBelow_of_mem_belowNodes (some (name, attrs)) above [] cs h
  | _, .text _, h => nomatch h
  | _, .comment _, h => nomatch h
  | _, .doctype _, h => nomatch h

theorem isBelow_of_mem_belowNodes {q : Place} : ∀ (parent : Option (ElementName × List Attr))
    (above : List Level) (before cs : List Node), q ∈ belowNodes parent above before cs →
      IsBelow ⟨around parent (before.reverse ++ cs), above⟩ q
  | _, _, _, [], h => nomatch h
  | parent, above, before, n :: after, h => by
    rw [belowNodes] at h
    rcases List.mem_append.mp h with here | later
    · split at here
      next element =>
        have child := isChild_close parent above before after element
        rcases List.mem_cons.mp here with rfl | inside
        · exact .single child
        · exact .head child (isBelow_of_mem_belowNode (⟨parent, before, after⟩ :: above) n inside)
      next => exact nomatch here
    · have rest := isBelow_of_mem_belowNodes parent above (n :: before) after later
      rwa [List.reverse_cons, List.append_assoc, List.singleton_append] at rest

end

theorem belowNode_close (above : List Level) (l : Level) (n : Node) :
    belowNode above (l.close n) =
      belowNodes l.parent above [] (l.before.reverse ++ n :: l.after) := by
  obtain ⟨parent, before, after⟩ := l
  cases parent with
  | none => rfl
  | some named => rfl

theorem mem_belowNodes_append {parent : Option (ElementName × List Attr)} {above : List Level}
    {q : Place} {passed before cs : List Node}
    (h : q ∈ belowNodes parent above (passed.reverse ++ before) cs) :
    q ∈ belowNodes parent above before (passed ++ cs) := by
  induction passed generalizing before with
  | nil => exact h
  | cons n passed ih =>
    rw [List.reverse_cons, List.append_assoc, List.singleton_append] at h
    rw [List.cons_append, belowNodes]
    exact List.mem_append_right _ (ih h)

theorem IsChild.mem_below {p q : Place} (h : IsChild p q) : q ∈ p.below := by
  obtain ⟨n, l, above, element, rfl, rfl⟩ := h.exists_level
  rw [below, belowNode_close]
  refine mem_belowNodes_append ?_
  rw [List.reverse_reverse, List.append_nil, belowNodes, if_pos element]
  exact List.mem_append_left _ (.head _)

mutual

theorem mem_belowNode_trans {p q : Place} (below : q ∈ p.below) : ∀ (above : List Level) (n : Node),
    p ∈ belowNode above n → q ∈ belowNode above n
  | above, .document cs, h => mem_belowNodes_trans below none above [] cs h
  | above, .element name attrs cs, h =>
    mem_belowNodes_trans below (some (name, attrs)) above [] cs h
  | _, .text _, h => nomatch h
  | _, .comment _, h => nomatch h
  | _, .doctype _, h => nomatch h

theorem mem_belowNodes_trans {p q : Place} (below : q ∈ p.below) :
    ∀ (parent : Option (ElementName × List Attr)) (above : List Level) (before cs : List Node),
      p ∈ belowNodes parent above before cs → q ∈ belowNodes parent above before cs
  | _, _, _, [], h => nomatch h
  | parent, above, before, n :: after, h => by
    rw [belowNodes] at h ⊢
    rcases List.mem_append.mp h with here | later
    · refine List.mem_append_left _ ?_
      split at here
      next element =>
        rw [if_pos element]
        rcases List.mem_cons.mp here with rfl | inside
        · exact .tail _ below
        · exact .tail _ (mem_belowNode_trans below (⟨parent, before, after⟩ :: above) n inside)
      next => exact nomatch here
    · exact List.mem_append_right _
        (mem_belowNodes_trans below parent above (n :: before) after later)

end

/-- The list of what is below a place has just the elements that stand below it. -/
theorem mem_below_iff {p q : Place} : q ∈ p.below ↔ p.IsBelow q := by
  refine ⟨isBelow_of_mem_belowNode p.above p.node, fun h => ?_⟩
  induction h with
  | single child => exact child.mem_below
  | tail _ child ih => exact mem_belowNode_trans child.mem_below p.above p.node ih

/-! ## Before and after -/

/-- The path from the document to a place. -/
def way (p : Place) : List Nat := p.path.reverse

/-- Whether a place comes before another in a document. -/
def Before (p q : Place) : Prop := p.way < q.way

instance : DecidableRel Before := fun p q => inferInstanceAs (Decidable (p.way < q.way))

theorem Before.irrefl (p : Place) : ¬ p.Before p := List.lt_irrefl p.way

theorem Before.asymm {p q : Place} (h : p.Before q) : ¬ q.Before p := List.lt_asymm h

theorem way_cons (n : Node) (l : Level) (above : List Level) (m : Node) :
    way ⟨n, l :: above⟩ = way ⟨m, above⟩ ++ [l.before.length] :=
  List.reverse_cons

theorem IsChild.way_eq {p q : Place} (h : IsChild p q) : ∃ i, q.way = p.way ++ [i] := by
  obtain ⟨n, l, above, -, rfl, rfl⟩ := h.exists_level
  exact ⟨l.before.length, way_cons n l above (l.close n)⟩

theorem IsBelow.way_eq {p q : Place} (h : IsBelow p q) : ∃ i rest, q.way = p.way ++ i :: rest := by
  induction h with
  | single child =>
    obtain ⟨i, same⟩ := child.way_eq
    exact ⟨i, [], same⟩
  | tail _ child ih =>
    obtain ⟨i, rest, before⟩ := ih
    obtain ⟨j, same⟩ := child.way_eq
    exact ⟨i, rest ++ [j], by rw [same, before, List.append_assoc, List.cons_append]⟩

/-- A place comes before what is below it. -/
theorem IsBelow.before {p q : Place} (h : IsBelow p q) : p.Before q := by
  obtain ⟨i, rest, same⟩ := h.way_eq
  have longer : p.way ++ [] < p.way ++ i :: rest := List.Lex.append_left _ .nil p.way
  rwa [List.append_nil, ← same] at longer

section

variable {parent : Option (ElementName × List Attr)} {above : List Level} {before after : List Node}
  {n : Node} {q : Place}

/-- A child and what is below it have the number of the child in their paths. -/
theorem way_of_mem_child (m : Node)
    (h : q ∈ ⟨n, ⟨parent, before, after⟩ :: above⟩ ::
      belowNode (⟨parent, before, after⟩ :: above) n) :
    ∃ rest, q.way = way ⟨m, above⟩ ++ before.length :: rest := by
  have here := way_cons n ⟨parent, before, after⟩ above m
  rcases List.mem_cons.mp h with rfl | inside
  · exact ⟨[], here⟩
  · obtain ⟨i, rest, same⟩ := (isBelow_of_mem_belowNode _ _ inside).way_eq
    exact ⟨i :: rest, by rw [same, here, List.append_assoc, List.singleton_append]⟩

/-- What is below the children from some number on has that number or a greater one in its path. -/
theorem way_of_mem_belowNodes (m : Node) {cs : List Node}
    (h : q ∈ belowNodes parent above before cs) :
    ∃ i rest, before.length ≤ i ∧ q.way = way ⟨m, above⟩ ++ i :: rest := by
  induction cs generalizing before with
  | nil => exact nomatch h
  | cons n after ih =>
    rw [belowNodes] at h
    rcases List.mem_append.mp h with here | later
    · split at here
      next =>
        obtain ⟨rest, same⟩ := way_of_mem_child m here
        exact ⟨_, rest, Nat.le_refl _, same⟩
      next => exact nomatch here
    · obtain ⟨i, rest, least, same⟩ := ih later
      exact ⟨i, rest, Nat.le_of_succ_le least, same⟩

end

mutual

theorem pairwise_belowNode : ∀ (above : List Level) (n : Node),
    (belowNode above n).Pairwise Before
  | above, .document cs => pairwise_belowNodes none above [] cs
  | above, .element name attrs cs => pairwise_belowNodes (some (name, attrs)) above [] cs
  | _, .text _ => .nil
  | _, .comment _ => .nil
  | _, .doctype _ => .nil

theorem pairwise_belowNodes : ∀ (parent : Option (ElementName × List Attr)) (above : List Level)
    (before cs : List Node), (belowNodes parent above before cs).Pairwise Before
  | _, _, _, [] => .nil
  | parent, above, before, n :: after => by
    have later := pairwise_belowNodes parent above (n :: before) after
    rw [belowNodes]
    split
    next =>
      have inside := pairwise_belowNode (⟨parent, before, after⟩ :: above) n
      refine List.pairwise_append.mpr ⟨.cons ?_ inside, later, ?_⟩
      · exact fun q below => (isBelow_of_mem_belowNode _ _ below).before
      · intro p first q second
        obtain ⟨rest, here⟩ := way_of_mem_child n first
        obtain ⟨i, rest', least, there⟩ := way_of_mem_belowNodes n second
        rw [Before, here, there]
        exact List.Lex.append_left (· < ·) (.rel (Nat.lt_of_succ_le least)) _
    next => exact later

end

/-- What is below a place is listed in the order of the document. -/
theorem pairwise_below (p : Place) : p.below.Pairwise Before := pairwise_belowNode p.above p.node

theorem nodup_of_before {places : List Place} (order : places.Pairwise Before) :
    places.Nodup := by
  refine order.imp ?_
  rintro q _ before rfl
  exact Before.irrefl q before

/-- There is one way to list some places in the order of the document. -/
theorem eq_of_before {places others : List Place} (order : places.Pairwise Before)
    (order' : others.Pairwise Before) (same : ∀ q, q ∈ places ↔ q ∈ others) : places = others := by
  have perm : places.Perm others :=
    (List.perm_ext_iff_of_nodup (nodup_of_before order) (nodup_of_before order')).mpr same
  exact perm.eq_of_pairwise (fun _ _ _ _ before after => absurd after before.asymm) order order'

/-! ## The first -/

/-- Whether a place is the first, of those below a root, that has some property. -/
structure IsFirstBelow (root : Place) (has : Place → Prop) (q : Place) : Prop where
  /-- It stands below the root. -/
  below : root.IsBelow q
  /-- It has the property. -/
  holds : has q
  /-- All others that have it come later. -/
  first : ∀ p, root.IsBelow p → has p → p = q ∨ q.Before p

theorem IsFirstBelow.unique {root p q : Place} {has : Place → Prop} (hp : IsFirstBelow root has p)
    (hq : IsFirstBelow root has q) : p = q := by
  rcases hp.first q hq.below hq.holds with same | before
  · exact same.symm
  · rcases hq.first p hp.below hp.holds with same | after
    · exact same
    · exact absurd after before.asymm

theorem firstBelow?_eq_none_iff {root : Place} {has : Place → Bool} :
    root.firstBelow? has = none ↔ ∀ q, root.IsBelow q → has q = false := by
  rw [firstBelow?_eq, List.find?_eq_none]
  simp only [mem_below_iff, Bool.not_eq_true]

theorem isFirstBelow_of_firstBelow? {root q : Place} {has : Place → Bool}
    (found : root.firstBelow? has = some q) : IsFirstBelow root (has · = true) q := by
  rw [firstBelow?_eq, List.find?_eq_some_iff_append] at found
  obtain ⟨holds, passed, later, split, none⟩ := found
  have order := split ▸ root.pairwise_below
  have member {p : Place} : root.IsBelow p ↔ p ∈ passed ++ q :: later := by
    rw [← mem_below_iff, split]
  refine ⟨member.mpr (List.mem_append_right _ (.head _)), holds, fun p below has => ?_⟩
  rcases List.mem_append.mp (member.mp below) with before | after
  · have lacks := none p before
    rw [has] at lacks
    exact nomatch lacks
  · rcases List.mem_cons.mp after with same | after
    · exact .inl same
    · exact .inr ((List.pairwise_cons.mp (List.pairwise_append.mp order).2.1).1 p after)

/-- The search finds the first, and only that. -/
theorem firstBelow?_eq_some_iff {root q : Place} {has : Place → Bool} :
    root.firstBelow? has = some q ↔ IsFirstBelow root (has · = true) q := by
  refine ⟨isFirstBelow_of_firstBelow?, fun h => ?_⟩
  cases found : root.firstBelow? has with
  | none => exact absurd h.holds (by rw [firstBelow?_eq_none_iff.mp found q h.below]; nofun)
  | some p => rw [(isFirstBelow_of_firstBelow? found).unique h]

end PageExtract.Html.Place
