import PageExtract.Html.Place

/-!
# Parts of a document

A node of a document, with all that is below it, is a *part* of the document.  A
place of the part is a place of the whole with fewer levels above it: those above
the part are missing (`Place.under`).

What is beside and below a place that stands inside a part belongs to the part.  So
it is found in the part as well as in the whole.  Only above there is more in the
whole: after the places above that are in the part come the root of the part and
what is above the root (`Inside.ancestors_under`).
-/

namespace PageExtract.Html

/-- A node with some levels closed around it, innermost level first. -/
def closeAll : List Level → Node → Node
  | [], n => n
  | l :: above, n => closeAll above (l.close n)

namespace Place

/-- A place of a part, seen in the whole.  `above` are the levels above the part. -/
def under (above : List Level) (p : Place) : Place := ⟨p.node, p.above ++ above⟩

/-- The outermost node around a place. -/
def top (p : Place) : Node := closeAll p.above p.node

/-- Whether a place stands inside a part, below its root. -/
structure Inside (root : Node) (p : Place) : Prop where
  /-- The place is not the root itself. -/
  above_ne_nil : p.above ≠ []
  /-- The root is the outermost node around the place. -/
  top_eq : p.top = root

theorem path_under (above : List Level) (p : Place) :
    (p.under above).path = p.path ++ above.map fun l => l.before.length :=
  List.map_append

/-! ## Above -/

theorem ancestorsFrom_under : ∀ (inner : List Level) (node : Node), inner ≠ [] →
    ∃ places : List Place, (∀ q ∈ places, q.Inside (closeAll inner node)) ∧
      ∀ above, ancestorsFrom node (inner ++ above) = places.map (under above) ++
        ⟨closeAll inner node, above⟩ :: ancestorsFrom (closeAll inner node) above
  | [], _, nonempty => absurd rfl nonempty
  | [l], node, _ => ⟨[], List.forall_mem_nil _, fun _ => rfl⟩
  | l :: m :: inner, node, _ => by
    obtain ⟨places, inside, rest⟩ :=
      ancestorsFrom_under (m :: inner) (l.close node) (List.cons_ne_nil m inner)
    refine ⟨⟨l.close node, m :: inner⟩ :: places, ?_, ?_⟩
    · exact List.forall_mem_cons.mpr ⟨⟨List.cons_ne_nil m inner, rfl⟩, inside⟩
    · intro above
      rw [List.cons_append, ancestorsFrom, rest above]
      rfl

/-- Above a place inside a part there are places inside it, then its root, and then what is
above the root. -/
theorem Inside.ancestors_under {root : Node} {p : Place} (h : p.Inside root) :
    ∃ places : List Place, (∀ q ∈ places, q.Inside root) ∧
      ∀ above, (p.under above).ancestors =
        places.map (under above) ++ ⟨root, above⟩ :: ancestorsFrom root above := by
  rw [← h.top_eq]
  exact ancestorsFrom_under p.above p.node h.above_ne_nil

theorem parent?_toList (p : Place) : p.parent?.toList = p.ancestors.take 1 := by
  obtain ⟨node, above⟩ := p
  cases above with
  | nil => rfl
  | cons l above => rfl

theorem length_above_ancestorsFrom {q : Place} : ∀ {above : List Level} {node : Node},
    q ∈ ancestorsFrom node above → q.above.length ≤ above.length
  | l :: above, node, h => by
    rcases List.mem_cons.mp h with rfl | later
    · exact Nat.le_succ above.length
    · exact Nat.le_succ_of_le (length_above_ancestorsFrom later)

/-! ## Beside -/

section

variable (parent : Option (ElementName × List Attr)) (inner : List Level)

theorem leftFrom_under (above : List Level) (before after : List Node) :
    leftFrom parent (inner ++ above) before after =
      (leftFrom parent inner before after).map (under above) := by
  induction before generalizing after with
  | nil => rfl
  | cons n before ih =>
    rw [leftFrom, leftFrom, ih]
    split
    next => rfl
    next => rfl

theorem rightFrom_under (above : List Level) (before after : List Node) :
    rightFrom parent (inner ++ above) before after =
      (rightFrom parent inner before after).map (under above) := by
  induction after generalizing before with
  | nil => rfl
  | cons n after ih =>
    rw [rightFrom, rightFrom, ih]
    split
    next => rfl
    next => rfl

/-- The node with some children. -/
def around (children : List Node) : Node :=
  match parent with
  | some (name, attrs) => .element name attrs children
  | none => .document children

theorem leftFrom_levels {q : Place} {before after : List Node}
    (h : q ∈ leftFrom parent inner before after) :
    ∃ l : Level, q.above = l :: inner ∧ l.close q.node = around parent (before.reverse ++ after) := by
  induction before generalizing after with
  | nil => exact nomatch h
  | cons n before ih =>
    have rest (later : q ∈ leftFrom parent inner before (n :: after)) := ih later
    rw [List.reverse_cons, List.append_assoc, List.singleton_append]
    rw [leftFrom] at h
    split at h
    next =>
      rcases List.mem_cons.mp h with rfl | later
      · exact ⟨⟨parent, before, after⟩, rfl, rfl⟩
      · exact rest later
    next => exact rest h

theorem rightFrom_levels {q : Place} {before after : List Node}
    (h : q ∈ rightFrom parent inner before after) :
    ∃ l : Level, q.above = l :: inner ∧ l.close q.node = around parent (before.reverse ++ after) := by
  induction after generalizing before with
  | nil => exact nomatch h
  | cons n after ih =>
    have rest (later : q ∈ rightFrom parent inner (n :: before) after) := ih later
    rw [List.reverse_cons, List.append_assoc, List.singleton_append] at rest
    rw [rightFrom] at h
    split at h
    next =>
      rcases List.mem_cons.mp h with rfl | later
      · exact ⟨⟨parent, before, after⟩, rfl, rfl⟩
      · exact rest later
    next => exact rest h

end

/-- A place is inside a part if some level above it closes to what a level above another place
of the part closes to. -/
theorem Inside.of_level {root : Node} {p q : Place} (h : p.Inside root) {l m : Level}
    {inner : List Level} (hp : p.above = l :: inner) (hq : q.above = m :: inner)
    (same : m.close q.node = l.close p.node) : q.Inside root := by
  refine ⟨hq ▸ List.cons_ne_nil m inner, ?_⟩
  rw [← h.top_eq, top, top, hp, hq, closeAll, closeAll, same]

section

variable {root : Node} {p : Place} (h : p.Inside root)
include h

theorem Inside.elementsBefore_under (above : List Level) :
    (p.under above).elementsBefore = p.elementsBefore.map (under above) := by
  obtain ⟨node, levels⟩ := p
  cases levels with
  | nil => exact absurd rfl h.above_ne_nil
  | cons l inner => exact leftFrom_under l.parent inner above l.before (node :: l.after)

theorem Inside.elementsAfter_under (above : List Level) :
    (p.under above).elementsAfter = p.elementsAfter.map (under above) := by
  obtain ⟨node, levels⟩ := p
  cases levels with
  | nil => exact absurd rfl h.above_ne_nil
  | cons l inner => exact rightFrom_under l.parent inner above (node :: l.before) l.after

theorem Inside.of_mem_elementsBefore {q : Place} (hq : q ∈ p.elementsBefore) : q.Inside root := by
  obtain ⟨node, levels⟩ := p
  cases levels with
  | nil => exact absurd rfl h.above_ne_nil
  | cons l inner =>
    obtain ⟨m, levels, same⟩ := leftFrom_levels l.parent inner hq
    exact h.of_level rfl levels same

theorem Inside.of_mem_elementsAfter {q : Place} (hq : q ∈ p.elementsAfter) : q.Inside root := by
  obtain ⟨node, levels⟩ := p
  cases levels with
  | nil => exact absurd rfl h.above_ne_nil
  | cons l inner =>
    obtain ⟨m, levels, same⟩ := rightFrom_levels l.parent inner hq
    rw [List.reverse_cons, List.append_assoc, List.singleton_append] at same
    exact h.of_level rfl levels same

end

theorem length_above_elementsBefore {p q : Place} (h : q ∈ p.elementsBefore) :
    q.above.length ≤ p.above.length := by
  obtain ⟨node, levels⟩ := p
  cases levels with
  | nil => exact nomatch h
  | cons l inner =>
    obtain ⟨m, levels, _⟩ := leftFrom_levels l.parent inner h
    rw [levels]
    exact Nat.le_refl _

/-! ## Below -/

mutual

theorem belowNode_under (inner above : List Level) : ∀ n : Node,
    belowNode (inner ++ above) n = (belowNode inner n).map (under above)
  | .document cs => belowNodes_under none inner above [] cs
  | .element name attrs cs => belowNodes_under (some (name, attrs)) inner above [] cs
  | .text _ => rfl
  | .comment _ => rfl
  | .doctype _ => rfl

theorem belowNodes_under (parent : Option (ElementName × List Attr)) (inner above : List Level)
    (before : List Node) : ∀ cs : List Node,
    belowNodes parent (inner ++ above) before cs =
      (belowNodes parent inner before cs).map (under above)
  | [] => rfl
  | n :: after => by
    have inside := belowNode_under (⟨parent, before, after⟩ :: inner) above n
    have rest := belowNodes_under parent inner above (n :: before) after
    rw [belowNodes, belowNodes, List.map_append, rest]
    split
    next => rw [List.map_cons, ← inside]; rfl
    next => rfl

end

/-- The places below a place of a part are in the part. -/
theorem below_under (above : List Level) (p : Place) :
    (p.under above).below = p.below.map (under above) :=
  belowNode_under p.above above p.node

mutual

theorem inside_of_mem_belowNode {q : Place} : ∀ (above : List Level) (n : Node),
    q ∈ belowNode above n → q.Inside (closeAll above n)
  | above, .document cs, h => inside_of_mem_belowNodes none above [] cs h
  | above, .element name attrs cs, h =>
    inside_of_mem_belowNodes (some (name, attrs)) above [] cs h
  | _, .text _, h => nomatch h
  | _, .comment _, h => nomatch h
  | _, .doctype _, h => nomatch h

theorem inside_of_mem_belowNodes {q : Place} : ∀ (parent : Option (ElementName × List Attr))
    (above : List Level) (before cs : List Node), q ∈ belowNodes parent above before cs →
      q.Inside (closeAll above (around parent (before.reverse ++ cs)))
  | _, _, _, [], h => nomatch h
  | parent, above, before, n :: after, h => by
    rw [belowNodes] at h
    rcases List.mem_append.mp h with here | later
    · split at here
      next =>
        rcases List.mem_cons.mp here with rfl | inside
        · exact ⟨List.cons_ne_nil _ above, rfl⟩
        · exact inside_of_mem_belowNode (⟨parent, before, after⟩ :: above) n inside
      next => exact nomatch here
    · have rest := inside_of_mem_belowNodes parent above (n :: before) after later
      rwa [List.reverse_cons, List.append_assoc, List.singleton_append] at rest

end

/-- What is below a place stands inside every part that the place belongs to. -/
theorem inside_of_mem_below {p q : Place} (h : q ∈ p.below) : q.Inside p.top :=
  inside_of_mem_belowNode p.above p.node h

theorem Inside.of_mem_below {root : Node} {p q : Place} (h : p.Inside root) (hq : q ∈ p.below) :
    q.Inside root :=
  h.top_eq ▸ inside_of_mem_below hq

end Place

end PageExtract.Html
