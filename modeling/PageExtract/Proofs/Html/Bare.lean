import PageExtract.Html.View

/-!
# Views without texts and attributes

A node is *bare* if there are neither texts nor attributes at and below it.  It
has no content then, no attribute is found, and the elements below it are bare.

What a selector finds in a view stands below one of its roots (`View.mem_find`).
So in a bare view only bare elements are found.
-/

namespace PageExtract.Html

mutual

/-- Whether there are neither texts nor attributes at and below a node. -/
def Node.Bare : Node → Prop
  | .document cs => Node.BareAll cs
  | .element _ attrs cs => attrs = [] ∧ Node.BareAll cs
  | .text _ => False
  | .comment _ => True
  | .doctype _ => True

/-- Whether there are neither texts nor attributes in a list of nodes. -/
def Node.BareAll : List Node → Prop
  | [] => True
  | n :: rest => n.Bare ∧ Node.BareAll rest

end

mutual

theorem Node.contentChars_of_bare : ∀ n : Node, n.Bare → n.contentChars = []
  | .document cs, h => by
    rw [Node.contentChars]
    exact Node.contentCharsOf_of_bare cs h
  | .element _ _ cs, h => by
    rw [Node.contentChars]
    exact Node.contentCharsOf_of_bare cs h.2
  | .text _, h => nomatch h
  | .comment _, _ => rfl
  | .doctype _, _ => rfl

theorem Node.contentCharsOf_of_bare : ∀ cs : List Node, Node.BareAll cs →
    Node.contentCharsOf cs = []
  | [], _ => rfl
  | n :: rest, h => by
    rw [Node.contentCharsOf, Node.contentChars_of_bare n h.1, Node.contentCharsOf_of_bare rest h.2]
    rfl

end

theorem Node.attr?_of_bare {n : Node} (h : n.Bare) (name : String) : n.attr? name = none := by
  cases n with
  | element _ attrs cs =>
    obtain ⟨rfl, _⟩ := h
    rfl
  | document => rfl
  | text => rfl
  | comment => rfl
  | doctype => rfl

namespace Place

mutual

theorem bare_of_mem_belowNode : ∀ (above : List Level) (n : Node), n.Bare →
    ∀ q ∈ belowNode above n, q.node.Bare
  | above, .document cs, h => bare_of_mem_belowNodes none above [] cs h
  | above, .element name attrs cs, h =>
    bare_of_mem_belowNodes (some (name, attrs)) above [] cs h.2
  | _, .text _, h => nomatch h
  | _, .comment _, _ => fun _ hq => nomatch hq
  | _, .doctype _, _ => fun _ hq => nomatch hq

theorem bare_of_mem_belowNodes : ∀ (parent : Option (ElementName × List Attr))
    (above : List Level) (before cs : List Node), Node.BareAll cs →
      ∀ q ∈ belowNodes parent above before cs, q.node.Bare
  | _, _, _, [], _ => fun _ hq => nomatch hq
  | parent, above, before, n :: after, h => by
    intro q hq
    rw [belowNodes] at hq
    rcases List.mem_append.mp hq with here | later
    · split at here
      next =>
        rcases List.mem_cons.mp here with rfl | inside
        · exact h.1
        · exact bare_of_mem_belowNode _ n h.1 q inside
      next => exact nomatch here
    · exact bare_of_mem_belowNodes parent above (n :: before) after h.2 q later

end

end Place

namespace View

/-- Whether there are neither texts nor attributes in a view. -/
def Bare (v : View) : Prop := ∀ root ∈ v.roots, root.node.Bare

theorem mem_distinct {places : List Place} {seen : List (List Nat)} {p : Place}
    (h : p ∈ distinct seen places) : p ∈ places := by
  induction places generalizing seen with
  | nil => exact h
  | cons first rest ih =>
    rw [distinct] at h
    split at h
    next => exact .tail _ (ih h)
    next =>
      rcases List.mem_cons.mp h with rfl | later
      · exact .head _
      · exact .tail _ (ih later)

/-- What is found in a view stands below one of its roots. -/
theorem mem_find {v : View} {has : Place → Bool} {p : Place} (h : p ∈ v.find has) :
    ∃ root ∈ v.roots, p ∈ root.below ∧ has p = true := by
  rw [find] at h
  split at h
  next root single =>
    rw [single]
    exact ⟨root, .head _, List.mem_filter.mp h⟩
  next =>
    obtain ⟨root, hr, hp⟩ := List.mem_flatMap.mp (mem_distinct h)
    exact ⟨root, hr, List.mem_filter.mp hp⟩

theorem Bare.select {v : View} (h : v.Bare) (list : List Css.Selector) :
    ∀ p ∈ v.select list, p.node.Bare := by
  intro p hp
  obtain ⟨root, hr, below, _⟩ := mem_find hp
  exact Place.bare_of_mem_belowNode root.above root.node (h root hr) p below

theorem Bare.selectFirst? {v : View} (h : v.Bare) {list : List Css.Selector} {p : Place}
    (found : v.selectFirst? list = some p) : p.node.Bare := by
  rw [View.selectFirst?, findFirst?_eq_head?] at found
  exact h.select list p (List.mem_of_mem_head? found)

end View

end PageExtract.Html
