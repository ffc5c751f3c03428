import PageExtract.Html.Node

/-!
# Places in a document

A *place* is a node together with all that stands around it: for each node on
the way up, its siblings before and after and what their parent is.  So the
parent and the siblings of a place are places too, and nothing else is needed to
find them.

The siblings before a node are listed nearest first.  Their number, for every
level, is the *path* of the place.  It tells the places of a document apart.

`below` lists the elements below a place in document order.  `firstBelow?` finds
the first of them with some property and looks no further.
-/

namespace PageExtract.Html

/-- What stands around a node below one parent. -/
structure Level where
  /-- The name and the attributes of the parent, or nothing if that is the document. -/
  parent : Option (ElementName × List Attr)
  /-- The siblings before the node, nearest first. -/
  before : List Node
  /-- The siblings after the node. -/
  after : List Node

/-- A node and what stands around it, innermost level first. -/
structure Place where
  /-- The node. -/
  node : Node
  /-- The levels above it. -/
  above : List Level

namespace Place

/-- The place of a document. -/
def ofDocument (document : Node) : Place := ⟨document, []⟩

/-- The numbers of siblings before the node and the nodes above it. -/
def path (p : Place) : List Nat := p.above.map fun l => l.before.length

end Place

/-- The node above a level, with `node` in its place. -/
def Level.close (l : Level) (node : Node) : Node :=
  let children := l.before.reverse ++ node :: l.after
  match l.parent with
  | some (name, attrs) => .element name attrs children
  | none => .document children

namespace Place

/-- The parent of a place. -/
def parent? (p : Place) : Option Place :=
  match p.above with
  | [] => none
  | l :: above => some ⟨l.close p.node, above⟩

/-- The places above a node, nearest first, given the levels. -/
def ancestorsFrom (node : Node) : List Level → List Place
  | [] => []
  | l :: above => ⟨l.close node, above⟩ :: ancestorsFrom (l.close node) above

/-- The places above a place, nearest first.  The last one is the document. -/
def ancestors (p : Place) : List Place := ancestorsFrom p.node p.above

/-- The elements among the siblings before a node, nearest first. -/
def leftFrom (parent : Option (ElementName × List Attr)) (above : List Level) :
    List Node → List Node → List Place
  | [], _ => []
  | n :: before, after =>
      let place : Place := ⟨n, { parent, before, after } :: above⟩
      let rest := leftFrom parent above before (n :: after)
      if n.isElement then place :: rest else rest

/-- The elements before a place below the same parent, nearest first. -/
def elementsBefore (p : Place) : List Place :=
  match p.above with
  | [] => []
  | l :: above => leftFrom l.parent above l.before (p.node :: l.after)

/-- The elements among the siblings after a node. -/
def rightFrom (parent : Option (ElementName × List Attr)) (above : List Level) :
    List Node → List Node → List Place
  | _, [] => []
  | before, n :: after =>
      let place : Place := ⟨n, { parent, before, after } :: above⟩
      let rest := rightFrom parent above (n :: before) after
      if n.isElement then place :: rest else rest

/-- The elements after a place below the same parent. -/
def elementsAfter (p : Place) : List Place :=
  match p.above with
  | [] => []
  | l :: above => rightFrom l.parent above (p.node :: l.before) l.after

mutual

/-- The elements below a node that has some levels above it. -/
def belowNode (above : List Level) : Node → List Place
  | .document cs => belowNodes none above [] cs
  | .element name attrs cs => belowNodes (some (name, attrs)) above [] cs
  | .text _ => []
  | .comment _ => []
  | .doctype _ => []

/-- The elements among some children and below them. -/
def belowNodes (parent : Option (ElementName × List Attr)) (above : List Level)
    (before : List Node) : List Node → List Place
  | [] => []
  | n :: after =>
      let levels := { parent, before, after } :: above
      (if n.isElement then ⟨n, levels⟩ :: belowNode levels n else []) ++
        belowNodes parent above (n :: before) after

end

/-- The elements below a place, in document order. -/
def below (p : Place) : List Place := belowNode p.above p.node

mutual

/-- The first element below a node with some property. -/
def firstBelowNode? (has : Place → Bool) (above : List Level) : Node → Option Place
  | .document cs => firstBelowNodes? has none above [] cs
  | .element name attrs cs => firstBelowNodes? has (some (name, attrs)) above [] cs
  | .text _ => none
  | .comment _ => none
  | .doctype _ => none

/-- The first element among some children and below them with some property. -/
def firstBelowNodes? (has : Place → Bool) (parent : Option (ElementName × List Attr))
    (above : List Level) (before : List Node) : List Node → Option Place
  | [] => none
  | n :: after =>
      let levels := { parent, before, after } :: above
      let here : Option Place :=
        if n.isElement then
          if has ⟨n, levels⟩ then some ⟨n, levels⟩ else firstBelowNode? has levels n
        else none
      match here with
      | some p => some p
      | none => firstBelowNodes? has parent above (n :: before) after

end

/-- The first element below a place with some property. -/
def firstBelow? (has : Place → Bool) (p : Place) : Option Place :=
  firstBelowNode? has p.above p.node

/-! ## The first of all -/

mutual

theorem firstBelowNode?_eq (has : Place → Bool) (above : List Level) :
    ∀ n : Node, firstBelowNode? has above n = (belowNode above n).find? has
  | .document cs => by
      simpa [firstBelowNode?, belowNode] using firstBelowNodes?_eq has none above [] cs
  | .element name attrs cs => by
      simpa [firstBelowNode?, belowNode] using
        firstBelowNodes?_eq has (some (name, attrs)) above [] cs
  | .text _ => by simp [firstBelowNode?, belowNode]
  | .comment _ => by simp [firstBelowNode?, belowNode]
  | .doctype _ => by simp [firstBelowNode?, belowNode]

theorem firstBelowNodes?_eq (has : Place → Bool) (parent : Option (ElementName × List Attr))
    (above : List Level) (before : List Node) :
    ∀ cs : List Node, firstBelowNodes? has parent above before cs =
      (belowNodes parent above before cs).find? has
  | [] => by simp [firstBelowNodes?, belowNodes]
  | n :: after => by
      have inner := firstBelowNode?_eq has ({ parent, before, after } :: above) n
      have rest := firstBelowNodes?_eq has parent above (n :: before) after
      simp only [firstBelowNodes?, belowNodes, List.find?_append, inner, rest]
      by_cases h : n.isElement
      · simp only [h, if_true, List.find?_cons]
        cases hp : has ⟨n, { parent, before, after } :: above⟩ with
        | true => simp
        | false =>
          simp only [if_neg, Bool.false_eq_true, not_false_iff]
          cases List.find? has (belowNode ({ parent, before, after } :: above) n) <;> simp
      · simp [h]

end

/-- Looking for the first element finds the first of the list of all. -/
theorem firstBelow?_eq (has : Place → Bool) (p : Place) :
    p.firstBelow? has = p.below.find? has :=
  firstBelowNode?_eq has p.above p.node

end Place

end PageExtract.Html
