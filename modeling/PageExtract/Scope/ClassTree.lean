import PageExtract.Scope.Evaluate
import PageExtract.Text.Blank

/-!
# Trees of classes

The simplest documents are trees in which a node has one class, a text,
attributes and children.  A selector is the name of a class and matches the
nodes below the root that have exactly this class.

Their scope counts the questions it is asked.
-/

namespace PageExtract

/-- A node of a tree. -/
inductive ClassTree where
  /-- A node with its class, text, attributes and children. -/
  | node (className : String) (text : String) (attrs : List (String × String))
      (children : List ClassTree)
  deriving Repr, Inhabited

namespace ClassTree

/-- The class of a node. -/
def className : ClassTree → String
  | node c _ _ _ => c

/-- The text of a node. -/
def text : ClassTree → String
  | node _ t _ _ => t

/-- The attributes of a node. -/
def attrs : ClassTree → List (String × String)
  | node _ _ a _ => a

/-- The children of a node. -/
def children : ClassTree → List ClassTree
  | node _ _ _ cs => cs

mutual

/-- The nodes below a node, in document order. -/
def descendants : ClassTree → List ClassTree
  | node _ _ _ cs => descendantsOf cs

/-- The nodes of a list of trees, in document order. -/
def descendantsOf : List ClassTree → List ClassTree
  | [] => []
  | c :: rest => c :: descendants c ++ descendantsOf rest

end

/-- The nodes below a node that have a class. -/
def select (t : ClassTree) (className : String) : List ClassTree :=
  t.descendants.filter fun n => n.className == className

/-- Asks for the nodes of a class and counts the question. -/
def selectCounted (t : ClassTree) (className : String) : StateM Nat (List ClassTree) := do
  modify (· + 1)
  return t.select className

/-- The scope of a tree, which counts its questions. -/
def counted : Scope (StateM Nat) ClassTree ClassTree where
  select := selectCounted
  selectFirst := firstOf selectCounted
  text _ node := Text.trim node.text
  attr _ node name := node.attrs.lookup name
  subscope _ node := node

/-- The record of a rule set below the root of a tree, and the number of questions it took. -/
def extract (t : ClassTree) (rules : RuleSet) : Record × Nat :=
  (rules.evaluate counted t).run 0

end ClassTree

end PageExtract
