import PageExtract.Text.Blank
import PageExtract.Text.LowerCase

/-!
# Kinds of rule

There are three kinds of rule.  A kind is written as its name in any case, with
blanks around it or not.  The attribute kind has a short name as well.
-/

namespace PageExtract

/-- What a rule reads off the nodes it selects. -/
inductive RuleKind where
  /-- The text of the first node. -/
  | text
  /-- An attribute of the first node. -/
  | attr
  /-- One record for every node. -/
  | list
  deriving DecidableEq, Repr

namespace RuleKind

/-- The name of a kind. -/
def name : RuleKind → String
  | text => "text"
  | attr => "attribute"
  | list => "list"

/-- The kind that a name in lower case stands for. -/
def ofName? (s : String) : Option RuleKind :=
  if s = "text" then some text
  else if s = "attribute" ∨ s = "attr" then some attr
  else if s = "list" then some list
  else none

/-- The kind that is written as `s`. -/
def parse? (s : String) : Option RuleKind := ofName? (Text.lower (Text.trim s))

end RuleKind

end PageExtract
