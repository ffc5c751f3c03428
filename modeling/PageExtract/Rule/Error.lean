import PageExtract.Json.Fault

/-!
# What can be wrong with a rule set

A rule set is refused at its first mistake.  Apart from a text that is not the
definition of a rule set at all, a mistake belongs to a field, which is named by
its *path*: the fields on the way to it, joined by dots.
-/

namespace PageExtract

/-- Why a rule set is refused. -/
inductive RuleError where
  /-- The rule has no kind. -/
  | missingKind (field : String)
  /-- The kind is none of those there are. -/
  | unknownKind (field : String) (kind : String)
  /-- The selector is blank. -/
  | emptySelector (field : String)
  /-- The selector is no selector. -/
  | invalidSelector (field : String) (selector : String)
  /-- An attribute rule names no attribute. -/
  | missingAttributeName (field : String)
  /-- A list rule has no child rules. -/
  | missingChildRules (field : String)
  /-- A field occurs twice. -/
  | duplicateField (field : String)
  /-- The text is not the definition of a rule set. -/
  | json (fault : Json.Fault)
  deriving DecidableEq, Repr

namespace RuleError

/-- The path of the field that is at fault. -/
def field? : RuleError → Option String
  | missingKind field => some field
  | unknownKind field _ => some field
  | emptySelector field => some field
  | invalidSelector field _ => some field
  | missingAttributeName field => some field
  | missingChildRules field => some field
  | duplicateField field => some field
  | json _ => none

/-- A mistake in words. -/
def message : RuleError → String
  | missingKind field => "rule `" ++ field ++ "`: missing `kind`"
  | unknownKind field kind =>
      "rule `" ++ field ++ "`: unknown kind `" ++ kind ++ "` (expected text, attribute or list)"
  | emptySelector field => "rule `" ++ field ++ "`: selector is empty"
  | invalidSelector field selector =>
      "rule `" ++ field ++ "`: selector `" ++ selector ++ "` is not valid CSS"
  | missingAttributeName field =>
      "rule `" ++ field ++ "`: attribute rules require `attributeName`"
  | missingChildRules field => "rule `" ++ field ++ "`: list rules require `childRules`"
  | duplicateField field => "rule `" ++ field ++ "` is defined more than once"
  | json fault => "malformed rule definition: " ++ fault.message

end RuleError

end PageExtract
