import PageExtract.Rule.Definition
import PageExtract.Rule.Error

/-!
# Validation

Validation turns a definition into a rule set or names its first mistake.  It
goes through the fields in order and into the child rules of a list rule.  A
field is checked in this order: no field before it in the same set has its name,
it has a kind, the kind is known, the selector is not blank, the selector is a
selector, and then what the kind needs.  What a kind does not need is not looked
at.  Selectors and names of attributes are trimmed.

Whether a text is a selector is asked of `compiles`, in a monad, so that the
answers may come from a store that remembers them.
-/

namespace PageExtract

/-- The path of a field inside the field at `parent`. -/
def fieldPath (parent name : String) : String :=
  if parent.isEmpty then name else parent ++ "." ++ name

variable {m : Type → Type} [Monad m]

namespace RuleDef

/-- The kind that a definition at `path` names. -/
def checkKind (path : String) : Option String → ExceptT RuleError m RuleKind
  | none => throw (.missingKind path)
  | some name => match RuleKind.parse? name with
    | none => throw (.unknownKind path name)
    | some kind => return kind

/-- The selector of a definition at `path`, trimmed. -/
def checkSelector (compiles : String → m Bool) (path selector : String) :
    ExceptT RuleError m String :=
  let trimmed := Text.trim selector
  if trimmed.isEmpty then throw (.emptySelector path)
  else do
    if ← compiles trimmed then return trimmed else throw (.invalidSelector path trimmed)

/-- The attribute that a definition at `path` names, trimmed. -/
def checkAttributeName (path : String) (attributeName : Option String) :
    ExceptT RuleError m String :=
  match Text.trimmed? attributeName with
  | none => throw (.missingAttributeName path)
  | some name => return name

end RuleDef

mutual

/-- The rule that a definition at `path` stands for. -/
def RuleDef.validate (compiles : String → m Bool) (path : String) :
    RuleDef → ExceptT RuleError m Rule
  | .mk kind selector attributeName childRules => do
      let kind ← RuleDef.checkKind path kind
      let selector ← RuleDef.checkSelector compiles path selector
      match kind with
      | .text => return .text selector
      | .attr => return .attr selector (← RuleDef.checkAttributeName path attributeName)
      | .list => match childRules with
        | none => throw (.missingChildRules path)
        | some children => return .list selector (← children.validate compiles path)

/-- The rule set that a definition inside the field at `parent` stands for. -/
def RuleSetDef.validate (compiles : String → m Bool) (parent : String) :
    RuleSetDef → ExceptT RuleError m RuleSet
  | .mk fields => do return ⟨← RuleSetDef.validateFields compiles parent [] fields⟩

/-- The rules of a list of fields.  `seen` holds the names of those before. -/
def RuleSetDef.validateFields (compiles : String → m Bool) (parent : String)
    (seen : List String) : List (String × RuleDef) → ExceptT RuleError m (List (String × Rule))
  | [] => return []
  | (name, rule) :: rest =>
      if name ∈ seen then throw (.duplicateField (fieldPath parent name))
      else do
        let rule ← rule.validate compiles (fieldPath parent name)
        return (name, rule) :: (← RuleSetDef.validateFields compiles parent (name :: seen) rest)

end

/-- Reads and validates the definition of a rule set. -/
def RuleSet.parse (compiles : String → m Bool) (text : String) : ExceptT RuleError m RuleSet :=
  match RuleSetDef.parse text with
  | .error fault => throw (.json fault)
  | .ok def_ => def_.validate compiles ""

end PageExtract
