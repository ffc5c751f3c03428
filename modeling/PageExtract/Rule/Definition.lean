import PageExtract.Json.Reader
import PageExtract.Rule.Basic

/-!
# Rule definitions

A rule set is written as a JSON object whose members are fields and whose
values are *rule definitions*.  A definition has a kind, a selector, the name of
an attribute and child rules.  Each may be missing.  Three of the four members
have a second name, which older files use: `type`, `attribute` and `itemRules`.
Members with other names are passed.

A definition may also be an array of the four values in that order, without
the ones at its end.

Reading keeps fields that occur twice.  It says nothing about kinds and
selectors: that is left to validation.
-/

namespace PageExtract

mutual

/-- A rule as it is written. -/
inductive RuleDef where
  /-- The four members. -/
  | mk (kind : Option String) (selector : String) (attributeName : Option String)
      (childRules : Option RuleSetDef)
  deriving Repr

/-- A rule set as it is written: its fields in order, repeated ones too. -/
inductive RuleSetDef where
  /-- The fields. -/
  | mk (fields : List (String × RuleDef))
  deriving Repr

end

namespace RuleDef

/-- What the definition of a rule is called in messages. -/
def wanted : String := "struct RuleDef"

/-- The members of a definition that have been read so far. -/
structure Draft where
  /-- The kind. -/
  kind : Option (Option String) := none
  /-- The selector. -/
  selector : Option String := none
  /-- The name of an attribute. -/
  attributeName : Option (Option String) := none
  /-- The child rules. -/
  childRules : Option (Option RuleSetDef) := none

/-- The definition that a draft amounts to.  A member that is missing counts as absent. -/
def Draft.finish (d : Draft) : RuleDef :=
  .mk (d.kind.getD none) (d.selector.getD "") (d.attributeName.getD none) (d.childRules.getD none)

/-- The four members of a definition. -/
inductive Member where
  | kind
  | selector
  | attributeName
  | childRules
  deriving DecidableEq, Repr

/-- The member that a name stands for. -/
def Member.ofName? (name : String) : Option Member :=
  if name = "kind" ∨ name = "type" then some .kind
  else if name = "selector" then some .selector
  else if name = "attributeName" ∨ name = "attribute" then some .attributeName
  else if name = "childRules" ∨ name = "itemRules" then some .childRules
  else none

open Json

/-- Reads the value of one member into a draft. -/
def readMember (children : Reader RuleSetDef) (d : Draft) (name : String) : Reader Draft :=
  match Member.ofName? name with
  | some .kind => once "kind" d.kind (optional text) fun v => { d with kind := some v }
  | some .selector => once "selector" d.selector text fun v => { d with selector := some v }
  | some .attributeName =>
      once "attributeName" d.attributeName (optional text) fun v =>
        { d with attributeName := some v }
  | some .childRules =>
      once "childRules" d.childRules (optional children) fun v => { d with childRules := some v }
  | none => fun c => do
      let c ← skipValue (← colon c)
      return (d, c)

/-- Reads the members of a definition, from after the opening brace. -/
def readObject (children : Reader RuleSetDef) : Reader RuleDef := fun c => do
  let (d, c) ← members (readMember children) {} c
  return (d.finish, ← closeObject c)

/-- Reads the values of a definition in their order, from after the opening bracket. -/
def readArray (children : Reader RuleSetDef) : Reader RuleDef := fun c => do
  let (kind, c) ← nextElement true (optional text) c
  let (selector, c) ← nextElement false text c
  let (attributeName, c) ← nextElement false (optional text) c
  let (childRules, c) ← nextElement false (optional children) c
  let d : Draft := { kind, selector, attributeName, childRules }
  return (d.finish, ← closeArray c)

end RuleDef

namespace RuleSetDef

/-- What the definition of a rule set is called in messages. -/
def wanted : String := "a map of field names to rule definitions"

open Json

/-- Reads the fields of a rule set, from after the opening brace. -/
def readFields (rule : Reader RuleDef) : Reader RuleSetDef := fun c => do
  let step (fields : List (String × RuleDef)) (name : String) : Reader (List (String × RuleDef)) :=
    fun c => (valueOf rule c).map fun (def_, c) => ((name, def_) :: fields, c)
  let (fields, c) ← members step [] c
  return (.mk fields.reverse, ← closeObject c)

end RuleSetDef

open Json

mutual

/-- Reads a rule set in which that many levels may be nested. -/
def RuleSetDef.read : Nat → Reader RuleSetDef
  | 0 => inObject RuleSetDef.wanted none
  | levels + 1 => inObject RuleSetDef.wanted (some (RuleSetDef.readFields (RuleDef.read levels)))

/-- Reads a rule in which that many levels may be nested. -/
def RuleDef.read : Nat → Reader RuleDef
  | 0 => inStructure RuleDef.wanted none
  | levels + 1 =>
      inStructure RuleDef.wanted
        (some (RuleDef.readObject (RuleSetDef.read levels),
          RuleDef.readArray (RuleSetDef.read levels)))

end

/-- The number of levels that a definition may nest. -/
def maxLevels : Nat := 127

/-- Reads the definition of a rule set. -/
def RuleSetDef.parse (text : String) : Except Fault RuleSetDef :=
  readAll (RuleSetDef.read maxLevels) text

end PageExtract
