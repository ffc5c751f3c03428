import PageExtract.Rule.Validation

/-!
# Jobs

A *job* is a rule set together with the URL of the document it is for.  The URL
may be missing, so that one file of rules can serve many documents.  Blanks
around it do not count, and a blank URL is a missing one.

A job is written as a JSON object with the members `url` and `rules`, of which
the second must be there.  It may also be an array of the two.  Members with
other names are passed.
-/

namespace PageExtract

/-- A job as it is written. -/
structure JobDef where
  /-- The URL. -/
  url : Option String
  /-- The rules. -/
  rules : RuleSetDef
  deriving Repr

namespace JobDef

/-- What the definition of a job is called in messages. -/
def wanted : String := "struct RawConfig"

/-- The members of a job that have been read so far. -/
structure Draft where
  /-- The URL. -/
  url : Option (Option String) := none
  /-- The rules. -/
  rules : Option RuleSetDef := none

open Json

/-- Reads the value of one member into a draft. -/
def readMember (rules : Reader RuleSetDef) (d : Draft) (name : String) : Reader Draft :=
  if name = "url" then once "url" d.url (optional text) fun v => { d with url := some v }
  else if name = "rules" then once "rules" d.rules rules fun v => { d with rules := some v }
  else fun c => do
    let c ← skipValue (← colon c)
    return (d, c)

/-- Reads the members of a job, from after the opening brace. -/
def readObject (rules : Reader RuleSetDef) : Reader JobDef := fun c => do
  let (d, c) ← members (readMember rules) {} c
  match d.rules with
  | none => c.faultClosed .object (.missingMember "rules")
  | some rules => return (⟨d.url.getD none, rules⟩, ← closeObject c)

/-- Reads the two values of a job in their order, from after the opening bracket. -/
def readArray (rules : Reader RuleSetDef) : Reader JobDef := fun c => do
  let (url, c) ← nextElement true (optional text) c
  let (rules, c) ← nextElement false rules c
  match rules with
  | none => c.faultClosed .list (.tooShort 1 (wanted ++ " with 2 elements"))
  | some rules => return (⟨url.getD none, rules⟩, ← closeArray c)

/-- Reads a job, which nests one level more than its rules. -/
def read : Reader JobDef :=
  let rules := RuleSetDef.read (maxLevels - 1)
  inStructure wanted (some (readObject rules, readArray rules))

/-- Reads the definition of a job. -/
def parse (text : String) : Except Fault JobDef := readAll read text

end JobDef

/-- A job. -/
structure Job where
  /-- The URL of the document. -/
  url : Option String
  /-- What to read off it. -/
  rules : RuleSet
  deriving DecidableEq, Repr

namespace Job

variable {m : Type → Type} [Monad m]

/-- Reads and validates the definition of a job. -/
def parse (compiles : String → m Bool) (text : String) : ExceptT RuleError m Job :=
  match JobDef.parse text with
  | .error fault => throw (.json fault)
  | .ok def_ => do return ⟨Text.trimmed? def_.url, ← def_.rules.validate compiles ""⟩

end Job

end PageExtract
