import PageExtract.Record.Basic
import PageExtract.Rule.Basic
import PageExtract.Scope.Basic

/-!
# Evaluation

Evaluating a rule set in a scope gives a record with one field for each rule, in
the order of the rules.  A text rule gives the text of the first node its
selector matches, an attribute rule that node's attribute, and both give the
empty text if there is nothing to read.  A list rule gives a record for every
node its selector matches, from evaluating its own rules below that node.

Nothing here fails.  Each rule asks its scope one question.
-/

namespace PageExtract

variable {m : Type → Type} [Monad m] {σ ν : Type}

/-- A record for each of a list of things, in order. -/
def recordsOf {α : Type} (record : α → m Record) : List α → m (List Record)
  | [] => return []
  | a :: rest => do
      let r ← record a
      return r :: (← recordsOf record rest)

mutual

/-- The value of a rule in a scope. -/
def Rule.evaluate (scope : Scope m σ ν) : Rule → σ → m Value
  | .text selector, s => do
      let first ← scope.selectFirst s selector
      return .text ((first.map (scope.text s)).getD "")
  | .attr selector name, s => do
      let first ← scope.selectFirst s selector
      return .text ((first.bind fun node => scope.attr s node name).getD "")
  | .list selector rules, s => do
      let nodes ← scope.select s selector
      return .list (← recordsOf (fun node => rules.evaluate scope (scope.subscope s node)) nodes)

/-- The record of a rule set in a scope. -/
def RuleSet.evaluate (scope : Scope m σ ν) : RuleSet → σ → m Record
  | ⟨fields⟩, s => do return ⟨← RuleSet.evaluateFields scope fields s⟩

/-- The values of a list of fields in a scope. -/
def RuleSet.evaluateFields (scope : Scope m σ ν) :
    List (String × Rule) → σ → m (List (String × Value))
  | [], _ => return []
  | (field, rule) :: rest, s => do
      let value ← rule.evaluate scope s
      return (field, value) :: (← RuleSet.evaluateFields scope rest s)

end

end PageExtract
