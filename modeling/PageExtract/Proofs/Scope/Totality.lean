import Mathlib.Data.List.Forall2
import PageExtract.Proofs.Rule.Reachable
import PageExtract.Proofs.Scope.Always
import PageExtract.Scope.ClassTree

/-!
# Extraction leaves nothing out

A record *mirrors* a rule set if it has a value for each field and for nothing
else, in the order of the rules and none twice.  A text rule and an attribute
rule ask for a text.  A list rule asks for a list in which each item mirrors the
rules inside.

Evaluation gives a record that mirrors the rule set, in every scope and whatever
the scope answers.

`evaluate` puts values one after another without looking for their names.  What
keeps names apart is that no rule set has one twice.
-/

namespace PageExtract

/-! ## Records that mirror rules -/

mutual

/-- What a rule asks of its value. -/
inductive Rule.Mirrors : Rule → Value → Prop where
  /-- A text rule asks for a text. -/
  | text (selector content : String) : Rule.Mirrors (.text selector) (.text content)
  /-- An attribute rule asks for a text. -/
  | attr (selector name content : String) : Rule.Mirrors (.attr selector name) (.text content)
  /-- A list rule asks for a list of records that mirror its rules. -/
  | list (selector : String) {rules : RuleSet} {items : List Record}
      (inside : ∀ item ∈ items, RuleSet.Mirrors rules item) :
      Rule.Mirrors (.list selector rules) (.list items)

/-- What a rule set asks of a record. -/
inductive RuleSet.Mirrors : RuleSet → Record → Prop where
  /-- The fields are those of the rules in the same order, none twice.  A name has a
  value exactly if it has a rule, and the value is what the rule asks for. -/
  | mk {rules : RuleSet} {record : Record} (keys : record.keys = rules.keys)
      (distinct : record.keys.Nodup)
      (bound : ∀ name, (record.get? name).isSome ↔ name ∈ rules.keys)
      (values : ∀ name rule value, rules.get? name = some rule →
        record.get? name = some value → Rule.Mirrors rule value) : RuleSet.Mirrors rules record

end

/-- Whether a value stands for a rule under the same name. -/
def Rule.MirroredBy (entry : String × Rule) (field : String × Value) : Prop :=
  field.1 = entry.1 ∧ entry.2.Mirrors field.2

namespace RuleSet

variable {fields : List (String × Rule)} {values : List (String × Value)}

theorem keys_of_mirrored (h : List.Forall₂ Rule.MirroredBy fields values) :
    values.map Prod.fst = fields.map Prod.fst := by
  induction h with
  | nil => rfl
  | cons first _ ih => rw [List.map_cons, List.map_cons, first.1, ih]

theorem mirrors_of_lookup (h : List.Forall₂ Rule.MirroredBy fields values) {name : String}
    {rule : Rule} {value : Value} (asked : lookup name fields = some rule)
    (given : Record.lookup name values = some value) : rule.Mirrors value := by
  induction h with
  | nil => exact nomatch asked
  | @cons entry field fields values first _ ih =>
    obtain ⟨entryName, entryRule⟩ := entry
    obtain ⟨fieldName, fieldValue⟩ := field
    obtain ⟨same, mirrors⟩ := first
    dsimp only at same mirrors
    subst same
    rw [lookup] at asked
    rw [Record.lookup] at given
    split at asked
    next here =>
      rw [if_pos here] at given
      rw [← Option.some.inj asked, ← Option.some.inj given]
      exact mirrors
    next there =>
      rw [if_neg there] at given
      exact ih asked given

end RuleSet

theorem Record.get?_isSome_iff (r : Record) (name : String) :
    (r.get? name).isSome ↔ name ∈ r.keys := by
  obtain ⟨fields⟩ := r
  rw [get?, keys]
  induction fields with
  | nil => simp [lookup]
  | cons field rest ih => grind [lookup]

/-- Values that stand for the rules one by one make a record that mirrors them. -/
theorem RuleSet.mirrors_of_mirrored {fields : List (String × Rule)}
    {values : List (String × Value)} (distinct : (fields.map Prod.fst).Nodup)
    (h : List.Forall₂ Rule.MirroredBy fields values) : RuleSet.Mirrors ⟨fields⟩ ⟨values⟩ := by
  have keys : Record.keys ⟨values⟩ = RuleSet.keys ⟨fields⟩ := keys_of_mirrored h
  refine .mk keys ?_ ?_ ?_
  · rw [keys]
    exact distinct
  · intro name
    rw [Record.get?_isSome_iff, keys]
  · intro name rule value asked given
    exact mirrors_of_lookup h asked given

/-! ## Evaluation -/

section

variable {m : Type → Type} [Monad m] [LawfulMonad m] {σ ν : Type} (scope : Scope m σ ν)

mutual

/-- A rule gives a value of its kind. -/
theorem Rule.always_mirrors : ∀ (rule : Rule) (s : σ), rule.Distinct →
    Always rule.Mirrors (rule.evaluate scope s)
  | .text selector, s, _ => by
    rw [Rule.evaluate]
    exact .bind (.nothing _) fun _ _ => .pure (.text selector _)
  | .attr selector name, s, _ => by
    rw [Rule.evaluate]
    exact .bind (.nothing _) fun _ _ => .pure (.attr selector name _)
  | .list selector rules, s, distinct => by
    rw [Rule.evaluate]
    refine .bind (.nothing _) ?_
    intro nodes _
    refine .bind (.recordsOf ?_) fun items inside => .pure (.list selector inside)
    intro node _
    exact RuleSet.always_mirrors rules (scope.subscope s node) distinct

/-- A rule set in which no name occurs twice gives records that mirror it. -/
theorem RuleSet.always_mirrors : ∀ (rules : RuleSet) (s : σ), rules.Distinct →
    Always rules.Mirrors (rules.evaluate scope s)
  | ⟨fields⟩, s, ⟨names, below⟩ => by
    rw [RuleSet.evaluate]
    refine .bind (RuleSet.always_mirrored fields s below) ?_
    intro values h
    exact .pure (RuleSet.mirrors_of_mirrored names h)

/-- The values of a list of fields stand for the rules one by one. -/
theorem RuleSet.always_mirrored : ∀ (fields : List (String × Rule)) (s : σ),
    RuleSet.DistinctFields fields →
      Always (List.Forall₂ Rule.MirroredBy fields) (RuleSet.evaluateFields scope fields s)
  | [], s, _ => .pure .nil
  | (name, rule) :: rest, s, ⟨first, later⟩ => by
    rw [RuleSet.evaluateFields]
    refine .bind (Rule.always_mirrors rule s first) ?_
    intro value mirrors
    refine .bind (RuleSet.always_mirrored rest s later) ?_
    intro values h
    exact .pure (.cons ⟨rfl, mirrors⟩ h)

end

/-- In every scope a rule set that can be made gives a record that mirrors it. -/
theorem RuleSet.evaluate_total {rules : RuleSet} (made : rules.Reachable) (s : σ) :
    Always rules.Mirrors (rules.evaluate scope s) :=
  RuleSet.always_mirrors scope rules s made.distinct

end

/-- A text and a list of attributes, one of which is there. -/
def RuleSet.sample : RuleSet :=
  (empty.insert "f" (.text "a")).insert "l" (.list "b" (empty.insert "g" (.attr "c" "id")))

theorem RuleSet.evaluate_total_tree :
    RuleSet.sample.Reachable ∧
      RuleSet.sample.Mirrors (ClassTree.extract (.node "" "" [] [.node "b" "" [] [],
        .node "b" "" [] [.node "c" "" [("id", "x")] []]]) RuleSet.sample).1 := by
  have inside : (empty.insert "g" (.attr "c" "id")).Reachable :=
    .insert .empty "g" fun _ _ same => nomatch same
  have first : (empty.insert "f" (.text "a")).Reachable :=
    .insert .empty "f" fun _ _ same => nomatch same
  have made : RuleSet.sample.Reachable := by
    refine .insert first "l" ?_
    intro selector children same
    obtain ⟨_, rfl⟩ := Rule.list.inj same
    exact inside
  exact ⟨made, (RuleSet.evaluate_total ClassTree.counted made _).fst_run 0⟩

end PageExtract
