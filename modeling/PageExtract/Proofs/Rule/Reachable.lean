import PageExtract.Proofs.Rule.Validation

/-!
# Rule sets that can be made

A rule set is *reachable* if it can be made from outside: it has no fields, or a
field was bound in one that can be made, or validation gave it.  The rules that
are bound may hold rule sets of their own, which are made in the same way.

In a rule set that can be made no name occurs twice, here and inside
(`Reachable.distinct`).  Binding looks for the name, and validation, which does
not bind, refuses a name that it has seen.
-/

namespace PageExtract

/-- A rule set that can be made from outside. -/
inductive RuleSet.Reachable : RuleSet → Prop where
  /-- The rule set without fields. -/
  | empty : Reachable .empty
  /-- A field is bound to a rule.  A list rule holds a rule set that was made before. -/
  | insert {rules : RuleSet} {rule : Rule} (before : Reachable rules) (field : String)
      (inside : ∀ selector children, rule = .list selector children → Reachable children) :
      Reachable (rules.insert field rule)
  /-- Validation of a definition gives it. -/
  | validate {d : RuleSetDef} {cache : Css.Cache} {rules : RuleSet} (sound : cache.Sound)
      (accepted : ((d.validate Css.Cache.compiles "").run.run cache).1 = .ok rules) :
      Reachable rules
  /-- It is read from a text. -/
  | ofJson {text : String} {cache : Css.Cache} {rules : RuleSet} (sound : cache.Sound)
      (accepted : ((RuleSet.ofJsonCached text).run cache).1 = .ok rules) : Reachable rules

/-! ## What a definition writes has no name twice -/

mutual

theorem RuleDef.distinct_rule : ∀ d : RuleDef, d.rule.Distinct
  | .mk given selector attributeName childRules => by
    rw [RuleDef.rule]
    cases (given.bind RuleKind.parse?).getD .text with
    | text => trivial
    | attr => trivial
    | list => exact RuleSetDef.distinct_ruleSetOf childRules

theorem RuleSetDef.distinct_ruleSet : ∀ d : RuleSetDef, d.ruleSet.Distinct
  | .mk fields =>
    RuleSet.distinct_insertAll RuleSet.distinct_empty (RuleSetDef.distinct_rulesOfFields fields)

theorem RuleSetDef.distinct_ruleSetOf : ∀ d : Option RuleSetDef,
    (RuleSetDef.ruleSetOf d).Distinct
  | none => RuleSet.distinct_empty
  | some children => RuleSetDef.distinct_ruleSet children

theorem RuleSetDef.distinct_rulesOfFields : ∀ fields : List (String × RuleDef),
    ∀ field ∈ RuleSetDef.rulesOfFields fields, field.2.Distinct
  | [] => fun _ h => nomatch h
  | (_, rule) :: rest =>
    List.forall_mem_cons.mpr ⟨RuleDef.distinct_rule rule, RuleSetDef.distinct_rulesOfFields rest⟩

end

/-! ## What can be made has no name twice -/

namespace RuleSet

theorem distinct_of_validate {d : RuleSetDef} {cache : Css.Cache} {rules : RuleSet}
    (sound : cache.Sound)
    (accepted : ((d.validate Css.Cache.compiles "").run.run cache).1 = .ok rules) :
    rules.Distinct := by
  rw [(RuleSetDef.agrees_validate d "" cache sound).1] at accepted
  obtain ⟨_, rfl⟩ := (RuleSetDef.validate_eq_ok_iff d "" rules).mp accepted
  exact RuleSetDef.distinct_ruleSet d

theorem distinct_of_ofJson {text : String} {cache : Css.Cache} {rules : RuleSet}
    (sound : cache.Sound) (accepted : ((ofJsonCached text).run cache).1 = .ok rules) :
    rules.Distinct := by
  rw [ofJsonCached, RuleSet.parse] at accepted
  cases written : RuleSetDef.parse text with
  | error fault =>
    rw [written] at accepted
    exact absurd accepted error_ne_ok
  | ok d =>
    rw [written] at accepted
    exact distinct_of_validate sound accepted

/-- In a rule set that can be made no name occurs twice, at any depth. -/
theorem Reachable.distinct {rules : RuleSet} (made : rules.Reachable) : rules.Distinct := by
  induction made with
  | empty => exact distinct_empty
  | @insert rules rule before field inside ih ihInside =>
    refine distinct_insert ih field ?_
    cases rule with
    | text => trivial
    | attr => trivial
    | list selector children => exact ihInside selector children rfl
  | validate sound accepted => exact distinct_of_validate sound accepted
  | ofJson sound accepted => exact distinct_of_ofJson sound accepted

end RuleSet

end PageExtract
