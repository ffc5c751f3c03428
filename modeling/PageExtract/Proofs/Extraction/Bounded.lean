import PageExtract.Extraction
import PageExtract.Proofs.Record.Nesting
import PageExtract.Proofs.Rule.Depth
import PageExtract.Proofs.Scope.Always

/-!
# What the depth of rules bounds

A list rule gives a list of records, and both take a level in the text of the record around them.
So a record nests less than twice as deep as its rules (`RuleSet.always_nesting_lt`), whatever the
scope answers.  A list that has no items only ends the nesting early.

The text that defines the rules has two levels for each list rule as well, and it has no more than
127 levels outside of what is passed over.  So rules from a text are at most 64 deep, and 63 in a
job, and their records are read back with as many levels (`RuleSet.bounded_ofJsonCached`).
-/

namespace PageExtract

open Json

/-! ## How deep records nest -/

section

variable {m : Type → Type} [Monad m] [LawfulMonad m] {σ ν : Type} (scope : Scope m σ ν)

mutual

theorem Rule.always_nesting_le : ∀ (rule : Rule) (s : σ),
    Always (fun v => v.tree.nesting ≤ 2 * rule.depth) (rule.evaluate scope s)
  | .text _, s => by
    rw [Rule.evaluate]
    exact .bind (.nothing _) fun _ _ => .pure (Nat.zero_le _)
  | .attr _ _, s => by
    rw [Rule.evaluate]
    exact .bind (.nothing _) fun _ _ => .pure (Nat.zero_le _)
  | .list _ rules, s => by
    rw [Rule.evaluate]
    refine .bind (.nothing _) ?_
    intro nodes _
    refine .bind (.recordsOf fun node _ => RuleSet.always_nesting_lt rules (scope.subscope s node)) ?_
    intro items inside
    refine .pure ?_
    obtain ⟨n, deep⟩ := Nat.exists_eq_succ_of_ne_zero (Nat.ne_zero_of_lt rules.depth_pos)
    rw [deep] at inside
    rw [Rule.depth, deep, Nat.mul_succ, Value.nesting_list_le]
    exact fun item mem => Nat.le_of_lt_succ (inside item mem)

/-- A record has two levels for each rule set inside another, and one for itself. -/
theorem RuleSet.always_nesting_lt : ∀ (rules : RuleSet) (s : σ),
    Always (fun r => r.tree.nesting < 2 * rules.depth) (rules.evaluate scope s)
  | ⟨fields⟩, s => by
    rw [RuleSet.evaluate]
    refine .bind (RuleSet.always_nestingOfFields_le fields s) ?_
    intro values inside
    refine .pure ?_
    have nests : (Record.mk values).tree.nesting ≤ 2 * RuleSet.depthOfFields fields + 1 :=
      Record.nesting_le.mpr inside
    rw [RuleSet.depth]
    omega

theorem RuleSet.always_nestingOfFields_le : ∀ (fields : List (String × Rule)) (s : σ),
    Always (fun values => ∀ value ∈ values, value.2.tree.nesting ≤ 2 * RuleSet.depthOfFields fields)
      (RuleSet.evaluateFields scope fields s)
  | [], s => .pure fun _ h => nomatch h
  | (_, rule) :: rest, s => by
    rw [RuleSet.evaluateFields, RuleSet.depthOfFields]
    refine .bind (Rule.always_nesting_le rule s) ?_
    intro first here
    refine .bind (RuleSet.always_nestingOfFields_le rest s) ?_
    intro later there
    refine .pure (List.forall_mem_cons.mpr ⟨?_, fun value mem => ?_⟩)
    · exact Nat.le_trans here (Nat.mul_le_mul_left 2 (Nat.le_max_left _ _))
    · exact Nat.le_trans (there value mem) (Nat.mul_le_mul_left 2 (Nat.le_max_right _ _))

end

end

/-! ## What is bounded -/

/-- What follows for a definition that is at most `deepest` deep. -/
structure RuleSetDef.Bounded (deepest : Nat) (d : RuleSetDef) : Prop where
  /-- The definition is at most so deep. -/
  depth_le : d.depth ≤ deepest
  /-- Calls that validate it nest no deeper, whatever tells which texts are selectors. -/
  validate_calls : ∀ {m : Type → Type} [Monad m] (compiles : String → m Bool),
    CallsWithin deepest (RuleSetDef.validateLayer compiles)
      (fun d parent => d.validate compiles parent) d

/-- What follows for a record of rules that are at most `deepest` deep. -/
structure Record.Bounded (deepest levels : Nat) (r : Record) : Prop where
  /-- The record is read back from its texts, within the levels. -/
  readsBack : r.ReadsBack levels
  /-- Calls that count its non-empty values nest no deeper than the rules. -/
  filled_calls : CallsWithin deepest Record.filledLayer Record.filled r

/-- What follows for rules that are at most `deepest` deep. -/
structure RuleSet.Bounded (deepest levels : Nat) (rules : RuleSet) : Prop where
  /-- The rules are at most so deep. -/
  depth_le : rules.depth ≤ deepest
  /-- Calls for the depth nest no deeper. -/
  depth_calls : CallsWithin deepest RuleSet.depthLayer RuleSet.depth rules
  /-- Calls for the selectors nest no deeper. -/
  selectors_calls : CallsWithin deepest RuleSet.selectorsLayer RuleSet.selectors rules
  /-- Calls for the record nest no deeper, whatever the scope is. -/
  evaluate_calls : ∀ {m : Type → Type} [Monad m] [LawfulMonad m] {σ ν : Type} (scope : Scope m σ ν),
    CallsWithin deepest (RuleSet.evaluateLayer scope) (RuleSet.evaluate scope) rules
  /-- Every record is bounded too, whatever the scope answers. -/
  evaluate_gives : ∀ {m : Type → Type} [Monad m] [LawfulMonad m] {σ ν : Type} (scope : Scope m σ ν)
    (s : σ), Always (Record.Bounded deepest levels) (rules.evaluate scope s)
  /-- In particular the record of every document is, whatever the cache holds. -/
  extract_gives : ∀ (html : String) (cache : Css.Cache),
    ((extractCached html rules).run cache).1.Bounded deepest levels

theorem RuleSetDef.bounded_of_depth_le {deepest : Nat} {d : RuleSetDef} (bound : d.depth ≤ deepest) :
    d.Bounded deepest where
  depth_le := bound
  validate_calls compiles := RuleSetDef.callsWithin (RuleSetDef.recurses_validate compiles) bound

section

variable {deepest levels : Nat} {rules : RuleSet}

theorem RuleSet.always_bounded {m : Type → Type} [Monad m] [LawfulMonad m] {σ ν : Type}
    (enough : 2 * deepest ≤ levels + 1) (bound : rules.depth ≤ deepest) (scope : Scope m σ ν)
    (s : σ) : Always (Record.Bounded deepest levels) (rules.evaluate scope s) := by
  refine (rules.always_nesting_lt scope s).imp fun r nests => ?_
  have few : r.tree.nesting < 2 * deepest := by omega
  exact ⟨Record.readsBack_of_nesting_le (by omega), Record.callsWithin Record.recurses_filled few⟩

theorem RuleSet.bounded_of_depth_le (enough : 2 * deepest ≤ levels + 1)
    (bound : rules.depth ≤ deepest) : rules.Bounded deepest levels where
  depth_le := bound
  depth_calls := RuleSet.callsWithin RuleSet.recurses_depth bound
  selectors_calls := RuleSet.callsWithin RuleSet.recurses_selectors bound
  evaluate_calls scope := RuleSet.callsWithin (RuleSet.recurses_evaluate scope) bound
  evaluate_gives scope s := RuleSet.always_bounded enough bound scope s
  extract_gives _ cache := (RuleSet.always_bounded enough bound _ _).fst_run cache

end

/-! ## Rules from a text -/

/-- Whatever a sound cache holds: rules that a text defines are at most 64 deep, and their records
are read back with 127 levels.  In a job they are at most 63 deep, and 125 levels are enough.  The
definitions are no deeper before they are validated, and calls on all of these nest no deeper than
they do. -/
theorem RuleSet.bounded_ofJsonCached (text : String) {cache : Css.Cache} (sound : cache.Sound) :
    (∀ d, RuleSetDef.parse text = .ok d → d.Bounded 64) ∧
    (∀ d, JobDef.parse text = .ok d → d.rules.Bounded 63) ∧
    (∀ rules, ((RuleSet.ofJsonCached text).run cache).1 = .ok rules → rules.Bounded 64 127) ∧
    ∀ job, ((Job.ofJsonCached text).run cache).1 = .ok job → job.rules.Bounded 63 125 := by
  refine ⟨fun d parsed => ?_, fun d parsed => ?_, fun rules accepted => ?_, fun job accepted => ?_⟩
  · exact RuleSetDef.bounded_of_depth_le (RuleSetDef.depth_le_of_parse parsed)
  · exact RuleSetDef.bounded_of_depth_le (JobDef.depth_le_of_parse parsed)
  · rw [(RuleSet.answers_ofJsonCached text cache sound).1] at accepted
    exact RuleSet.bounded_of_depth_le (by decide) (RuleSet.depth_le_of_ofJson accepted)
  · rw [(Job.answers_ofJsonCached text cache sound).1] at accepted
    exact RuleSet.bounded_of_depth_le (by decide) (Job.depth_le_of_ofJson accepted)

/-- List rules inside each other, with no rules in the last of them. -/
def RuleSetDef.chain : Nat → RuleSetDef
  | 0 => .mk []
  | n + 1 => .mk [("a", .mk (some RuleKind.list.name) "p" none (some (RuleSetDef.chain n)))]

theorem RuleSetDef.valid_chain (n : Nat) : (RuleSetDef.chain n).Valid := by
  induction n with
  | zero => exact .mk .nil (List.forall_mem_nil _)
  | succ n ih =>
    have list : RuleKind.parse? RuleKind.list.name = some .list := RuleKind.parse?_name .list
    exact .mk (List.pairwise_singleton _ _)
      (List.forall_mem_singleton.mpr (.list list ⟨by decide, by decide +kernel⟩ ih))

theorem RuleSetDef.ruleSet_chain (n : Nat) :
    (RuleSetDef.chain (n + 1)).ruleSet = ⟨[("a", .list "p" (RuleSetDef.chain n).ruleSet)]⟩ := by
  cases valid_chain (n + 1) with
  | mk distinct _ =>
    rw [chain, ruleSet_of_nodup distinct, rulesOfFields_eq_map, List.map_singleton,
      RuleDef.rule_of_known (RuleKind.parse?_name .list)]
    rfl

theorem RuleSetDef.within_chain : ∀ {n levels : Nat}, 2 * n < levels →
    RuleSet.Within levels (RuleSetDef.chain n).ruleSet
  | 0, _ + 1, _ => .mk (List.forall_mem_nil _)
  | n + 1, levels + 2, enough => by
    rw [ruleSet_chain]
    exact .mk (List.forall_mem_singleton.mpr (.list (RuleSetDef.within_chain (by omega))))

theorem RuleSetDef.depth_chain (n : Nat) : (RuleSetDef.chain n).ruleSet.depth = n + 1 := by
  induction n with
  | zero => rfl
  | succ n ih =>
    rw [ruleSet_chain, RuleSet.depth, RuleSet.depthOfFields, RuleSet.depthOfFields, Rule.depth, ih]
    omega

/-- The definition of rules is read as part of a job, if one level less suffices. -/
theorem JobDef.parse_definition {rules : RuleSet} (few : RuleSet.Within (maxLevels - 1) rules) :
    JobDef.parse ("\x7b\"url\":\"u\",\"rules\":" ++ rules.definition ++ "\x7d") =
      .ok ⟨some "u", rules.toDef⟩ := by
  have form : Written (.object [(some "url", .string (some "u")), (some "rules", rules.form)]) _ [] :=
    .object (.part (.first .stop) (.quoteChars "url" (.quoteChars "u" _))
      (.part (.later .stop .stop) (.quoteChars "rules" (rules.written_form _)) (.done .stop)))
  refine (JobDef.parse_eq_ok_iff (form.writtenIn ?_)).mpr ?_
  · have chars : rules.definition.toList = rules.definitionChars := String.toList_ofList
    rw [String.toList_append, String.toList_append, chars, List.append_assoc]
    rfl
  · rw [JobDef.ofForm?, Form.inside,
      JobDef.ofMembers?_url_rules (.refl _) (List.forall_mem_nil _), RuleSet.ofForm?_form few]
    rfl

/-- The deepest rules, which end in a rule set without fields, alone and in a job. -/
theorem RuleSet.bounded_ofJsonCached_chain :
    let rules := (RuleSetDef.chain 63).ruleSet
    let inner := (RuleSetDef.chain 62).ruleSet
    let config := "\x7b\"url\":\"u\",\"rules\":" ++ inner.definition ++ "\x7d"
    Css.Cache.empty.Sound ∧
      ((RuleSet.ofJsonCached rules.definition).run .empty).1 = .ok rules ∧ rules.depth = 64 ∧
      rules.Bounded 64 127 ∧
      ((Job.ofJsonCached config).run .empty).1 = .ok ⟨some "u", inner⟩ ∧ inner.depth = 63 ∧
      inner.Bounded 63 125 := by
  intro rules inner config
  have fresh := Css.Cache.sound_empty
  have accepted : ((RuleSet.ofJsonCached rules.definition).run .empty).1 = .ok rules := by
    obtain ⟨valid, same⟩ := RuleSetDef.toDef_ruleSet _ (RuleSetDef.valid_chain 63)
    have read : RuleSetDef.ofForm? maxLevels rules.form = some rules.toDef :=
      RuleSet.ofForm?_form (RuleSetDef.within_chain (by decide))
    rw [RuleSet.ofJsonCached_eq_ok rules.writtenIn_definition read valid fresh, same]
  have given : ((Job.ofJsonCached config).run .empty).1 = .ok ⟨some "u", inner⟩ := by
    obtain ⟨valid, same⟩ := RuleSetDef.toDef_ruleSet _ (RuleSetDef.valid_chain 62)
    have parsed : JobDef.parse config = .ok ⟨some "u", inner.toDef⟩ :=
      JobDef.parse_definition (RuleSetDef.within_chain (by decide))
    rw [(Job.answers_ofJsonCached config .empty fresh).1, Job.ofJson_eq_ok_iff]
    exact ⟨_, parsed, valid, by rw [same]; decide +kernel⟩
  obtain ⟨-, -, alone, -⟩ := RuleSet.bounded_ofJsonCached rules.definition fresh
  obtain ⟨-, -, -, job⟩ := RuleSet.bounded_ofJsonCached config fresh
  exact ⟨fresh, accepted, RuleSetDef.depth_chain 63, alone _ accepted, given,
    RuleSetDef.depth_chain 62, job _ given⟩

end PageExtract
