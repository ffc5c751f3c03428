import Mathlib.Data.List.Induction
import PageExtract.Proofs.Rule.Reachable

/-!
# Rule sets over time

A rule set changes in *steps*: a field is bound to a rule, or the set is replaced by one that is
read from a text.  What came of the steps so far is told by their `History`: the rule set that was
read last, or the empty one, and the bindings since then, in their order.

A rule set *represents* a history if each field has the rule that it was bound to last, and the
fields stand in the order in which they were bound first.  Each step keeps this
(`Represents.effect`), so it is so after any number of them (`Represents.effects`).
-/

namespace PageExtract

open Css.Cache

/-- Whether a rule can be made from outside: a list rule holds a rule set that was made before. -/
def Rule.IsMade (rule : Rule) : Prop :=
  ∀ selector children, rule = .list selector children → children.Reachable

namespace RuleSet

/-! ## Steps -/

/-- Something that is done to a rule set. -/
inductive Step where
  /-- A field is bound, and it is told what it was bound to. -/
  | insert (field : String) (rule : Rule) (made : rule.IsMade)
  /-- A field is bound. -/
  | build (field : String) (rule : Rule) (made : rule.IsMade)
  /-- A text is read. -/
  | parse (text : String)

/-- What a step tells. -/
inductive Answer where
  /-- The rule that a field was bound to. -/
  | replaced (old : Option Rule)
  /-- Nothing. -/
  | built
  /-- What is wrong with a text, if something is. -/
  | read (mistake : Option RuleError)

/-- The rule set after a step, and what the step tells.  A text that defines no rule set leaves
the rule set as it is. -/
def take (rules : RuleSet) : Step → StateM Css.Cache (RuleSet × Answer)
  | .insert field rule _ =>
      let (old, rules) := rules.exchange field rule
      return (rules, .replaced old)
  | .build field rule _ => return ((rules.exchange field rule).2, .built)
  | .parse text => do
      match ← ofJsonCached text with
      | .ok read => return (read, .read none)
      | .error mistake => return (rules, .read (some mistake))

/-- The rule set after some steps, and what they tell, in their order. -/
def takeAll (rules : RuleSet) : List Step → StateM Css.Cache (RuleSet × List Answer)
  | [] => return (rules, [])
  | step :: rest => do
      let (rules, answer) ← rules.take step
      let (rules, answers) ← rules.takeAll rest
      return (rules, answer :: answers)

/-! ## What steps should come to -/

/-- What was done to a rule set since a text was read last. -/
structure History where
  /-- The rule set that was read, or the empty one. -/
  base : RuleSet
  /-- The fields that were bound since then, with their rules. -/
  bound : List (String × Rule)

namespace History

/-- The history when nothing was done. -/
def start : History := ⟨.empty, []⟩

/-- A history with one step more. -/
def after (h : History) : Step → History
  | .insert field rule _ => ⟨h.base, h.bound ++ [(field, rule)]⟩
  | .build field rule _ => ⟨h.base, h.bound ++ [(field, rule)]⟩
  | .parse text =>
      match ofJson text with
      | .ok read => ⟨read, []⟩
      | .error _ => h

/-- The history of some steps. -/
def of (steps : List Step) : History := steps.foldl History.after start

/-- The rule that a field was bound to last, or that was read for it. -/
def rule? (h : History) (field : String) : Option Rule :=
  match h.bound.reverse.find? (·.1 = field) with
  | some (_, rule) => some rule
  | none => h.base.get? field

/-- The fields in the order in which they were read or bound first. -/
def names (h : History) : List String := (h.base.keys ++ h.bound.map Prod.fst).eraseDups

end History

/-- Whether a rule set differs from an earlier one by the rule of a field at most.  A new field
comes last. -/
structure Rebinds (earlier : RuleSet) (field : String) (rule : Rule) (later : RuleSet) : Prop where
  /-- The field has the rule. -/
  bound : later.get? field = some rule
  /-- The other fields have the rules that they had. -/
  others : ∀ other, other ≠ field → later.get? other = earlier.get? other
  /-- The fields keep their order. -/
  order : later.keys = if field ∈ earlier.keys then earlier.keys else earlier.keys ++ [field]

/-- What a step should do to a rule set, and what it should tell. -/
def Step.Does (earlier later : RuleSet) (answer : Answer) : Step → Prop
  | .insert field rule _ =>
      answer = .replaced (earlier.get? field) ∧ Rebinds earlier field rule later
  | .build field rule _ => answer = .built ∧ Rebinds earlier field rule later
  | .parse text =>
      match ofJson text with
      | .ok read => answer = .read none ∧ later = read
      | .error mistake => answer = .read (some mistake) ∧ later = earlier

/-! ## What a step does -/

theorem exchangeFields_eq (field : String) (rule : Rule) (fields : List (String × Rule)) :
    exchangeFields field rule fields = (lookup field fields, bind field rule fields) := by
  induction fields with
  | nil => rfl
  | cons entry rest ih =>
    obtain ⟨name, old⟩ := entry
    rw [exchangeFields, lookup, bind, ih]
    split
    next => rfl
    next => rfl

/-- Exchanging gives what the field was bound to, and binds it. -/
theorem exchange_eq (rules : RuleSet) (field : String) (rule : Rule) :
    rules.exchange field rule = (rules.get? field, rules.insert field rule) := by
  rw [exchange, exchangeFields_eq]
  rfl

theorem rebinds_insert (rules : RuleSet) (field : String) (rule : Rule) :
    Rebinds rules field rule (rules.insert field rule) where
  bound := by rw [get?_insert, if_pos rfl]
  others other differs := by rw [get?_insert, if_neg differs]
  order := keys_insert rules field rule

/-- The rule set after a step, and what the step tells, if each selector is compiled anew. -/
def effect (rules : RuleSet) : Step → RuleSet × Answer
  | .insert field rule _ => (rules.insert field rule, .replaced (rules.get? field))
  | .build field rule _ => (rules.insert field rule, .built)
  | .parse text =>
      match ofJson text with
      | .ok read => (read, .read none)
      | .error mistake => (rules, .read (some mistake))

theorem answers_take (rules : RuleSet) (step : Step) :
    Answers (rules.take step) (rules.effect step) := by
  cases step with
  | insert field rule made =>
    rw [take, exchange_eq]
    exact answers_pure _
  | build field rule made =>
    rw [take, exchange_eq]
    exact answers_pure _
  | parse text =>
    refine answers_bind (answers_ofJsonCached text) ?_
    rw [effect]
    cases ofJson text with
    | ok read => exact answers_pure _
    | error mistake => exact answers_pure _

theorem does_effect (rules : RuleSet) (step : Step) :
    step.Does rules (rules.effect step).1 (rules.effect step).2 := by
  cases step with
  | insert field rule made => exact ⟨rfl, rebinds_insert rules field rule⟩
  | build field rule made => exact ⟨rfl, rebinds_insert rules field rule⟩
  | parse text =>
    rw [Step.Does, effect]
    cases ofJson text with
    | ok read => exact ⟨rfl, rfl⟩
    | error mistake => exact ⟨rfl, rfl⟩

/-! ## What a rule set represents -/

theorem History.rule?_bind (base : RuleSet) (bound : List (String × Rule)) (field : String)
    (rule : Rule) (other : String) :
    History.rule? ⟨base, bound ++ [(field, rule)]⟩ other =
      if other = field then some rule else History.rule? ⟨base, bound⟩ other := by
  rw [rule?, List.reverse_append, List.reverse_singleton, List.singleton_append, List.find?_cons]
  by_cases same : other = field
  · rw [if_pos same, decide_eq_true same.symm]
  · rw [if_neg same, decide_eq_false fun h => same h.symm]
    rfl

theorem eraseDups_concat (names : List String) (name : String) :
    (names ++ [name]).eraseDups =
      if name ∈ names.eraseDups then names.eraseDups else names.eraseDups ++ [name] := by
  have alone : [name].eraseDups = [name] := rfl
  rw [List.eraseDups_append]
  by_cases old : name ∈ names
  · simp [List.removeAll, old]
  · simp [List.removeAll, old, alone]

theorem eraseDups_of_nodup {names : List String} (distinct : names.Nodup) :
    names.eraseDups = names := by
  induction names using List.reverseRecOn with
  | nil => rfl
  | append_singleton names name ih =>
    obtain ⟨before, -, new⟩ := List.nodup_append.mp distinct
    have new : name ∉ names := fun old => new name old name (.head _) rfl
    rw [eraseDups_concat, ih before, if_neg new]

theorem History.names_bind (base : RuleSet) (bound : List (String × Rule)) (field : String)
    (rule : Rule) :
    History.names ⟨base, bound ++ [(field, rule)]⟩ =
      if field ∈ History.names ⟨base, bound⟩ then History.names ⟨base, bound⟩
      else History.names ⟨base, bound⟩ ++ [field] := by
  rw [names, List.map_append, List.map_singleton, ← List.append_assoc]
  exact eraseDups_concat _ field

/-- Whether a rule set is what came of a history. -/
structure Represents (h : History) (rules : RuleSet) : Prop where
  /-- It can be made from outside. -/
  made : rules.Reachable
  /-- Each field has the rule that it was bound to last. -/
  rule : ∀ field, rules.get? field = h.rule? field
  /-- The fields stand in the order in which they were bound first. -/
  names : rules.keys = h.names

/-- A rule set that can be made represents the history that begins with it. -/
theorem Represents.base {rules : RuleSet} (made : rules.Reachable) :
    Represents ⟨rules, []⟩ rules where
  made := made
  rule _ := rfl
  names := by
    obtain ⟨fields⟩ := rules
    obtain ⟨distinct, -⟩ := made.distinct
    rw [History.names, List.map_nil, List.append_nil]
    exact (eraseDups_of_nodup distinct).symm

theorem Represents.insert {h : History} {rules : RuleSet} (now : Represents h rules)
    (field : String) {rule : Rule} (made : rule.IsMade) :
    Represents ⟨h.base, h.bound ++ [(field, rule)]⟩ (rules.insert field rule) where
  made := now.made.insert field made
  rule other := by rw [get?_insert, History.rule?_bind, now.rule]
  names := by rw [keys_insert, History.names_bind, now.names]

/-- A step keeps a rule set in line with its history. -/
theorem Represents.effect {h : History} {rules : RuleSet} (now : Represents h rules)
    (step : Step) : Represents (h.after step) (rules.effect step).1 := by
  cases step with
  | insert field rule made => exact now.insert field made
  | build field rule made => exact now.insert field made
  | parse text =>
    rw [History.after, RuleSet.effect]
    cases read : ofJson text with
    | ok next =>
      have accepted := ((answers_ofJsonCached text) .empty sound_empty).1.trans read
      exact .base (.ofJson sound_empty accepted)
    | error mistake => exact now

/-! ## Some steps -/

/-- The rule set after some steps, and what they tell, if each selector is compiled anew. -/
def effects (rules : RuleSet) : List Step → RuleSet × List Answer
  | [] => (rules, [])
  | step :: rest =>
      let (later, answers) := (rules.effect step).1.effects rest
      (later, (rules.effect step).2 :: answers)

theorem answers_takeAll (rules : RuleSet) (steps : List Step) :
    Answers (rules.takeAll steps) (rules.effects steps) := by
  induction steps generalizing rules with
  | nil => exact answers_pure _
  | cons step rest ih =>
    refine answers_bind (answers_take rules step) ?_
    exact answers_bind (ih _) (answers_pure _)

theorem effects_append (rules : RuleSet) (before rest : List Step) :
    rules.effects (before ++ rest) =
      (((rules.effects before).1.effects rest).1,
        (rules.effects before).2 ++ ((rules.effects before).1.effects rest).2) := by
  induction before generalizing rules with
  | nil => rfl
  | cons step before ih =>
    rw [List.cons_append, effects, ih]
    rfl

theorem length_effects (rules : RuleSet) (steps : List Step) :
    (rules.effects steps).2.length = steps.length := by
  induction steps generalizing rules with
  | nil => rfl
  | cons step rest ih => exact congrArg Nat.succ (ih _)

theorem Represents.effects {h : History} {rules : RuleSet} (now : Represents h rules)
    (steps : List Step) : Represents (steps.foldl History.after h) (rules.effects steps).1 := by
  induction steps generalizing h rules with
  | nil => exact now
  | cons step rest ih => exact ih (now.effect step)

/-- Whatever steps are taken, and whatever a sound cache holds: no field occurs twice, at any
depth, each field has the rule that it was bound to last, and the fields stand in the order in
which they were bound first.  Each step tells what there was before it, binds no other field,
and leaves the rule set as it is if a text defines none. -/
theorem takeAll_represents (steps : List Step) {cache : Css.Cache} (sound : cache.Sound) :
    let after (steps : List Step) := ((takeAll .empty steps).run cache).1
    ((after steps).1.Distinct ∧
      (∀ field, (after steps).1.get? field = (History.of steps).rule? field) ∧
      (after steps).1.keys = (History.of steps).names) ∧
    ∀ before step rest, steps = before ++ step :: rest →
      ∃ answer, (after steps).2[before.length]? = some answer ∧
        step.Does (after before).1 (after (before ++ [step])).1 answer := by
  intro after
  have plain (steps : List Step) : after steps = effects .empty steps :=
    (answers_takeAll .empty steps cache sound).1
  refine ⟨?_, ?_⟩
  · have now : Represents (History.of steps) (effects .empty steps).1 :=
      (Represents.base .empty).effects steps
    rw [plain]
    exact ⟨now.made.distinct, now.rule, now.names⟩
  · rintro before step rest rfl
    rw [plain, plain, plain, effects_append, effects_append]
    refine ⟨((effects .empty before).1.effect step).2, ?_, does_effect _ step⟩
    rw [List.getElem?_append_right (Nat.le_of_eq (length_effects .empty before)), length_effects,
      Nat.sub_self]
    rfl

/-- A field that is bound again keeps its place, and a text that is no rule set changes
nothing. -/
theorem takeAll_represents_again :
    let steps : List Step := [.insert "b" (.text "p") nofun, .build "a" (.text "q") nofun,
      .insert "b" (.text "r") nofun, .parse "[]"]
    let rules := ((takeAll .empty steps).run .empty).1.1
    rules.Distinct ∧ rules.keys = ["b", "a"] ∧ rules.get? "b" = some (.text "r") := by
  intro steps rules
  obtain ⟨⟨distinct, rule, names⟩, -⟩ := takeAll_represents steps sound_empty
  refine ⟨distinct, names.trans ?_, (rule "b").trans ?_⟩
  · decide +kernel
  · decide +kernel

end RuleSet

end PageExtract
