import PageExtract.Proofs.Extraction.Plain
import PageExtract.Scope.ClassTree

/-!
# How often a scope is asked

Each time that a rule is evaluated in a scope, it asks the scope one question.  `evaluations` lists
the rules that are evaluated, each with the scope that it is evaluated in, in the order of the
evaluation: after a list rule come the rules inside it, once for every node that it finds.

A scope may note the questions that it is asked, in whatever way.  Then it notes one for each
evaluation, in this order, and nothing else (`RuleSet.notes_evaluate`).  There are as many
evaluations as there are values in the record (`RuleSet.length_evaluations`), and so the number of
questions is read off the record (`ClassTree.extract_questions`).
-/

namespace PageExtract

variable {σ ν ω : Type}

/-! ## Scopes that note their questions -/

namespace Scope

/-- Asks for the nodes of a selector and notes the question. -/
def selectNoting (note : σ → String → ω → ω) (scope : Scope Id σ ν) (s : σ) (selector : String) :
    StateM ω (List ν) := do
  modify (note s selector)
  return (scope.select s selector).run

/-- The scope that gives the same nodes as another one, finds the first of them by asking for all,
and notes each question. -/
def noting (note : σ → String → ω → ω) (scope : Scope Id σ ν) : Scope (StateM ω) σ ν where
  select := selectNoting note scope
  selectFirst := firstOf (selectNoting note scope)
  text := scope.text
  attr := scope.attr
  subscope := scope.subscope

end Scope

/-! ## Evaluations -/

section

variable (scope : Scope Id σ ν)

mutual

/-- What is evaluated for a rule in a scope. -/
def Rule.evaluations : Rule → σ → List (σ × Rule)
  | .text selector, s => [(s, .text selector)]
  | .attr selector name, s => [(s, .attr selector name)]
  | .list selector rules, s =>
      (s, .list selector rules) :: (scope.select s selector).run.flatMap fun node =>
        rules.evaluations (scope.subscope s node)

/-- What is evaluated for a rule set in a scope. -/
def RuleSet.evaluations : RuleSet → σ → List (σ × Rule)
  | ⟨fields⟩, s => RuleSet.evaluationsOfFields fields s

/-- What is evaluated for a list of fields in a scope. -/
def RuleSet.evaluationsOfFields : List (String × Rule) → σ → List (σ × Rule)
  | [], _ => []
  | (_, rule) :: rest, s => rule.evaluations s ++ RuleSet.evaluationsOfFields rest s

end

/-! ## One question for each evaluation -/

/-- Whether a computation comes to a value, and notes a question for each of some evaluations. -/
def Notes (note : σ → String → ω → ω) {α : Type} (x : StateM ω α) (a : α)
    (asked : List (σ × Rule)) : Prop :=
  ∀ before, x.run before =
    (a, asked.foldl (fun noted (s, rule) => note s rule.selector noted) before)

namespace Notes

variable {note : σ → String → ω → ω}

theorem pure {α : Type} (a : α) : Notes note (Pure.pure a) a [] := fun _ => rfl

theorem bind {α β : Type} {x : StateM ω α} {f : α → StateM ω β} {a : α} {b : β}
    {first later : List (σ × Rule)} (hx : Notes note x a first) (hf : Notes note (f a) b later) :
    Notes note (x >>= f) b (first ++ later) := by
  intro before
  rw [StateT.run_bind, hx before, List.foldl_append]
  exact hf _

/-- What goes on from a value without a question. -/
theorem map {α β : Type} {x : StateM ω α} {f : α → β} {a : α} {asked : List (σ × Rule)}
    (hx : Notes note x a asked) : Notes note (x >>= fun a => Pure.pure (f a)) (f a) asked := by
  have step := hx.bind (f := fun a => Pure.pure (f a)) (pure (f a))
  rwa [List.append_nil] at step

variable {scope : Scope Id σ ν}

theorem select (s : σ) (rule : Rule) :
    Notes note ((scope.noting note).select s rule.selector) (scope.select s rule.selector).run
      [(s, rule)] := fun _ => rfl

theorem selectFirst (first : scope.selectFirst = firstOf scope.select) (s : σ) (rule : Rule) :
    Notes note ((scope.noting note).selectFirst s rule.selector)
      (scope.selectFirst s rule.selector).run [(s, rule)] := by
  rw [first]
  exact (select s rule).map

theorem recordsOf {record : ν → StateM ω Record} {value : ν → Id Record}
    {evaluations : ν → List (σ × Rule)}
    (h : ∀ node, Notes note (record node) (value node).run (evaluations node)) (nodes : List ν) :
    Notes note (PageExtract.recordsOf record nodes) (PageExtract.recordsOf value nodes).run
      (nodes.flatMap evaluations) := by
  induction nodes with
  | nil => exact pure _
  | cons node rest ih => exact (h node).bind ih.map

end Notes

variable {scope} {note : σ → String → ω → ω}

mutual

theorem Rule.notes_evaluate (first : scope.selectFirst = firstOf scope.select) :
    ∀ (rule : Rule) (s : σ),
    Notes note (rule.evaluate (scope.noting note) s) (rule.evaluate scope s).run
      (rule.evaluations scope s)
  | .text selector, s => by
    rw [Rule.evaluate, Rule.evaluate, Rule.evaluations]
    exact (Notes.selectFirst first s (.text selector)).map
  | .attr selector name, s => by
    rw [Rule.evaluate, Rule.evaluate, Rule.evaluations]
    exact (Notes.selectFirst first s (.attr selector name)).map
  | .list selector rules, s => by
    have below (node : ν) := RuleSet.notes_evaluate first rules (scope.subscope s node)
    rw [Rule.evaluate, Rule.evaluate, Rule.evaluations]
    exact (Notes.select s (.list selector rules)).bind (Notes.recordsOf below _).map

/-- Evaluation notes one question for each evaluation, and comes to the same record. -/
theorem RuleSet.notes_evaluate (first : scope.selectFirst = firstOf scope.select) :
    ∀ (rules : RuleSet) (s : σ),
    Notes note (rules.evaluate (scope.noting note) s) (rules.evaluate scope s).run
      (rules.evaluations scope s)
  | ⟨fields⟩, s => by
    rw [RuleSet.evaluate, RuleSet.evaluate, RuleSet.evaluations]
    exact (RuleSet.notes_evaluateFields first fields s).map

theorem RuleSet.notes_evaluateFields (first : scope.selectFirst = firstOf scope.select) :
    ∀ (fields : List (String × Rule)) (s : σ),
    Notes note (RuleSet.evaluateFields (scope.noting note) fields s)
      (RuleSet.evaluateFields scope fields s).run (RuleSet.evaluationsOfFields scope fields s)
  | [], _ => Notes.pure _
  | (_, rule) :: rest, s => by
    rw [RuleSet.evaluateFields, RuleSet.evaluateFields, RuleSet.evaluationsOfFields]
    exact (Rule.notes_evaluate first rule s).bind (RuleSet.notes_evaluateFields first rest s).map

end

/-! ## One value for each evaluation -/

theorem length_flatMap_evaluations {record : ν → Record} {evaluations : ν → List (σ × Rule)}
    (h : ∀ node, (evaluations node).length = (record node).total) (nodes : List ν) :
    (nodes.flatMap evaluations).length = Value.totalItems (nodes.map record) := by
  induction nodes with
  | nil => rfl
  | cons node rest ih => simp [Value.totalItems, h node, ih]

variable (scope)

mutual

theorem Rule.length_evaluations : ∀ (rule : Rule) (s : σ),
    (rule.evaluations scope s).length = (rule.evaluate scope s).run.total
  | .text _, _ => rfl
  | .attr _ _, _ => rfl
  | .list selector rules, s => by
    have below (node : ν) := RuleSet.length_evaluations rules (scope.subscope s node)
    rw [Rule.evaluate_list_run, Rule.evaluations, Value.total, List.length_cons,
      length_flatMap_evaluations below, Nat.add_comm]

/-- A record has one value for each evaluation, at all depths. -/
theorem RuleSet.length_evaluations : ∀ (rules : RuleSet) (s : σ),
    (rules.evaluations scope s).length = (rules.evaluate scope s).run.total
  | ⟨fields⟩, s => RuleSet.length_evaluationsOfFields fields s

theorem RuleSet.length_evaluationsOfFields : ∀ (fields : List (String × Rule)) (s : σ),
    (RuleSet.evaluationsOfFields scope fields s).length =
      Record.totalFields (RuleSet.evaluateFields scope fields s).run
  | [], _ => rfl
  | (name, rule) :: rest, s => by
    have later := RuleSet.length_evaluationsOfFields rest s
    rw [RuleSet.evaluateFields_run] at later ⊢
    rw [RuleSet.evaluationsOfFields, List.length_append, Rule.length_evaluations rule s, later]
    rfl

end

end

/-! ## What is filled is there -/

mutual

theorem Value.filled_le_total : ∀ value : Value, value.filled ≤ value.total
  | .text content => by
    rw [Value.filled, Value.total]
    split <;> omega
  | .list items => by
    have := Value.filledItems_le_total items
    rw [Value.filled, Value.total]
    split <;> omega

theorem Value.filledItems_le_total : ∀ items : List Record,
    Value.filledItems items ≤ Value.totalItems items
  | [] => Nat.le_refl 0
  | first :: rest =>
    Nat.add_le_add (Record.filled_le_total first) (Value.filledItems_le_total rest)

/-- A record has at least as many values as filled ones. -/
theorem Record.filled_le_total : ∀ r : Record, r.filled ≤ r.total
  | ⟨fields⟩ => Record.filledFields_le_total fields

theorem Record.filledFields_le_total : ∀ fields : List (String × Value),
    Record.filledFields fields ≤ Record.totalFields fields
  | [] => Nat.le_refl 0
  | (_, value) :: rest =>
    Nat.add_le_add (Value.filled_le_total value) (Record.filledFields_le_total rest)

end

theorem Value.total_pos : ∀ value : Value, 0 < value.total
  | .text _ => Nat.one_pos
  | .list items => Nat.lt_add_right (Value.totalItems items) Nat.one_pos

theorem Record.total_eq_zero_iff (r : Record) : r.total = 0 ↔ r.fields = [] := by
  obtain ⟨fields⟩ := r
  cases fields with
  | nil => simp [Record.total, Record.totalFields]
  | cons field rest =>
    have := Value.total_pos field.2
    simp only [Record.total, Record.totalFields]
    constructor
    · intro none
      omega
    · intro none
      cases none

/-! ## Trees -/

namespace ClassTree

/-- The scope of a tree, which does not count its questions. -/
def uncounted : Scope Id ClassTree ClassTree where
  select t className := return t.select className
  selectFirst := firstOf fun t className => return t.select className
  text := counted.text
  attr := counted.attr
  subscope := counted.subscope

theorem counted_eq_noting : counted = uncounted.noting fun _ _ questions => questions + 1 := rfl

theorem extract_eq (t : ClassTree) (rules : RuleSet) :
    t.extract rules =
      ((rules.evaluate uncounted t).run, (rules.evaluations uncounted t).length) := by
  rw [extract, counted_eq_noting, RuleSet.notes_evaluate rfl rules t 0]
  simp

/-- There are as many questions as values.  Each rule asks one question in each scope that it is
evaluated in, in the order of the evaluation.  So only a rule set without fields asks none, and no
more is filled than was asked for. -/
theorem extract_questions (t : ClassTree) (rules : RuleSet) :
    let record := (t.extract rules).1
    let questions := (t.extract rules).2
    let asked := ((rules.evaluate
      (uncounted.noting fun s selector asked => asked ++ [(s, selector)]) t).run []).2
    questions = record.total ∧
    asked = (rules.evaluations uncounted t).map (fun (s, rule) => (s, rule.selector)) ∧
    questions = asked.length ∧
    (questions = 0 ↔ rules.isEmpty) ∧
    record.filled ≤ questions := by
  intro record questions asked
  have counts := extract_eq t rules
  have plain : uncounted.selectFirst = firstOf uncounted.select := rfl
  have total : questions = record.total := by
    simp only [questions, record, counts]
    exact RuleSet.length_evaluations uncounted rules t
  have noted : asked = (rules.evaluations uncounted t).map
      (fun (s, rule) => (s, rule.selector)) := by
    simp only [asked, RuleSet.notes_evaluate plain rules t []]
    rw [List.foldl_append_eq_append, List.nil_append, ← List.flatMap_def, ← List.map_eq_flatMap]
  refine ⟨total, noted, ?_, ?_, ?_⟩
  · rw [noted, List.length_map]
    exact congrArg Prod.snd counts
  · have fields : record.fields =
        rules.fields.map fun field => (field.1, (field.2.evaluate uncounted t).run) := by
      simp only [record, counts, RuleSet.evaluate_run]
    rw [total, Record.total_eq_zero_iff, fields, List.map_eq_nil_iff, RuleSet.isEmpty,
      List.isEmpty_iff]
  · rw [total]
    exact Record.filled_le_total record

end ClassTree

end PageExtract
