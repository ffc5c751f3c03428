import PageExtract.Scope.Evaluate

/-!
# What evaluation comes to

Evaluation asks its scope and puts the answers together.  It does nothing else with
the monad of the scope.  So whatever is known of the answers to the questions is known
of the record, as long as it goes along with `pure` and `>>=`.

An `AnswerRelation` is such a knowledge: it relates a computation to the value that it
comes to.  If a scope answers each selector of a rule set as another one does that
answers at once, then evaluation in the first comes to the record that the second
gives (`RuleSet.evaluate_answers`).
-/

namespace PageExtract

/-- A relation between computations and the values that they come to, which goes along
with `pure` and `>>=`. -/
structure AnswerRelation (m : Type → Type) [Monad m] where
  /-- The relation. -/
  Answers : {α : Type} → m α → α → Prop
  /-- A value comes to itself. -/
  pure : ∀ {α : Type} (a : α), Answers (pure a) a
  /-- What goes on from a value comes to what it comes to from there. -/
  bind : ∀ {α β : Type} {x : m α} {f : α → m β} {a : α} {b : β},
    Answers x a → Answers (f a) b → Answers (x >>= f) b

variable {m : Type → Type} [Monad m] {σ ν : Type}

/-- Whether a scope answers the questions for some selectors as another one does that answers
at once. -/
structure Scope.AnswersAs (R : AnswerRelation m) (scope : Scope m σ ν) (plain : Scope Id σ ν)
    (selectors : List String) : Prop where
  /-- The nodes. -/
  select : ∀ s, ∀ selector ∈ selectors,
    R.Answers (scope.select s selector) (plain.select s selector).run
  /-- The first node. -/
  selectFirst : ∀ s, ∀ selector ∈ selectors,
    R.Answers (scope.selectFirst s selector) (plain.selectFirst s selector).run
  /-- The text of a node. -/
  text : scope.text = plain.text
  /-- The attributes of a node. -/
  attr : scope.attr = plain.attr
  /-- The scope below a node. -/
  subscope : scope.subscope = plain.subscope

variable {R : AnswerRelation m} {scope : Scope m σ ν} {plain : Scope Id σ ν}

theorem Scope.AnswersAs.of_subset {few many : List String} (h : scope.AnswersAs R plain many)
    (sub : few ⊆ many) : scope.AnswersAs R plain few :=
  { h with
    select := fun s selector asked => h.select s selector (sub asked)
    selectFirst := fun s selector asked => h.selectFirst s selector (sub asked) }

theorem recordsOf_answers {α : Type} {record : α → m Record} {alike : α → Id Record}
    (h : ∀ a, R.Answers (record a) (alike a).run) (things : List α) :
    R.Answers (recordsOf record things) (recordsOf alike things).run := by
  induction things with
  | nil => exact R.pure _
  | cons first rest ih => exact R.bind (h first) (R.bind ih (R.pure _))

mutual

theorem Rule.evaluate_answers : ∀ (rule : Rule), scope.AnswersAs R plain rule.selectors →
    ∀ s, R.Answers (rule.evaluate scope s) (rule.evaluate plain s).run
  | .text selector, h, s => by
    rw [Rule.evaluate, Rule.evaluate, h.text]
    exact R.bind (h.selectFirst s selector (.head _)) (R.pure _)
  | .attr selector name, h, s => by
    rw [Rule.evaluate, Rule.evaluate, h.attr]
    exact R.bind (h.selectFirst s selector (.head _)) (R.pure _)
  | .list selector rules, h, s => by
    have below := h.of_subset (List.subset_cons_self selector rules.selectors)
    rw [Rule.evaluate, Rule.evaluate, h.subscope]
    refine R.bind (h.select s selector (.head _)) ?_
    refine R.bind (recordsOf_answers ?_ _) (R.pure _)
    intro node
    exact RuleSet.evaluate_answers rules below (plain.subscope s node)

/-- If a scope answers the selectors of a rule set as another one does at once, then evaluation in
the one comes to the record that the other gives. -/
theorem RuleSet.evaluate_answers : ∀ (rules : RuleSet), scope.AnswersAs R plain rules.selectors →
    ∀ s, R.Answers (rules.evaluate scope s) (rules.evaluate plain s).run
  | ⟨fields⟩, h, s => by
    rw [RuleSet.evaluate, RuleSet.evaluate]
    exact R.bind (RuleSet.evaluateFields_answers fields h s) (R.pure _)

theorem RuleSet.evaluateFields_answers : ∀ (fields : List (String × Rule)),
    scope.AnswersAs R plain (RuleSet.selectorsOfFields fields) →
    ∀ s, R.Answers (RuleSet.evaluateFields scope fields s)
      (RuleSet.evaluateFields plain fields s).run
  | [], _, _ => R.pure _
  | (_, rule) :: rest, h, s => by
    have here := h.of_subset (List.subset_append_left rule.selectors _)
    have later := h.of_subset (List.subset_append_right rule.selectors _)
    rw [RuleSet.evaluateFields, RuleSet.evaluateFields]
    exact R.bind (Rule.evaluate_answers rule here s)
      (R.bind (RuleSet.evaluateFields_answers rest later s) (R.pure _))

end

end PageExtract
