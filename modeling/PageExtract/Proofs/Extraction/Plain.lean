import PageExtract.Client
import PageExtract.Proofs.Css.Cache
import PageExtract.Proofs.Scope.AnswerRelation

/-!
# Extraction without a cache

A scope that answers at once, without a monad, makes evaluation a map: the record
has the value of each rule, and a list has the record of each node.

Extraction through a sound cache gives what extraction gives that compiles each
selector anew (`answers_extractCached`).  So what is proved of `extract` holds of
a client, which uses a cache.
-/

namespace PageExtract

/-! ## Evaluation as a map -/

section

variable {σ ν : Type} (scope : Scope Id σ ν)

theorem recordsOf_run {α : Type} (record : α → Id Record) (things : List α) :
    (recordsOf record things).run = things.map fun a => (record a).run := by
  induction things with
  | nil => rfl
  | cons first rest ih => rw [List.map_cons, ← ih]; rfl

theorem RuleSet.evaluateFields_run (fields : List (String × Rule)) (s : σ) :
    (RuleSet.evaluateFields scope fields s).run =
      fields.map fun field => (field.1, (field.2.evaluate scope s).run) := by
  induction fields with
  | nil => rfl
  | cons field rest ih => rw [List.map_cons, ← ih]; rfl

/-- The record of a rule set has the value of each rule. -/
theorem RuleSet.evaluate_run (rules : RuleSet) (s : σ) :
    (rules.evaluate scope s).run =
      ⟨rules.fields.map fun field => (field.1, (field.2.evaluate scope s).run)⟩ := by
  obtain ⟨fields⟩ := rules
  rw [← RuleSet.evaluateFields_run]
  rfl

theorem Rule.evaluate_text_run (selector : String) (s : σ) :
    ((Rule.text selector).evaluate scope s).run =
      .text (((scope.selectFirst s selector).run.map (scope.text s)).getD "") := by
  rw [Rule.evaluate]
  rfl

theorem Rule.evaluate_attr_run (selector name : String) (s : σ) :
    ((Rule.attr selector name).evaluate scope s).run =
      .text (((scope.selectFirst s selector).run.bind fun node => scope.attr s node name).getD
        "") := by
  rw [Rule.evaluate]
  rfl

/-- The value of a list rule has the record of each node. -/
theorem Rule.evaluate_list_run (selector : String) (rules : RuleSet) (s : σ) :
    ((Rule.list selector rules).evaluate scope s).run =
      .list ((scope.select s selector).run.map fun node =>
        (rules.evaluate scope (scope.subscope s node)).run) := by
  rw [← recordsOf_run, Rule.evaluate]
  rfl

end

/-! ## Views that ask for the meaning of a selector -/

namespace Html.View

/-- What a selector means, as a question with one answer. -/
def meaning (selector : String) : Id (Option (List Css.Selector)) := pure (Css.compile selector)

section

variable (known : String → Id (Option (List Css.Selector))) (v : View) (selector : String)

theorem select_run :
    ((scope known).select v selector).run = ((known selector).run.map v.select).getD [] := by
  simp only [scope, Id.run_bind]
  cases (known selector).run with
  | none => rfl
  | some list => rfl

theorem selectFirst_run :
    ((scope known).selectFirst v selector).run = (known selector).run.bind v.selectFirst? := by
  simp only [scope, Id.run_bind]
  cases (known selector).run with
  | none => rfl
  | some list => rfl

end

theorem select_meaning (v : View) (selector : String) :
    ((scope meaning).select v selector).run = ((Css.compile selector).map v.select).getD [] :=
  select_run meaning v selector

theorem selectFirst_meaning (v : View) (selector : String) :
    ((scope meaning).selectFirst v selector).run =
      (Css.compile selector).bind v.selectFirst? :=
  selectFirst_run meaning v selector

theorem selectFirst_eq_head? (v : View) (selector : String) :
    ((scope meaning).selectFirst v selector).run =
      ((scope meaning).select v selector).run.head? := by
  rw [select_meaning, selectFirst_meaning]
  cases Css.compile selector with
  | none => rfl
  | some list => exact findFirst?_eq_head? (Css.matches? list) v

/-- Views of which one asks what selectors mean and one knows it answer alike. -/
theorem scope_answersAs {m : Type → Type} [Monad m] {R : AnswerRelation m}
    {ask : String → m (Option (List Css.Selector))}
    {known : String → Id (Option (List Css.Selector))} {selectors : List String}
    (h : ∀ selector ∈ selectors, R.Answers (ask selector) (known selector).run) :
    (scope ask).AnswersAs R (scope known) selectors where
  select v selector asked := by
    rw [select_run]
    refine R.bind (h selector asked) ?_
    cases (known selector).run with
    | none => exact R.pure _
    | some list => exact R.pure _
  selectFirst v selector asked := by
    rw [selectFirst_run]
    refine R.bind (h selector asked) ?_
    cases (known selector).run with
    | none => exact R.pure _
    | some list => exact R.pure _
  text := rfl
  attr := rfl
  subscope := rfl

end Html.View

/-! ## Extraction through a cache -/

section

open Css.Cache Html.View

/-- What a sound cache answers, as a relation. -/
def Css.Cache.answerRelation : AnswerRelation (StateM Css.Cache) where
  Answers := Answers
  pure := answers_pure
  bind := answers_bind

theorem RuleSet.answers_evaluate (rules : RuleSet) (v : Html.View) :
    Answers (rules.evaluate (scope getOrCompile) v) (rules.evaluate (scope meaning) v).run :=
  rules.evaluate_answers (R := answerRelation)
    (scope_answersAs fun selector _ => answers_getOrCompile selector) v

/-- Extraction through a sound cache gives what extraction without one gives. -/
theorem answers_extractCached (html : String) (rules : RuleSet) :
    Answers (extractCached html rules) (extract html rules) :=
  RuleSet.answers_evaluate rules _

end

end PageExtract
