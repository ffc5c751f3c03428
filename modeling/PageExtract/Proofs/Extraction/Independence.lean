import PageExtract.Proofs.Extraction.Plain

/-!
# Fields do not depend on one another

A rule set can be *reordered*: its fields change places, and so do the fields in the rule set of
each list rule, at any depth and everywhere in another way.  Every reordering is put together from
exchanges of two fields that stand side by side.  It can be applied to a record as well, and then
the records of a list are all reordered like their rules, while the list itself keeps its order.

Evaluation goes along with reorderings: reordered rules give the reordered record
(`RuleSet.evaluate_reordering`), in which as much is filled (`RuleSet.Reordering.filled_record`).

A field has the value that its rule has alone (`RuleSet.get?_evaluate_run`).  So no other field
changes its value when one is bound anew, added or left out.

This is so in every scope that answers a question always in the same way, and then also in a scope
that counts its questions or keeps what it has worked out, as long as it comes to the same answers.
-/

namespace PageExtract

/-! ## Reorderings -/

mutual

/-- A way to reorder the fields inside a rule. -/
inductive Rule.Reordering : Rule → Rule → Type where
  /-- The rule stays as it is. -/
  | same (rule : Rule) : Rule.Reordering rule rule
  /-- The rule set of a list rule is reordered. -/
  | list (selector : String) {rules others : RuleSet} (inside : RuleSet.Reordering rules others) :
      Rule.Reordering (.list selector rules) (.list selector others)

/-- A way to reorder the fields of a rule set, here and inside. -/
inductive RuleSet.Reordering : RuleSet → RuleSet → Type where
  /-- Its list of fields is reordered. -/
  | mk {fields others : List (String × Rule)}
      (way : RuleSet.FieldsReordering fields others) : RuleSet.Reordering ⟨fields⟩ ⟨others⟩

/-- A way to reorder a list of fields, here and inside. -/
inductive RuleSet.FieldsReordering : List (String × Rule) → List (String × Rule) → Type where
  /-- There is nothing to reorder. -/
  | nil : RuleSet.FieldsReordering [] []
  /-- The first field keeps its place, and is reordered inside. -/
  | cons (name : String) {rule other : Rule} {fields others : List (String × Rule)}
      (first : Rule.Reordering rule other) (later : RuleSet.FieldsReordering fields others) :
      RuleSet.FieldsReordering ((name, rule) :: fields) ((name, other) :: others)
  /-- The first two fields change places. -/
  | swap (first second : String × Rule) (fields : List (String × Rule)) :
      RuleSet.FieldsReordering (first :: second :: fields) (second :: first :: fields)
  /-- What was reordered is reordered again. -/
  | trans {fields between others : List (String × Rule)}
      (before : RuleSet.FieldsReordering fields between)
      (after : RuleSet.FieldsReordering between others) : RuleSet.FieldsReordering fields others

end

mutual

/-- The value of a rule, reordered like the rule. -/
def Rule.Reordering.value {rule other : Rule} : Rule.Reordering rule other → Value → Value
  | .list _ inside, .list items => .list (items.map inside.record)
  | _, value => value

/-- A record, reordered like a rule set. -/
def RuleSet.Reordering.record {rules others : RuleSet} :
    RuleSet.Reordering rules others → Record → Record
  | .mk way, ⟨values⟩ => ⟨way.values values⟩

/-- The values of some fields, reordered like the fields. -/
def RuleSet.FieldsReordering.values {fields others : List (String × Rule)} :
    RuleSet.FieldsReordering fields others → List (String × Value) → List (String × Value)
  | .cons _ first later, (name, value) :: rest => (name, first.value value) :: later.values rest
  | .swap _ _ _, first :: second :: rest => second :: first :: rest
  | .trans before after, values => after.values (before.values values)
  | _, values => values

end

/-! ### What is filled -/

theorem Value.filledItems_map {record : Record → Record}
    (h : ∀ r, (record r).filled = r.filled) (items : List Record) :
    Value.filledItems (items.map record) = Value.filledItems items := by
  induction items with
  | nil => rfl
  | cons first rest ih => simp [Value.filledItems, h, ih]

mutual

theorem Rule.Reordering.filled_value {rule other : Rule} :
    ∀ (way : Rule.Reordering rule other) (value : Value), (way.value value).filled = value.filled
  | .same _, _ => rfl
  | .list _ _, .text _ => rfl
  | .list _ inside, .list items => by
    have items := Value.filledItems_map inside.filled_record items
    simp [Rule.Reordering.value, Value.filled, items]

/-- A reordered record is as filled as it was. -/
theorem RuleSet.Reordering.filled_record {rules others : RuleSet} :
    ∀ (way : RuleSet.Reordering rules others) (r : Record), (way.record r).filled = r.filled
  | .mk way, ⟨values⟩ => way.filled_values values

theorem RuleSet.FieldsReordering.filled_values {fields others : List (String × Rule)} :
    ∀ (way : RuleSet.FieldsReordering fields others) (values : List (String × Value)),
      Record.filledFields (way.values values) = Record.filledFields values
  | .nil, _ => rfl
  | .cons _ _ _, [] => rfl
  | .cons _ first later, (_, value) :: rest => by
    have first := first.filled_value value
    have later := later.filled_values rest
    simp [RuleSet.FieldsReordering.values, Record.filledFields, first, later]
  | .swap _ _ _, [] => rfl
  | .swap _ _ _, [_] => rfl
  | .swap _ _ _, (_, first) :: (_, second) :: rest => by
    simp only [RuleSet.FieldsReordering.values, Record.filledFields]
    omega
  | .trans before after, values => by
    rw [RuleSet.FieldsReordering.values, after.filled_values, before.filled_values]

end

/-! ## Evaluation -/

section

variable {σ ν : Type} (scope : Scope Id σ ν)

mutual

theorem Rule.evaluate_reordering {rule other : Rule} :
    ∀ (way : Rule.Reordering rule other) (s : σ),
      (other.evaluate scope s).run = way.value (rule.evaluate scope s).run
  | .same _, _ => rfl
  | .list selector inside, s => by
    have records (node : ν) := RuleSet.evaluate_reordering inside (scope.subscope s node)
    rw [Rule.evaluate_list_run, Rule.evaluate_list_run, Rule.Reordering.value, List.map_map]
    simp [Function.comp_def, records]

/-- Reordered rules give the reordered record. -/
theorem RuleSet.evaluate_reordering {rules others : RuleSet} :
    ∀ (way : RuleSet.Reordering rules others) (s : σ),
      (others.evaluate scope s).run = way.record (rules.evaluate scope s).run
  | .mk way, s => by
    rw [RuleSet.evaluate_run, RuleSet.evaluate_run, RuleSet.Reordering.record,
      RuleSet.map_evaluate_reordering way s]

theorem RuleSet.map_evaluate_reordering {fields others : List (String × Rule)} :
    ∀ (way : RuleSet.FieldsReordering fields others) (s : σ),
      (others.map fun field => (field.1, (field.2.evaluate scope s).run)) =
        way.values (fields.map fun field => (field.1, (field.2.evaluate scope s).run))
  | .nil, _ => rfl
  | .cons name first later, s => by
    rw [List.map_cons, List.map_cons, RuleSet.FieldsReordering.values,
      Rule.evaluate_reordering first s, RuleSet.map_evaluate_reordering later s]
  | .swap _ _ _, _ => rfl
  | .trans before after, s => by
    rw [RuleSet.map_evaluate_reordering after s, RuleSet.map_evaluate_reordering before s,
      RuleSet.FieldsReordering.values]

end

/-! ## One field among others -/

/-- A rule set without one of its fields. -/
def RuleSet.without (rules : RuleSet) (field : String) : RuleSet :=
  ⟨rules.fields.filter fun entry => entry.1 ≠ field⟩

theorem RuleSet.get?_without_of_ne {field other : String} (rules : RuleSet) (h : other ≠ field) :
    (rules.without field).get? other = rules.get? other := by
  obtain ⟨fields⟩ := rules
  simp only [without, get?]
  induction fields with
  | nil => rfl
  | cons entry rest ih => grind [lookup]

/-- A field has the value that its rule has alone. -/
theorem RuleSet.get?_evaluate_run (rules : RuleSet) (s : σ) (name : String) :
    (rules.evaluate scope s).run.get? name =
      (rules.get? name).map fun rule => (rule.evaluate scope s).run := by
  rw [RuleSet.evaluate_run, Record.get?, RuleSet.get?]
  induction rules.fields with
  | nil => rfl
  | cons entry rest ih =>
    obtain ⟨field, rule⟩ := entry
    by_cases here : field = name
    · simp [Record.lookup, RuleSet.lookup, here]
    · simpa [Record.lookup, RuleSet.lookup, here] using ih

end

/-- Reordered rules give the reordered record, which is as filled.  A field has the value that its
rule has alone, so no other value changes when a field is bound, anew or for the first time, or is
left out. -/
theorem RuleSet.evaluate_independent {m : Type → Type} [Monad m] {R : AnswerRelation m}
    {σ ν : Type} {scope : Scope m σ ν} {plain : Scope Id σ ν}
    (steady : ∀ selectors, scope.AnswersAs R plain selectors) (s : σ) :
    let record (rules : RuleSet) : Record := (rules.evaluate plain s).run
    (∀ rules : RuleSet, R.Answers (rules.evaluate scope s) (record rules)) ∧
    (∀ (rules others : RuleSet) (way : rules.Reordering others),
      record others = way.record (record rules) ∧
        (record others).filled = (record rules).filled) ∧
    (∀ (rules : RuleSet) (name : String), (record rules).get? name =
      (rules.get? name).map fun rule => (rule.evaluate plain s).run) ∧
    ∀ (rules : RuleSet) (field other : String), other ≠ field →
      (∀ rule, (record (rules.insert field rule)).get? other = (record rules).get? other) ∧
        (record (rules.without field)).get? other = (record rules).get? other := by
  intro record
  have alone (rules : RuleSet) (name : String) : (record rules).get? name = _ :=
    RuleSet.get?_evaluate_run plain rules s name
  refine ⟨fun rules => rules.evaluate_answers (steady _) s, ?_, alone, ?_⟩
  · intro rules others way
    have reordered : record others = way.record (record rules) :=
      RuleSet.evaluate_reordering plain way s
    exact ⟨reordered, reordered ▸ way.filled_record (record rules)⟩
  · intro rules field other differs
    constructor
    · intro rule
      rw [alone, alone, RuleSet.get?_insert, if_neg differs]
    · rw [alone, alone, RuleSet.get?_without_of_ne rules differs]

/-- Fields change places on a page and in a list on it, and selectors come from a cache.  Then a
field is left out. -/
theorem RuleSet.evaluate_independent_page :
    let html := "<p>x<b>y</b></p><p><i>z</i></p>"
    let rules : RuleSet :=
      ⟨[("t", .text "i"), ("l", .list "p" ⟨[("a", .text "b"), ("b", .text "i")]⟩)]⟩
    let others : RuleSet :=
      ⟨[("l", .list "p" ⟨[("b", .text "i"), ("a", .text "b")]⟩), ("t", .text "i")]⟩
    (∀ selectors, (Html.View.scope Css.Cache.getOrCompile).AnswersAs Css.Cache.answerRelation
      (Html.View.scope Html.View.meaning) selectors) ∧
    Css.Cache.Answers (extractCached html rules)
      ⟨[("t", .text "z"), ("l", .list [⟨[("a", .text "y"), ("b", .text "")]⟩,
        ⟨[("a", .text ""), ("b", .text "z")]⟩])]⟩ ∧
    Css.Cache.Answers (extractCached html others)
      ⟨[("l", .list [⟨[("b", .text ""), ("a", .text "y")]⟩,
        ⟨[("b", .text "z"), ("a", .text "")]⟩]), ("t", .text "z")]⟩ ∧
    ∃ record, Css.Cache.Answers (extractCached html (rules.without "l")) record ∧
      record.get? "t" = some (.text "z") := by
  intro html rules others
  have steady (selectors : List String) :
      (Html.View.scope Css.Cache.getOrCompile).AnswersAs Css.Cache.answerRelation
        (Html.View.scope Html.View.meaning) selectors :=
    Html.View.scope_answersAs fun selector _ => Css.Cache.answers_getOrCompile selector
  let inside : RuleSet.Reordering ⟨[("a", .text "b"), ("b", .text "i")]⟩
      ⟨[("b", .text "i"), ("a", .text "b")]⟩ := .mk (.swap _ _ _)
  let way : rules.Reordering others :=
    .mk (.trans (.cons "t" (.same _) (.cons "l" (.list "p" inside) .nil)) (.swap _ _ _))
  obtain ⟨answers, reordered, -, apart⟩ :=
    RuleSet.evaluate_independent steady (Html.View.ofDocument (Html.parse html))
  have given : (rules.evaluate (Html.View.scope Html.View.meaning)
      (Html.View.ofDocument (Html.parse html))).run =
      ⟨[("t", .text "z"), ("l", .list [⟨[("a", .text "y"), ("b", .text "")]⟩,
        ⟨[("a", .text ""), ("b", .text "z")]⟩])]⟩ := by decide +kernel
  have turned : (others.evaluate (Html.View.scope Html.View.meaning)
      (Html.View.ofDocument (Html.parse html))).run =
      ⟨[("l", .list [⟨[("b", .text ""), ("a", .text "y")]⟩,
        ⟨[("b", .text "z"), ("a", .text "")]⟩]), ("t", .text "z")]⟩ :=
    (reordered rules others way).1.trans (congrArg way.record given)
  have kept := (apart rules "l" "t" (by decide)).2
  dsimp only at answers kept
  rw [given] at kept
  exact ⟨steady, given ▸ answers rules, turned ▸ answers others, _, answers _, kept⟩

end PageExtract
