import PageExtract.Proofs.Extraction.Plain
import PageExtract.Proofs.Html.Order

/-!
# What rules read

`Rule.Reads` says which value a rule has at a place, without saying how it is found.  A text is
that of the first match below the place, and an attribute is an attribute of that match.  Where
nothing matches below the place, or the first match has no such attribute, the text is empty.  A
list has an item for each match below the place, in the order of the document, and an item is what
the rules inside read at its own match.

So in an item all texts come from below its match, at every depth.  The match itself is never
among them, since nothing stands below itself (`Place.not_isBelow_self`), and neither is anything
beside or above it.

A rule reads one value at most (`Rule.Reads.unique`), and evaluation gives it
(`Rule.reads_evaluate`).
-/

namespace PageExtract

open Html

/-! ## Matches -/

/-- Whether a text is a selector that matches an element. -/
def Css.Matches (selector : String) (p : Place) : Prop :=
  ∃ list, Css.compile selector = some list ∧ Css.matches? list p = true

theorem Css.matches_iff {selector : String} {list : List Css.Selector}
    (compiled : Css.compile selector = some list) {p : Place} :
    Css.Matches selector p ↔ Css.matches? list p = true := by
  constructor
  · rintro ⟨other, same, holds⟩
    cases compiled.symm.trans same
    exact holds
  · exact fun holds => ⟨list, compiled, holds⟩

theorem Css.not_matches {selector : String} (compiled : Css.compile selector = none) (p : Place) :
    ¬ Css.Matches selector p :=
  fun ⟨_, same, _⟩ => nomatch compiled.symm.trans same

namespace Html.View

variable {root q : Place} {selector : String}

/-- The matches below a place are listed in the order of the document. -/
theorem pairwise_select (root : Place) (selector : String) :
    ((scope meaning).select (ofPlace root) selector).run.Pairwise Place.Before := by
  rw [select_meaning]
  cases Css.compile selector with
  | none => exact .nil
  | some list => exact root.pairwise_below.filter _

theorem mem_select_iff :
    q ∈ ((scope meaning).select (ofPlace root) selector).run ↔
      root.IsBelow q ∧ Css.Matches selector q := by
  rw [select_meaning]
  cases compiled : Css.compile selector with
  | none => exact iff_of_false List.not_mem_nil fun h => Css.not_matches compiled q h.2
  | some list => rw [Css.matches_iff compiled, ← Place.mem_below_iff]; exact List.mem_filter

theorem selectFirst_ofPlace (root : Place) (list : List Css.Selector) :
    (ofPlace root).selectFirst? list = root.firstBelow? (Css.matches? list) := by
  rw [selectFirst?, findFirst?, ofPlace, List.findSome?_singleton]

theorem selectFirst_eq_some_iff :
    ((scope meaning).selectFirst (ofPlace root) selector).run = some q ↔
      root.IsFirstBelow (Css.Matches selector) q := by
  rw [selectFirst_meaning]
  cases compiled : Css.compile selector with
  | none => exact iff_of_false nofun fun h => Css.not_matches compiled q h.holds
  | some list =>
    have same : Css.Matches selector = (Css.matches? list · = true) :=
      funext fun p => propext (Css.matches_iff compiled)
    rw [Option.bind_some, selectFirst_ofPlace, Place.firstBelow?_eq_some_iff, same]

theorem selectFirst_eq_none_iff :
    ((scope meaning).selectFirst (ofPlace root) selector).run = none ↔
      ∀ p, root.IsBelow p → ¬ Css.Matches selector p := by
  rw [selectFirst_meaning]
  cases compiled : Css.compile selector with
  | none => exact iff_of_true rfl fun p _ => Css.not_matches compiled p
  | some list =>
    rw [Option.bind_some, selectFirst_ofPlace, Place.firstBelow?_eq_none_iff]
    simp only [Css.matches_iff compiled, Bool.not_eq_true]

end Html.View

/-! ## What is read -/

mutual

/-- Whether a rule has a value at a place. -/
inductive Rule.Reads : Place → Rule → Value → Prop where
  /-- The trimmed text of the first match. -/
  | text {root q : Place} {selector : String}
      (first : root.IsFirstBelow (Css.Matches selector) q) :
      Rule.Reads root (.text selector) (.text (Text.trim q.node.content))
  /-- The empty text, where nothing matches. -/
  | noText {root : Place} {selector : String}
      (nothing : ∀ q, root.IsBelow q → ¬ Css.Matches selector q) :
      Rule.Reads root (.text selector) (.text "")
  /-- An attribute of the first match. -/
  | attr {root q : Place} {selector name value : String}
      (first : root.IsFirstBelow (Css.Matches selector) q)
      (given : q.node.attr? name = some value) : Rule.Reads root (.attr selector name) (.text value)
  /-- The empty text, where the first match has no such attribute. -/
  | noAttr {root q : Place} {selector name : String}
      (first : root.IsFirstBelow (Css.Matches selector) q)
      (missing : q.node.attr? name = none) : Rule.Reads root (.attr selector name) (.text "")
  /-- The empty text, where nothing matches that could have an attribute. -/
  | noMatch {root : Place} {selector name : String}
      (nothing : ∀ q, root.IsBelow q → ¬ Css.Matches selector q) :
      Rule.Reads root (.attr selector name) (.text "")
  /-- An item for each match, in the order of the document. -/
  | list {root : Place} {selector : String} {rules : RuleSet} {nodes : List Place}
      {item : Place → Record} (order : nodes.Pairwise Place.Before)
      (exact : ∀ q, q ∈ nodes ↔ root.IsBelow q ∧ Css.Matches selector q)
      (inside : ∀ q ∈ nodes, RuleSet.Reads q rules (item q)) :
      Rule.Reads root (.list selector rules) (.list (nodes.map item))

/-- Whether a rule set has a record at a place. -/
inductive RuleSet.Reads : Place → RuleSet → Record → Prop where
  /-- A field for each rule, with the value of the rule. -/
  | mk {root : Place} {fields : List (String × Rule)} {value : String × Rule → Value}
      (rules : ∀ field ∈ fields, Rule.Reads root field.2 (value field)) :
      RuleSet.Reads root ⟨fields⟩ ⟨fields.map fun field => (field.1, value field)⟩

end

mutual

/-- A rule reads no more than one value. -/
theorem Rule.Reads.unique : ∀ {root : Place} {rule : Rule} {value other : Value},
    Rule.Reads root rule value → Rule.Reads root rule other → value = other
  | _, _, _, _, .text first, .text first' => by rw [first.unique first']
  | _, _, _, _, .text first, .noText nothing => (nothing _ first.below first.holds).elim
  | _, _, _, _, .noText nothing, .text first => (nothing _ first.below first.holds).elim
  | _, _, _, _, .noText _, .noText _ => rfl
  | _, _, _, _, .attr first given, .attr first' given' => by
    obtain rfl := first.unique first'
    rw [Option.some.inj (given.symm.trans given')]
  | _, _, _, _, .attr first given, .noAttr first' missing => by
    obtain rfl := first.unique first'
    exact nomatch given.symm.trans missing
  | _, _, _, _, .attr first _, .noMatch nothing => (nothing _ first.below first.holds).elim
  | _, _, _, _, .noAttr first missing, .attr first' given => by
    obtain rfl := first.unique first'
    exact nomatch given.symm.trans missing
  | _, _, _, _, .noAttr _ _, .noAttr _ _ => rfl
  | _, _, _, _, .noAttr _ _, .noMatch _ => rfl
  | _, _, _, _, .noMatch nothing, .attr first _ => (nothing _ first.below first.holds).elim
  | _, _, _, _, .noMatch _, .noAttr _ _ => rfl
  | _, _, _, _, .noMatch _, .noMatch _ => rfl
  | _, _, _, _, .list order exact inside, .list order' exact' inside' => by
    obtain rfl := Place.eq_of_before order order' fun q => (exact q).trans (exact' q).symm
    refine congrArg Value.list (List.map_congr_left fun q mem => ?_)
    exact RuleSet.Reads.unique (inside q mem) (inside' q mem)

/-- A rule set reads no more than one record. -/
theorem RuleSet.Reads.unique : ∀ {root : Place} {rules : RuleSet} {record other : Record},
    RuleSet.Reads root rules record → RuleSet.Reads root rules other → record = other
  | _, _, _, _, .mk rules, .mk rules' => by
    refine congrArg Record.mk (List.map_congr_left fun field mem => ?_)
    rw [Rule.Reads.unique (rules field mem) (rules' field mem)]

end

mutual

/-- Evaluation gives a rule the value that it reads. -/
theorem Rule.reads_evaluate : ∀ (rule : Rule) (root : Place),
    Rule.Reads root rule (rule.evaluate (View.scope View.meaning) (.ofPlace root)).run
  | .text selector, root => by
    rw [Rule.evaluate_text_run]
    cases found : ((View.scope View.meaning).selectFirst (.ofPlace root) selector).run with
    | none => exact .noText (View.selectFirst_eq_none_iff.mp found)
    | some q => exact .text (View.selectFirst_eq_some_iff.mp found)
  | .attr selector name, root => by
    rw [Rule.evaluate_attr_run]
    cases found : ((View.scope View.meaning).selectFirst (.ofPlace root) selector).run with
    | none => exact .noMatch (View.selectFirst_eq_none_iff.mp found)
    | some q =>
      have first := View.selectFirst_eq_some_iff.mp found
      rw [Option.bind_some, show (View.scope View.meaning).attr (.ofPlace root) q name =
        q.node.attr? name from rfl]
      cases given : q.node.attr? name with
      | none => exact .noAttr first given
      | some value => exact .attr first given
  | .list selector rules, root => by
    rw [Rule.evaluate_list_run]
    exact .list (View.pairwise_select root selector) (fun _ => View.mem_select_iff)
      fun q _ => RuleSet.reads_evaluate rules q

/-- Evaluation gives a rule set the record that it reads. -/
theorem RuleSet.reads_evaluate : ∀ (rules : RuleSet) (root : Place),
    RuleSet.Reads root rules (rules.evaluate (View.scope View.meaning) (.ofPlace root)).run
  | ⟨fields⟩, root => by
    rw [RuleSet.evaluate_run]
    exact .mk (RuleSet.reads_evaluateFields fields root)

theorem RuleSet.reads_evaluateFields : ∀ (fields : List (String × Rule)) (root : Place),
    ∀ field ∈ fields, Rule.Reads root field.2
      (field.2.evaluate (View.scope View.meaning) (.ofPlace root)).run
  | [], _ => List.forall_mem_nil _
  | (_, rule) :: rest, root =>
    List.forall_mem_cons.mpr
      ⟨Rule.reads_evaluate rule root, RuleSet.reads_evaluateFields rest root⟩

end

/-! ## Lists -/

theorem Rule.answers_evaluate (rule : Rule) (v : View) :
    Css.Cache.Answers (rule.evaluate (View.scope Css.Cache.getOrCompile) v)
      (rule.evaluate (View.scope View.meaning) v).run :=
  rule.evaluate_answers (R := Css.Cache.answerRelation)
    (View.scope_answersAs fun selector _ => Css.Cache.answers_getOrCompile selector) v

theorem Rule.Reads.exists_items {root : Place} {selector : String} {rules : RuleSet} {value : Value}
    (h : Rule.Reads root (.list selector rules) value) :
    ∃ (nodes : List Place) (item : Place → Record), value = .list (nodes.map item) ∧
      nodes.Pairwise Place.Before ∧ (∀ q, q ∈ nodes ↔ root.IsBelow q ∧ Css.Matches selector q) ∧
      ∀ q ∈ nodes, RuleSet.Reads q rules (item q) := by
  cases h with
  | list order exact inside => exact ⟨_, _, rfl, order, exact, inside⟩

/-- Whatever a sound cache holds: in a scope with one root a list rule gives one item for each
element below the root that its selector matches, in the order of the document, and none for the
root.  An item is the one record that the rules inside read at its own match. -/
theorem Rule.evaluate_list_exact (root : Place) (selector : String) (rules : RuleSet)
    {cache : Css.Cache} (sound : cache.Sound) :
    ∃ (nodes : List Place) (item : Place → Record),
      (((Rule.list selector rules).evaluate (View.scope Css.Cache.getOrCompile)
        (.ofPlace root)).run cache).1 = .list (nodes.map item) ∧
      nodes.Pairwise Place.Before ∧ nodes.Nodup ∧ root ∉ nodes ∧
      (∀ q, q ∈ nodes ↔ root.IsBelow q ∧ Css.Matches selector q) ∧
      ∀ q ∈ nodes, ∀ record, RuleSet.Reads q rules record ↔ record = item q := by
  have plain := (Rule.answers_evaluate (.list selector rules) (.ofPlace root) cache sound).1
  obtain ⟨nodes, item, same, order, exact, inside⟩ :=
    (Rule.reads_evaluate (.list selector rules) root).exists_items
  refine ⟨nodes, item, plain.trans same, order, Place.nodup_of_before order, ?_, exact, ?_⟩
  · exact fun mem => root.not_isBelow_self ((exact root).mp mem).1
  · exact fun q mem record => ⟨fun reads => reads.unique (inside q mem), fun h => h ▸ inside q mem⟩

/-- Two elements that match and of which one stands in the other, each with a word of its own. -/
theorem Rule.evaluate_list_exact_nested :
    let word (s : String) : Node := .element ⟨.html, "b"⟩ [] [.text s]
    let inner : Node := .element ⟨.html, "div"⟩ [] [word " y "]
    let root : Place := .ofDocument (.document [.element ⟨.html, "div"⟩ [] [word "x", inner]])
    let rules : RuleSet := ⟨[("t", .text "b")]⟩
    let value := (((Rule.list "div" rules).evaluate (View.scope Css.Cache.getOrCompile)
      (.ofPlace root)).run .empty).1
    Css.Cache.empty.Sound ∧ value = .list [⟨[("t", .text "x")]⟩, ⟨[("t", .text "y")]⟩] ∧
      ∃ outer nested, root.IsBelow outer ∧ root.IsBelow nested ∧ outer.Before nested ∧
        RuleSet.Reads outer rules ⟨[("t", .text "x")]⟩ ∧
        RuleSet.Reads nested rules ⟨[("t", .text "y")]⟩ := by
  intro word inner root rules value
  have fresh := Css.Cache.sound_empty
  have given : value = .list [⟨[("t", .text "x")]⟩, ⟨[("t", .text "y")]⟩] := by decide +kernel
  refine ⟨fresh, given, ?_⟩
  obtain ⟨nodes, item, same, order, -, -, exact, inside⟩ :=
    Rule.evaluate_list_exact root "div" rules fresh
  have items : nodes.map item = [⟨[("t", .text "x")]⟩, ⟨[("t", .text "y")]⟩] :=
    Value.list.inj (same.symm.trans given)
  obtain ⟨outer, rest, rfl, first, items⟩ := List.map_eq_cons_iff.mp items
  obtain ⟨nested, rest, rfl, second, -⟩ := List.map_eq_cons_iff.mp items
  have mem : outer ∈ outer :: nested :: rest := .head _
  have mem' : nested ∈ outer :: nested :: rest := .tail _ (.head _)
  exact ⟨outer, nested, ((exact outer).mp mem).1, ((exact nested).mp mem').1,
    (List.pairwise_cons.mp order).1 nested (.head _), (inside outer mem _).mpr first.symm,
    (inside nested mem' _).mpr second.symm⟩

end PageExtract
