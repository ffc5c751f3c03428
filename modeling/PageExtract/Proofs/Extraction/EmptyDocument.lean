import Mathlib.Data.List.Forall2
import PageExtract.Proofs.Extraction.Plain
import PageExtract.Proofs.Html.Bare
import PageExtract.Proofs.Record.Filled
import PageExtract.Proofs.Scope.Always

/-!
# The empty document

The empty text is a document too, and not one without elements: it has an element
`html` with an empty `head` and an empty `body` (`Html.parse_empty`).  A client
takes it in place of a document that cannot be fetched.

No node of it has a text or an attribute.  So every text that is extracted is
empty, at every depth (`extract_textless`).  Lists are another matter.  A selector
such as `body` or `*` matches an element of the empty document, and then a list
rule gives a record for it, which counts as a value.

`Html.meetsBare` says whether a selector does.  The record of a rule set is blank,
with empty texts and empty lists only, exactly if no list rule of it has such a
selector.
-/

namespace PageExtract

/-! ## Records without texts -/

mutual

/-- A value in which every text is empty. -/
inductive Value.Textless : Value → Prop where
  /-- The empty text. -/
  | text : Value.Textless (.text "")
  /-- A list of records in which every text is empty. -/
  | list {items : List Record} (inside : ∀ item ∈ items, Record.Textless item) :
      Value.Textless (.list items)

/-- A record in which every text is empty. -/
inductive Record.Textless : Record → Prop where
  /-- So is every value. -/
  | mk {fields : List (String × Value)} (values : ∀ field ∈ fields, Value.Textless field.2) :
      Record.Textless ⟨fields⟩

end

theorem Value.Textless.eq_empty {content : String} (h : Value.Textless (.text content)) :
    content = "" := by
  cases h
  rfl

section

variable {m : Type → Type} [Monad m] [LawfulMonad m]
  (compile : String → m (Option (List Css.Selector)))

open Html

theorem always_select {v : View} (h : v.Bare) (selector : String) :
    Always (fun places => ∀ p ∈ places, p.node.Bare) ((View.scope compile).select v selector) := by
  refine .bind (.nothing _) ?_
  intro compiled _
  cases compiled with
  | none => exact .pure fun _ hp => absurd hp List.not_mem_nil
  | some list => exact .pure (h.select list)

theorem always_selectFirst {v : View} (h : v.Bare) (selector : String) :
    Always (fun place => ∀ p, place = some p → p.node.Bare)
      ((View.scope compile).selectFirst v selector) := by
  refine .bind (.nothing _) ?_
  intro compiled _
  cases compiled with
  | none => exact .pure fun _ hp => nomatch hp
  | some list => exact .pure fun _ found => h.selectFirst? found

mutual

theorem Rule.always_textless : ∀ (rule : Rule) (v : View), v.Bare →
    Always Value.Textless (rule.evaluate (View.scope compile) v)
  | .text selector, v, h => by
    rw [Rule.evaluate]
    refine .bind (always_selectFirst compile h selector) ?_
    intro first bare
    cases first with
    | none => exact .pure .text
    | some p =>
      have blank : (View.scope compile).text v p = "" := by
        show Text.trim p.node.content = ""
        rw [Node.content, Node.contentChars_of_bare p.node (bare p rfl)]
        rfl
      refine .pure ?_
      rw [Option.map_some, Option.getD_some, blank]
      exact .text
  | .attr selector name, v, h => by
    rw [Rule.evaluate]
    refine .bind (always_selectFirst compile h selector) ?_
    intro first bare
    cases first with
    | none => exact .pure .text
    | some p =>
      have missing : (View.scope compile).attr v p name = none :=
        Node.attr?_of_bare (bare p rfl) name
      refine .pure ?_
      rw [Option.bind_some, missing]
      exact .text
  | .list selector rules, v, h => by
    rw [Rule.evaluate]
    refine .bind (always_select compile h selector) ?_
    intro places bare
    refine .bind (.recordsOf ?_) fun items inside => .pure (.list inside)
    intro p hp
    refine RuleSet.always_textless rules (View.ofPlace p) ?_
    exact List.forall_mem_singleton.mpr (bare p hp)

/-- In a view without texts and attributes there is no text to be extracted. -/
theorem RuleSet.always_textless : ∀ (rules : RuleSet) (v : View), v.Bare →
    Always Record.Textless (rules.evaluate (View.scope compile) v)
  | ⟨fields⟩, v, h => by
    rw [RuleSet.evaluate]
    refine .bind (RuleSet.always_textlessFields fields v h) ?_
    intro values textless
    exact .pure (.mk textless)

theorem RuleSet.always_textlessFields : ∀ (fields : List (String × Rule)) (v : View), v.Bare →
    Always (fun values => ∀ field ∈ values, Value.Textless field.2)
      (RuleSet.evaluateFields (View.scope compile) fields v)
  | [], _, _ => .pure fun _ hf => nomatch hf
  | (name, rule) :: rest, v, h => by
    rw [RuleSet.evaluateFields]
    refine .bind (Rule.always_textless rule v h) ?_
    intro value first
    refine .bind (RuleSet.always_textlessFields rest v h) ?_
    intro values later
    exact .pure (List.forall_mem_cons.mpr ⟨first, later⟩)

end

end

/-! ## The document that the empty text is -/

namespace Html

/-- An element `html` with an empty `head` and an empty `body`. -/
def bare : Node :=
  .document [.element ⟨.html, "html"⟩ []
    [.element ⟨.html, "head"⟩ [] [], .element ⟨.html, "body"⟩ [] []]]

theorem parse_empty : parse "" = bare := rfl

theorem bare_ofDocument : (View.ofDocument bare).Bare :=
  List.forall_mem_singleton.mpr (by simp [Place.ofDocument, bare, Node.Bare, Node.BareAll])

/-- Whether a selector matches one of the three elements of the empty document. -/
def meetsBare (selector : String) : Bool :=
  match Css.compile selector with
  | some list => (Place.ofDocument bare).below.any (Css.matches? list)
  | none => false

theorem select_bare_eq_nil_iff (selector : String) :
    ((View.scope View.meaning).select (View.ofDocument bare) selector).run = [] ↔
      meetsBare selector = false := by
  rw [View.select_meaning, meetsBare]
  cases Css.compile selector with
  | none => simp
  | some list => simp [View.select, View.find, View.ofDocument]

example : meetsBare "html > *" = true := by decide +kernel
example : meetsBare "ul, .item" = false := by decide +kernel

end Html

/-- Whether a rule gives a record for an element of the empty document. -/
def Rule.listsBare : Rule → Bool
  | .text _ => false
  | .attr _ _ => false
  | .list selector _ => Html.meetsBare selector

/-- The value of a rule that has nothing to read. -/
def Rule.blank : Rule → Value
  | .text _ => .text ""
  | .attr _ _ => .text ""
  | .list _ _ => .list []

/-- The record of a rule set that has nothing to read. -/
def RuleSet.blank (rules : RuleSet) : Record :=
  ⟨rules.fields.map fun field => (field.1, field.2.blank)⟩

/-! ## Extraction from the empty document -/

section

open Html

/-- The value of a rule for the empty document. -/
def Rule.ofBare (rule : Rule) : Value :=
  (rule.evaluate (View.scope View.meaning) (View.ofDocument bare)).run

theorem extract_empty_fields (rules : RuleSet) :
    extract "" rules = ⟨rules.fields.map fun field => (field.1, field.2.ofBare)⟩ := by
  rw [extract, extractBy, parse_empty]
  exact RuleSet.evaluate_run _ rules _

theorem extract_textless (rules : RuleSet) : (extract "" rules).Textless :=
  (RuleSet.always_textless View.meaning rules _ bare_ofDocument).run

theorem Rule.textless_ofBare (rule : Rule) : rule.ofBare.Textless :=
  (Rule.always_textless View.meaning rule _ bare_ofDocument).run

theorem Rule.ofBare_text (selector : String) : (Rule.text selector).ofBare = .text "" :=
  congrArg Value.text (Value.Textless.eq_empty (Rule.text selector).textless_ofBare)

theorem Rule.ofBare_attr (selector name : String) : (Rule.attr selector name).ofBare = .text "" :=
  congrArg Value.text (Value.Textless.eq_empty (Rule.attr selector name).textless_ofBare)

/-- A rule gives the value that has nothing to read unless it lists an element. -/
theorem Rule.ofBare_eq_blank_iff (rule : Rule) :
    rule.ofBare = rule.blank ↔ rule.listsBare = false := by
  cases rule with
  | text selector => simp [Rule.ofBare_text, Rule.blank, Rule.listsBare]
  | attr selector name => simp [Rule.ofBare_attr, Rule.blank, Rule.listsBare]
  | list selector rules =>
    rw [Rule.ofBare, Rule.evaluate_list_run, Rule.blank, Rule.listsBare, ← select_bare_eq_nil_iff]
    simp

theorem Rule.isEmpty_ofBare_iff (rule : Rule) :
    rule.ofBare.isEmpty = true ↔ rule.listsBare = false := by
  cases rule with
  | text selector => simp [Rule.ofBare_text, Value.isEmpty, Rule.listsBare]
  | attr selector name => simp [Rule.ofBare_attr, Value.isEmpty, Rule.listsBare]
  | list selector rules =>
    rw [Rule.ofBare, Rule.evaluate_list_run, Rule.listsBare, ← select_bare_eq_nil_iff]
    simp [Value.isEmpty]

/-- Each field stands for its rule, and only a rule that lists an element gives a value. -/
theorem forall₂_extract_empty (rules : RuleSet) :
    List.Forall₂ (fun (asked : String × Rule) (given : String × Value) =>
        given.1 = asked.1 ∧ (given.2 = asked.2.blank ↔ asked.2.listsBare = false))
      rules.fields (extract "" rules).fields := by
  rw [extract_empty_fields, List.forall₂_map_right_iff, List.forall₂_same]
  intro field _
  exact ⟨rfl, field.2.ofBare_eq_blank_iff⟩

theorem extract_empty_eq_blank_iff (rules : RuleSet) :
    extract "" rules = rules.blank ↔ ∀ field ∈ rules.fields, field.2.listsBare = false := by
  rw [extract_empty_fields, RuleSet.blank, Record.mk.injEq, List.map_inj_left]
  refine forall₂_congr ?_
  intro field _
  rw [Prod.mk.injEq, Rule.ofBare_eq_blank_iff]
  exact and_iff_right rfl

theorem filled_extract_empty_iff (rules : RuleSet) :
    (extract "" rules).filled = 0 ↔ ∀ field ∈ rules.fields, field.2.listsBare = false := by
  rw [Record.filled_eq_zero_iff, extract_empty_fields, List.forall_mem_map]
  refine forall₂_congr ?_
  intro field _
  exact field.2.isEmpty_ofBare_iff

/-- A client that cannot fetch a document extracts from the empty one. -/
theorem Client.fst_extract_of_error {network : Network} {resolve : Resolver} {c : Client}
    {url : String} {detect : Charset.Detector} {failure : Failure}
    (failed : (c.fetchDocument network resolve url detect).result = .error failure)
    (rules : RuleSet) {cache : Css.Cache} (sound : cache.Sound) :
    ((c.extract network resolve url rules detect).run cache).1.1 =
      PageExtract.extract "" rules := by
  have answer := answers_extractCached "" rules cache sound
  rw [← answer.1, Client.extract, failed]
  rfl

/-- From the empty document every text is empty, at every depth.  A field has a value only if
it is a list whose selector matches one of the three elements of the empty document.  So
nothing is extracted, and no value is counted, exactly if no list rule has such a selector.
All this holds for a client that cannot fetch. -/
theorem extract_empty_exact (rules : RuleSet) :
    (extract "" rules).Textless ∧
    List.Forall₂ (fun (asked : String × Rule) (given : String × Value) =>
        given.1 = asked.1 ∧ (given.2 = asked.2.blank ↔ asked.2.listsBare = false))
      rules.fields (extract "" rules).fields ∧
    (extract "" rules = rules.blank ↔ ∀ field ∈ rules.fields, field.2.listsBare = false) ∧
    ((extract "" rules).filled = 0 ↔ ∀ field ∈ rules.fields, field.2.listsBare = false) ∧
    ∀ network resolve (c : Client) url detect failure cache, Css.Cache.Sound cache →
      (c.fetchDocument network resolve url detect).result = .error failure →
        ((c.extract network resolve url rules detect).run cache).1.1 = extract "" rules := by
  refine ⟨extract_textless rules, forall₂_extract_empty rules, extract_empty_eq_blank_iff rules,
    filled_extract_empty_iff rules, ?_⟩
  intro network resolve c url detect failure cache sound failed
  exact Client.fst_extract_of_error failed rules sound

/-- A list rule for `body` is accepted and gives a record for the empty body. -/
theorem extract_empty_body :
    let rules : RuleSet := ⟨[("l", .list "body" .empty)]⟩
    (RuleSet.ofJson ("\x7b\"l\":\x7b\"kind\":\"list\",\"selector\":\"body\"," ++
        "\"childRules\":\x7b\x7d\x7d\x7d")).toOption = some rules ∧
      extract "" rules = ⟨[("l", .list [.empty])]⟩ ∧ (extract "" rules).filled = 1 := by
  decide +kernel

/-- Rules for a heading and for items find nothing when a URL cannot be used. -/
theorem extract_empty_exact_items :
    let rules : RuleSet :=
      ⟨[("title", .text "h1"), ("items", .list ".item" ⟨[("name", .text "a")]⟩)]⟩
    let network : Network := .scripted []
    let resolve : Resolver := fun _ => .error "unknown"
    let c : Client := ⟨{}, ⟨"t"⟩⟩
    Css.Cache.empty.Sound ∧
      (∃ failure, (c.fetchDocument network resolve "ftp://a.test").result = .error failure) ∧
      ((c.extract network resolve "ftp://a.test" rules).run .empty).1.1 =
        ⟨[("title", .text ""), ("items", .list [])]⟩ := by
  intro rules network resolve c
  have refused : (c.fetchDocument network resolve "ftp://a.test").result.toOption = none := by
    decide +kernel
  have lists : ∀ field ∈ rules.fields, field.2.listsBare = false := by decide +kernel
  obtain ⟨_, _, blank, _, fetched⟩ := extract_empty_exact rules
  cases failed : (c.fetchDocument network resolve "ftp://a.test").result with
  | ok html =>
    rw [failed] at refused
    exact nomatch refused
  | error failure =>
    refine ⟨Css.Cache.sound_empty, ⟨failure, rfl⟩, ?_⟩
    rw [fetched network resolve c _ _ failure _ Css.Cache.sound_empty failed, blank.mpr lists]
    rfl

end

end PageExtract
