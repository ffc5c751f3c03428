import PageExtract.Proofs.Checks
import PageExtract.Proofs.Css.Cache
import PageExtract.Proofs.Rule.Binding
import PageExtract.Proofs.Rule.Definition

/-!
# What validation accepts

Validation gives the rule set of a definition exactly if the definition is valid
(`RuleSetDef.validate_eq_ok_iff`).  It does not tell a definition from what is
needed of it, not even by the mistake that it names (`RuleSetDef.validate_needed`).
Both hold through a cache, as long as the cache is sound.

Each check has a lemma that says when it passes.  A rule passes if its checks do,
in their order, given that the rule set inside does.
-/

namespace PageExtract

namespace RuleDef

/-- Whether a text is a selector, as a question with one answer. -/
def knows (text : String) : Id Bool := pure (isSelector text)

theorem checkKind_eq_ok_iff {path : String} {given : Option String} {kind : RuleKind} :
    (checkKind path given : ExceptT RuleError Id RuleKind).run.run = .ok kind ↔
      given.bind RuleKind.parse? = some kind := by
  cases given with
  | none => simp [checkKind]
  | some name =>
    rw [Option.bind_some, checkKind]
    cases RuleKind.parse? name with
    | none => simp
    | some known => simp

theorem checkSelector_eq_ok_iff {path selector trimmed : String} :
    (checkSelector knows path selector).run.run = .ok trimmed ↔
      Selects selector ∧ trimmed = Text.trim selector := by
  by_cases blank : Text.trim selector = ""
  · simp [checkSelector, Selects, blank]
  · cases known : isSelector (Text.trim selector) with
    | false => simp [checkSelector, Selects, blank, knows, known]
    | true => simp [checkSelector, Selects, blank, knows, known, @eq_comm _ trimmed]

theorem checkAttributeName_eq_ok_iff (path : String) {given : Option String} {trimmed : String} :
    (checkAttributeName path given : ExceptT RuleError Id String).run.run = .ok trimmed ↔
      ∃ name, given = some name ∧ Text.trim name ≠ "" ∧ trimmed = Text.trim name := by
  cases given with
  | none => simp [checkAttributeName, Text.trimmed?]
  | some name =>
    by_cases blank : Text.trim name = ""
    · simp [checkAttributeName, Text.trimmed?, blank]
    · simp [checkAttributeName, Text.trimmed?, blank, @eq_comm _ trimmed]

end RuleDef

/-! ## Validation accepts what is valid -/

/-- Validation gives the rule of a definition exactly if the definition is valid, as long
as this holds of the rule set inside. -/
theorem RuleDef.validate_mk_eq_ok_iff {given : Option String} {selector : String}
    {attributeName : Option String} {childRules : Option RuleSetDef} {path : String}
    (inner : ∀ children, childRules = some children → ∀ rules,
      (children.validate RuleDef.knows path).run.run = .ok rules ↔
        children.Valid ∧ rules = children.ruleSet) (rule : Rule) :
    ((RuleDef.mk given selector attributeName childRules).validate knows path).run.run = .ok rule ↔
      (RuleDef.mk given selector attributeName childRules).Valid ∧
        rule = (RuleDef.mk given selector attributeName childRules).rule := by
  rw [RuleDef.validate, bind_eq_ok_iff]
  simp only [checkKind_eq_ok_iff, bind_eq_ok_iff, checkSelector_eq_ok_iff]
  constructor
  · rintro ⟨kind, known, trimmed, ⟨selects, rfl⟩, rest⟩
    obtain ⟨word, rfl, spelled⟩ := Option.bind_eq_some_iff.mp known
    cases kind with
    | text =>
      rw [pure_eq_ok_iff] at rest
      exact ⟨.text spelled selects, by simpa [RuleDef.rule, Rule.ofKind, spelled] using rest⟩
    | attr =>
      obtain ⟨name, named, rest⟩ := bind_eq_ok_iff.mp rest
      obtain ⟨written, rfl, filled, rfl⟩ := (checkAttributeName_eq_ok_iff path).mp named
      rw [pure_eq_ok_iff] at rest
      exact ⟨.attr spelled selects filled, by
        simpa [RuleDef.rule, Rule.ofKind, spelled] using rest⟩
    | list =>
      cases childRules with
      | none => exact absurd rest throw_ne_ok
      | some children =>
        obtain ⟨rules, inside, rest⟩ := bind_eq_ok_iff.mp rest
        obtain ⟨valid, rfl⟩ := (inner children rfl rules).mp inside
        rw [pure_eq_ok_iff] at rest
        exact ⟨.list spelled selects valid, by
          simpa [RuleDef.rule, Rule.ofKind, RuleSetDef.ruleSetOf, spelled] using rest⟩
  · rintro ⟨valid, rfl⟩
    cases valid with
    | text spelled selects =>
      refine ⟨.text, ?_, _, ⟨selects, rfl⟩, ?_⟩
      · rw [Option.bind_some, spelled]
      · rw [pure_eq_ok_iff]
        simp [RuleDef.rule, Rule.ofKind, spelled]
    | attr spelled selects filled =>
      refine ⟨.attr, ?_, _, ⟨selects, rfl⟩, ?_⟩
      · rw [Option.bind_some, spelled]
      · have named := (checkAttributeName_eq_ok_iff path).mpr ⟨_, rfl, filled, rfl⟩
        refine bind_eq_ok_iff.mpr ⟨_, named, ?_⟩
        rw [pure_eq_ok_iff]
        simp [RuleDef.rule, Rule.ofKind, spelled]
    | list spelled selects valid =>
      refine ⟨.list, ?_, _, ⟨selects, rfl⟩, ?_⟩
      · rw [Option.bind_some, spelled]
      · refine bind_eq_ok_iff.mpr ⟨_, (inner _ rfl _).mpr ⟨valid, rfl⟩, ?_⟩
        rw [pure_eq_ok_iff]
        simp [RuleDef.rule, Rule.ofKind, RuleSetDef.ruleSetOf, spelled]

/-- Validation gives the rules of a list of definitions exactly if no name occurs twice or
among those `seen` and each definition is valid, as long as this holds of each rule. -/
theorem RuleSetDef.validateFields_eq_ok_iff {fields : List (String × RuleDef)}
    (inner : ∀ field ∈ fields, ∀ path rule,
      (field.2.validate RuleDef.knows path).run.run = .ok rule ↔
        field.2.Valid ∧ rule = field.2.rule) (parent : String) (seen : List String)
    (rules : List (String × Rule)) :
    (RuleSetDef.validateFields RuleDef.knows parent seen fields).run.run = .ok rules ↔
      ((fields.map Prod.fst).Nodup ∧ (∀ name ∈ fields.map Prod.fst, name ∉ seen) ∧
        ∀ field ∈ fields, field.2.Valid) ∧ rules = RuleSetDef.rulesOfFields fields := by
  induction fields generalizing seen rules with
  | nil => simp [RuleSetDef.validateFields, RuleSetDef.rulesOfFields, eq_comm]
  | cons field rest ih =>
    obtain ⟨name, rule⟩ := field
    obtain ⟨here, later⟩ := List.forall_mem_cons.mp inner
    rw [RuleSetDef.validateFields]
    split
    next old => simp [old]
    next new =>
      simp only [bind_eq_ok_iff, pure_eq_ok_iff, here, ih later, RuleSetDef.rulesOfFields,
        List.map_cons, List.nodup_cons]
      constructor
      · rintro ⟨_, ⟨first, rfl⟩, _, ⟨⟨distinct, unseen, valid⟩, rfl⟩, rfl⟩
        refine ⟨⟨⟨?_, distinct⟩, ?_, ?_⟩, rfl⟩
        · exact fun again => unseen name again (.head _)
        · exact List.forall_mem_cons.mpr ⟨new, fun other h old => unseen other h (.tail _ old)⟩
        · exact List.forall_mem_cons.mpr ⟨first, valid⟩
      · rintro ⟨⟨⟨once, distinct⟩, unseen, valid⟩, rfl⟩
        obtain ⟨first, valid⟩ := List.forall_mem_cons.mp valid
        refine ⟨_, ⟨first, rfl⟩, _, ⟨⟨distinct, ?_, valid⟩, rfl⟩, rfl⟩
        intro other h
        rw [List.mem_cons, not_or]
        exact ⟨fun same => once (same ▸ h), unseen other (.tail _ h)⟩

/-- With names that differ, binding lists the rules as they are written. -/
theorem RuleSetDef.ruleSet_of_nodup {fields : List (String × RuleDef)}
    (distinct : (fields.map Prod.fst).Nodup) :
    (RuleSetDef.mk fields).ruleSet = ⟨RuleSetDef.rulesOfFields fields⟩ := by
  rw [← RuleSetDef.map_fst_rulesOfFields] at distinct
  rw [RuleSetDef.ruleSet, RuleSet.ofList_of_nodup distinct]

/-- Validation gives the rule set of a definition exactly if the definition is valid. -/
theorem RuleSetDef.validate_eq_ok_iff : ∀ (d : RuleSetDef) (parent : String) (rules : RuleSet),
    (d.validate RuleDef.knows parent).run.run = .ok rules ↔ d.Valid ∧ rules = d.ruleSet := by
  refine RuleSetDef.of_hereditary (P := fun d => ∀ path rule,
    (d.validate RuleDef.knows path).run.run = .ok rule ↔ d.Valid ∧ rule = d.rule) ⟨?_, ?_⟩
  · intro kind selector attributeName childRules inner path rule
    exact RuleDef.validate_mk_eq_ok_iff (fun children h => inner children h path) rule
  · intro fields inner parent rules
    rw [RuleSetDef.validate, bind_eq_ok_iff]
    simp only [pure_eq_ok_iff, RuleSetDef.validateFields_eq_ok_iff inner]
    constructor
    · rintro ⟨_, ⟨⟨distinct, _, valid⟩, rfl⟩, rfl⟩
      exact ⟨.mk distinct valid, (RuleSetDef.ruleSet_of_nodup distinct).symm⟩
    · rintro ⟨⟨distinct, valid⟩, rfl⟩
      refine ⟨_, ⟨⟨distinct, ?_, valid⟩, rfl⟩, RuleSetDef.ruleSet_of_nodup distinct⟩
      exact fun _ _ => List.not_mem_nil

/-! ## Members that are not needed -/

section

variable {m : Type → Type} [Monad m] {compiles : String → m Bool}

/-- Validation does not look at members that the kind of a rule does not need, as long as
this holds of the rule set inside. -/
theorem RuleDef.validate_mk_needed [LawfulMonad m] {given : Option String} {selector : String}
    {attributeName : Option String} {childRules : Option RuleSetDef} {path : String}
    (inner : ∀ children, childRules = some children →
      children.needed.validate compiles path = children.validate compiles path) :
    (RuleDef.mk given selector attributeName childRules).needed.validate compiles path =
      (RuleDef.mk given selector attributeName childRules).validate compiles path := by
  rw [RuleDef.needed, RuleDef.validate, RuleDef.validate]
  cases given with
  | none => simp [checkKind]
  | some word =>
    rw [checkKind, Option.bind_some]
    cases RuleKind.parse? word with
    | none => simp
    | some kind =>
      cases kind with
      | text => simp
      | attr => simp
      | list =>
        cases childRules with
        | none => simp [RuleSetDef.neededOf]
        | some children => simp [RuleSetDef.neededOf, inner]

theorem RuleSetDef.validateFields_needed {fields : List (String × RuleDef)}
    (inner : ∀ field ∈ fields, ∀ path,
      field.2.needed.validate compiles path = field.2.validate compiles path)
    (parent : String) (seen : List String) :
    RuleSetDef.validateFields compiles parent seen (RuleSetDef.neededOfFields fields) =
      RuleSetDef.validateFields compiles parent seen fields := by
  induction fields generalizing seen with
  | nil => rfl
  | cons field rest ih =>
    obtain ⟨name, rule⟩ := field
    obtain ⟨here, later⟩ := List.forall_mem_cons.mp inner
    rw [RuleSetDef.neededOfFields, RuleSetDef.validateFields, RuleSetDef.validateFields,
      here, ih later]

/-- Validation does not tell a definition from what is needed of it. -/
theorem RuleSetDef.validate_needed [LawfulMonad m] : ∀ (d : RuleSetDef) (parent : String),
    d.needed.validate compiles parent = d.validate compiles parent := by
  refine RuleSetDef.of_hereditary (P := fun d => ∀ path,
    d.needed.validate compiles path = d.validate compiles path) ⟨?_, ?_⟩
  · intro kind selector attributeName childRules inner path
    exact RuleDef.validate_mk_needed fun children h => inner children h path
  · intro fields inner parent
    rw [RuleSetDef.needed, RuleSetDef.validate, RuleSetDef.validate,
      RuleSetDef.validateFields_needed inner]

end

/-! ## Validation through a cache -/

namespace RuleDef

open Css.Cache

theorem agrees_checkKind (path : String) (given : Option String) :
    Agrees (checkKind path given) (checkKind path given) := by
  cases given with
  | none => exact agrees_throw _
  | some word =>
    rw [checkKind, checkKind]
    cases RuleKind.parse? word with
    | none => exact agrees_throw _
    | some kind => exact agrees_pure _

theorem agrees_checkSelector (path selector : String) :
    Agrees (checkSelector compiles path selector) (checkSelector knows path selector) := by
  rw [checkSelector, checkSelector]
  split
  next => exact agrees_throw _
  next =>
    refine agrees_bind (agrees_lift (answers_compiles _)) ?_
    intro known
    cases known with
    | false => exact agrees_throw _
    | true => exact agrees_pure _

theorem agrees_checkAttributeName (path : String) (given : Option String) :
    Agrees (checkAttributeName path given) (checkAttributeName path given) := by
  rw [checkAttributeName, checkAttributeName]
  cases Text.trimmed? given with
  | none => exact agrees_throw _
  | some name => exact agrees_pure _

end RuleDef

open Css.Cache

/-- Validation agrees at a rule, as long as it does at the rule set inside. -/
theorem RuleDef.agrees_validate_mk {given : Option String} {selector : String}
    {attributeName : Option String} {childRules : Option RuleSetDef} {path : String}
    (inner : ∀ children, childRules = some children →
      Agrees (children.validate compiles path) (children.validate RuleDef.knows path)) :
    Agrees ((RuleDef.mk given selector attributeName childRules).validate compiles path)
      ((RuleDef.mk given selector attributeName childRules).validate RuleDef.knows path) := by
  rw [RuleDef.validate, RuleDef.validate]
  refine agrees_bind (agrees_checkKind path given) ?_
  intro kind
  refine agrees_bind (agrees_checkSelector path selector) ?_
  intro trimmed
  cases kind with
  | text => exact agrees_pure _
  | attr => exact agrees_bind (agrees_checkAttributeName path attributeName) fun _ => agrees_pure _
  | list =>
    cases childRules with
    | none => exact agrees_throw _
    | some children => exact agrees_bind (inner children rfl) fun _ => agrees_pure _

theorem RuleSetDef.agrees_validateFields {fields : List (String × RuleDef)}
    (inner : ∀ field ∈ fields, ∀ path,
      Agrees (field.2.validate compiles path) (field.2.validate RuleDef.knows path))
    (parent : String) (seen : List String) :
    Agrees (RuleSetDef.validateFields compiles parent seen fields)
      (RuleSetDef.validateFields RuleDef.knows parent seen fields) := by
  induction fields generalizing seen with
  | nil => exact agrees_pure _
  | cons field rest ih =>
    obtain ⟨name, rule⟩ := field
    obtain ⟨here, later⟩ := List.forall_mem_cons.mp inner
    rw [RuleSetDef.validateFields, RuleSetDef.validateFields]
    split
    next => exact agrees_throw _
    next =>
      refine agrees_bind (here _) ?_
      intro first
      exact agrees_bind (ih later (name :: seen)) fun _ => agrees_pure _

/-- Validation through a cache does what it does when it compiles each selector anew. -/
theorem RuleSetDef.agrees_validate : ∀ (d : RuleSetDef) (parent : String),
    Agrees (d.validate compiles parent) (d.validate RuleDef.knows parent) := by
  refine RuleSetDef.of_hereditary (P := fun d => ∀ path,
    Agrees (d.validate compiles path) (d.validate RuleDef.knows path)) ⟨?_, ?_⟩
  · intro kind selector attributeName childRules inner path
    exact RuleDef.agrees_validate_mk fun children h => inner children h path
  · intro fields inner parent
    rw [RuleSetDef.validate, RuleSetDef.validate]
    exact agrees_bind (RuleSetDef.agrees_validateFields inner parent []) fun _ => agrees_pure _

/-- Reading a rule set through a cache gives what it gives when each selector is compiled anew. -/
theorem RuleSet.answers_ofJsonCached (text : String) :
    Answers (RuleSet.ofJsonCached text) (RuleSet.ofJson text) := by
  show Agrees (RuleSet.parse compiles text) (RuleSet.parse RuleDef.knows text)
  rw [RuleSet.parse, RuleSet.parse]
  cases RuleSetDef.parse text with
  | error fault => exact agrees_throw _
  | ok d => exact RuleSetDef.agrees_validate d ""

/-- Whatever a sound cache holds, validation gives a rule set exactly if the definition is
valid, and then the rule set that the definition writes.  Members that a kind does not
need make no difference, not even to the mistake that is named. -/
theorem RuleSetDef.validate_exact (d : RuleSetDef) {cache : Css.Cache} (sound : cache.Sound) :
    (∀ rules, ((d.validate compiles "").run.run cache).1 = .ok rules ↔
      d.Valid ∧ rules = d.ruleSet) ∧
    (d.needed.validate compiles "").run.run cache = (d.validate compiles "").run.run cache := by
  refine ⟨?_, by rw [RuleSetDef.validate_needed]⟩
  intro rules
  rw [(RuleSetDef.agrees_validate d "" cache sound).1]
  exact RuleSetDef.validate_eq_ok_iff d "" rules

/-- Two fields and a list rule, with blanks and with members that are not needed. -/
def RuleSetDef.shop : RuleSetDef :=
  .mk [("title", .mk (some "Text") " h1\n" (some "id") (some (.mk []))),
    ("items", .mk (some " LIST") ".item" none (some (.mk [
      ("title", .mk (some "attr") "a" (some " href ") none)])))]

theorem RuleSetDef.validate_exact_shop :
    Css.Cache.empty.Sound ∧ ((shop.validate compiles "").run.run .empty).1 = .ok
      ⟨[("title", .text "h1"), ("items", .list ".item" ⟨[("title", .attr "a" "href")]⟩)]⟩ := by
  have title : RuleDef.Selects " h1\n" := ⟨by decide, by decide +kernel⟩
  have items : RuleDef.Selects ".item" := ⟨by decide, by decide +kernel⟩
  have link : RuleDef.Selects "a" := ⟨by decide, by decide +kernel⟩
  have inside : ∀ field ∈ [("title", RuleDef.mk (some "attr") "a" (some " href ") none)],
      field.2.Valid :=
    List.forall_mem_singleton.mpr (.attr (by decide +kernel) link (by decide))
  have valid : shop.Valid :=
    .mk (by decide) (List.forall_mem_cons.mpr
      ⟨.text (by decide +kernel) title, List.forall_mem_singleton.mpr
        (.list (by decide +kernel) items (.mk (by decide) inside))⟩)
  refine ⟨sound_empty, ((RuleSetDef.validate_exact shop sound_empty).1 _).mpr ⟨valid, ?_⟩⟩
  decide +kernel

end PageExtract
