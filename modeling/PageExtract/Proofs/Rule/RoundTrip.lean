import PageExtract.Proofs.Rule.Shape
import PageExtract.Rule.Printer

/-!
# Rule sets that are written and read again

A rule set that was accepted is read back from the text of its definition.

The text is the form `RuleSet.form` (`RuleSet.written_form`).  The definition that is read from it
is `RuleSet.toDef`, if the levels suffice (`RuleSet.ofForm?_form`).  They do, for the rule set came
from a form with as many levels or more: a level of rules comes from a level of definitions
(`RuleSetDef.within_of_ofForm?`), and what a kind does not need is left out.

The definition is valid and writes the same rule set, for what was accepted is trimmed, and
trimming it again changes nothing (`RuleSetDef.toDef_ruleSet`).
-/

namespace PageExtract

open Json

/-! ## The form of a definition -/

/-- The members that every rule has in its form. -/
def Rule.commonForms (kind : RuleKind) (selector : String) : List (Option String × Form) :=
  [(some "kind", .string (some kind.name)), (some "selector", .string (some selector))]

mutual

/-- The form of the definition of a rule. -/
def Rule.form : Rule → Form
  | .text s => .object (Rule.commonForms .text s)
  | .attr s name =>
      .object (Rule.commonForms .attr s ++ [(some "attributeName", .string (some name))])
  | .list s rules => .object (Rule.commonForms .list s ++ [(some "childRules", rules.form)])

/-- The form of the definition of a rule set. -/
def RuleSet.form : RuleSet → Form
  | ⟨fields⟩ => .object (RuleSet.formsOfFields fields)

/-- The members of the form of a rule set. -/
def RuleSet.formsOfFields : List (String × Rule) → List (Option String × Form)
  | [] => []
  | (name, rule) :: rest => (some name, rule.form) :: RuleSet.formsOfFields rest

end

section

variable {more : List (Option String × Form)} {cs rest : List Char}

theorem RuleSet.named_textMember (name value : String) (rest : List Char) :
    Named Written (some name, .string (some value)) (RuleSet.textMember name value ++ rest)
      rest := by
  rw [RuleSet.textMember, List.append_assoc, List.cons_append]
  exact .quoteChars name (.quoteChars value rest)

theorem Rule.parts_commonForms (kind : RuleKind) (selector : String)
    (others : Parts (Named Written) false more cs rest) :
    Parts (Named Written) true (Rule.commonForms kind selector ++ more)
      (Rule.commonMembers kind selector ++ cs) rest := by
  rw [Rule.commonMembers, List.append_assoc, List.cons_append]
  exact .part (.first .stop) (RuleSet.named_textMember "kind" kind.name _)
    (.part (.later .stop .stop) (RuleSet.named_textMember "selector" selector _) others)

end

mutual

theorem Rule.written_form : ∀ (rule : Rule) (rest : List Char),
    Written rule.form (rule.definitionChars ++ rest) rest
  | .text s, rest => by
    simp only [Rule.definitionChars, List.cons_append, List.append_assoc, List.nil_append]
    exact .object (Rule.parts_commonForms .text s (.done .stop))
  | .attr s name, rest => by
    simp only [Rule.definitionChars, List.cons_append, List.append_assoc, List.nil_append]
    exact .object (Rule.parts_commonForms .attr s
      (.part (.later .stop .stop) (RuleSet.named_textMember "attributeName" name _) (.done .stop)))
  | .list s rules, rest => by
    simp only [Rule.definitionChars, List.cons_append, List.append_assoc, List.nil_append]
    exact .object (Rule.parts_commonForms .list s
      (.part (.later .stop .stop) (.quoteChars "childRules" (RuleSet.written_form rules _))
        (.done .stop)))

/-- The text of the definition of a rule set is its form. -/
theorem RuleSet.written_form : ∀ (rules : RuleSet) (rest : List Char),
    Written rules.form (rules.definitionChars ++ rest) rest
  | ⟨fields⟩, rest => by
    rw [RuleSet.definitionChars, List.cons_append, List.cons_append, List.append_assoc]
    exact .object (RuleSet.parts_formsOfFields true fields rest)

theorem RuleSet.parts_formsOfFields : ∀ (first : Bool) (fields : List (String × Rule))
    (rest : List Char), Parts (Named Written) first (RuleSet.formsOfFields fields)
      (RuleSet.definitionOfFields first fields ++ '}' :: rest) ('}' :: rest)
  | _, [], _ => .done .stop
  | first, (name, rule) :: fields, rest => by
    rw [RuleSet.definitionOfFields, List.append_assoc, List.append_assoc, List.append_assoc,
      List.cons_append]
    exact .part (comma_compact first _) (.quoteChars name (Rule.written_form rule _))
      (RuleSet.parts_formsOfFields false fields rest)

end

theorem RuleSet.writtenIn_definition (rules : RuleSet) : rules.form.WrittenIn rules.definition := by
  refine (List.append_nil _ ▸ rules.written_form []).writtenIn ?_
  rw [RuleSet.definition, String.toList_ofList]

/-- A definition names the kind first, by the name that is written out in full. -/
example : (RuleSet.ofList [("a", .attr "p" "id")]).definition =
    "\x7b\"a\":\x7b\"kind\":\"attribute\",\"selector\":\"p\",\"attributeName\":\"id\"\x7d\x7d" := by
  decide +kernel

/-! ## The definition of a rule set -/

mutual

/-- The definition of a rule, with what its kind needs. -/
def Rule.toDef : Rule → RuleDef
  | .text s => .mk (some RuleKind.text.name) s none none
  | .attr s name => .mk (some RuleKind.attr.name) s (some name) none
  | .list s rules => .mk (some RuleKind.list.name) s none (some rules.toDef)

/-- The definition of a rule set. -/
def RuleSet.toDef : RuleSet → RuleSetDef
  | ⟨fields⟩ => .mk (RuleSet.defsOfFields fields)

/-- The definitions of some rules. -/
def RuleSet.defsOfFields : List (String × Rule) → List (String × RuleDef)
  | [] => []
  | (name, rule) :: rest => (name, rule.toDef) :: RuleSet.defsOfFields rest

end

/-! ## Levels -/

mutual

/-- Whether a rule set has no more than that many levels. -/
inductive RuleSet.Within : Nat → RuleSet → Prop where
  | mk {levels : Nat} {fields : List (String × Rule)}
      (rules : ∀ field ∈ fields, Rule.Within levels field.2) :
      RuleSet.Within (levels + 1) ⟨fields⟩

/-- Whether a rule has no more than that many levels. -/
inductive Rule.Within : Nat → Rule → Prop where
  | text {levels : Nat} {s : String} : Rule.Within (levels + 1) (.text s)
  | attr {levels : Nat} {s name : String} : Rule.Within (levels + 1) (.attr s name)
  | list {levels : Nat} {s : String} {rules : RuleSet} (inside : RuleSet.Within levels rules) :
      Rule.Within (levels + 1) (.list s rules)

end

/-- The child rules of a rule are read from the last of its members. -/
theorem RuleDef.ofMembers?_childRules {children : Form → Option RuleSetDef} {f : Form}
    {inner : RuleSetDef} (filled : f ≠ .null) (read : children f = some inner) (s : String) :
    RuleDef.ofMembers? children (Rule.commonForms .list s ++ [(some "childRules", f)]) =
      some (.mk (some RuleKind.list.name) s none (some inner)) := by
  let before : RuleDef.Draft := { kind := some (some RuleKind.list.name), selector := some s }
  have common : (Rule.commonForms .list s).foldlM (named? (RuleDef.Draft.member? children)) {} =
    some before := rfl
  have last : named? (RuleDef.Draft.member? children) before (some "childRules", f) =
      some { before with childRules := some (some inner) } := by
    have known : "childRules" ∈ RuleDef.Member.childRules.names := .head _
    rw [named?, RuleDef.Draft.member?_of_mem known, RuleDef.Entry.ofForm?,
      Form.optional?_of_ne_null filled, read]
    rfl
  simp only [RuleDef.ofMembers?, List.foldlM_append, common, List.foldlM_cons, List.foldlM_nil,
    Option.bind_eq_bind, Option.bind_some, last]
  rfl

theorem RuleSet.form_ne_null : ∀ rules : RuleSet, rules.form ≠ .null
  | ⟨_⟩ => nofun

theorem RuleSet.mapM_formsOfFields {rule : Form → Option RuleDef} {fields : List (String × Rule)}
    (read : ∀ field ∈ fields, rule field.2.form = some field.2.toDef) :
    (RuleSet.formsOfFields fields).mapM (RuleSetDef.field? rule) =
      some (RuleSet.defsOfFields fields) := by
  induction fields with
  | nil => rfl
  | cons field rest ih =>
    obtain ⟨name, first⟩ := field
    obtain ⟨here, later⟩ := List.forall_mem_cons.mp read
    rw [RuleSet.formsOfFields, List.mapM_cons, RuleSetDef.field?, ih later, Option.bind_some, here]
    rfl

mutual

theorem Rule.ofForm?_form : ∀ {levels : Nat} {rule : Rule}, Rule.Within levels rule →
    RuleDef.ofForm? levels rule.form = some rule.toDef
  | _, _, .text => rfl
  | _, _, .attr => rfl
  | _, .list s rules, .list inside =>
    RuleDef.ofMembers?_childRules rules.form_ne_null (RuleSet.ofForm?_form inside) s

/-- From the form of a rule set its definition is read, if the levels suffice. -/
theorem RuleSet.ofForm?_form : ∀ {levels : Nat} {rules : RuleSet}, RuleSet.Within levels rules →
    RuleSetDef.ofForm? levels rules.form = some rules.toDef
  | _, ⟨_⟩, .mk rules =>
    congrArg (Option.map RuleSetDef.mk)
      (RuleSet.mapM_formsOfFields fun field mem => Rule.ofForm?_form (rules field mem))

end

/-! ## Where child rules are read -/

theorem Form.eq_some_of_optional? {α : Type} {value : Form → Option α} {f : Form} {x : α}
    (given : f.optional? value = some (some x)) : value f = some x := by
  by_cases null : f = .null
  · rw [null] at given
    exact nomatch given
  · obtain ⟨y, read, same⟩ := Form.exists_of_optional? null given
    rwa [Option.some.inj same]

theorem eq_some_of_getD_none {α : Type} {given : Option (Option α)} {x : α}
    (h : given.getD none = some x) : given = some (some x) := by
  cases given with
  | none => exact nomatch h
  | some value => exact congrArg some h

namespace RuleDef

variable {children : Form → Option RuleSetDef} {inner : RuleSetDef}

theorem exists_form_of_named? {d d' : Draft} {m : Option String × Form}
    (taken : named? (Draft.member? children) d m = some d')
    (new : d.childRules ≠ some (some inner)) (given : d'.childRules = some (some inner)) :
    ∃ f, children f = some inner := by
  obtain ⟨name, f⟩ := m
  cases name with
  | none => exact nomatch taken
  | some name =>
    rw [named?, Draft.member?] at taken
    cases found : Member.ofName? name with
    | none =>
      rw [found] at taken
      obtain rfl := Option.some.inj taken
      exact absurd given new
    | some member =>
      rw [found] at taken
      obtain ⟨e, read, added⟩ := Option.bind_eq_some_iff.mp taken
      rw [Draft.add?] at added
      split at added
      next => cases added
      next =>
        obtain rfl := Option.some.inj added
        cases member with
        | kind | selector | attributeName =>
          obtain ⟨value, -, rfl⟩ := Option.map_eq_some_iff.mp read
          exact absurd given new
        | childRules =>
          obtain ⟨value, inside, rfl⟩ := Option.map_eq_some_iff.mp read
          obtain rfl : value = some inner := Option.some.inj given
          exact ⟨f, Form.eq_some_of_optional? inside⟩

/-- Child rules that are in a draft in the end were read from the value of a member. -/
theorem exists_form_of_foldlM {d d' : Draft} {members : List (Option String × Form)}
    (taken : members.foldlM (named? (Draft.member? children)) d = some d')
    (new : d.childRules ≠ some (some inner)) (given : d'.childRules = some (some inner)) :
    ∃ f, children f = some inner := by
  induction members generalizing d with
  | nil =>
    obtain rfl := Option.some.inj taken
    exact absurd given new
  | cons m members ih =>
    rw [List.foldlM_cons] at taken
    obtain ⟨between, first, rest⟩ := Option.bind_eq_some_iff.mp taken
    by_cases here : between.childRules = some (some inner)
    · exact exists_form_of_named? first new here
    · exact ih rest here

variable {kind attributeName : Option String} {selector : String}

theorem exists_form_of_ofMembers? {members : List (Option String × Form)}
    (read : ofMembers? children members =
      some (.mk kind selector attributeName (some inner))) : ∃ f, children f = some inner := by
  obtain ⟨d, taken, finished⟩ := Option.map_eq_some_iff.mp read
  have given : d.childRules.getD none = some inner := by injection finished
  exact exists_form_of_foldlM taken nofun (eq_some_of_getD_none given)

theorem exists_form_of_ofItems? {items : List Form}
    (read : ofItems? children items =
      some (.mk kind selector attributeName (some inner))) : ∃ f, children f = some inner := by
  obtain ⟨-, fourth, read, given⟩ := fourth_of_ofItems? read
  rw [eq_some_of_getD_none given] at read
  cases rest : items.tail.tail.tail with
  | nil =>
    rw [rest] at read
    exact nomatch read
  | cons f after =>
    rw [rest] at read
    obtain ⟨_, read, same⟩ := Option.map_eq_some_iff.mp read
    exact ⟨f, Form.eq_some_of_optional? (same ▸ read)⟩

/-- The child rules of a rule are read from a form, with one level less. -/
theorem exists_form_of_ofForm? : ∀ {levels : Nat} {f : Form},
    RuleDef.ofForm? (levels + 1) f = some (.mk kind selector attributeName (some inner)) →
      ∃ g, RuleSetDef.ofForm? levels g = some inner
  | _, .object _, read => exists_form_of_ofMembers? read
  | _, .list _, read => exists_form_of_ofItems? read

theorem rule_of_known {name : String} {known : RuleKind}
    (parsed : RuleKind.parse? name = some known) (childRules : Option RuleSetDef) :
    (RuleDef.mk (some name) selector attributeName childRules).rule =
      .ofKind known (Text.trim selector) (Text.trim (attributeName.getD ""))
        (RuleSetDef.ruleSetOf childRules) := by
  rw [RuleDef.rule, Option.bind_some, parsed, Option.getD_some]

end RuleDef

mutual

/-- What a definition writes has no more levels than there are for the definition. -/
theorem RuleSetDef.within_of_ofForm? : ∀ {levels : Nat} {f : Form} {d : RuleSetDef},
    RuleSetDef.ofForm? levels f = some d → d.Valid → RuleSet.Within levels d.ruleSet
  | levels + 1, .object members, .mk fields, read, .mk distinct rules => by
    obtain ⟨_, taken, same⟩ := Option.map_eq_some_iff.mp read
    cases same
    rw [RuleSetDef.ruleSet_of_nodup distinct, RuleSetDef.rulesOfFields_eq_map]
    refine .mk (List.forall_mem_map.mpr fun field mem => ?_)
    obtain ⟨m, given⟩ := (exists_of_mapM taken).2 field mem
    obtain ⟨name, -, given⟩ := Option.bind_eq_some_iff.mp given
    obtain ⟨rule, inside, same⟩ := Option.map_eq_some_iff.mp given
    cases same
    exact RuleDef.within_of_ofForm? inside (rules _ mem)

theorem RuleDef.within_of_ofForm? : ∀ {levels : Nat} {f : Form} {d : RuleDef},
    RuleDef.ofForm? levels f = some d → d.Valid → Rule.Within levels d.rule
  | levels + 1, f, _, _, .text known _ => by
    rw [RuleDef.rule_of_known known]
    exact .text
  | levels + 1, f, _, _, .attr known _ _ => by
    rw [RuleDef.rule_of_known known]
    exact .attr
  | levels + 1, f, _, read, .list known _ inside => by
    rw [RuleDef.rule_of_known known]
    obtain ⟨g, given⟩ := RuleDef.exists_form_of_ofForm? read
    exact .list (RuleSetDef.within_of_ofForm? given inside)

end

/-! ## Definitions that are written again -/

theorem RuleKind.parse?_name (kind : RuleKind) : RuleKind.parse? kind.name = some kind := by
  cases kind <;> decide +kernel

theorem RuleDef.Selects.trim {selector : String} (selects : RuleDef.Selects selector) :
    RuleDef.Selects (Text.trim selector) := by
  rw [RuleDef.Selects, Text.trim_trim]
  exact selects

theorem RuleSet.defsOfFields_eq_map (fields : List (String × Rule)) :
    RuleSet.defsOfFields fields = fields.map fun field => (field.1, field.2.toDef) := by
  induction fields with
  | nil => rfl
  | cons field rest ih => rw [RuleSet.defsOfFields, ih, List.map_cons]

/-- The definition of a rule that a valid definition writes is valid and writes the same rule, as
long as this holds of the rule set inside. -/
theorem RuleDef.toDef_rule {given : Option String} {selector : String}
    {attributeName : Option String} {childRules : Option RuleSetDef}
    (inner : ∀ children, childRules = some children → children.Valid →
      children.ruleSet.toDef.Valid ∧ children.ruleSet.toDef.ruleSet = children.ruleSet)
    (valid : (RuleDef.mk given selector attributeName childRules).Valid) :
    let rule := (RuleDef.mk given selector attributeName childRules).rule
    rule.toDef.Valid ∧ rule.toDef.rule = rule := by
  intro rule
  cases valid with
  | text known selects =>
    have written : rule = .text (Text.trim selector) := RuleDef.rule_of_known known _
    have plain := RuleKind.parse?_name .text
    rw [written, Rule.toDef, RuleDef.rule_of_known plain, Text.trim_trim]
    exact ⟨.text plain selects.trim, rfl⟩
  | @attr _ _ name _ known selects named =>
    have written : rule = .attr (Text.trim selector) (Text.trim name) :=
      RuleDef.rule_of_known known _
    have plain := RuleKind.parse?_name .attr
    rw [written, Rule.toDef, RuleDef.rule_of_known plain, Option.getD_some, Text.trim_trim,
      Text.trim_trim]
    exact ⟨.attr plain selects.trim (by rwa [Text.trim_trim]), rfl⟩
  | @list _ _ _ children known selects inside =>
    have written : rule = .list (Text.trim selector) children.ruleSet :=
      RuleDef.rule_of_known known _
    have plain := RuleKind.parse?_name .list
    obtain ⟨valid, same⟩ := inner children rfl inside
    rw [written, Rule.toDef, RuleDef.rule_of_known plain, RuleSetDef.ruleSetOf, same,
      Text.trim_trim]
    exact ⟨.list plain selects.trim valid, rfl⟩

/-- The definition of what a valid definition writes is valid and writes the same rule set. -/
theorem RuleSetDef.toDef_ruleSet : ∀ d : RuleSetDef, d.Valid →
    d.ruleSet.toDef.Valid ∧ d.ruleSet.toDef.ruleSet = d.ruleSet := by
  refine RuleSetDef.of_hereditary
    (P := fun d => d.Valid → d.rule.toDef.Valid ∧ d.rule.toDef.rule = d.rule) ⟨?_, ?_⟩
  · exact fun _ _ _ _ inner => RuleDef.toDef_rule inner
  · intro fields inner valid
    cases valid with
    | mk distinct rules =>
      let again := fields.map fun field => (field.1, field.2.rule.toDef)
      have written : (RuleSetDef.mk fields).ruleSet.toDef = .mk again := by
        rw [RuleSetDef.ruleSet_of_nodup distinct, RuleSet.toDef, RuleSet.defsOfFields_eq_map,
          RuleSetDef.rulesOfFields_eq_map, List.map_map]
        rfl
      have names : again.map Prod.fst = fields.map Prod.fst := by
        rw [List.map_map]
        rfl
      have distinct' : (again.map Prod.fst).Nodup := names ▸ distinct
      refine ⟨written ▸ .mk distinct' ?_, ?_⟩
      · exact List.forall_mem_map.mpr fun field mem => (inner field mem (rules field mem)).1
      · rw [written, RuleSetDef.ruleSet_of_nodup distinct, RuleSetDef.ruleSet_of_nodup distinct',
          RuleSetDef.rulesOfFields_eq_map, RuleSetDef.rulesOfFields_eq_map, List.map_map]
        refine congrArg RuleSet.mk (List.map_congr_left fun field mem => ?_)
        exact congrArg (Prod.mk field.1) (inner field mem (rules field mem)).2

/-! ## Texts -/

/-- Whatever sound caches hold: a rule set that is accepted is read back from the text of its
definition. -/
theorem RuleSet.ofJsonCached_definition {text : String} {rules : RuleSet}
    {cache cache' : Css.Cache} (sound : cache.Sound) (sound' : cache'.Sound)
    (accepted : ((RuleSet.ofJsonCached text).run cache).1 = .ok rules) :
    ((RuleSet.ofJsonCached rules.definition).run cache').1 = .ok rules := by
  rw [(RuleSet.answers_ofJsonCached text cache sound).1] at accepted
  obtain ⟨d, parsed, valid, rfl⟩ := RuleSet.ofJson_eq_ok_iff.mp accepted
  obtain ⟨f, written, read⟩ := RuleSetDef.exists_form_of_parse parsed
  have levels := RuleSetDef.within_of_ofForm? read valid
  obtain ⟨valid', same⟩ := RuleSetDef.toDef_ruleSet d valid
  rw [RuleSet.ofJsonCached_eq_ok d.ruleSet.writtenIn_definition (RuleSet.ofForm?_form levels) valid'
    sound', same]

/-- A rule with blanks, another name for its kind and a member that is not needed is written without
them. -/
theorem RuleSet.ofJsonCached_definition_paragraph :
    let text := "\x7b\"a\":\x7b\"type\":\" TEXT\",\"selector\":\"p \",\"attribute\":\"x\"\x7d\x7d"
    let rules : RuleSet := ⟨[("a", .text "p")]⟩
    Css.Cache.empty.Sound ∧ ((RuleSet.ofJsonCached text).run .empty).1 = .ok rules ∧
      rules.definition = "\x7b\"a\":\x7b\"kind\":\"text\",\"selector\":\"p\"\x7d\x7d" ∧
      ((RuleSet.ofJsonCached rules.definition).run .empty).1 = .ok rules := by
  intro text rules
  have fresh := Css.Cache.sound_empty
  let rule : Form := .object [(some "type", .string (some " TEXT")),
    (some "selector", .string (some "p ")), (some "attribute", .string (some "x"))]
  have inside (rest : List Char) : Written rule _ rest :=
    .object (.part (.first .stop) (RuleSet.named_textMember "type" " TEXT" _)
      (.part (.later .stop .stop) (RuleSet.named_textMember "selector" "p " _)
        (.part (.later .stop .stop) (RuleSet.named_textMember "attribute" "x" _)
          (.done .stop))))
  have form : Written (.object [(some "a", rule)]) _ [] :=
    .object (.part (.first .stop) (.quoteChars "a" (inside _)) (.done .stop))
  have written : Form.WrittenIn _ text := form.writtenIn (by decide)
  let d : RuleSetDef := .mk [("a", .mk (some " TEXT") "p " (some "x") none)]
  have valid : d.Valid := .mk (by decide) (List.forall_mem_singleton.mpr
    (.text (by decide +kernel) ⟨by decide, by decide +kernel⟩))
  have accepted : ((RuleSet.ofJsonCached text).run .empty).1 = .ok rules :=
    (RuleSet.ofJsonCached_eq_ok written (d := d) rfl valid fresh).trans
      (congrArg _ (by decide +kernel))
  exact ⟨fresh, accepted, by decide, RuleSet.ofJsonCached_definition fresh fresh accepted⟩

end PageExtract
