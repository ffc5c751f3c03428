import PageExtract.Extraction

/-!
# What a definition says

`RuleSetDef.Valid` says when a definition is accepted, without going through the
steps of validation: no name occurs twice, and each rule has a known kind, a
selector and what its kind needs.  The rules of a list rule are valid in turn.

`RuleSetDef.ruleSet` is the rule set that a definition writes.  It binds the
fields one after another, with trimmed selectors and trimmed names of attributes,
here and in every rule set inside.

`RuleSetDef.needed` is a definition without the members that no kind of its rules
needs.

A definition nests in two ways, through the fields of a rule set and through the
child rules of a rule.  A property that is handed on in both ways holds of every
definition (`RuleSetDef.of_hereditary`).
-/

namespace PageExtract

/-! ## Definitions that are accepted -/

/-- Whether a text is a selector once it is trimmed, and not a blank one. -/
def RuleDef.Selects (selector : String) : Prop :=
  Text.trim selector ≠ "" ∧ isSelector (Text.trim selector) = true

mutual

/-- A definition of a rule that is accepted. -/
inductive RuleDef.Valid : RuleDef → Prop where
  /-- A text rule needs a selector. -/
  | text {kind selector : String} {attributeName : Option String}
      {childRules : Option RuleSetDef} (known : RuleKind.parse? kind = some .text)
      (selects : RuleDef.Selects selector) :
      RuleDef.Valid (.mk (some kind) selector attributeName childRules)
  /-- An attribute rule needs a selector and the name of an attribute. -/
  | attr {kind selector name : String} {childRules : Option RuleSetDef}
      (known : RuleKind.parse? kind = some .attr) (selects : RuleDef.Selects selector)
      (named : Text.trim name ≠ "") :
      RuleDef.Valid (.mk (some kind) selector (some name) childRules)
  /-- A list rule needs a selector and a rule set that is accepted. -/
  | list {kind selector : String} {attributeName : Option String} {children : RuleSetDef}
      (known : RuleKind.parse? kind = some .list) (selects : RuleDef.Selects selector)
      (inside : RuleSetDef.Valid children) :
      RuleDef.Valid (.mk (some kind) selector attributeName (some children))

/-- A definition of a rule set that is accepted. -/
inductive RuleSetDef.Valid : RuleSetDef → Prop where
  /-- No name occurs twice, and each rule is accepted. -/
  | mk {fields : List (String × RuleDef)} (distinct : (fields.map Prod.fst).Nodup)
      (rules : ∀ field ∈ fields, RuleDef.Valid field.2) : RuleSetDef.Valid (.mk fields)

end

/-! ## What a definition writes -/

/-- The rule of a kind, with as much of what a definition holds as the kind needs. -/
def Rule.ofKind (kind : RuleKind) (selector attributeName : String) (children : RuleSet) : Rule :=
  match kind with
  | .text => .text selector
  | .attr => .attr selector attributeName
  | .list => .list selector children

mutual

/-- The rule that a definition writes.  A text rule stands for one of no known kind. -/
def RuleDef.rule : RuleDef → Rule
  | .mk kind selector attributeName childRules =>
      .ofKind ((kind.bind RuleKind.parse?).getD .text) (Text.trim selector)
        (Text.trim (attributeName.getD "")) (RuleSetDef.ruleSetOf childRules)

/-- The rule set that a definition writes. -/
def RuleSetDef.ruleSet : RuleSetDef → RuleSet
  | .mk fields => RuleSet.ofList (RuleSetDef.rulesOfFields fields)

/-- The rule set that a definition writes, or the one without fields. -/
def RuleSetDef.ruleSetOf : Option RuleSetDef → RuleSet
  | none => .empty
  | some children => children.ruleSet

/-- The rules that a list of definitions writes. -/
def RuleSetDef.rulesOfFields : List (String × RuleDef) → List (String × Rule)
  | [] => []
  | (name, rule) :: rest => (name, rule.rule) :: RuleSetDef.rulesOfFields rest

end

mutual

/-- A definition of a rule without the members that its kind does not need. -/
def RuleDef.needed : RuleDef → RuleDef
  | .mk kind selector attributeName childRules =>
      .mk kind selector
        (if kind.bind RuleKind.parse? = some .attr then attributeName else none)
        (if kind.bind RuleKind.parse? = some .list then RuleSetDef.neededOf childRules else none)

/-- A definition of a rule set without the members that are not needed. -/
def RuleSetDef.needed : RuleSetDef → RuleSetDef
  | .mk fields => .mk (RuleSetDef.neededOfFields fields)

/-- A definition that may be given, without the members that are not needed. -/
def RuleSetDef.neededOf : Option RuleSetDef → Option RuleSetDef
  | none => none
  | some children => some children.needed

/-- A list of definitions without the members that are not needed. -/
def RuleSetDef.neededOfFields : List (String × RuleDef) → List (String × RuleDef)
  | [] => []
  | (name, rule) :: rest => (name, rule.needed) :: RuleSetDef.neededOfFields rest

end

theorem RuleSetDef.rulesOfFields_eq_map (fields : List (String × RuleDef)) :
    RuleSetDef.rulesOfFields fields = fields.map fun field => (field.1, field.2.rule) := by
  induction fields with
  | nil => rfl
  | cons field rest ih => rw [RuleSetDef.rulesOfFields, ih, List.map_cons]

theorem RuleSetDef.map_fst_rulesOfFields (fields : List (String × RuleDef)) :
    (RuleSetDef.rulesOfFields fields).map Prod.fst = fields.map Prod.fst := by
  induction fields with
  | nil => rfl
  | cons field rest ih =>
    obtain ⟨name, rule⟩ := field
    simp only [RuleSetDef.rulesOfFields, List.map_cons, ih]

/-! ## Induction on definitions -/

/-- Two properties, one of rules and one of rule sets, each of which goes from what is inside
a definition to the definition. -/
structure RuleSetDef.Hereditary (P : RuleDef → Prop) (Q : RuleSetDef → Prop) : Prop where
  /-- From the child rules to a rule. -/
  rule : ∀ kind selector attributeName childRules,
    (∀ children, childRules = some children → Q children) →
      P (.mk kind selector attributeName childRules)
  /-- From rules to a set of them. -/
  set : ∀ fields, (∀ field ∈ fields, P field.2) → Q (.mk fields)

section

variable {P : RuleDef → Prop} {Q : RuleSetDef → Prop}

mutual

theorem RuleDef.of_hereditary (h : RuleSetDef.Hereditary P Q) : ∀ d : RuleDef, P d
  | .mk kind selector attributeName none =>
    h.rule kind selector attributeName none fun _ missing => nomatch missing
  | .mk kind selector attributeName (some children) => by
    refine h.rule kind selector attributeName (some children) ?_
    intro inside same
    rw [← Option.some.inj same]
    exact RuleSetDef.of_hereditary h children

/-- What goes from the inside of definitions to the outside holds of every definition. -/
theorem RuleSetDef.of_hereditary (h : RuleSetDef.Hereditary P Q) : ∀ d : RuleSetDef, Q d
  | .mk fields => h.set fields (RuleSetDef.of_hereditary_fields h fields)

theorem RuleSetDef.of_hereditary_fields (h : RuleSetDef.Hereditary P Q) :
    ∀ fields : List (String × RuleDef), ∀ field ∈ fields, P field.2
  | [] => fun _ hf => absurd hf List.not_mem_nil
  | (_, first) :: rest =>
    List.forall_mem_cons.mpr
      ⟨RuleDef.of_hereditary h first, RuleSetDef.of_hereditary_fields h rest⟩

end

end

end PageExtract
