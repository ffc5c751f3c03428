import PageExtract.Proofs.CallDepth
import PageExtract.Proofs.Job.Reading
import PageExtract.Proofs.Rule.RoundTrip
import PageExtract.Scope.Evaluate

/-!
# How deep rule sets are

Each rule set inside another takes two levels of the text that defines it: one for the rule and one
for its child rules.  So the limit on the levels of a text is one on the depth of rule sets
(`RuleSet.depth_le_of_within`), and so it is on the depth of definitions, valid or not
(`RuleSetDef.depth_le_of_ofForm?`).

What goes through a rule set calls itself on the rule sets inside only, and what goes through a
definition on the child rules in it.  So the depth bounds how deep such calls nest.
-/

namespace PageExtract

open Json

/-! ## Depth of rule sets -/

theorem RuleSet.depthOfFields_le {n : Nat} {fields : List (String × Rule)} :
    RuleSet.depthOfFields fields ≤ n ↔ ∀ field ∈ fields, field.2.depth ≤ n := by
  induction fields with
  | nil => simp [RuleSet.depthOfFields]
  | cons field rest ih => rw [RuleSet.depthOfFields, Nat.max_le, ih, List.forall_mem_cons]

theorem RuleSet.depth_pos (rules : RuleSet) : 0 < rules.depth := by
  cases rules with
  | mk fields =>
    rw [RuleSet.depth]
    omega

mutual

/-- A rule set has two levels for each rule set inside another, and one for itself. -/
theorem RuleSet.depth_le_of_within : ∀ {levels : Nat} {rules : RuleSet},
    RuleSet.Within levels rules → rules.depth ≤ (levels + 1) / 2
  | levels + 1, ⟨fields⟩, .mk rules => by
    have inside : RuleSet.depthOfFields fields ≤ levels / 2 :=
      RuleSet.depthOfFields_le.mpr fun field mem => Rule.depth_le_of_within (rules field mem)
    rw [RuleSet.depth]
    omega

theorem Rule.depth_le_of_within : ∀ {levels : Nat} {rule : Rule},
    Rule.Within levels rule → rule.depth ≤ levels / 2
  | _, _, .text => Nat.zero_le _
  | _, _, .attr => Nat.zero_le _
  | _ + 1, .list _ _, .list inside => RuleSet.depth_le_of_within inside

end

/-! ## Depth of definitions -/

mutual

/-- How deep the child rules of a rule nest, zero for a rule without them. -/
def RuleDef.depth : RuleDef → Nat
  | .mk _ _ _ none => 0
  | .mk _ _ _ (some children) => children.depth

/-- How deep a definition nests, one for a definition without child rules. -/
def RuleSetDef.depth : RuleSetDef → Nat
  | .mk fields => 1 + RuleSetDef.depthOfFields fields

/-- How deep the definitions of a list of fields nest. -/
def RuleSetDef.depthOfFields : List (String × RuleDef) → Nat
  | [] => 0
  | (_, rule) :: rest => max rule.depth (RuleSetDef.depthOfFields rest)

end

theorem RuleSetDef.depthOfFields_le {n : Nat} {fields : List (String × RuleDef)} :
    RuleSetDef.depthOfFields fields ≤ n ↔ ∀ field ∈ fields, field.2.depth ≤ n := by
  induction fields with
  | nil => simp [RuleSetDef.depthOfFields]
  | cons field rest ih => rw [RuleSetDef.depthOfFields, Nat.max_le, ih, List.forall_mem_cons]

theorem RuleSetDef.depth_pos (d : RuleSetDef) : 0 < d.depth := by
  cases d with
  | mk fields =>
    rw [RuleSetDef.depth]
    omega

mutual

/-- A definition takes two levels for each of those inside another, and one for itself. -/
theorem RuleSetDef.depth_le_of_ofForm? : ∀ {levels : Nat} {f : Form} {d : RuleSetDef},
    RuleSetDef.ofForm? levels f = some d → d.depth ≤ (levels + 1) / 2
  | levels + 1, .object members, .mk fields, read => by
    obtain ⟨_, taken, same⟩ := Option.map_eq_some_iff.mp read
    cases same
    have inside : RuleSetDef.depthOfFields fields ≤ levels / 2 := by
      refine RuleSetDef.depthOfFields_le.mpr fun field mem => ?_
      obtain ⟨m, given⟩ := (exists_of_mapM taken).2 field mem
      obtain ⟨name, -, given⟩ := Option.bind_eq_some_iff.mp given
      obtain ⟨rule, this, same⟩ := Option.map_eq_some_iff.mp given
      cases same
      exact RuleDef.depth_le_of_ofForm? this
    rw [RuleSetDef.depth]
    omega

theorem RuleDef.depth_le_of_ofForm? : ∀ {levels : Nat} {f : Form} {d : RuleDef},
    RuleDef.ofForm? levels f = some d → d.depth ≤ levels / 2
  | _, _, .mk _ _ _ none, _ => Nat.zero_le _
  | levels + 1, _, .mk _ _ _ (some _), read => by
    obtain ⟨g, given⟩ := RuleDef.exists_form_of_ofForm? read
    exact RuleSetDef.depth_le_of_ofForm? given

end

/-! ## Depth of what is read -/

theorem RuleSetDef.depth_le_of_parse {text : String} {d : RuleSetDef}
    (parsed : RuleSetDef.parse text = .ok d) : d.depth ≤ 64 := by
  obtain ⟨f, -, read⟩ := RuleSetDef.exists_form_of_parse parsed
  exact RuleSetDef.depth_le_of_ofForm? read

theorem JobDef.depth_le_of_parse {text : String} {d : JobDef} (parsed : JobDef.parse text = .ok d) :
    d.rules.depth ≤ 63 := by
  obtain ⟨f, -, read⟩ := JobDef.exists_form_of_parse parsed
  obtain ⟨g, inside⟩ := JobDef.exists_rules_of_ofForm? read
  exact RuleSetDef.depth_le_of_ofForm? inside

/-- Rules that a text defines are no deeper than 64. -/
theorem RuleSet.depth_le_of_ofJson {text : String} {rules : RuleSet}
    (accepted : RuleSet.ofJson text = .ok rules) : rules.depth ≤ 64 := by
  obtain ⟨d, parsed, valid, rfl⟩ := RuleSet.ofJson_eq_ok_iff.mp accepted
  obtain ⟨f, -, read⟩ := RuleSetDef.exists_form_of_parse parsed
  exact RuleSet.depth_le_of_within (RuleSetDef.within_of_ofForm? read valid)

/-- Rules in a job stand one level deeper, so they are no deeper than 63. -/
theorem Job.depth_le_of_ofJson {text : String} {job : Job} (accepted : Job.ofJson text = .ok job) :
    job.rules.depth ≤ 63 := by
  obtain ⟨d, parsed, valid, rfl⟩ := Job.ofJson_eq_ok_iff.mp accepted
  obtain ⟨f, -, read⟩ := JobDef.exists_form_of_parse parsed
  obtain ⟨g, inside⟩ := JobDef.exists_rules_of_ofForm? read
  exact RuleSet.depth_le_of_within (RuleSetDef.within_of_ofForm? inside valid)

/-! ## Calls on rule sets -/

/-- Whether a rule set is that of a list rule in another. -/
def RuleSet.Inside (rules inner : RuleSet) : Prop :=
  ∃ field ∈ rules.fields, ∃ selector, field.2 = .list selector inner

theorem RuleSet.depth_lt_of_inside (rules inner : RuleSet) (h : rules.Inside inner) :
    inner.depth < rules.depth := by
  obtain ⟨fields⟩ := rules
  obtain ⟨field, mem, selector, same⟩ := h
  have bound : field.2.depth ≤ RuleSet.depthOfFields fields :=
    RuleSet.depthOfFields_le.mp (Nat.le_refl _) field mem
  rw [same, Rule.depth] at bound
  rw [RuleSet.depth]
  omega

/-- What goes through a rule set calls itself no deeper than rule sets nest. -/
theorem RuleSet.callsWithin {β : Type} {layer : (RuleSet → β) → RuleSet → β} {f : RuleSet → β}
    (h : Recurses RuleSet.Inside layer f) {n : Nat} {rules : RuleSet} (bound : rules.depth ≤ n) :
    CallsWithin n layer f rules :=
  h.callsWithin RuleSet.depth_pos RuleSet.depth_lt_of_inside bound

/-- What is made of each rule in a rule set asks only for the rule sets inside, if what is made of a
list rule asks for its rule set only. -/
theorem RuleSet.map_congr_of_inside {β γ : Type} {part : (RuleSet → β) → Rule → γ}
    (asks : ∀ {g h : RuleSet → β} {rule : Rule},
      (∀ selector inner, rule = .list selector inner → g inner = h inner) → part g rule = part h rule)
    {g h : RuleSet → β} {rules : RuleSet} (same : ∀ inner, rules.Inside inner → g inner = h inner) :
    (rules.fields.map fun field => (field.1, part g field.2)) =
      rules.fields.map fun field => (field.1, part h field.2) :=
  List.map_congr_left fun field mem => congrArg (field.1, ·) <|
    asks fun selector inner list => same inner ⟨field, mem, selector, list⟩

/-! ### Depth -/

/-- The depth of a rule, from that of rule sets. -/
def Rule.depthWith (inner : RuleSet → Nat) : Rule → Nat
  | .text _ => 0
  | .attr _ _ => 0
  | .list _ rules => inner rules

/-- One call for the depth of a rule set. -/
def RuleSet.depthLayer (inner : RuleSet → Nat) (rules : RuleSet) : Nat :=
  1 + (rules.fields.map fun field => (field.1, field.2.depthWith inner)).foldr
    (fun field deepest => max field.2 deepest) 0

theorem RuleSet.recurses_depth : Recurses RuleSet.Inside RuleSet.depthLayer RuleSet.depth where
  unfolds := by
    rintro ⟨fields⟩
    rw [RuleSet.depth, RuleSet.depthLayer]
    congr 1
    induction fields with
    | nil => rfl
    | cons field rest ih =>
      rw [RuleSet.depthOfFields, List.map_cons, List.foldr_cons, ih]
      cases field.2 <;> rfl
  asks same := by
    rw [depthLayer, depthLayer, map_congr_of_inside _ same]
    rintro g h (_ | _ | ⟨selector, inner⟩) same
    · rfl
    · rfl
    · exact same selector inner rfl

/-! ### Selectors -/

/-- The selectors of a rule, from those of rule sets. -/
def Rule.selectorsWith (inner : RuleSet → List String) : Rule → List String
  | .text s => [s]
  | .attr s _ => [s]
  | .list s rules => s :: inner rules

/-- One call for the selectors of a rule set. -/
def RuleSet.selectorsLayer (inner : RuleSet → List String) (rules : RuleSet) : List String :=
  (rules.fields.map fun field => (field.1, field.2.selectorsWith inner)).flatMap Prod.snd

theorem RuleSet.recurses_selectors :
    Recurses RuleSet.Inside RuleSet.selectorsLayer RuleSet.selectors where
  unfolds := by
    rintro ⟨fields⟩
    rw [RuleSet.selectors, RuleSet.selectorsLayer]
    induction fields with
    | nil => rfl
    | cons field rest ih =>
      rw [RuleSet.selectorsOfFields, List.map_cons, List.flatMap_cons, ih]
      cases field.2 <;> rfl
  asks same := by
    rw [selectorsLayer, selectorsLayer, map_congr_of_inside _ same]
    rintro g h (_ | _ | ⟨selector, inner⟩) same
    · rfl
    · rfl
    · exact congrArg (selector :: ·) (same selector inner rfl)

/-! ### Evaluation -/

section

variable {m : Type → Type} [Monad m] [LawfulMonad m] {σ ν : Type} (scope : Scope m σ ν)

/-- The value of a rule, from the records of rule sets. -/
def Rule.evaluateWith (inner : RuleSet → σ → m Record) : Rule → σ → m Value
  | .text selector, s => Rule.evaluate scope (.text selector) s
  | .attr selector name, s => Rule.evaluate scope (.attr selector name) s
  | .list selector rules, s => do
      let nodes ← scope.select s selector
      return .list (← recordsOf (fun node => inner rules (scope.subscope s node)) nodes)

/-- One call for the record of a rule set. -/
def RuleSet.evaluateLayer (inner : RuleSet → σ → m Record) (rules : RuleSet) (s : σ) : m Record := do
  let values := rules.fields.map fun field => (field.1, field.2.evaluateWith scope inner)
  return ⟨← values.mapM fun field => do return (field.1, ← field.2 s)⟩

theorem RuleSet.recurses_evaluate :
    Recurses RuleSet.Inside (RuleSet.evaluateLayer scope) (RuleSet.evaluate scope) where
  unfolds := by
    rintro ⟨fields⟩
    funext s
    rw [RuleSet.evaluate, RuleSet.evaluateLayer]
    refine congrArg (fun values => values >>= fun fields => (pure ⟨fields⟩ : m Record)) ?_
    induction fields with
    | nil => rw [RuleSet.evaluateFields, List.map_nil, List.mapM_nil]
    | cons field rest ih =>
      have first : field.2.evaluate scope s =
          field.2.evaluateWith scope (RuleSet.evaluate scope) s := by
        cases field.2 with
        | list selector rules => rw [Rule.evaluate, Rule.evaluateWith]
        | _ => rfl
      rw [RuleSet.evaluateFields, List.map_cons, List.mapM_cons, first, ih]
      simp only [bind_assoc, pure_bind]
  asks same := by
    funext s
    rw [evaluateLayer, evaluateLayer, map_congr_of_inside _ same]
    rintro g h (_ | _ | ⟨selector, inner⟩) same
    · rfl
    · rfl
    · funext s
      rw [Rule.evaluateWith, Rule.evaluateWith, same selector inner rfl]

end

/-! ## Calls on definitions -/

/-- Whether a definition is that of the child rules of a rule in another. -/
def RuleSetDef.Inside : RuleSetDef → RuleSetDef → Prop
  | .mk fields, inner => ∃ field ∈ fields, ∃ kind selector attributeName,
      field.2 = .mk kind selector attributeName (some inner)

theorem RuleSetDef.depth_lt_of_inside (d inner : RuleSetDef) (h : d.Inside inner) :
    inner.depth < d.depth := by
  cases d with
  | mk fields =>
    obtain ⟨field, mem, kind, selector, attributeName, same⟩ := h
    have bound : field.2.depth ≤ RuleSetDef.depthOfFields fields :=
      RuleSetDef.depthOfFields_le.mp (Nat.le_refl _) field mem
    rw [same, RuleDef.depth] at bound
    rw [RuleSetDef.depth]
    omega

/-- What goes through a definition calls itself no deeper than definitions nest. -/
theorem RuleSetDef.callsWithin {β : Type} {layer : (RuleSetDef → β) → RuleSetDef → β}
    {f : RuleSetDef → β} (h : Recurses RuleSetDef.Inside layer f) {n : Nat} {d : RuleSetDef}
    (bound : d.depth ≤ n) : CallsWithin n layer f d :=
  h.callsWithin RuleSetDef.depth_pos RuleSetDef.depth_lt_of_inside bound

section

variable {m : Type → Type} [Monad m] (compiles : String → m Bool)

/-- The rule that a definition stands for, from the rule sets that child rules stand for. -/
def RuleDef.validateWith (inner : RuleSetDef → String → ExceptT RuleError m RuleSet) (path : String) :
    RuleDef → ExceptT RuleError m Rule
  | .mk kind selector attributeName childRules => do
      let kind ← RuleDef.checkKind path kind
      let selector ← RuleDef.checkSelector compiles path selector
      match kind with
      | .text => return .text selector
      | .attr => return .attr selector (← RuleDef.checkAttributeName path attributeName)
      | .list => match childRules with
        | none => throw (.missingChildRules path)
        | some children => return .list selector (← inner children path)

/-- The rules that a list of definitions stands for.  `seen` holds the names of those before. -/
def RuleSetDef.validateEach (rule : String → RuleDef → ExceptT RuleError m Rule) (parent : String)
    (seen : List String) : List (String × RuleDef) → ExceptT RuleError m (List (String × Rule))
  | [] => return []
  | (name, d) :: rest =>
      if name ∈ seen then throw (.duplicateField (fieldPath parent name))
      else do
        let valid ← rule (fieldPath parent name) d
        return (name, valid) :: (← RuleSetDef.validateEach rule parent (name :: seen) rest)

/-- One call for the rule set that a definition stands for. -/
def RuleSetDef.validateLayer (inner : RuleSetDef → String → ExceptT RuleError m RuleSet) :
    RuleSetDef → String → ExceptT RuleError m RuleSet
  | .mk fields, parent => do
      return ⟨← RuleSetDef.validateEach (RuleDef.validateWith compiles inner) parent [] fields⟩

theorem RuleSetDef.validateEach_congr {rule other : String → RuleDef → ExceptT RuleError m Rule}
    {fields : List (String × RuleDef)}
    (same : ∀ field ∈ fields, ∀ path, rule path field.2 = other path field.2) (parent : String)
    (seen : List String) : validateEach rule parent seen fields =
      validateEach other parent seen fields := by
  induction fields generalizing seen with
  | nil => rfl
  | cons field rest ih =>
    obtain ⟨here, later⟩ := List.forall_mem_cons.mp same
    rw [validateEach, validateEach, here, ih later]

theorem RuleDef.validate_eq_validateWith (path : String) (d : RuleDef) :
    d.validate compiles path =
      d.validateWith compiles (fun children path => children.validate compiles path) path := by
  cases d with
  | mk kind selector attributeName childRules =>
    cases childRules <;> rfl

theorem RuleSetDef.recurses_validate : Recurses RuleSetDef.Inside (RuleSetDef.validateLayer compiles)
    fun d parent => d.validate compiles parent where
  unfolds := by
    rintro ⟨fields⟩
    funext parent
    rw [RuleSetDef.validate, RuleSetDef.validateLayer]
    refine congrArg (fun rules => rules >>= fun fields => (pure ⟨fields⟩ : ExceptT _ m RuleSet)) ?_
    generalize ([] : List String) = seen
    induction fields generalizing seen with
    | nil => rw [RuleSetDef.validateFields, RuleSetDef.validateEach]
    | cons field rest ih =>
      rw [RuleSetDef.validateFields, RuleSetDef.validateEach, RuleDef.validate_eq_validateWith, ih]
  asks := by
    rintro g h ⟨fields⟩ same
    funext parent
    rw [validateLayer, validateLayer, validateEach_congr]
    rintro ⟨name, kind, selector, attributeName, _ | children⟩ mem path
    · rfl
    · have inside := same children ⟨_, mem, kind, selector, attributeName, rfl⟩
      simp only [RuleDef.validateWith, inside]

end

end PageExtract
