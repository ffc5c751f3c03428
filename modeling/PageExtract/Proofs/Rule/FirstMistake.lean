import PageExtract.Proofs.Rule.Validation

/-!
# The first mistake

Validation visits the rules of a definition in the order in which they are written, each of them
before the rules inside it.  A `Visit` is a rule with the place where it stands, and
`RuleSetDef.visits` lists the visits in that order.  What is inside a rule that is no list rule is
not visited.

At each visit there are seven checks, one after another (`Visit.Check.order`).  The mistake that
is named is what the first check finds that finds something, at the first visit where any check
does (`RuleSetDef.FirstMistake`).  It is the same whatever a sound cache holds.

Validation goes on from a rule only if the rule passes.  So it fails for the first of the faults
that its steps have (`faultOf?_bind_of_forall`), and these are the mistakes at the visits one after
another.
-/

namespace PageExtract

namespace RuleDef

/-- The kind as it is written. -/
def kind : RuleDef → Option String
  | .mk kind _ _ _ => kind

/-- The selector as it is written. -/
def selector : RuleDef → String
  | .mk _ selector _ _ => selector

/-- The name of the attribute as it is written. -/
def attributeName : RuleDef → Option String
  | .mk _ _ attributeName _ => attributeName

/-- The child rules. -/
def childRules : RuleDef → Option RuleSetDef
  | .mk _ _ _ childRules => childRules

/-- The kind that is written, if it is known. -/
def knownKind? (d : RuleDef) : Option RuleKind := d.kind.bind RuleKind.parse?

end RuleDef

/-! ## Visits -/

/-- A rule of a definition, with the place where it stands. -/
structure Visit where
  /-- The names of the rules around it, outermost first. -/
  above : List String
  /-- The names before it in its rule set, the nearest first. -/
  earlier : List String
  /-- Its name. -/
  name : String
  /-- The rule. -/
  rule : RuleDef

namespace Visit

/-- The names on the way from the outermost rule set to a rule. -/
def names (v : Visit) : List String := v.above ++ [v.name]

/-- The path of the field that some names lead to. -/
def pathOf (names : List String) : String := names.foldl fieldPath ""

/-- The path of a rule. -/
def path (v : Visit) : String := pathOf v.names

theorem fieldPath_pathOf (above : List String) (name : String) :
    fieldPath (pathOf above) name = pathOf (above ++ [name]) := by
  rw [pathOf, pathOf, List.foldl_append]
  rfl

/-- What a rule is checked for. -/
inductive Check where
  | duplicateField
  | missingKind
  | unknownKind
  | emptySelector
  | invalidSelector
  | missingAttributeName
  | missingChildRules
  deriving DecidableEq, Repr

/-- The checks, in their order. -/
def Check.order : List Check :=
  [duplicateField, missingKind, unknownKind, emptySelector, invalidSelector, missingAttributeName,
    missingChildRules]

/-- What a check finds wrong with a rule.  Each check looks at the rule alone and does not care
what the checks before it find. -/
def finds (v : Visit) : Check → Option RuleError
  | .duplicateField => if v.name ∈ v.earlier then some (.duplicateField v.path) else none
  | .missingKind => if v.rule.kind.isNone then some (.missingKind v.path) else none
  | .unknownKind => v.rule.kind.bind fun kind =>
      if (RuleKind.parse? kind).isNone then some (.unknownKind v.path kind) else none
  | .emptySelector =>
      if Text.trim v.rule.selector = "" then some (.emptySelector v.path) else none
  | .invalidSelector =>
      if ¬ isSelector (Text.trim v.rule.selector) then
        some (.invalidSelector v.path (Text.trim v.rule.selector))
      else none
  | .missingAttributeName =>
      if v.rule.knownKind? = some .attr ∧ (Text.trimmed? v.rule.attributeName).isNone then
        some (.missingAttributeName v.path)
      else none
  | .missingChildRules =>
      if v.rule.knownKind? = some .list ∧ v.rule.childRules.isNone then
        some (.missingChildRules v.path)
      else none

/-- Whether no check finds something wrong with a rule. -/
def Passes (v : Visit) : Prop := ∀ check, v.finds check = none

/-- Whether a mistake is what the first check finds that finds something. -/
def Offends (v : Visit) (e : RuleError) : Prop :=
  ∃ passed check later, Check.order = passed ++ check :: later ∧
    (∀ c ∈ passed, v.finds c = none) ∧ v.finds check = some e

/-- What the first check finds that finds something. -/
def mistake? (v : Visit) : Option RuleError := Check.order.findSome? v.finds

theorem mistake?_eq_some_iff {v : Visit} {e : RuleError} : v.mistake? = some e ↔ v.Offends e := by
  rw [mistake?, List.findSome?_eq_some_iff]
  constructor
  · rintro ⟨passed, check, later, split, finds, before⟩
    exact ⟨passed, check, later, split, before, finds⟩
  · rintro ⟨passed, check, later, split, before, finds⟩
    exact ⟨passed, check, later, split, finds, before⟩

theorem mistake?_eq_none_iff {v : Visit} : v.mistake? = none ↔ v.Passes := by
  have complete (check : Check) : check ∈ Check.order := by cases check <;> decide
  rw [mistake?, List.findSome?_eq_none_iff]
  exact ⟨fun h check => h check (complete check), fun h check _ => h check⟩

end Visit

mutual

/-- The visits inside a rule to which some names lead. -/
def RuleDef.visits (names : List String) : RuleDef → List Visit
  | .mk kind _ _ childRules =>
      if kind.bind RuleKind.parse? = some .list then RuleSetDef.visitsOf names childRules else []

/-- The visits of a rule set inside the rule to which some names lead. -/
def RuleSetDef.visits (above : List String) : RuleSetDef → List Visit
  | .mk fields => RuleSetDef.visitsOfFields above [] fields

/-- The visits of a rule set that may be given. -/
def RuleSetDef.visitsOf (above : List String) : Option RuleSetDef → List Visit
  | none => []
  | some children => children.visits above

/-- The visits of a list of fields, each followed by those inside it. -/
def RuleSetDef.visitsOfFields (above earlier : List String) :
    List (String × RuleDef) → List Visit
  | [] => []
  | (name, rule) :: rest =>
      ⟨above, earlier, name, rule⟩ :: rule.visits (above ++ [name]) ++
        RuleSetDef.visitsOfFields above (name :: earlier) rest

end

/-- Whether a definition has a mistake at some rule, and none before: the rules that are visited
before pass, and at the rule so do the checks before the one that finds it. -/
def RuleSetDef.FirstMistake (d : RuleSetDef) (v : Visit) (e : RuleError) : Prop :=
  ∃ before after, d.visits [] = before ++ v :: after ∧ (∀ u ∈ before, u.Passes) ∧ v.Offends e

theorem RuleSetDef.findSome?_mistake?_eq_some_iff {d : RuleSetDef} {e : RuleError} :
    (d.visits []).findSome? Visit.mistake? = some e ↔ ∃ v, d.FirstMistake v e := by
  simp only [List.findSome?_eq_some_iff, Visit.mistake?_eq_some_iff, Visit.mistake?_eq_none_iff]
  constructor
  · rintro ⟨before, v, after, split, offends, pass⟩
    exact ⟨v, before, after, split, pass, offends⟩
  · rintro ⟨v, before, after, split, pass, offends⟩
    exact ⟨before, v, after, split, offends, pass⟩

/-! ## Validation names the first mistake -/

namespace Visit

variable {v : Visit}

theorem faultOf?_checkKind :
    faultOf? (RuleDef.checkKind v.path v.rule.kind : ExceptT RuleError Id RuleKind) =
      (v.finds .missingKind).or (v.finds .unknownKind) := by
  rw [finds, finds]
  cases v.rule.kind with
  | none => rfl
  | some word =>
    rw [RuleDef.checkKind, Option.bind_some]
    cases RuleKind.parse? word with
    | none => rfl
    | some kind => rfl

theorem faultOf?_checkSelector :
    faultOf? (RuleDef.checkSelector RuleDef.knows v.path v.rule.selector) =
      (v.finds .emptySelector).or (v.finds .invalidSelector) := by
  rw [finds, finds, RuleDef.checkSelector]
  by_cases blank : Text.trim v.rule.selector = ""
  · simp [blank]
  · cases known : isSelector (Text.trim v.rule.selector) with
    | false => simp [blank, RuleDef.knows, known, faultOf?]
    | true => simp [blank, RuleDef.knows, known, faultOf?]

theorem faultOf?_checkAttributeName (attr : v.rule.knownKind? = some .attr) :
    faultOf? (RuleDef.checkAttributeName v.path v.rule.attributeName :
      ExceptT RuleError Id String) = v.finds .missingAttributeName := by
  rw [finds, RuleDef.checkAttributeName]
  cases named : Text.trimmed? v.rule.attributeName with
  | none => simp [attr]
  | some name => simp

theorem finds_missingAttributeName (other : v.rule.knownKind? ≠ some .attr) :
    v.finds .missingAttributeName = none := if_neg fun h => other h.1

theorem finds_missingChildRules (other : v.rule.knownKind? ≠ some .list) :
    v.finds .missingChildRules = none := if_neg fun h => other h.1

/-- The checks of a rule whose name does not occur before are those of its kind, of its selector
and of what its kind needs. -/
theorem mistake?_of_new (new : v.name ∉ v.earlier) :
    v.mistake? =
      (faultOf? (RuleDef.checkKind v.path v.rule.kind : ExceptT RuleError Id RuleKind)).or
        ((faultOf? (RuleDef.checkSelector RuleDef.knows v.path v.rule.selector)).or
          ((v.finds .missingAttributeName).or (v.finds .missingChildRules))) := by
  have first : v.finds .duplicateField = none := if_neg new
  have groups : Check.order = [.duplicateField] ++ (([.missingKind] ++ [.unknownKind]) ++
      (([.emptySelector] ++ [.invalidSelector]) ++
        ([.missingAttributeName] ++ [.missingChildRules]))) := rfl
  rw [mistake?, groups, faultOf?_checkKind, faultOf?_checkSelector]
  simp only [List.findSome?_append, List.findSome?_singleton, first, Option.none_or]

theorem mistake?_of_old (old : v.name ∈ v.earlier) :
    v.mistake? = some (.duplicateField v.path) := by
  have first : v.finds .duplicateField = some (.duplicateField v.path) := if_pos old
  rw [mistake?, Check.order, List.findSome?_cons, first]

end Visit

theorem RuleDef.visits_of_ne {d : RuleDef} (other : d.knownKind? ≠ some .list)
    (names : List String) : d.visits names = [] := by
  cases d with
  | mk kind selector attributeName childRules =>
    rw [RuleDef.visits]
    exact if_neg other

theorem RuleDef.visits_of_list {d : RuleDef} (list : d.knownKind? = some .list)
    (names : List String) : d.visits names = RuleSetDef.visitsOf names d.childRules := by
  cases d with
  | mk kind selector attributeName childRules =>
    rw [RuleDef.visits]
    exact if_pos list

/-- Whether the rule of a visit is refused for its own first mistake, or else for the first one
inside it. -/
def Visit.NamesFirst (v : Visit) : Prop :=
  faultOf? (v.rule.validate RuleDef.knows v.path) =
    v.mistake?.or ((v.rule.visits v.names).findSome? Visit.mistake?)

/-- A rule with a new name is refused for the first mistake, as long as the rule set inside is. -/
theorem RuleDef.namesFirst_mk {given : Option String} {selector : String}
    {attributeName : Option String} {childRules : Option RuleSetDef} {above earlier : List String}
    {name : String} (new : name ∉ earlier)
    (inner : ∀ children, childRules = some children →
      faultOf? (children.validate RuleDef.knows (Visit.pathOf (above ++ [name]))) =
        (children.visits (above ++ [name])).findSome? Visit.mistake?) :
    (⟨above, earlier, name, .mk given selector attributeName childRules⟩ : Visit).NamesFirst := by
  let v : Visit := ⟨above, earlier, name, .mk given selector attributeName childRules⟩
  show v.NamesFirst
  rw [Visit.NamesFirst, Visit.mistake?_of_new new, Option.or_assoc, Option.or_assoc,
    RuleDef.validate]
  refine faultOf?_bind_of_forall fun kind passed => faultOf?_bind_of_forall fun trimmed _ => ?_
  have known : v.rule.knownKind? = some kind := checkKind_eq_ok_iff.mp passed
  -- What is left is what the kind needs, and for a list rule what is inside it.
  cases kind with
  | text =>
    have attr : v.rule.knownKind? ≠ some .attr := by simp [known]
    have list : v.rule.knownKind? ≠ some .list := by simp [known]
    rw [Visit.finds_missingAttributeName attr, Visit.finds_missingChildRules list,
      visits_of_ne list]
    rfl
  | attr =>
    have list : v.rule.knownKind? ≠ some .list := by simp [known]
    rw [Visit.finds_missingChildRules list, visits_of_ne list, Option.or_none,
      ← Visit.faultOf?_checkAttributeName known]
    exact (faultOf?_bind_of_passes fun _ => rfl).trans Option.or_none.symm
  | list =>
    have attr : v.rule.knownKind? ≠ some .attr := by simp [known]
    rw [Visit.finds_missingAttributeName attr, Option.none_or, visits_of_list known]
    cases childRules with
    | none =>
      have missing : v.finds .missingChildRules = some (.missingChildRules v.path) :=
        if_pos ⟨known, rfl⟩
      rw [missing]
      rfl
    | some children =>
      have present : v.finds .missingChildRules = none := if_neg fun h => Bool.false_ne_true h.2
      rw [present, Option.none_or]
      exact (faultOf?_bind_of_passes fun _ => rfl).trans (inner children rfl)

/-- A list of fields is refused for the first mistake, as long as each of its rules is. -/
theorem RuleSetDef.faultOf?_validateFields {fields : List (String × RuleDef)}
    (inner : ∀ field ∈ fields, ∀ above earlier name, name ∉ earlier →
      (⟨above, earlier, name, field.2⟩ : Visit).NamesFirst) (above seen : List String) :
    faultOf? (RuleSetDef.validateFields RuleDef.knows (Visit.pathOf above) seen fields) =
      (RuleSetDef.visitsOfFields above seen fields).findSome? Visit.mistake? := by
  induction fields generalizing seen with
  | nil => rfl
  | cons field rest ih =>
    obtain ⟨name, rule⟩ := field
    obtain ⟨here, later⟩ := List.forall_mem_cons.mp inner
    let v : Visit := ⟨above, seen, name, rule⟩
    have path : fieldPath (Visit.pathOf above) name = v.path := Visit.fieldPath_pathOf above name
    have split : (visitsOfFields above seen ((name, rule) :: rest)).findSome? Visit.mistake? =
        (v.mistake?.or ((rule.visits v.names).findSome? Visit.mistake?)).or
          ((visitsOfFields above (name :: seen) rest).findSome? Visit.mistake?) := by
      rw [visitsOfFields, List.cons_append, ← List.singleton_append, List.findSome?_append,
        List.findSome?_append, List.findSome?_singleton, Option.or_assoc]
      rfl
    rw [RuleSetDef.validateFields, split, path]
    split
    next old =>
      rw [Visit.mistake?_of_old old]
      rfl
    next new =>
      have first : v.NamesFirst := here above seen name new
      rw [← first]
      refine faultOf?_bind_of_forall fun _ _ => ?_
      rw [← ih later]
      exact faultOf?_bind_of_passes fun _ => rfl

/-- A definition is refused for the first mistake at the rules that are visited. -/
theorem RuleSetDef.faultOf?_validate : ∀ (d : RuleSetDef) (above : List String),
    faultOf? (d.validate RuleDef.knows (Visit.pathOf above)) =
      (d.visits above).findSome? Visit.mistake? := by
  refine RuleSetDef.of_hereditary (P := fun d => ∀ above earlier name, name ∉ earlier →
    (⟨above, earlier, name, d⟩ : Visit).NamesFirst) ⟨?_, ?_⟩
  · intro kind selector attributeName childRules inner above earlier name new
    exact RuleDef.namesFirst_mk new fun children h => inner children h _
  · intro fields inner above
    rw [RuleSetDef.validate, RuleSetDef.visits, ← RuleSetDef.faultOf?_validateFields inner]
    exact faultOf?_bind_of_passes fun _ => rfl

open Css.Cache

theorem RuleSetDef.run_validate_eq_error_iff {d : RuleSetDef} {cache : Css.Cache}
    (sound : cache.Sound) {e : RuleError} :
    ((d.validate compiles "").run.run cache).1 = .error e ↔
      (d.visits []).findSome? Visit.mistake? = some e := by
  have visits : faultOf? (d.validate RuleDef.knows "") = _ := RuleSetDef.faultOf?_validate d []
  rw [(RuleSetDef.agrees_validate d "" cache sound).1, ← visits]
  exact faultOf?_eq_some_iff.symm

/-- Whatever a sound cache holds, validation refuses a definition with a mistake exactly if that is
its first one: what the first check finds that finds something, at the first rule in the order of
the text at which any check does. -/
theorem RuleSetDef.validate_eq_error_iff (d : RuleSetDef) {cache : Css.Cache}
    (sound : cache.Sound) (e : RuleError) :
    ((d.validate compiles "").run.run cache).1 = .error e ↔ ∃ v, d.FirstMistake v e := by
  rw [RuleSetDef.run_validate_eq_error_iff sound]
  exact RuleSetDef.findSome?_mistake?_eq_some_iff

/-- A list rule inside which two rules are wrong, and another one of its name. -/
def RuleSetDef.crooked : RuleSetDef :=
  .mk [("list", .mk (some "List") " li " none (some (.mk [
      ("link", .mk (some "attr") "a" (some "href") none),
      ("image", .mk (some " Picture ") "" none none),
      ("link", .mk none "" none none)]))),
    ("list", .mk (some "list") "" none none)]

/-- The kind is looked at before the selector, and what comes later not at all. -/
theorem RuleSetDef.validate_eq_error_iff_crooked :
    Css.Cache.empty.Sound ∧ ((crooked.validate compiles "").run.run .empty).1 =
      .error (.unknownKind "list.image" " Picture ") := by
  refine ⟨sound_empty, (RuleSetDef.validate_eq_error_iff crooked sound_empty _).mpr ?_⟩
  exact RuleSetDef.findSome?_mistake?_eq_some_iff.mp (by decide +kernel)

end PageExtract
