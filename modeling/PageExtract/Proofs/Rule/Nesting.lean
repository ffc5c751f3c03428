import PageExtract.Proofs.Rule.Reading

/-!
# How deep definitions nest

Reading the definition of a rule set enters its object, the object or the list of each rule in it,
and the child rules of these in the same way.  The values of members with unknown names are passed,
so their brackets do not count, and a value of the wrong type is not entered.  `RuleSetDef.nesting`
is the number of brackets that are entered inside each other.

A limit on the levels matters only to what nests deeper: a definition that is read with some number
of levels is read with every other number that its nesting does not exceed
(`RuleSetDef.ofForm?_of_nesting_le`).
-/

namespace PageExtract

open Json

/-! ## Nesting -/

mutual

/-- How many brackets are entered inside each other where a form is read as a rule set. -/
def RuleSetDef.nesting : Form → Nat
  | .object members => RuleSetDef.nestingOfRules members + 1
  | _ => 0

/-- How many brackets are entered inside each other where a form is read as a rule. -/
def RuleDef.nesting : Form → Nat
  | .object members => RuleDef.nestingOfMembers members + 1
  | .list items => RuleDef.nestingOfItems 3 items + 1
  | _ => 0

/-- The nesting of the members of a rule set. -/
def RuleSetDef.nestingOfRules : List (Option String × Form) → Nat
  | [] => 0
  | (_, f) :: members => max (RuleDef.nesting f) (RuleSetDef.nestingOfRules members)

/-- The nesting of the members of a rule, of which only child rules are entered. -/
def RuleDef.nestingOfMembers : List (Option String × Form) → Nat
  | [] => 0
  | (name, f) :: members =>
      if name.bind RuleDef.Member.ofName? = some .childRules then
        max (RuleSetDef.nesting f) (RuleDef.nestingOfMembers members)
      else RuleDef.nestingOfMembers members

/-- The nesting of the item of a rule that has so many before it. -/
def RuleDef.nestingOfItems : Nat → List Form → Nat
  | _, [] => 0
  | 0, f :: _ => RuleSetDef.nesting f
  | n + 1, _ :: items => RuleDef.nestingOfItems n items

end

theorem RuleSetDef.nesting_object_le {levels : Nat} {members : List (Option String × Form)} :
    RuleSetDef.nesting (.object members) ≤ levels + 1 ↔
      ∀ m ∈ members, RuleDef.nesting m.2 ≤ levels := by
  rw [RuleSetDef.nesting, Nat.add_le_add_iff_right]
  induction members with
  | nil => simp [RuleSetDef.nestingOfRules]
  | cons m members ih =>
    rw [RuleSetDef.nestingOfRules, Nat.max_le, ih, List.forall_mem_cons]

theorem RuleDef.nesting_object_le {levels : Nat} {members : List (Option String × Form)} :
    RuleDef.nesting (.object members) ≤ levels + 1 ↔
      ∀ m ∈ members, m.1.bind Member.ofName? = some .childRules →
        RuleSetDef.nesting m.2 ≤ levels := by
  rw [RuleDef.nesting, Nat.add_le_add_iff_right]
  induction members with
  | nil => simp [RuleDef.nestingOfMembers]
  | cons m members ih =>
    rw [RuleDef.nestingOfMembers, List.forall_mem_cons, ← ih]
    split
    next known => rw [Nat.max_le, forall_prop_of_true known]
    next other => rw [forall_prop_of_false other, true_and]

theorem RuleDef.nesting_list_le {levels : Nat} {items : List Form} :
    RuleDef.nesting (.list items) ≤ levels + 1 ↔
      ∀ f, items[3]? = some f → RuleSetDef.nesting f ≤ levels := by
  rw [RuleDef.nesting, Nat.add_le_add_iff_right]
  match items with
  | [] | [_] | [_, _] | [_, _, _] => simp [RuleDef.nestingOfItems]
  | _ :: _ :: _ :: f :: _ => simp [RuleDef.nestingOfItems]

/-! ## Other limits -/

theorem Form.optional?_of_imp {α : Type} {value other : Form → Option α} {f : Form}
    (imp : ∀ x, value f = some x → other f = some x) {given : Option α}
    (read : f.optional? value = some given) : f.optional? other = some given := by
  by_cases null : f = .null
  · rw [null] at read ⊢
    exact read
  · obtain ⟨x, inside, rfl⟩ := Form.exists_of_optional? null read
    rw [Form.optional?_of_ne_null null, imp x inside]
    rfl

theorem RuleSetDef.ofMembers?_of_imp {rule other : Form → Option RuleDef}
    {members : List (Option String × Form)}
    (imp : ∀ m ∈ members, ∀ d, rule m.2 = some d → other m.2 = some d) {d : RuleSetDef}
    (read : RuleSetDef.ofMembers? rule members = some d) :
    RuleSetDef.ofMembers? other members = some d := by
  obtain ⟨fields, taken, rfl⟩ := Option.map_eq_some_iff.mp read
  refine Option.map_eq_some_iff.mpr ⟨fields, ?_, rfl⟩
  clear read
  induction members generalizing fields with
  | nil => exact taken
  | cons m members ih =>
    obtain ⟨here, later⟩ := List.forall_mem_cons.mp imp
    rw [List.mapM_cons] at taken ⊢
    obtain ⟨field, first, taken⟩ := Option.bind_eq_some_iff.mp taken
    obtain ⟨rest, others, same⟩ := Option.bind_eq_some_iff.mp taken
    obtain ⟨name, named, first⟩ := Option.bind_eq_some_iff.mp first
    obtain ⟨rule, given, rfl⟩ := Option.map_eq_some_iff.mp first
    have field : field? other m = some (name, rule) := by
      rw [field?, named, Option.bind_some, here rule given]
      rfl
    rw [field, ih later rest others]
    exact same

namespace RuleDef

variable {children other : Form → Option RuleSetDef} {d : RuleDef}

/-- Of the members of a rule only child rules depend on how rule sets are read. -/
theorem Draft.member?_of_imp {start next : Draft} {m : Option String × Form}
    (imp : m.1.bind Member.ofName? = some .childRules →
      ∀ d, children m.2 = some d → other m.2 = some d)
    (read : named? (Draft.member? children) start m = some next) :
    named? (Draft.member? other) start m = some next := by
  obtain ⟨name, f⟩ := m
  cases name with
  | none => exact read
  | some name =>
    rw [named?, Draft.member?] at read ⊢
    cases known : Member.ofName? name with
    | none =>
      rw [known] at read
      exact read
    | some member =>
      rw [known] at read
      cases member with
      | kind | selector | attributeName => exact read
      | childRules =>
        obtain ⟨e, entry, added⟩ := Option.bind_eq_some_iff.mp read
        obtain ⟨value, given, rfl⟩ := Option.map_eq_some_iff.mp entry
        have given := Form.optional?_of_imp (imp known) given
        rw [Option.bind_eq_some_iff]
        exact ⟨_, congrArg (Option.map Entry.childRules) given, added⟩

theorem ofMembers?_of_imp {members : List (Option String × Form)}
    (imp : ∀ m ∈ members, m.1.bind Member.ofName? = some .childRules →
      ∀ d, children m.2 = some d → other m.2 = some d)
    (read : ofMembers? children members = some d) : ofMembers? other members = some d := by
  obtain ⟨draft, taken, rfl⟩ := Option.map_eq_some_iff.mp read
  refine Option.map_eq_some_iff.mpr ⟨draft, ?_, rfl⟩
  clear read
  generalize ({} : Draft) = start at taken ⊢
  induction members generalizing start with
  | nil => exact taken
  | cons m members ih =>
    obtain ⟨here, later⟩ := List.forall_mem_cons.mp imp
    rw [List.foldlM_cons] at taken ⊢
    obtain ⟨between, first, taken⟩ := Option.bind_eq_some_iff.mp taken
    rw [Draft.member?_of_imp here first]
    exact ih later between taken

theorem ofItems?_of_imp {items : List Form}
    (imp : ∀ f, items[3]? = some f → ∀ d, children f = some d → other f = some d)
    (read : ofItems? children items = some d) : ofItems? other items = some d := by
  obtain ⟨kind, first, read⟩ := Option.bind_eq_some_iff.mp read
  obtain ⟨selector, second, read⟩ := Option.bind_eq_some_iff.mp read
  obtain ⟨attributeName, third, read⟩ := Option.bind_eq_some_iff.mp read
  obtain ⟨childRules, fourth, read⟩ := Option.bind_eq_some_iff.mp read
  have fourth : Form.first? (Form.optional? other) items.tail.tail.tail = some childRules := by
    match items with
    | [] | [_] | [_, _] | [_, _, _] => exact fourth
    | _ :: _ :: _ :: f :: _ =>
      obtain ⟨value, given, rfl⟩ := Option.map_eq_some_iff.mp fourth
      exact congrArg (Option.map some) (Form.optional?_of_imp (imp f rfl) given)
  rw [ofItems?, first, Option.bind_eq_bind, Option.bind_some, second, Option.bind_eq_bind,
    Option.bind_some, third, Option.bind_eq_bind, Option.bind_some, fourth]
  exact read

end RuleDef

mutual

/-- What is read with some levels is read with so many if it nests no deeper. -/
theorem RuleSetDef.ofForm?_of_nesting_le : ∀ {levels other : Nat} {f : Form} {d : RuleSetDef},
    RuleSetDef.ofForm? levels f = some d → RuleSetDef.nesting f ≤ other →
      RuleSetDef.ofForm? other f = some d
  | _ + 1, 0, .object _, _, _, few => absurd few (Nat.not_succ_le_zero _)
  | _ + 1, _ + 1, .object _, _, read, few =>
    RuleSetDef.ofMembers?_of_imp (fun m mem _ given =>
      RuleDef.ofForm?_of_nesting_le given (RuleSetDef.nesting_object_le.mp few m mem)) read

theorem RuleDef.ofForm?_of_nesting_le : ∀ {levels other : Nat} {f : Form} {d : RuleDef},
    RuleDef.ofForm? levels f = some d → RuleDef.nesting f ≤ other →
      RuleDef.ofForm? other f = some d
  | _ + 1, 0, .object _, _, _, few => absurd few (Nat.not_succ_le_zero _)
  | _ + 1, 0, .list _, _, _, few => absurd few (Nat.not_succ_le_zero _)
  | _ + 1, _ + 1, .object _, _, read, few =>
    RuleDef.ofMembers?_of_imp (fun m mem child _ given =>
      RuleSetDef.ofForm?_of_nesting_le given (RuleDef.nesting_object_le.mp few m mem child)) read
  | _ + 1, _ + 1, .list _, _, read, few =>
    RuleDef.ofItems?_of_imp (fun f here _ given =>
      RuleSetDef.ofForm?_of_nesting_le given (RuleDef.nesting_list_le.mp few f here)) read

end

end PageExtract
