import PageExtract.Proofs.Rule.FirstMistake

/-!
# The path of a mistake

A mistake names the rule that it is found at by a path.  The path is built from the outermost
rule set inward, and an empty path is taken for the place where no name has come yet.  So empty
names at the start of the way leave no trace: the path consists of the other names, with dots
between them (`Visit.pathOf_eq`).

Names without dots can be read off what they are joined to, up to that.  Two rules therefore
have one path exactly if the names on the way to them are the same from the first that is not
empty (`Visit.pathOf_eq_iff`).
-/

namespace PageExtract

/-! ## Names with dots between them -/

/-- Names with dots between them. -/
def dotted (names : List String) : String := ".".intercalate names

theorem dotted_cons_cons (first second : String) (rest : List String) :
    dotted (first :: second :: rest) = first ++ "." ++ dotted (second :: rest) :=
  String.intercalate_cons_cons

theorem dotted_cons_ne {first : String} (filled : first ≠ "") (rest : List String) :
    dotted (first :: rest) ≠ "" := by
  cases rest with
  | nil => exact filled
  | cons second rest =>
    rw [dotted_cons_cons]
    simp

theorem length_dotted_cons (first : String) {rest : List String} (more : rest ≠ []) :
    (dotted (first :: rest)).length = first.length + 1 + (dotted rest).length := by
  cases rest with
  | nil => exact absurd rfl more
  | cons second rest =>
    rw [dotted_cons_cons, String.length_append, String.length_append]
    rfl

/-- Names without dots can be read off. -/
theorem dotted_injective {names others : List String} (given : names ≠ []) (given' : others ≠ [])
    (plain : ∀ name ∈ names, '.' ∉ name.toList) (plain' : ∀ name ∈ others, '.' ∉ name.toList)
    (same : dotted names = dotted others) : names = others := by
  have read {names : List String} (given : names ≠ [])
      (plain : ∀ name ∈ names, '.' ∉ name.toList) :
      (dotted names).toList.splitOn '.' = names.map String.toList := by
    rw [dotted, String.toList_intercalate]
    refine List.splitOn_intercalate '.' ?_ (fun none => given (List.map_eq_nil_iff.mp none))
    exact List.forall_mem_map.mpr plain
  have lists : names.map String.toList = others.map String.toList := by
    rw [← read given plain, ← read given' plain', same]
  exact (List.map_inj_right fun _ _ => String.toList_inj.mp).mp lists

namespace Visit

/-- The names from the first that is not empty. -/
def shown (names : List String) : List String := names.dropWhile (· = "")

theorem shown_of_ne {first : String} (filled : first ≠ "") (rest : List String) :
    shown (first :: rest) = first :: rest :=
  List.dropWhile_cons_of_neg (by simpa using filled)

theorem foldl_fieldPath {first : String} (filled : first ≠ "") (rest : List String) :
    rest.foldl fieldPath first = dotted (first :: rest) := by
  induction rest generalizing first with
  | nil => rfl
  | cons second rest ih =>
    have longer : fieldPath first second = first ++ "." ++ second := by
      rw [fieldPath, if_neg (by simpa using filled)]
    have filled' : first ++ "." ++ second ≠ "" := by simp
    rw [List.foldl_cons, longer, ih filled']
    -- Joining takes the first two names together and goes on from there.
    rfl

/-- The path that some names lead to. -/
theorem pathOf_eq (names : List String) : pathOf names = dotted (shown names) := by
  induction names with
  | nil => rfl
  | cons first rest ih =>
    have here : fieldPath "" first = first := rfl
    rw [pathOf, List.foldl_cons, here]
    by_cases empty : first = ""
    · subst empty
      exact ih
    · rw [foldl_fieldPath empty, shown_of_ne empty]

theorem dotted_shown_eq_empty_iff {names : List String} :
    dotted (shown names) = "" ↔ shown names = [] := by
  induction names with
  | nil => exact iff_of_true rfl rfl
  | cons first rest ih =>
    by_cases empty : first = ""
    · subst empty
      exact ih
    · rw [shown_of_ne empty]
      exact iff_of_false (dotted_cons_ne empty rest) (List.cons_ne_nil first rest)

/-- Two paths without dots in their names are equal exactly if the names are, from the first that
is not empty. -/
theorem pathOf_eq_iff {names others : List String} (plain : ∀ name ∈ names, '.' ∉ name.toList)
    (plain' : ∀ name ∈ others, '.' ∉ name.toList) :
    pathOf names = pathOf others ↔ shown names = shown others := by
  rw [pathOf_eq, pathOf_eq]
  refine ⟨fun same => ?_, congrArg dotted⟩
  by_cases given : shown names = []
  · have none : dotted (shown others) = "" := by
      rw [← same, given]
      rfl
    rw [given, dotted_shown_eq_empty_iff.mp none]
  · have given' : shown others ≠ [] := fun none =>
      given (dotted_shown_eq_empty_iff.mp (same.trans (congrArg dotted none)))
    have part (names : List String) : shown names ⊆ names := (List.dropWhile_suffix _).subset
    exact dotted_injective given given' (fun name h => plain name (part names h))
      (fun name h => plain' name (part others h)) same

theorem length_dotted_shown_le (names : List String) :
    (dotted (shown names)).length ≤ (dotted names).length := by
  induction names with
  | nil => exact Nat.le_refl _
  | cons first rest ih =>
    by_cases empty : first = ""
    · subst empty
      have shorter : shown ("" :: rest) = shown rest := rfl
      have longer : (dotted rest).length ≤ (dotted ("" :: rest)).length := by
        by_cases more : rest = []
        · subst more
          exact Nat.le_refl _
        · rw [length_dotted_cons "" more]
          exact Nat.le_add_left _ _
      rw [shorter]
      exact Nat.le_trans ih longer
    · exact Nat.le_of_eq (congrArg (fun l => (dotted l).length) (shown_of_ne empty rest))

/-- The path of a rule has all names on the way to it exactly if the outermost rule around it, if
there is one, has a name that is not empty. -/
theorem path_eq_dotted_iff {v : Visit} : v.path = dotted v.names ↔ v.above.head? ≠ some "" := by
  rw [path, pathOf_eq, names]
  cases v.above with
  | nil =>
    by_cases empty : v.name = ""
    · rw [empty]
      exact iff_of_true rfl nofun
    · rw [List.nil_append, shown_of_ne empty]
      exact iff_of_true rfl nofun
  | cons first rest =>
    rw [List.cons_append, List.head?_cons]
    by_cases empty : first = ""
    · subst empty
      refine iff_of_false ?_ (fun filled => filled rfl)
      intro same
      have shorter : shown ("" :: (rest ++ [v.name])) = shown (rest ++ [v.name]) := rfl
      have length := congrArg String.length same
      rw [length_dotted_cons "" (by simp), shorter] at length
      have le := length_dotted_shown_le (rest ++ [v.name])
      omega
    · rw [shown_of_ne empty]
      exact iff_of_true rfl (fun same => empty (Option.some.inj same))

/-- Names without dots can be read off two paths that have all of them. -/
theorem names_eq_of_path_eq {v u : Visit} (whole : v.above.head? ≠ some "")
    (whole' : u.above.head? ≠ some "") (plain : ∀ name ∈ v.names, '.' ∉ name.toList)
    (plain' : ∀ name ∈ u.names, '.' ∉ name.toList) (same : v.path = u.path) :
    v.names = u.names := by
  have given (w : Visit) : w.names ≠ [] := List.concat_ne_nil _ _
  rw [path_eq_dotted_iff.mpr whole, path_eq_dotted_iff.mpr whole'] at same
  exact dotted_injective (given v) (given u) plain plain' same

/-- What a check finds wrong with a rule names the path of the rule. -/
theorem field?_of_finds {v : Visit} {check : Check} {e : RuleError}
    (h : v.finds check = some e) : e.field? = some v.path := by
  cases check with
  | unknownKind =>
    rw [finds, Option.bind_eq_some_iff] at h
    obtain ⟨kind, _, h⟩ := h
    rw [Option.ite_none_right_eq_some] at h
    cases h.2
    rfl
  | _ =>
    rw [finds, Option.ite_none_right_eq_some] at h
    cases h.2
    rfl

theorem Offends.field? {v : Visit} {e : RuleError} (h : v.Offends e) :
    e.field? = some v.path := by
  obtain ⟨_, _, _, _, _, finds⟩ := h
  exact field?_of_finds finds

end Visit

open Css.Cache

/-- Whatever a sound cache holds, a definition that is refused is refused at the path of the rule
with the first mistake: the names on the way to it, from the first that is not empty, with dots
between them.  All names are there exactly if the outermost of the rules around it has a name that
is not empty, or there is none.  Two rules whose names have no dots have one path exactly if their
names are the same from the first that is not empty, and all of them are if both paths are whole. -/
theorem RuleSetDef.field?_of_validate_eq_error (d : RuleSetDef) {cache : Css.Cache}
    (sound : cache.Sound) {e : RuleError}
    (refused : ((d.validate compiles "").run.run cache).1 = .error e) :
    ∃ v, d.FirstMistake v e ∧
      e.field? = some (".".intercalate (v.names.dropWhile (· = ""))) ∧
      (e.field? = some (".".intercalate v.names) ↔ v.above.head? ≠ some "") ∧
      ∀ (other : RuleSetDef) (u : Visit) (e' : RuleError), other.FirstMistake u e' →
        (∀ name ∈ v.names, '.' ∉ name.toList) → (∀ name ∈ u.names, '.' ∉ name.toList) →
          (e.field? = e'.field? ↔
            v.names.dropWhile (· = "") = u.names.dropWhile (· = "")) ∧
          (v.above.head? ≠ some "" → u.above.head? ≠ some "" → e.field? = e'.field? →
            v.names = u.names) := by
  rw [RuleSetDef.run_validate_eq_error_iff sound, RuleSetDef.findSome?_mistake?_eq_some_iff]
    at refused
  obtain ⟨v, first⟩ := refused
  have field {d : RuleSetDef} {v : Visit} {e : RuleError} (first : d.FirstMistake v e) :
      e.field? = some v.path := by
    obtain ⟨_, _, _, _, offends⟩ := first
    exact offends.field?
  refine ⟨v, first, ?_, ?_, ?_⟩
  · rw [field first, Visit.path, Visit.pathOf_eq]
    rfl
  · rw [field first, Option.some.injEq]
    exact Visit.path_eq_dotted_iff
  · intro other u e' first' plain plain'
    rw [field first, field first', Option.some.injEq]
    exact ⟨Visit.pathOf_eq_iff plain plain', fun whole whole' same =>
      Visit.names_eq_of_path_eq whole whole' plain plain' same⟩

/-- Lists inside one another, the second of them without a name, with a mistake inside. -/
def RuleSetDef.nameless : RuleSetDef :=
  .mk [("a", .mk (some "list") "ul" none (some (.mk [
    ("", .mk (some "list") "li" none (some (.mk [("b", .mk none "p" none none)])))])))]

/-- A name that is empty is there unless it is at the start. -/
theorem RuleSetDef.field?_of_validate_eq_error_nameless :
    Css.Cache.empty.Sound ∧
      ((nameless.validate compiles "").run.run .empty).1 = .error (.missingKind "a..b") ∧
      ∃ v, nameless.FirstMistake v (.missingKind "a..b") ∧
        some "a..b" = some (".".intercalate (v.names.dropWhile (· = ""))) := by
  have refused : ((nameless.validate compiles "").run.run .empty).1 =
      .error (.missingKind "a..b") :=
    (RuleSetDef.run_validate_eq_error_iff sound_empty).mpr (by decide +kernel)
  obtain ⟨v, first, path, _⟩ :=
    RuleSetDef.field?_of_validate_eq_error nameless sound_empty refused
  exact ⟨sound_empty, refused, v, first, path⟩

/-- A mistake inside a list without a name at the outside is named as if there were no list. -/
theorem RuleSetDef.field?_of_outer_nameless :
    let rule : RuleDef := .mk none "x" none none
    let d : RuleSetDef := .mk [("", .mk (some "list") "li" none (some (.mk [("a", rule)])))]
    ((d.validate compiles "").run.run .empty).1 = .error (.missingKind "a") ∧
      ∃ v, d.FirstMistake v (.missingKind "a") ∧ v.names = ["", "a"] ∧
        (RuleError.missingKind "a").field? ≠ some (".".intercalate v.names) := by
  intro rule d
  refine ⟨(RuleSetDef.run_validate_eq_error_iff sound_empty).mpr (by decide +kernel), ?_⟩
  let v : Visit := ⟨[""], [], "a", rule⟩
  let list : Visit := ⟨[], [], "", .mk (some "list") "li" none (some (.mk [("a", rule)]))⟩
  have passes : list.Passes := Visit.mistake?_eq_none_iff.mp (by decide +kernel)
  have offends : v.Offends (.missingKind "a") := Visit.mistake?_eq_some_iff.mp (by decide +kernel)
  have visits : d.visits [] = [list] ++ v :: [] := by rfl
  exact ⟨v, ⟨[list], [], visits, List.forall_mem_singleton.mpr passes, offends⟩, rfl, by decide⟩

end PageExtract
