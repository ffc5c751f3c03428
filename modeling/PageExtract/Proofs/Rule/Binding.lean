import PageExtract.Rule.Basic

/-!
# Binding fields

A name that is not bound yet goes to the end of a rule set, so binding names that
differ lists them as they come (`ofList_of_nodup`).  No binding makes a name
occur twice, and a rule set in which none does, at any depth, stays one if the
rule that is bound is one inside (`distinct_insert`).
-/

namespace PageExtract.RuleSet

theorem bind_of_not_mem {field : String} {fields : List (String × Rule)}
    (new : field ∉ fields.map Prod.fst) (rule : Rule) :
    bind field rule fields = fields ++ [(field, rule)] := by
  induction fields with
  | nil => rfl
  | cons entry rest ih =>
    obtain ⟨name, old⟩ := entry
    simp only [List.map_cons, List.mem_cons, not_or] at new
    have differs : ¬ name = field := fun same => new.1 same.symm
    rw [bind, if_neg differs, ih new.2, List.cons_append]

theorem insertAll_of_nodup {before fields : List (String × Rule)}
    (distinct : ((before ++ fields).map Prod.fst).Nodup) :
    insertAll ⟨before⟩ fields = ⟨before ++ fields⟩ := by
  induction fields generalizing before with
  | nil => simp [insertAll]
  | cons field rest ih =>
    obtain ⟨name, rule⟩ := field
    have new : name ∉ before.map Prod.fst := by
      rw [List.map_append, List.map_cons] at distinct
      intro old
      exact (List.nodup_append.mp distinct).2.2 name old name (.head _) rfl
    have step : insert ⟨before⟩ name rule = ⟨before ++ [(name, rule)]⟩ := by
      rw [insert, bind_of_not_mem new]
    have tail : ((before ++ [(name, rule)] ++ rest).map Prod.fst).Nodup := by
      simpa using distinct
    calc insertAll ⟨before⟩ ((name, rule) :: rest)
        = insertAll ⟨before ++ [(name, rule)]⟩ rest := by rw [← step]; rfl
      _ = ⟨before ++ (name, rule) :: rest⟩ := by
        rw [ih tail, List.append_assoc, List.singleton_append]

/-- Fields with names of their own are what binding them makes. -/
theorem ofList_of_nodup {fields : List (String × Rule)}
    (distinct : (fields.map Prod.fst).Nodup) : ofList fields = ⟨fields⟩ := by
  have h : (([] ++ fields).map Prod.fst).Nodup := distinct
  exact insertAll_of_nodup h

/-! ## Names that do not occur twice -/

theorem distinctFields_iff (fields : List (String × Rule)) :
    DistinctFields fields ↔ ∀ field ∈ fields, field.2.Distinct := by
  induction fields with
  | nil => simp [DistinctFields]
  | cons field rest ih =>
    obtain ⟨name, rule⟩ := field
    simp only [DistinctFields, ih, List.forall_mem_cons]

theorem mem_bind {field : String} {rule : Rule} {fields : List (String × Rule)}
    {entry : String × Rule} (h : entry ∈ bind field rule fields) :
    entry ∈ fields ∨ entry.2 = rule := by
  induction fields with
  | nil =>
    have same : entry = (field, rule) := by simpa [bind] using h
    exact .inr (by rw [same])
  | cons first rest ih =>
    obtain ⟨name, old⟩ := first
    rw [bind] at h
    split at h
    next =>
      rcases List.mem_cons.mp h with here | later
      · exact .inr (by rw [here])
      · exact .inl (.tail _ later)
    next =>
      rcases List.mem_cons.mp h with here | later
      · exact .inl (by rw [here]; exact .head _)
      · exact (ih later).imp_left (.tail _)

/-- The rule set without fields has none twice. -/
theorem distinct_empty : empty.Distinct := by
  simp [empty, Distinct, DistinctFields]

/-- Binding a field keeps names from occurring twice, at every depth. -/
theorem distinct_insert {rules : RuleSet} (distinct : rules.Distinct) (field : String) {rule : Rule}
    (inside : rule.Distinct) : (rules.insert field rule).Distinct := by
  obtain ⟨fields⟩ := rules
  obtain ⟨names, below⟩ := distinct
  rw [distinctFields_iff] at below
  refine ⟨?_, (distinctFields_iff _).mpr ?_⟩
  · rw [map_fst_bind]
    split
    next => exact names
    next new =>
      rw [List.nodup_append]
      refine ⟨names, by simp, ?_⟩
      intro name old last h same
      rw [same, List.mem_singleton.mp h] at old
      exact new old
  · intro entry h
    rcases mem_bind h with old | bound
    · exact below entry old
    · exact bound ▸ inside

/-- Binding fields one after another makes no name occur twice. -/
theorem distinct_insertAll {rules : RuleSet} (distinct : rules.Distinct)
    {fields : List (String × Rule)} (inside : ∀ field ∈ fields, field.2.Distinct) :
    (rules.insertAll fields).Distinct := by
  induction fields generalizing rules with
  | nil => exact distinct
  | cons field rest ih =>
    obtain ⟨first, later⟩ := List.forall_mem_cons.mp inside
    exact ih (distinct_insert distinct field.1 first) later

end PageExtract.RuleSet
