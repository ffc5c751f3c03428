import PageExtract.Rule.Basic

/-!
# The rules of a rule set in order

A *way* leads from a rule set to a rule at any depth: it says which field to take in the rule set,
which one in the rules of the list rule found there, and so on.  As lists of numbers, ways are in
order by their first difference, and a way comes before those that go on from it.  So a rule comes
before the rules inside it, and these come before the rules of later fields.

`RuleSet.entries` lists all rules with their ways.  Each way that leads to a rule is there
(`RuleSet.mem_entries_iff`), in this order and so only once (`RuleSet.pairwise_entries`), and the
selectors of a rule set are those of its entries (`RuleSet.map_selector_entries`).
-/

namespace PageExtract

/-! ## Ways -/

/-- The rule that a way leads to from a rule. -/
def Rule.at? : Rule → List Nat → Option Rule
  | rule, [] => some rule
  | .list _ rules, i :: way => rules.fields[i]?.bind fun field => field.2.at? way
  | .text _, _ :: _ => none
  | .attr _ _, _ :: _ => none

/-- The rule that a way leads to from a rule set. -/
def RuleSet.at? (rules : RuleSet) : List Nat → Option Rule
  | [] => none
  | i :: way => rules.fields[i]?.bind fun field => field.2.at? way

/-! ## Entries -/

/-- A rule with the way to it. -/
abbrev RuleEntry := List Nat × Rule

/-- An entry inside the rule of a field, from where the field is. -/
def RuleEntry.under (i : Nat) (e : RuleEntry) : RuleEntry := (i :: e.1, e.2)

mutual

/-- A rule and the rules inside it. -/
def Rule.entries : Rule → List RuleEntry
  | .text selector => [([], .text selector)]
  | .attr selector name => [([], .attr selector name)]
  | .list selector rules => ([], .list selector rules) :: rules.entries

/-- The rules of a rule set, each followed by those inside it. -/
def RuleSet.entries : RuleSet → List RuleEntry
  | ⟨fields⟩ => RuleSet.entriesOfFields 0 fields

/-- The rules of a list of fields, of which the first has some number. -/
def RuleSet.entriesOfFields (i : Nat) : List (String × Rule) → List RuleEntry
  | [] => []
  | (_, rule) :: rest =>
    rule.entries.map (RuleEntry.under i) ++ RuleSet.entriesOfFields (i + 1) rest

end

/-! ### Selectors -/

mutual

theorem Rule.map_selector_entries : ∀ rule : Rule,
    rule.entries.map (fun e => e.2.selector) = rule.selectors
  | .text _ => rfl
  | .attr _ _ => rfl
  | .list selector rules => congrArg (selector :: ·) (RuleSet.map_selector_entries rules)

/-- The selectors of a rule set are those of its entries. -/
theorem RuleSet.map_selector_entries (rules : RuleSet) :
    rules.entries.map (fun e => e.2.selector) = rules.selectors := by
  cases rules with
  | mk fields => exact RuleSet.map_selector_entriesOfFields 0 fields

theorem RuleSet.map_selector_entriesOfFields : ∀ (i : Nat) (fields : List (String × Rule)),
    (RuleSet.entriesOfFields i fields).map (fun e => e.2.selector) =
      RuleSet.selectorsOfFields fields
  | _, [] => rfl
  | i, (_, rule) :: rest => by
    have first := Rule.map_selector_entries rule
    have later := RuleSet.map_selector_entriesOfFields (i + 1) rest
    rw [RuleSet.entriesOfFields, RuleSet.selectorsOfFields, List.map_append, List.map_map, later,
      ← first]
    rfl

end

/-! ### Each way that leads to a rule -/

mutual

theorem Rule.mem_entries_iff : ∀ {rule found : Rule} {way : List Nat},
    (way, found) ∈ rule.entries ↔ rule.at? way = some found
  | .text _, _, way | .attr _ _, _, way => by
    cases way <;> simp [Rule.entries, Rule.at?, eq_comm]
  | .list selector rules, found, way => by
    have inside : (way, found) ∈ rules.entries ↔ rules.at? way = some found :=
      RuleSet.mem_entries_iff
    cases way with
    | nil => simp [Rule.entries, Rule.at?, inside, RuleSet.at?, eq_comm]
    | cons i way => simp [Rule.entries, Rule.at?, inside, RuleSet.at?]

/-- The entries of a rule set are the ways that lead to a rule, each with that rule. -/
theorem RuleSet.mem_entries_iff : ∀ {rules : RuleSet} {found : Rule} {way : List Nat},
    (way, found) ∈ rules.entries ↔ rules.at? way = some found
  | ⟨fields⟩, found, way => by
    rw [RuleSet.entries, RuleSet.mem_entriesOfFields_iff]
    cases way with
    | nil => simp [RuleSet.at?]
    | cons i way => simp [RuleSet.at?, and_assoc]

theorem RuleSet.mem_entriesOfFields_iff : ∀ {fields : List (String × Rule)} {i : Nat}
    {found : Rule} {way : List Nat}, (way, found) ∈ RuleSet.entriesOfFields i fields ↔
      ∃ j rest, way = (i + j) :: rest ∧
        (fields[j]?.bind fun field => field.2.at? rest) = some found
  | [], _, _, _ => by simp [RuleSet.entriesOfFields]
  | (name, rule) :: fields, i, found, way => by
    have first (rest : List Nat) : (rest, found) ∈ rule.entries ↔ rule.at? rest = some found :=
      Rule.mem_entries_iff
    rw [RuleSet.entriesOfFields, List.mem_append, RuleSet.mem_entriesOfFields_iff, List.mem_map]
    constructor
    · rintro (⟨⟨rest, _⟩, mem, same⟩ | ⟨j, rest, rfl, leads⟩)
      · obtain ⟨rfl, rfl⟩ := Prod.mk.inj same
        exact ⟨0, rest, rfl, (first rest).mp mem⟩
      · exact ⟨j + 1, rest, by rw [Nat.add_right_comm, Nat.add_assoc], leads⟩
    · rintro ⟨j, rest, rfl, leads⟩
      cases j with
      | zero => exact .inl ⟨(rest, found), (first rest).mpr leads, rfl⟩
      | succ j => exact .inr ⟨j, rest, by rw [Nat.add_right_comm, Nat.add_assoc], leads⟩

end

/-! ### The order -/

theorem RuleSet.exists_of_mem_entriesOfFields {i : Nat} {fields : List (String × Rule)}
    {e : RuleEntry} (mem : e ∈ RuleSet.entriesOfFields i fields) :
    ∃ j rest, i ≤ j ∧ e.1 = j :: rest := by
  obtain ⟨j, rest, same, -⟩ := RuleSet.mem_entriesOfFields_iff.mp mem
  exact ⟨i + j, rest, Nat.le_add_right i j, same⟩

mutual

theorem Rule.pairwise_entries : ∀ rule : Rule, rule.entries.Pairwise fun e f => e.1 < f.1
  | .text _ => List.pairwise_singleton _ _
  | .attr _ _ => List.pairwise_singleton _ _
  | .list _ rules => by
    refine .cons (fun e mem => ?_) (RuleSet.pairwise_entries rules)
    cases rules with
    | mk fields =>
      obtain ⟨j, rest, -, same⟩ := RuleSet.exists_of_mem_entriesOfFields mem
      rw [same]
      exact List.Lex.nil

/-- The entries of a rule set are in the order of their ways. -/
theorem RuleSet.pairwise_entries (rules : RuleSet) :
    rules.entries.Pairwise fun e f => e.1 < f.1 := by
  cases rules with
  | mk fields => exact RuleSet.pairwise_entriesOfFields 0 fields

theorem RuleSet.pairwise_entriesOfFields : ∀ (i : Nat) (fields : List (String × Rule)),
    (RuleSet.entriesOfFields i fields).Pairwise fun e f => e.1 < f.1
  | _, [] => .nil
  | i, (_, rule) :: rest => by
    refine List.pairwise_append.mpr ⟨?_, RuleSet.pairwise_entriesOfFields (i + 1) rest, ?_⟩
    · refine List.pairwise_map.mpr ((Rule.pairwise_entries rule).imp fun before => ?_)
      exact List.Lex.cons before
    · intro e first f second
      obtain ⟨inside, -, rfl⟩ := List.mem_map.mp first
      obtain ⟨j, way, least, same⟩ := RuleSet.exists_of_mem_entriesOfFields second
      rw [same]
      exact List.Lex.rel (Nat.lt_of_succ_le least)

end

end PageExtract
