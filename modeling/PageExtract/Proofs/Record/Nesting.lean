import PageExtract.Proofs.CallDepth
import PageExtract.Proofs.Record.Text

/-!
# How deep records nest

A record is written as an object, and a list of records as an array of objects.  So each record
inside another takes two levels of the text.

A reader that enters no more than so many brackets inside each other reads a record from its texts
exactly if their value nests no deeper (`Record.parseWithin_eq_ok_iff`).  It does what the reader
without a limit does, but counts arrays as well as objects.
-/

namespace PageExtract

open Json

/-! ## Nesting of values -/

namespace Json

mutual

/-- How many brackets of a value stand in one another. -/
def Tree.nesting : Tree → Nat
  | .list items => Tree.nestingOfItems items + 1
  | .object members => Tree.nestingOfMembers members + 1
  | _ => 0

/-- The nesting of some values. -/
def Tree.nestingOfItems : List Tree → Nat
  | [] => 0
  | t :: rest => max t.nesting (Tree.nestingOfItems rest)

/-- The nesting of the values of some members. -/
def Tree.nestingOfMembers : List (String × Tree) → Nat
  | [] => 0
  | (_, t) :: rest => max t.nesting (Tree.nestingOfMembers rest)

end

theorem Tree.nesting_list_le {n : Nat} {items : List Tree} :
    (Tree.list items).nesting ≤ n + 1 ↔ ∀ t ∈ items, t.nesting ≤ n := by
  rw [Tree.nesting, Nat.add_le_add_iff_right]
  induction items with
  | nil => simp [Tree.nestingOfItems]
  | cons t rest ih => rw [Tree.nestingOfItems, Nat.max_le, ih, List.forall_mem_cons]

theorem Tree.nesting_object_le {n : Nat} {members : List (String × Tree)} :
    (Tree.object members).nesting ≤ n + 1 ↔ ∀ m ∈ members, m.2.nesting ≤ n := by
  rw [Tree.nesting, Nat.add_le_add_iff_right]
  induction members with
  | nil => simp [Tree.nestingOfMembers]
  | cons m rest ih => rw [Tree.nestingOfMembers, Nat.max_le, ih, List.forall_mem_cons]

end Json

theorem Value.nesting_list_le {n : Nat} {items : List Record} :
    (Value.list items).tree.nesting ≤ n + 1 ↔ ∀ r ∈ items, r.tree.nesting ≤ n := by
  rw [Value.tree, Tree.nesting_list_le, Value.treeItems_eq_map, List.forall_mem_map]

theorem Value.nesting_le {n : Nat} {v : Value} :
    v.tree.nesting ≤ n + 1 ↔ v.AllItems (·.tree.nesting ≤ n) := by
  cases v with
  | text s => exact iff_of_true (Nat.zero_le _) trivial
  | list items => exact Value.nesting_list_le

theorem Record.nesting_le {n : Nat} {r : Record} :
    r.tree.nesting ≤ n + 1 ↔ ∀ field ∈ r.fields, field.2.tree.nesting ≤ n := by
  obtain ⟨fields⟩ := r
  rw [Record.tree, Tree.nesting_object_le, Record.treeFields_eq_map, List.forall_mem_map]

theorem Record.nesting_pos (r : Record) : 0 < r.tree.nesting := by
  cases r with
  | mk fields =>
    rw [Record.tree, Tree.nesting]
    exact Nat.succ_pos _

/-! ## Reading with a limit -/

/-- Reads a text.  No list may be entered. -/
def Value.readFlat : Reader Value := fun c =>
  let c := c.skipSpace
  match c.rest with
  | '"' :: _ => (readString c).map fun (s, c) => (.text s, c)
  | '[' :: _ => c.faultAhead .nestedTooDeep
  | _ => wrongType Value.wanted c

mutual

/-- Reads a record in which that many brackets may stand in one another, its own included. -/
def Record.readWithin : Nat → Reader Record
  | 0 => inObject Record.wanted none
  | levels + 1 => inObject Record.wanted (some (Record.readFields (Value.readWithin levels)))

/-- Reads a value in which that many brackets may stand in one another. -/
def Value.readWithin : Nat → Reader Value
  | 0 => Value.readFlat
  | levels + 1 => Value.readWith (Record.readWithin levels)

end

/-- Reads the text of a record in which that many brackets may stand in one another. -/
def Record.parseWithin (levels : Nat) (text : String) : Except Fault Record :=
  readAll (Record.readWithin levels) text

theorem Value.reads_readFlat :
    Reads Value.readFlat fun v cs rest => Spells v.tree cs rest ∧ v.tree.nesting ≤ 0 where
  opens h := h.1.opens
  shorter h := h.1.length_lt
  gives_iff := by
    intro c v rest
    rw [exists_space_iff fun _ h => h.1.opens]
    constructor
    · rintro ⟨p, h⟩
      rw [Value.readFlat] at h
      dsimp only at h
      split at h
      next cs mark =>
        obtain ⟨s, given, rfl⟩ := map_eq_ok_iff.mp h
        rw [mark]
        exact ⟨.string ((readString_eq_ok_iff mark).mp ⟨p, given⟩), Nat.le_refl _⟩
      next => exact absurd h Cursor.faultAhead_ne_ok
      next => exact absurd h wrongType_ne_ok
    · rintro ⟨spelled, flat⟩
      generalize next : c.skipSpace.rest = a at spelled
      cases v with
      | text s =>
        cases spelled with
        | string content =>
          obtain ⟨p, given⟩ := (readString_eq_ok_iff next).mpr content
          exact ⟨p, by simp only [Value.readFlat, next, given, Except.map]⟩
      | list items =>
        rw [Value.tree, Tree.nesting] at flat
        exact absurd flat (Nat.not_succ_le_zero _)

mutual

/-- The reader with a limit reads what is spelled and nests no deeper. -/
theorem Record.reads_readWithin : ∀ levels, Reads (Record.readWithin levels)
    fun r cs rest => Spells r.tree cs rest ∧ r.tree.nesting ≤ levels
  | 0 => Record.reads_inObject_none fun r => Nat.not_le_of_lt r.nesting_pos
  | levels + 1 => by
    simp only [Record.nesting_le]
    exact Record.reads_inObject (Value.reads_readWithin levels)

theorem Value.reads_readWithin : ∀ levels, Reads (Value.readWithin levels)
    fun v cs rest => Spells v.tree cs rest ∧ v.tree.nesting ≤ levels
  | 0 => Value.reads_readFlat
  | levels + 1 => by
    simp only [Value.nesting_le]
    exact Value.reads_readWith (Record.reads_readWithin levels)

end

/-- With a limit a record is read from exactly the texts of its JSON value, if that nests no
deeper. -/
theorem Record.parseWithin_eq_ok_iff {levels : Nat} {text : String} {r : Record} :
    Record.parseWithin levels text = .ok r ↔ Denotes text r.tree ∧ r.tree.nesting ≤ levels := by
  rw [Record.parseWithin, readAll_eq_ok_iff]
  constructor
  · rintro ⟨rest, given, ends⟩
    obtain ⟨cs, space, spelled, few⟩ := (Record.reads_readWithin levels).gives_iff.mp given
    exact ⟨⟨cs, rest, space, spelled, ends⟩, few⟩
  · rintro ⟨⟨cs, rest, space, spelled, ends⟩, few⟩
    exact ⟨rest, (Record.reads_readWithin levels).gives_iff.mpr ⟨cs, space, spelled, few⟩, ends⟩

/-- Whether both texts of a record are JSON texts in which no more than so many brackets stand in
one another, and a reader that enters no more of them reads the record back. -/
def Record.ReadsBack (levels : Nat) (r : Record) : Prop :=
  ∀ text ∈ [r.compact, r.pretty],
    (∀ t, Denotes text t → t.nesting ≤ levels) ∧ Record.parseWithin levels text = .ok r

theorem Record.readsBack_of_nesting_le {levels : Nat} {r : Record}
    (few : r.tree.nesting ≤ levels) : r.ReadsBack levels := by
  have reads {text : String} (written : Denotes text r.tree) :
      (∀ t, Denotes text t → t.nesting ≤ levels) ∧ Record.parseWithin levels text = .ok r :=
    ⟨fun t other => other.unique written ▸ few, Record.parseWithin_eq_ok_iff.mpr ⟨written, few⟩⟩
  rw [Record.ReadsBack, List.forall_mem_cons, List.forall_mem_singleton]
  exact ⟨reads r.denotes_compact, reads r.denotes_pretty⟩

/-! ## Calls on records -/

/-- Whether a record is an item of a list in another. -/
def Record.Inside (r inner : Record) : Prop :=
  ∃ field ∈ r.fields, ∃ items, field.2 = .list items ∧ inner ∈ items

/-- The number of non-empty values in a value, from that of records. -/
def Value.filledWith (inner : Record → Nat) : Value → Nat
  | .text s => if s.isEmpty then 0 else 1
  | .list items => (if items.isEmpty then 0 else 1) + (items.map inner).foldr (· + ·) 0

/-- One call for the number of non-empty values in a record. -/
def Record.filledLayer (inner : Record → Nat) (r : Record) : Nat :=
  (r.fields.map fun field => field.2.filledWith inner).foldr (· + ·) 0

theorem Record.recurses_filled : Recurses Record.Inside Record.filledLayer Record.filled where
  unfolds := by
    rintro ⟨fields⟩
    rw [Record.filled, Record.filledLayer]
    have items_eq (items : List Record) :
        Value.filledItems items = (items.map Record.filled).foldr (· + ·) 0 := by
      induction items with
      | nil => rfl
      | cons r rest ih => rw [Value.filledItems, ih, List.map_cons, List.foldr_cons]
    induction fields with
    | nil => rfl
    | cons field rest ih =>
      rw [Record.filledFields, ih, List.map_cons, List.foldr_cons]
      cases field.2 with
      | text s => rfl
      | list items => rw [Value.filled, Value.filledWith, items_eq]
  asks := by
    intro g h r same
    refine congrArg (List.foldr (· + ·) 0) (List.map_congr_left fun field mem => ?_)
    cases value : field.2 with
    | text s => rfl
    | list items =>
      have inside : items.map g = items.map h :=
        List.map_congr_left fun inner within => same inner ⟨field, mem, items, value, within⟩
      rw [Value.filledWith, Value.filledWith, inside]

/-- What goes through a record calls itself once for every two levels of its text. -/
theorem Record.callsWithin {β : Type} {layer : (Record → β) → Record → β} {f : Record → β}
    (h : Recurses Record.Inside layer f) {n : Nat} {r : Record} (few : r.tree.nesting < 2 * n) :
    CallsWithin n layer f r := by
  have positive (r : Record) : 0 < (r.tree.nesting + 1) / 2 := by
    have := r.nesting_pos
    omega
  refine h.callsWithin positive (fun outer inner inside => ?_) (by omega)
  obtain ⟨field, mem, items, value, within⟩ := inside
  obtain ⟨n, deep⟩ := Nat.exists_eq_succ_of_ne_zero (Nat.ne_zero_of_lt outer.nesting_pos)
  have list := Record.nesting_le.mp (Nat.le_of_eq deep) field mem
  rw [value] at list
  cases n with
  | zero =>
    rw [Value.tree, Tree.nesting] at list
    exact absurd list (Nat.not_succ_le_zero _)
  | succ n =>
    have item := Value.nesting_list_le.mp list inner within
    rw [deep]
    omega

end PageExtract
