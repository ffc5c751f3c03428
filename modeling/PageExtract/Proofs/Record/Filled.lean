import PageExtract.Proofs.Record.Text

/-!
# Filled values and the text of a record

The JSON text of a record denotes one value, and what is filled in the record can be counted there.
The *parts* of a JSON value are the value itself and all values inside it, at any depth.  A text
that is not empty counts where it is the value of a member, so names of members do not count.  An
array counts wherever it stands, if it has an item, whatever that item is.

The count of a record is a sum along its fields, and so is the count of its JSON value
(`Record.filled_eq_filledIn`).  A sum is zero if each of its parts is, and a list with an item
counts at least itself (`Value.filled_eq_zero_iff`).
-/

namespace PageExtract

namespace Json

mutual

/-- A value and all values inside it. -/
def Tree.parts : Tree → List Tree
  | .null => [.null]
  | .boolean value => [.boolean value]
  | .number written => [.number written]
  | .string content => [.string content]
  | .list items => .list items :: Tree.partsOfItems items
  | .object members => .object members :: Tree.partsOfMembers members

/-- All values in a list of values. -/
def Tree.partsOfItems : List Tree → List Tree
  | [] => []
  | t :: rest => t.parts ++ Tree.partsOfItems rest

/-- All values in a list of members. -/
def Tree.partsOfMembers : List (String × Tree) → List Tree
  | [] => []
  | (_, t) :: rest => t.parts ++ Tree.partsOfMembers rest

end

namespace Tree

/-- The members of a value that is an object. -/
def members : Tree → List (String × Tree)
  | .object members => members
  | _ => []

/-- Whether a value is a string with a character in it. -/
def isFilledString : Tree → Bool
  | .string content => !content.isEmpty
  | _ => false

/-- Whether a value is an array with an item in it. -/
def isFilledList : Tree → Bool
  | .list items => !items.isEmpty
  | _ => false

/-- The number of members among some values whose value is a string that is not empty. -/
def filledStrings (parts : List Tree) : Nat :=
  (parts.flatMap members).countP fun m => m.2.isFilledString

/-- The number of arrays among some values that are not empty. -/
def filledLists (parts : List Tree) : Nat := parts.countP isFilledList

/-- What is filled among some values. -/
def filledIn (parts : List Tree) : Nat := filledStrings parts + filledLists parts

theorem filledIn_append (parts more : List Tree) :
    filledIn (parts ++ more) = filledIn parts + filledIn more := by
  simp only [filledIn, filledStrings, filledLists, List.flatMap_append, List.countP_append]
  omega

theorem filledIn_string (content : String) : filledIn [.string content] = 0 := rfl

theorem filledIn_list (items : List Tree) :
    filledIn [.list items] = if items.isEmpty then 0 else 1 := by
  cases items <;> rfl

theorem filledIn_object (ms : List (String × Tree)) :
    filledIn [.object ms] = ms.countP fun m => m.2.isFilledString := by
  simp [filledIn, filledStrings, filledLists, members, isFilledList]

theorem filledIn_cons (t : Tree) (parts : List Tree) :
    filledIn (t :: parts) = filledIn [t] + filledIn parts :=
  filledIn_append [t] parts

end Tree

end Json

open Json

/-! ## Counting in records and in their values -/

mutual

/-- A value counts what is inside it, and itself if it is a text. -/
theorem Value.filled_eq_filledIn : ∀ v : Value,
    v.filled = (if v.tree.isFilledString then 1 else 0) + Tree.filledIn v.tree.parts
  | .text content => by
    cases h : content.isEmpty <;>
      simp [Value.filled, Value.tree, Tree.isFilledString, Tree.parts, Tree.filledIn_string, h]
  | .list items => by
    have same : (Value.treeItems items).isEmpty = items.isEmpty := by
      rw [Value.treeItems_eq_map, List.isEmpty_map]
    have no_string : (Tree.list (Value.treeItems items)).isFilledString = false := rfl
    rw [Value.filled, Value.tree, no_string, if_neg Bool.false_ne_true, Nat.zero_add, Tree.parts,
      Tree.filledIn_cons, Tree.filledIn_list, same, Value.filledItems_eq_filledIn items]

theorem Value.filledItems_eq_filledIn : ∀ items : List Record,
    Value.filledItems items = Tree.filledIn (Tree.partsOfItems (Value.treeItems items))
  | [] => rfl
  | r :: rest => by
    rw [Value.filledItems, Value.treeItems, Tree.partsOfItems, Tree.filledIn_append,
      Record.filled_eq_filledIn r, Value.filledItems_eq_filledIn rest]

/-- As much is filled in a record as in its JSON value. -/
theorem Record.filled_eq_filledIn : ∀ r : Record, r.filled = Tree.filledIn r.tree.parts
  | ⟨fields⟩ => by
    rw [Record.filled, Record.tree, Tree.parts, Tree.filledIn_cons, Tree.filledIn_object,
      Record.filledFields_eq_filledIn fields]

theorem Record.filledFields_eq_filledIn : ∀ fields : List (String × Value),
    Record.filledFields fields = (Record.treeFields fields).countP (fun m => m.2.isFilledString) +
      Tree.filledIn (Tree.partsOfMembers (Record.treeFields fields))
  | [] => rfl
  | (name, value) :: rest => by
    rw [Record.filledFields, Record.treeFields, Tree.partsOfMembers, Tree.filledIn_append,
      Value.filled_eq_filledIn value, Record.filledFields_eq_filledIn rest, List.countP_cons]
    dsimp only
    omega

end

/-! ## Records with nothing filled -/

theorem Value.filled_eq_zero_iff (v : Value) : v.filled = 0 ↔ v.isEmpty = true := by
  cases v with
  | text s => simp [Value.filled, Value.isEmpty]
  | list items =>
    cases items with
    | nil => simp [Value.filled, Value.filledItems, Value.isEmpty]
    | cons item rest => simp [Value.filled, Value.isEmpty]

/-- No value is counted exactly if each field has an empty one. -/
theorem Record.filled_eq_zero_iff (r : Record) :
    r.filled = 0 ↔ ∀ field ∈ r.fields, field.2.isEmpty = true := by
  obtain ⟨fields⟩ := r
  rw [Record.filled]
  induction fields with
  | nil => simp [Record.filledFields]
  | cons field rest ih =>
    obtain ⟨name, value⟩ := field
    rw [Record.filledFields, Nat.add_eq_zero_iff, ih, Value.filled_eq_zero_iff,
      List.forall_mem_cons]

/-- As much is filled in a record as in the one value that its text denotes, in either layout: the
members at any depth whose value is a string that is not empty, and the arrays at any depth that are
not empty.  Nothing is filled exactly if each value of the record itself is empty. -/
theorem Record.filled_in_text (r : Record) :
    (∃ t, (∀ u, Denotes r.compact u ↔ u = t) ∧ (∀ u, Denotes r.pretty u ↔ u = t) ∧
      r.filled = Tree.filledStrings t.parts + Tree.filledLists t.parts) ∧
    (r.filled = 0 ↔ ∀ field ∈ r.fields, field.2.isEmpty = true) :=
  ⟨⟨r.tree, fun _ => r.denotes_compact.iff_eq, fun _ => r.denotes_pretty.iff_eq,
    r.filled_eq_filledIn⟩, r.filled_eq_zero_iff⟩

end PageExtract
