/-!
# Records

A *record* holds what was extracted: a value for each field, in order.  A value
is a text or a list of records.  A record may hold a field more than once, and
then `get?` gives the first.

`filled` counts the values that are not empty, at all depths.  A list that is
not empty counts itself, whatever its records hold.
-/

namespace PageExtract

mutual

/-- What was extracted for a field. -/
inductive Value where
  /-- A text, empty if there was nothing to read. -/
  | text (content : String)
  /-- A record for each node, in document order. -/
  | list (items : List Record)
  deriving Repr

/-- Fields with their values, in order. -/
structure Record where
  /-- The fields. -/
  fields : List (String × Value)
  deriving Repr

end

/-! ## Equality -/

mutual

/-- Whether two values are equal. -/
def Value.decEq : (a b : Value) → Decidable (a = b)
  | .text s, .text t => if h : s = t then isTrue (by rw [h]) else isFalse (by simpa using h)
  | .list a, .list b => match Value.decEqItems a b with
    | isTrue h => isTrue (by rw [h])
    | isFalse h => isFalse (by simpa using h)
  | .text _, .list _ => isFalse (by simp)
  | .list _, .text _ => isFalse (by simp)

/-- Whether two lists of records are equal. -/
def Value.decEqItems : (a b : List Record) → Decidable (a = b)
  | [], [] => isTrue rfl
  | [], _ :: _ => isFalse (by simp)
  | _ :: _, [] => isFalse (by simp)
  | r :: a, s :: b => match r.decEq s, Value.decEqItems a b with
    | isTrue h, isTrue h' => isTrue (by rw [h, h'])
    | isFalse h, _ => isFalse (by simp [h])
    | _, isFalse h => isFalse (by simp [h])

/-- Whether two records have the same values for the same fields in the same order. -/
def Record.decEq : (a b : Record) → Decidable (a = b)
  | ⟨a⟩, ⟨b⟩ => match Record.decEqFields a b with
    | isTrue h => isTrue (by rw [h])
    | isFalse h => isFalse (by simpa using h)

/-- Whether two lists of fields are equal. -/
def Record.decEqFields : (a b : List (String × Value)) → Decidable (a = b)
  | [], [] => isTrue rfl
  | [], _ :: _ => isFalse (by simp)
  | _ :: _, [] => isFalse (by simp)
  | (n, v) :: a, (m, w) :: b => match decEq n m, v.decEq w, Record.decEqFields a b with
    | isTrue h, isTrue h', isTrue h'' => isTrue (by rw [h, h', h''])
    | isFalse h, _, _ => isFalse (by simp [h])
    | _, isFalse h, _ => isFalse (by simp [h])
    | _, _, isFalse h => isFalse (by simp [h])

end

instance : Inhabited Value := ⟨.text ""⟩
instance : Inhabited Record := ⟨⟨[]⟩⟩

instance : DecidableEq Value := Value.decEq
instance : DecidableEq Record := Record.decEq

namespace Value

/-- The text of a value that is one. -/
def text? : Value → Option String
  | text s => some s
  | list _ => none

/-- The records of a value that is a list. -/
def list? : Value → Option (List Record)
  | text _ => none
  | list items => some items

/-- Whether a value is the empty text or the empty list. -/
def isEmpty : Value → Bool
  | text s => s.isEmpty
  | list items => items.isEmpty

end Value

namespace Record

/-- The record without fields. -/
def empty : Record := ⟨[]⟩

/-- The names of the fields, in order. -/
def keys (r : Record) : List String := r.fields.map Prod.fst

/-- The number of fields. -/
def size (r : Record) : Nat := r.fields.length

/-- Whether there are no fields. -/
def isEmpty (r : Record) : Bool := r.fields.isEmpty

/-- The first value of a field in a list of fields. -/
def lookup (field : String) : List (String × Value) → Option Value
  | [] => none
  | (name, value) :: rest => if name = field then some value else lookup field rest

/-- The first value of a field. -/
def get? (r : Record) (field : String) : Option Value := lookup field r.fields

/-- The text of a field that holds one. -/
def text? (r : Record) (field : String) : Option String := r.get? field >>= Value.text?

/-- The records of a field that holds a list. -/
def list? (r : Record) (field : String) : Option (List Record) := r.get? field >>= Value.list?

end Record

/-! ## Counting values -/

mutual

/-- The number of values in a value that are not empty. -/
def Value.filled : Value → Nat
  | .text s => if s.isEmpty then 0 else 1
  | .list items => (if items.isEmpty then 0 else 1) + Value.filledItems items

/-- The number of values in a list of records that are not empty. -/
def Value.filledItems : List Record → Nat
  | [] => 0
  | r :: rest => r.filled + Value.filledItems rest

/-- The number of values in a record, at all depths, that are not empty. -/
def Record.filled : Record → Nat
  | ⟨fields⟩ => Record.filledFields fields

/-- The number of values in a list of fields that are not empty. -/
def Record.filledFields : List (String × Value) → Nat
  | [] => 0
  | (_, value) :: rest => value.filled + Record.filledFields rest

end

mutual

/-- The number of values in a value, itself included. -/
def Value.total : Value → Nat
  | .text _ => 1
  | .list items => 1 + Value.totalItems items

/-- The number of values in a list of records. -/
def Value.totalItems : List Record → Nat
  | [] => 0
  | r :: rest => r.total + Value.totalItems rest

/-- The number of values in a record, at all depths. -/
def Record.total : Record → Nat
  | ⟨fields⟩ => Record.totalFields fields

/-- The number of values in a list of fields. -/
def Record.totalFields : List (String × Value) → Nat
  | [] => 0
  | (_, value) :: rest => value.total + Record.totalFields rest

end

end PageExtract
