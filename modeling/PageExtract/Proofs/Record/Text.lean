import PageExtract.Proofs.Json.Reading
import PageExtract.Proofs.Json.Unambiguous
import PageExtract.Record.Printer
import PageExtract.Record.Reader

/-!
# The texts of records

A record is written as the JSON value `Record.tree`, in both layouts
(`Record.denotes_compact`, `Record.denotes_pretty`).  The reader of records gives a record
from exactly the texts of that value (`Record.parse_eq_ok_iff`): space between the parts
and the choice of escapes make no difference, and there is no limit of nesting.

So a record is read back from each of its texts, and two records never have the same
text.
-/

namespace PageExtract

open Json

/-! ## Records as values -/

mutual

/-- The JSON value of a value: a text is a string, a list is an array. -/
def Value.tree : Value → Tree
  | .text s => .string s
  | .list items => .list (Value.treeItems items)

/-- The JSON values of records. -/
def Value.treeItems : List Record → List Tree
  | [] => []
  | r :: rest => r.tree :: Value.treeItems rest

/-- The JSON value of a record: an object with a member for each field. -/
def Record.tree : Record → Tree
  | ⟨fields⟩ => .object (Record.treeFields fields)

/-- The members for some fields. -/
def Record.treeFields : List (String × Value) → List (String × Tree)
  | [] => []
  | (name, value) :: rest => (name, value.tree) :: Record.treeFields rest

end

theorem Value.treeItems_eq_map (items : List Record) :
    Value.treeItems items = items.map Record.tree := by
  induction items with
  | nil => rfl
  | cons r rest ih => rw [Value.treeItems, ih, List.map_cons]

theorem Record.treeFields_eq_map (fields : List (String × Value)) :
    Record.treeFields fields = fields.map fun field => (field.1, field.2.tree) := by
  induction fields with
  | nil => rfl
  | cons field rest ih => rw [Record.treeFields, ih, List.map_cons]

/-! ## Writing -/

/-- A member is spelled by its name as a string, a colon and its value. -/
theorem member_quoteChars {name : String} {t : Tree} {a b c rest : List Char}
    (before : Space a (':' :: b)) (after : Space b c) (value : Spells t c rest) :
    Member Spells (name, t) (quoteChars name ++ a) rest := by
  obtain ⟨cs, written, content⟩ := content_quoteChars name a
  rw [written]
  exact .mk content before after value

mutual

/-- The compact layout of a value spells it. -/
theorem Value.spells_compact : ∀ (v : Value) (rest : List Char),
    Spells v.tree (v.compactChars ++ rest) rest
  | .text s, rest => by
    obtain ⟨cs, written, content⟩ := content_quoteChars s rest
    rw [Value.compactChars, written]
    exact .string content
  | .list items, rest => by
    rw [Value.compactChars, List.cons_append, List.cons_append, List.append_assoc]
    exact .list (Value.parts_compact true items rest)

theorem Value.parts_compact : ∀ (first : Bool) (items : List Record) (rest : List Char),
    Parts Spells first (Value.treeItems items) (Value.compactItems first items ++ ']' :: rest)
      (']' :: rest)
  | _, [], _ => .done .stop
  | first, r :: items, rest => by
    rw [Value.compactItems, List.append_assoc, List.append_assoc]
    exact .part (comma_compact first _) (r.spells_compact _) (Value.parts_compact false items rest)

/-- The compact layout of a record spells it. -/
theorem Record.spells_compact : ∀ (r : Record) (rest : List Char),
    Spells r.tree (r.compactChars ++ rest) rest
  | ⟨fields⟩, rest => by
    rw [Record.compactChars, List.cons_append, List.cons_append, List.append_assoc]
    exact .object (Record.parts_compact true fields rest)

theorem Record.parts_compact : ∀ (first : Bool) (fields : List (String × Value))
    (rest : List Char), Parts (Member Spells) first (Record.treeFields fields)
      (Record.compactFields first fields ++ '}' :: rest) ('}' :: rest)
  | _, [], _ => .done .stop
  | first, (name, value) :: fields, rest => by
    rw [Record.compactFields, List.append_assoc, List.append_assoc, List.append_assoc,
      List.cons_append]
    exact .part (comma_compact first _) (member_quoteChars .stop .stop (value.spells_compact _))
      (Record.parts_compact false fields rest)

end

/-- A line break and the indentation after it are space. -/
theorem space_newLine (depth : Nat) (rest : List Char) : Space (newLine depth ++ rest) rest := by
  refine .append ?_
  intro c hc
  rw [newLine, List.mem_cons, List.mem_replicate] at hc
  rcases hc with rfl | ⟨_, rfl⟩ <;> decide

mutual

/-- The pretty layout of a value spells it, at any depth. -/
theorem Value.spells_pretty : ∀ (depth : Nat) (v : Value) (rest : List Char),
    Spells v.tree (v.prettyChars depth ++ rest) rest
  | depth, .text s, rest => by
    obtain ⟨cs, written, content⟩ := content_quoteChars s rest
    rw [Value.prettyChars, written]
    exact .string content
  | depth, .list [], rest => .list (.done .stop)
  | depth, .list (r :: items), rest => by
    simp only [Value.prettyChars, List.cons_append, List.append_assoc, List.nil_append]
    exact .list (.part (.first (space_newLine (depth + 1) _)) (Record.spells_pretty (depth + 1) r _)
      (Value.parts_pretty (depth + 1) depth items rest))

theorem Value.parts_pretty : ∀ (depth outer : Nat) (items : List Record) (rest : List Char),
    Parts Spells false (Value.treeItems items)
      (Value.prettyItems depth items ++ (newLine outer ++ ']' :: rest)) (']' :: rest)
  | _, outer, [], rest => .done (space_newLine outer _)
  | depth, outer, r :: items, rest => by
    simp only [Value.prettyItems, List.cons_append, List.append_assoc]
    exact .part (.later .stop (space_newLine depth _)) (Record.spells_pretty depth r _)
      (Value.parts_pretty depth outer items rest)

/-- The pretty layout of a record spells it, at any depth. -/
theorem Record.spells_pretty : ∀ (depth : Nat) (r : Record) (rest : List Char),
    Spells r.tree (r.prettyChars depth ++ rest) rest
  | depth, ⟨[]⟩, rest => .object (.done .stop)
  | depth, ⟨(name, value) :: fields⟩, rest => by
    simp only [Record.prettyChars, List.cons_append, List.append_assoc, List.nil_append]
    exact .object (.part (.first (space_newLine (depth + 1) _))
      (member_quoteChars .stop (.pass (by decide) .stop) (Value.spells_pretty (depth + 1) value _))
      (Record.parts_pretty (depth + 1) depth fields rest))

theorem Record.parts_pretty : ∀ (depth outer : Nat) (fields : List (String × Value))
    (rest : List Char), Parts (Member Spells) false (Record.treeFields fields)
      (Record.prettyFields depth fields ++ (newLine outer ++ '}' :: rest)) ('}' :: rest)
  | _, outer, [], rest => .done (space_newLine outer _)
  | depth, outer, (name, value) :: fields, rest => by
    simp only [Record.prettyFields, List.cons_append, List.append_assoc]
    exact .part (.later .stop (space_newLine depth _))
      (member_quoteChars .stop (.pass (by decide) .stop) (Value.spells_pretty depth value _))
      (Record.parts_pretty depth outer fields rest)

end

theorem Record.denotes_compact (r : Record) : Denotes r.compact r.tree := by
  refine ⟨r.compactChars, [], ?_, ?_, .stop⟩
  · rw [Record.compact, String.toList_ofList]
    exact .stop
  · have spelled := r.spells_compact []
    rwa [List.append_nil] at spelled

theorem Record.denotes_pretty (r : Record) : Denotes r.pretty r.tree := by
  refine ⟨r.prettyChars 0, [], ?_, ?_, .stop⟩
  · rw [Record.pretty, String.toList_ofList]
    exact .stop
  · have spelled := r.spells_pretty 0 []
    rwa [List.append_nil] at spelled

/-- A list has its records on lines of their own, each further in than the list. -/
example : (⟨[("b", .list [⟨[("c", .text "")]⟩])]⟩ : Record).pretty =
    "\x7b\n  \"b\": [\n    \x7b\n      \"c\": \"\"\n    \x7d\n  ]\n\x7d" := by decide +kernel

/-! ## Reading -/

/-- Whether all records in a value have a property. -/
def Value.AllItems (R : Record → Prop) : Value → Prop
  | .text _ => True
  | .list items => ∀ r ∈ items, R r

/-- Whether at most so many records stand in one another, the outermost included. -/
def Record.Within : Nat → Record → Prop
  | 0, _ => False
  | levels + 1, r => ∀ field ∈ r.fields, field.2.AllItems (Record.Within levels)

section

variable {R : Record → Prop}

/-- Records that are read, as parts of an array. -/
theorem parts_records_iff {first : Bool} {items : List Record} {cs rest : List Char} :
    Parts (fun r a b => Spells r.tree a b ∧ R r) first items cs rest ↔
      Parts Spells first (Value.treeItems items) cs rest ∧ ∀ r ∈ items, R r := by
  rw [parts_and_iff, Value.treeItems_eq_map, parts_map_iff]

/-- Values that are read, as members of an object. -/
theorem parts_fields_iff {P : Value → Prop} {first : Bool} {fields : List (String × Value)}
    {cs rest : List Char} :
    Parts (Member fun v a b => Spells v.tree a b ∧ P v) first fields cs rest ↔
      Parts (Member Spells) first (Record.treeFields fields) cs rest ∧
        ∀ field ∈ fields, P field.2 := by
  rw [member_and, parts_and_iff, Record.treeFields_eq_map, parts_map_iff, member_map]

/-- A reader of records makes a reader of values. -/
theorem Value.reads_readWith {record : Reader Record}
    (reads : Reads record fun r cs rest => Spells r.tree cs rest ∧ R r) :
    Reads (Value.readWith record) fun v cs rest => Spells v.tree cs rest ∧ v.AllItems R where
  opens h := h.1.opens
  shorter h := h.1.length_lt
  gives_iff := by
    intro c v rest
    rw [exists_space_iff fun _ h => h.1.opens]
    constructor
    · rintro ⟨p, h⟩
      rw [Value.readWith] at h
      dsimp only at h
      split at h
      next cs mark =>
        obtain ⟨s, given, rfl⟩ := map_eq_ok_iff.mp h
        rw [mark]
        exact ⟨.string ((readString_eq_ok_iff mark).mp ⟨p, given⟩), trivial⟩
      next cs mark =>
        obtain ⟨items, d, inside, closed, rfl⟩ := close_eq_ok_iff.mp h
        have parts := (array_gives_iff reads).mp ⟨d, p, inside, closed⟩
        obtain ⟨spelled, holds⟩ := parts_records_iff.mp parts
        rw [Cursor.advance, mark] at spelled
        rw [mark]
        exact ⟨.list spelled, holds⟩
      next => exact absurd h wrongType_ne_ok
    · rintro ⟨spelled, holds⟩
      generalize next : c.skipSpace.rest = a at spelled
      cases v with
      | text s =>
        cases spelled with
        | string content =>
          obtain ⟨p, given⟩ := (readString_eq_ok_iff next).mpr content
          exact ⟨p, by simp only [Value.readWith, next, given, Except.map]⟩
      | list items =>
        cases spelled with
        | @list _ cs _ parts =>
          have entered : c.skipSpace.advance = ⟨cs, c.skipSpace.position.after '['⟩ := by
            rw [Cursor.advance, next]
          obtain ⟨d, p, inside, closed⟩ := (array_gives_iff (c := c.skipSpace.advance) reads).mpr
            (by rw [entered]; exact parts_records_iff.mpr ⟨parts, holds⟩)
          refine ⟨p, ?_⟩
          simp only [Value.readWith, next]
          exact close_eq_ok_iff.mpr ⟨items, d, inside, closed, rfl⟩

/-- A reader of values makes a reader of the fields of a record. -/
theorem Record.readFields_gives_iff {value : Reader Value} {P : Value → Prop}
    (reads : Reads value fun v cs rest => Spells v.tree cs rest ∧ P v) {c : Cursor} {r : Record}
    {rest : List Char} :
    Gives (Record.readFields value) c r rest ↔
      Spells r.tree ('{' :: c.rest) rest ∧ ∀ field ∈ r.fields, P field.2 := by
  obtain ⟨fields⟩ := r
  have spelled : Spells (Record.mk fields).tree ('{' :: c.rest) rest ↔
      Parts (Member Spells) true (Record.treeFields fields) c.rest ('}' :: rest) :=
    ⟨fun | .object parts => parts, .object⟩
  have puts := puts_map value fun (fields : List (String × Value)) name v => (name, v) :: fields
  let make (fields : List (String × Value)) : Record := ⟨fields.reverse⟩
  have made (fields : List (String × Value)) :
      make (fields.foldl (fun s m => (m.1, m.2) :: s) []) = ⟨fields⟩ := by
    show Record.mk _ = _
    rw [List.foldl_flip_cons_eq_append', List.append_nil, List.reverse_reverse]
  rw [spelled, ← parts_fields_iff, Gives, Record.readFields]
  constructor
  · rintro ⟨p, h⟩
    obtain ⟨_, d, given, closed, same⟩ := (close_eq_ok_iff (f := make)).mp h
    obtain ⟨ms, rfl, parts⟩ := (object_gives_iff reads puts []).mp ⟨d, p, given, closed⟩
    rwa [← Record.mk.inj ((made ms).symm.trans same)]
  · intro parts
    obtain ⟨d, p, given, closed⟩ := (object_gives_iff reads puts []).mpr ⟨fields, rfl, parts⟩
    exact ⟨p, (close_eq_ok_iff (f := make)).mpr ⟨_, d, given, closed, made fields⟩⟩

theorem Record.reads_inObject_none {P : Record → Prop} (never : ∀ r, ¬ P r) :
    Reads (inObject Record.wanted none) fun r cs rest => Spells r.tree cs rest ∧ P r where
  opens h := h.1.opens
  shorter h := h.1.length_lt
  gives_iff := ⟨fun h => absurd h not_gives_inObject_none, fun ⟨_, _, _, h⟩ => absurd h (never _)⟩

/-- A reader of values makes a reader of records. -/
theorem Record.reads_inObject {value : Reader Value} {P : Value → Prop}
    (reads : Reads value fun v cs rest => Spells v.tree cs rest ∧ P v) :
    Reads (inObject Record.wanted (some (Record.readFields value)))
      fun r cs rest => Spells r.tree cs rest ∧ ∀ field ∈ r.fields, P field.2 where
  opens h := h.1.opens
  shorter h := h.1.length_lt
  gives_iff := by
    intro c r rest
    rw [inObject_gives_iff
      (Q := fun r cs rest => Spells r.tree ('{' :: cs) rest ∧ ∀ field ∈ r.fields, P field.2)
      (Record.readFields_gives_iff reads)]
    constructor
    · rintro ⟨cs, space, spelled, holds⟩
      exact ⟨'{' :: cs, space, spelled, holds⟩
    · rintro ⟨cs, space, spelled, holds⟩
      cases r with
      | mk fields =>
        cases spelled with
        | object parts => exact ⟨_, space, .object parts, holds⟩

/-- The reader of records reads what is spelled and nested no deeper than it may. -/
theorem Record.reads_read : ∀ levels : Nat,
    Reads (Record.read levels) fun r cs rest => Spells r.tree cs rest ∧ r.Within levels
  | 0 => Record.reads_inObject_none fun _ h => h
  | levels + 1 => Record.reads_inObject (Value.reads_readWith (Record.reads_read levels))

/-- Records nest no deeper than there are characters. -/
theorem Record.within_of_spells {levels : Nat} {r : Record} {cs rest : List Char}
    (h : Spells r.tree cs rest) (length : cs.length ≤ levels + rest.length) : r.Within levels := by
  induction levels generalizing r cs rest with
  | zero =>
    have taken := h.length_lt
    omega
  | succ levels ih =>
    obtain ⟨fields⟩ := r
    cases h with
    | object parts =>
      intro field mem
      rw [Record.treeFields_eq_map, parts_map_iff] at parts
      obtain ⟨a, b, member, start, ends⟩ :=
        parts.exists_part (fun _ _ _ _ h => h.length_lt fun _ _ value => value.length_lt) mem
      obtain ⟨name, value⟩ := field
      cases member with
      | mk named before after spelled =>
        cases value with
        | text => exact trivial
        | list items =>
          cases spelled with
          | list parts =>
            intro item mem
            rw [Value.treeItems_eq_map, parts_map_iff] at parts
            obtain ⟨a', b', spelled, start', ends'⟩ :=
              parts.exists_part (fun _ _ _ _ h => h.length_lt) mem
            -- On the way to the inner record a brace was passed, and there is one after it.
            refine ih spelled ?_
            have name_length := named.length_lt
            have colon_length := before.length_le
            have space_length := after.length_le
            simp only [List.length_cons] at *
            omega

/-- A record is read from exactly the texts of its JSON value. -/
theorem Record.parse_eq_ok_iff {text : String} {r : Record} :
    Record.parse text = .ok r ↔ Denotes text r.tree := by
  rw [Record.parse, readAll_eq_ok_iff]
  constructor
  · rintro ⟨rest, given, ends⟩
    obtain ⟨cs, space, spelled, _⟩ := (Record.reads_read _).gives_iff.mp given
    exact ⟨cs, rest, space, spelled, ends⟩
  · rintro ⟨cs, rest, space, spelled, ends⟩
    -- Each level has a brace of its own, so the length of the text is enough.
    have length : cs.length ≤ text.length + rest.length := by
      have passed := space.length_le
      rw [String.length_toList] at passed
      omega
    exact ⟨rest, (Record.reads_read _).gives_iff.mpr
      ⟨cs, space, spelled, Record.within_of_spells spelled length⟩, ends⟩

end

/-! ## Both ways -/

/-- Both layouts of a record are JSON texts of one and the same value, from each the record is read
back, and a record that is not the same has other texts.  What is read back is read by a reader that
takes exactly the texts of records. -/
theorem Record.texts_roundTrip (r : Record) :
    (∀ t, Denotes r.compact t ↔ t = r.tree) ∧ (∀ t, Denotes r.pretty t ↔ t = r.tree) ∧
      (∀ text s, Record.parse text = .ok s ↔ Denotes text s.tree) ∧
      Record.parse r.compact = .ok r ∧ Record.parse r.pretty = .ok r ∧
      ∀ s : Record, s ≠ r → ∀ text ∈ [s.compact, s.pretty], text ∉ [r.compact, r.pretty] := by
  have only {text : String} (h : Denotes text r.tree) (t : Tree) : Denotes text t ↔ t = r.tree :=
    ⟨fun h' => h'.unique h, fun same => same ▸ h⟩
  have read {s : Record} : ∀ text ∈ [s.compact, s.pretty], Record.parse text = .ok s := by
    simp only [List.forall_mem_cons, Record.parse_eq_ok_iff]
    exact ⟨s.denotes_compact, s.denotes_pretty, fun _ h => nomatch h⟩
  refine ⟨only r.denotes_compact, only r.denotes_pretty, fun _ _ => Record.parse_eq_ok_iff,
    read _ (.head _), read _ (.tail _ (.head _)), ?_⟩
  intro s other text here there
  exact other (Except.ok.inj ((read text here).symm.trans (read text there)))

end PageExtract
