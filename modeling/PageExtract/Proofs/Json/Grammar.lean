import PageExtract.Json.Reader

/-!
# The grammar of JSON

A JSON text spells a `Tree`: a value whose members and elements are in order, and whose
members may be repeated.  Numbers are kept as they are written.

The grammar is a relation between a value, the characters that start with it, and those
that come after it.  `Denotes` says that a text is one value with space around it.  It
does not mention any reader, and it knows no limit of nesting.
-/

namespace PageExtract.Json

/-- A JSON value. -/
inductive Tree where
  | null
  | boolean (value : Bool)
  /-- A number as it is written. -/
  | number (written : List Char)
  | string (content : String)
  | list (items : List Tree)
  /-- An object with its members in order.  Their names may be repeated. -/
  | object (members : List (String × Tree))

/-- What holds of a value if it holds of all values in it, holds of every value. -/
@[induction_eliminator]
theorem Tree.induction {motive : Tree → Prop} (null : motive .null)
    (boolean : ∀ value, motive (.boolean value)) (number : ∀ written, motive (.number written))
    (string : ∀ content, motive (.string content))
    (list : ∀ items, (∀ t ∈ items, motive t) → motive (.list items))
    (object : ∀ members, (∀ m ∈ members, motive m.2) → motive (.object members)) :
    ∀ t, motive t
  | .null => null
  | .boolean value => boolean value
  | .number written => number written
  | .string content => string content
  | .list items =>
    list items fun t _ => Tree.induction null boolean number string list object t
  | .object members =>
    object members fun m _ => Tree.induction null boolean number string list object m.2
decreasing_by
  all_goals simp_wf
  · next mem => exact Nat.lt_add_left 1 (List.sizeOf_lt_of_mem mem)
  · next mem =>
    have inside := List.sizeOf_lt_of_mem mem
    cases m with
    | mk name t =>
      simp only [Prod.mk.sizeOf_spec] at inside ⊢
      omega

/-! ## Space -/

/-- Space, perhaps none, and then the rest. -/
inductive Space : List Char → List Char → Prop where
  | stop {cs : List Char} : Space cs cs
  | pass {c : Char} {cs rest : List Char} (space : isSpace c = true) (more : Space cs rest) :
      Space (c :: cs) rest

/-! ## Strings -/

/-- The content of a string up to its closing mark: its characters, how they are written, and what
comes after the mark. -/
inductive Content : List Char → List Char → List Char → Prop where
  /-- The closing mark. -/
  | close {rest : List Char} : Content [] ('"' :: rest) rest
  /-- A character that stands for itself. -/
  | plain {c : Char} {s cs rest : List Char} (mark : c ≠ '"') (backslash : c ≠ '\\')
      (printed : 0x20 ≤ c.toNat) (more : Content s cs rest) : Content (c :: s) (c :: cs) rest
  /-- A short escape. -/
  | short {x c : Char} {s cs rest : List Char} (escape : shortEscape? x = some c)
      (more : Content s cs rest) : Content (c :: s) ('\\' :: x :: cs) rest
  /-- An escape with the number of a character. -/
  | unit {x y z w : Char} {n : Nat} {s cs rest : List Char} (unit : hexUnit? x y z w = some n)
      (high : isHighHalf n = false) (low : isLowHalf n = false) (more : Content s cs rest) :
      Content (Char.ofNat n :: s) ('\\' :: 'u' :: x :: y :: z :: w :: cs) rest
  /-- Two escapes for the halves of a character. -/
  | halves {x y z w x' y' z' w' : Char} {n m : Nat} {s cs rest : List Char}
      (unit : hexUnit? x y z w = some n) (high : isHighHalf n = true)
      (unit' : hexUnit? x' y' z' w' = some m) (low : isLowHalf m = true)
      (more : Content s cs rest) :
      Content (joinHalves n m :: s)
        ('\\' :: 'u' :: x :: y :: z :: w :: '\\' :: 'u' :: x' :: y' :: z' :: w' :: cs) rest

/-! ## Numbers -/

/-- One or more digits. -/
def IsDigits (cs : List Char) : Prop := cs ≠ [] ∧ ∀ c ∈ cs, isDigit c = true

/-- How a number is written: perhaps a minus, the whole part without zeros in front, perhaps a
fraction, and perhaps an exponent. -/
inductive IsNumber : List Char → Prop where
  | mk {sign whole fraction power : List Char} (sign_ok : sign = [] ∨ sign = ['-'])
      (digits : IsDigits whole) (zeros : whole.head? = some '0' → whole = ['0'])
      (fraction_ok : fraction = [] ∨ ∃ ds, fraction = '.' :: ds ∧ IsDigits ds)
      (power_ok : power = [] ∨ ∃ e sign ds, power = e :: (sign ++ ds) ∧ (e = 'e' ∨ e = 'E') ∧
        (sign = [] ∨ sign = ['+'] ∨ sign = ['-']) ∧ IsDigits ds) :
      IsNumber (sign ++ (whole ++ (fraction ++ power)))

/-! ## Values -/

section

variable {α : Type}

/-- What stands before a part of a bracket: a comma, unless it is the first part. -/
inductive Comma : Bool → List Char → List Char → Prop where
  | first {cs rest : List Char} (space : Space cs rest) : Comma true cs rest
  | later {cs a rest : List Char} (before : Space cs (',' :: a)) (after : Space a rest) :
      Comma false cs rest

/-- The parts of a bracket up to its end, from the first or after another. -/
inductive Parts (P : α → List Char → List Char → Prop) :
    Bool → List α → List Char → List Char → Prop where
  | done {first : Bool} {cs rest : List Char} (space : Space cs rest) : Parts P first [] cs rest
  | part {first : Bool} {x : α} {xs : List α} {cs a b rest : List Char} (comma : Comma first cs a)
      (part : P x a b) (more : Parts P false xs b rest) : Parts P first (x :: xs) cs rest

/-- A member of an object: its name, a colon and its value. -/
inductive Member (P : α → List Char → List Char → Prop) :
    String × α → List Char → List Char → Prop where
  | mk {name : String} {x : α} {cs a b c rest : List Char} (named : Content name.toList cs a)
      (before : Space a (':' :: b)) (after : Space b c) (value : P x c rest) :
      Member P (name, x) ('"' :: cs) rest

end

/-- A value, the characters that start with it, and those after it. -/
inductive Spells : Tree → List Char → List Char → Prop where
  | null {rest : List Char} : Spells .null ('n' :: 'u' :: 'l' :: 'l' :: rest) rest
  | yes {rest : List Char} : Spells (.boolean true) ('t' :: 'r' :: 'u' :: 'e' :: rest) rest
  | no {rest : List Char} :
      Spells (.boolean false) ('f' :: 'a' :: 'l' :: 's' :: 'e' :: rest) rest
  | number {written cs rest : List Char} (number : IsNumber written) (split : cs = written ++ rest) :
      Spells (.number written) cs rest
  | string {content : String} {cs rest : List Char} (content_ok : Content content.toList cs rest) :
      Spells (.string content) ('"' :: cs) rest
  | list {items : List Tree} {cs rest : List Char}
      (parts : Parts Spells true items cs (']' :: rest)) :
      Spells (.list items) ('[' :: cs) rest
  | object {members : List (String × Tree)} {cs rest : List Char}
      (parts : Parts (Member Spells) true members cs ('}' :: rest)) :
      Spells (.object members) ('{' :: cs) rest

/-- A text is a value with space around it. -/
def Denotes (text : String) (t : Tree) : Prop :=
  ∃ cs rest, Space text.toList cs ∧ Spells t cs rest ∧ Space rest []

/-! ## What is read -/

namespace Space

variable {cs mid rest : List Char}

theorem append {s : List Char} (space : ∀ c ∈ s, isSpace c = true) : Space (s ++ rest) rest := by
  induction s with
  | nil => exact .stop
  | cons c s ih =>
    exact .pass (space c (.head _)) (ih fun x hx => space x (.tail _ hx))

theorem trans (first : Space cs mid) (second : Space mid rest) : Space cs rest := by
  induction first with
  | stop => exact second
  | pass space _ ih => exact .pass space (ih second)

theorem length_le (h : Space cs rest) : rest.length ≤ cs.length := by
  induction h with
  | stop => exact Nat.le_refl _
  | pass _ _ ih => exact Nat.le_succ_of_le ih

/-- All space may be passed. -/
theorem dropWhile (cs : List Char) : Space cs (cs.dropWhile isSpace) := by
  induction cs with
  | nil => exact .stop
  | cons c cs ih =>
    by_cases space : isSpace c = true
    · rw [List.dropWhile_cons_of_pos space]
      exact .pass space ih
    · rw [List.dropWhile_cons_of_neg space]
      exact .stop

theorem dropWhile_eq (h : Space cs rest) : cs.dropWhile isSpace = rest.dropWhile isSpace := by
  induction h with
  | stop => rfl
  | pass space _ ih => rw [List.dropWhile_cons_of_pos space, ih]

/-- All space is passed if what comes next is none. -/
theorem dropWhile_of_cons {c : Char} (h : Space cs (c :: rest)) (next : isSpace c = false) :
    cs.dropWhile isSpace = c :: rest := by
  rw [h.dropWhile_eq, List.dropWhile_cons_of_neg]
  rw [next]
  exact Bool.false_ne_true

/-- What comes next is settled if it is no space. -/
theorem unique_cons {a b : List Char} {c d : Char} (h : Space cs (c :: a)) (h' : Space cs (d :: b))
    (next : isSpace c = false) (next' : isSpace d = false) : c = d ∧ a = b := by
  have same := h.dropWhile_of_cons next
  rw [h'.dropWhile_of_cons next'] at same
  exact ⟨(List.cons.inj same).1.symm, (List.cons.inj same).2.symm⟩

end Space

theorem Content.length_lt {s cs rest : List Char} (h : Content s cs rest) :
    rest.length < cs.length := by
  induction h with
  | close => exact Nat.lt_succ_self _
  | plain _ _ _ _ ih => exact Nat.lt_succ_of_lt ih
  | short _ _ ih => exact Nat.lt_succ_of_lt (Nat.lt_succ_of_lt ih)
  | unit _ _ _ _ ih | halves _ _ _ _ _ ih =>
    simp only [List.length_cons]
    omega

theorem ne_of_isDigit {c d : Char} (digit : isDigit c = true) (other : isDigit d = false) :
    c ≠ d := by
  rintro rfl
  rw [digit] at other
  exact nomatch other

theorem isSpace_of_isDigit {c : Char} (digit : isDigit c = true) : isSpace c = false := by
  have other {d : Char} (h : isDigit d = false) : decide (c = d) = false :=
    decide_eq_false (ne_of_isDigit digit h)
  rw [isSpace, other (d := ' ') rfl, other (d := '\n') rfl, other (d := '\t') rfl,
    other (d := '\r') rfl]
  rfl

/-- How a number may start. -/
theorem IsNumber.head {cs : List Char} (h : IsNumber cs) :
    ∃ c rest, cs = c :: rest ∧ (c = '-' ∨ isDigit c = true) := by
  cases h with
  | @mk sign whole fraction power sign_ok digits =>
    rcases sign_ok with rfl | rfl
    · cases whole with
      | nil => exact absurd rfl digits.1
      | cons d ds => exact ⟨d, _, rfl, .inr (digits.2 d (.head _))⟩
    · exact ⟨'-', _, rfl, .inl rfl⟩

section

variable {α β : Type} {P : α → List Char → List Char → Prop} {first : Bool} {xs : List α}
  {cs rest : List Char}

theorem comma_compact (first : Bool) (cs : List Char) :
    Comma first ((if first then [] else [',']) ++ cs) cs := by
  cases first with
  | true => exact .first .stop
  | false => exact .later .stop .stop

theorem Comma.length_le (h : Comma first cs rest) : rest.length ≤ cs.length := by
  cases h with
  | first space => exact space.length_le
  | later before after =>
    exact Nat.le_trans after.length_le (Nat.le_of_succ_le before.length_le)

theorem Parts.length_le (shorter : ∀ x ∈ xs, ∀ a b, P x a b → b.length < a.length)
    (h : Parts P first xs cs rest) : xs.length + rest.length ≤ cs.length := by
  induction h with
  | done space =>
    rw [List.length_nil, Nat.zero_add]
    exact space.length_le
  | part comma value _ ih =>
    have before := comma.length_le
    have part := shorter _ (.head _) _ _ value
    have after := ih fun x hx => shorter x (.tail _ hx)
    rw [List.length_cons]
    omega

/-- Each of some parts stands between their start and their end. -/
theorem Parts.exists_part (shorter : ∀ x ∈ xs, ∀ a b, P x a b → b.length < a.length)
    (h : Parts P first xs cs rest) {x : α} (mem : x ∈ xs) :
    ∃ a b, P x a b ∧ a.length ≤ cs.length ∧ rest.length ≤ b.length := by
  induction h with
  | done => exact nomatch mem
  | part comma value more ih =>
    have later := fun y hy => shorter y (.tail _ hy)
    have before := comma.length_le
    have taken := shorter _ (.head _) _ _ value
    cases mem with
    | head =>
      have after := more.length_le later
      exact ⟨_, _, value, before, by omega⟩
    | tail _ mem =>
      obtain ⟨a, b, part, start, ends⟩ := ih later mem
      exact ⟨a, b, part, by omega, ends⟩

theorem Member.length_lt {m : String × α} (shorter : ∀ a b, P m.2 a b → b.length < a.length)
    (h : Member P m cs rest) : rest.length < cs.length := by
  cases h with
  | mk named before after value =>
    have name := named.length_lt
    have colon := before.length_le
    have space := after.length_le
    have part := shorter _ _ value
    rw [List.length_cons] at colon ⊢
    omega

/-- Parts that are made from others are spelled as what they are made from. -/
theorem parts_map_iff {Q : β → List Char → List Char → Prop} {f : α → β} :
    Parts Q first (xs.map f) cs rest ↔ Parts (fun x => Q (f x)) first xs cs rest := by
  constructor
  · intro h
    induction xs generalizing first cs with
    | nil =>
      cases h with
      | done space => exact .done space
    | cons x xs ih =>
      cases h with
      | part comma value more => exact .part comma value (ih more)
  · intro h
    induction h with
    | done space => exact .done space
    | part comma value _ ih => exact .part comma value ih

/-- A property of the parts may be said of them one by one. -/
theorem parts_and_iff {R : α → Prop} :
    Parts (fun x a b => P x a b ∧ R x) first xs cs rest ↔
      Parts P first xs cs rest ∧ ∀ x ∈ xs, R x := by
  constructor
  · intro h
    induction h with
    | done space => exact ⟨.done space, fun _ hx => nomatch hx⟩
    | part comma value _ ih =>
      exact ⟨.part comma value.1 ih.1, List.forall_mem_cons.mpr ⟨value.2, ih.2⟩⟩
  · rintro ⟨h, holds⟩
    induction h with
    | done space => exact .done space
    | part comma value _ ih =>
      obtain ⟨here, there⟩ := List.forall_mem_cons.mp holds
      exact .part comma ⟨value, here⟩ (ih there)

end

section

variable {α β : Type} {P : α → List Char → List Char → Prop}

/-- Members whose values are made from others are spelled as what those are made from. -/
theorem member_map {Q : β → List Char → List Char → Prop} {f : α → β} :
    (fun m : String × α => Member Q (m.1, f m.2)) = Member fun x => Q (f x) := by
  funext m cs rest
  refine propext ⟨fun h => ?_, fun h => ?_⟩
  · cases h with
    | mk named before after value => exact .mk named before after value
  · cases h with
    | mk named before after value => exact .mk named before after value

/-- A property of the value of a member may be said apart. -/
theorem member_and {R : α → Prop} :
    (Member fun x cs rest => P x cs rest ∧ R x) =
      fun m cs rest => Member P m cs rest ∧ R m.2 := by
  funext m cs rest
  refine propext ⟨fun h => ?_, fun h => ?_⟩
  · cases h with
    | mk named before after value => exact ⟨.mk named before after value.1, value.2⟩
  · obtain ⟨member, holds⟩ := h
    cases member with
    | mk named before after value => exact .mk named before after ⟨value, holds⟩

end

/-- A value takes at least one character. -/
theorem Spells.length_lt {t : Tree} {cs rest : List Char} (h : Spells t cs rest) :
    rest.length < cs.length := by
  induction t generalizing cs rest with
  | null | boolean =>
    cases h <;> simp only [List.length_cons] <;> omega
  | number written =>
    cases h with
    | number number split =>
      obtain ⟨c, digits, rfl, _⟩ := number.head
      rw [split, List.length_append, List.length_cons]
      omega
  | string content =>
    cases h with
    | string content_ok => exact Nat.lt_succ_of_lt content_ok.length_lt
  | list items ih =>
    cases h with
    | list parts =>
      have inside := parts.length_le fun x hx _ _ => ih x hx
      rw [List.length_cons] at inside ⊢
      omega
  | object members ih =>
    cases h with
    | object parts =>
      have inside := parts.length_le fun x hx _ _ => Member.length_lt fun _ _ => ih x hx
      rw [List.length_cons] at inside ⊢
      omega

/-- Whether characters start neither with space nor with a closing bracket. -/
def Opens (cs : List Char) : Prop :=
  ∃ c rest, cs = c :: rest ∧ isSpace c = false ∧ c ≠ ']' ∧ c ≠ '}'

/-- A value starts neither with space nor with a closing bracket. -/
theorem Spells.opens {t : Tree} {cs rest : List Char} (h : Spells t cs rest) : Opens cs := by
  cases h with
  | null | yes | no | string | list | object =>
    exact ⟨_, _, rfl, by decide, by decide, by decide⟩
  | number number split =>
    obtain ⟨c, digits, rfl, start⟩ := number.head
    refine ⟨c, _, split, ?_⟩
    rcases start with rfl | digit
    · decide
    · exact ⟨isSpace_of_isDigit digit, ne_of_isDigit digit rfl, ne_of_isDigit digit rfl⟩

end PageExtract.Json
