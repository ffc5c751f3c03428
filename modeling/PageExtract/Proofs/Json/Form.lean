import PageExtract.Proofs.Json.Strings
import PageExtract.Proofs.Json.Unambiguous

/-!
# Forms of JSON texts

What a JSON text says is a `Form`: a value whose members and elements are in order, and whose
members may be repeated.  A `Tree` is one whose strings are all texts.  But an escape may also
stand for half of a character whose other half is missing.  A string with such an escape is well
formed and holds no text, and so a form has strings without content as well.

`Written` is the grammar, in the manner of `Spells`: a relation between a form, the characters
that start with it, and those that come after it.  `Form.WrittenIn` says that a text is one form
with space around it.
-/

namespace PageExtract.Json

/-- A JSON value as a text may write it. -/
inductive Form where
  | null
  | boolean (value : Bool)
  /-- A number as it is written. -/
  | number (written : List Char)
  /-- A string, with the text that it holds if it holds one. -/
  | string (content : Option String)
  | list (items : List Form)
  /-- An object with its members in order.  Their names may be repeated. -/
  | object (members : List (Option String × Form))

/-- What holds of a form if it holds of all forms in it, holds of every form. -/
@[induction_eliminator]
theorem Form.induction {motive : Form → Prop} (null : motive .null)
    (boolean : ∀ value, motive (.boolean value)) (number : ∀ written, motive (.number written))
    (string : ∀ content, motive (.string content))
    (list : ∀ items, (∀ f ∈ items, motive f) → motive (.list items))
    (object : ∀ members, (∀ m ∈ members, motive m.2) → motive (.object members)) :
    ∀ f, motive f
  | .null => null
  | .boolean value => boolean value
  | .number written => number written
  | .string content => string content
  | .list items =>
    list items fun f _ => Form.induction null boolean number string list object f
  | .object members =>
    object members fun m _ => Form.induction null boolean number string list object m.2
decreasing_by
  all_goals simp_wf
  · next mem => exact Nat.lt_add_left 1 (List.sizeOf_lt_of_mem mem)
  · next mem =>
    have inside := List.sizeOf_lt_of_mem mem
    cases m with
    | mk name f =>
      simp only [Prod.mk.sizeOf_spec] at inside ⊢
      omega

/-! ## Strings -/

/-- A string up to its closing mark, whatever its escapes stand for, and what comes after the
mark. -/
inductive Raw : List Char → List Char → Prop where
  /-- The closing mark. -/
  | close {rest : List Char} : Raw ('"' :: rest) rest
  /-- A character that stands for itself. -/
  | plain {c : Char} {cs rest : List Char} (mark : c ≠ '"') (backslash : c ≠ '\\')
      (printed : 0x20 ≤ c.toNat) (more : Raw cs rest) : Raw (c :: cs) rest
  /-- A short escape. -/
  | short {x c : Char} {cs rest : List Char} (escape : shortEscape? x = some c)
      (more : Raw cs rest) : Raw ('\\' :: x :: cs) rest
  /-- An escape with a number. -/
  | unit {x y z w : Char} {n : Nat} {cs rest : List Char} (unit : hexUnit? x y z w = some n)
      (more : Raw cs rest) : Raw ('\\' :: 'u' :: x :: y :: z :: w :: cs) rest

/-- A string up to its closing mark, with its content, and what comes after the mark. -/
inductive Quoted : Option String → List Char → List Char → Prop where
  /-- The string holds a text. -/
  | text {s : String} {cs rest : List Char} (content : Content s.toList cs rest) :
      Quoted (some s) cs rest
  /-- The string holds half of a character alone. -/
  | halved {cs rest : List Char} (raw : Raw cs rest) (lone : ∀ s, ¬ Content s cs rest) :
      Quoted none cs rest

/-! ## Values -/

/-- A member of an object: its name, a colon and its value. -/
inductive Named {α : Type} (P : α → List Char → List Char → Prop) :
    Option String × α → List Char → List Char → Prop where
  | mk {name : Option String} {x : α} {cs a b c rest : List Char} (named : Quoted name cs a)
      (before : Space a (':' :: b)) (after : Space b c) (value : P x c rest) :
      Named P (name, x) ('"' :: cs) rest

/-- A form, the characters that start with it, and those after it. -/
inductive Written : Form → List Char → List Char → Prop where
  | null {rest : List Char} : Written .null ('n' :: 'u' :: 'l' :: 'l' :: rest) rest
  | yes {rest : List Char} : Written (.boolean true) ('t' :: 'r' :: 'u' :: 'e' :: rest) rest
  | no {rest : List Char} :
      Written (.boolean false) ('f' :: 'a' :: 'l' :: 's' :: 'e' :: rest) rest
  | number {written rest : List Char} (number : IsNumber written) :
      Written (.number written) (written ++ rest) rest
  | string {content : Option String} {cs rest : List Char} (quoted : Quoted content cs rest) :
      Written (.string content) ('"' :: cs) rest
  | list {items : List Form} {cs rest : List Char}
      (parts : Parts Written true items cs (']' :: rest)) :
      Written (.list items) ('[' :: cs) rest
  | object {members : List (Option String × Form)} {cs rest : List Char}
      (parts : Parts (Named Written) true members cs ('}' :: rest)) :
      Written (.object members) ('{' :: cs) rest

/-- Whether a text is a form with space around it. -/
def Form.WrittenIn (f : Form) (text : String) : Prop :=
  ∃ cs rest, Space text.toList cs ∧ Written f cs rest ∧ Space rest []

theorem Written.writtenIn {f : Form} {text : String} {cs : List Char} (form : Written f cs [])
    (same : text.toList = cs) : f.WrittenIn text :=
  ⟨cs, [], same ▸ .stop, form, .stop⟩

/-- Every text may be a string, with the escapes that it needs. -/
theorem Written.quoteChars (s : String) (rest : List Char) :
    Written (.string (some s)) (quoteChars s ++ rest) rest := by
  obtain ⟨cs, same, content⟩ := content_quoteChars s rest
  rw [same]
  exact .string (.text content)

/-- Every text may be the name of a member. -/
theorem Named.quoteChars {α : Type} {P : α → List Char → List Char → Prop} (name : String) {x : α}
    {cs rest : List Char} (value : P x cs rest) :
    Named P (some name, x) (quoteChars name ++ ':' :: cs) rest := by
  obtain ⟨named, same, content⟩ := content_quoteChars name (':' :: cs)
  rw [same]
  exact .mk (.text content) .stop .stop value

/-! ## What forms take -/

section

variable {cs rest : List Char}

theorem Content.raw {s : List Char} (h : Content s cs rest) : Raw cs rest := by
  induction h with
  | close => exact .close
  | plain mark backslash printed _ ih => exact .plain mark backslash printed ih
  | short escape _ ih => exact .short escape ih
  | unit unit _ _ _ ih => exact .unit unit ih
  | halves unit _ unit' _ _ ih => exact .unit unit (.unit unit' ih)

theorem Quoted.raw {s : Option String} (h : Quoted s cs rest) : Raw cs rest := by
  cases h with
  | text content => exact content.raw
  | halved raw _ => exact raw

theorem Raw.length_lt (h : Raw cs rest) : rest.length < cs.length := by
  induction h with
  | close => exact Nat.lt_succ_self _
  | plain _ _ _ _ ih => exact Nat.lt_succ_of_lt ih
  | short _ _ ih => exact Nat.lt_succ_of_lt (Nat.lt_succ_of_lt ih)
  | unit _ _ ih =>
    simp only [List.length_cons]
    omega

theorem Named.length_lt {α : Type} {P : α → List Char → List Char → Prop}
    {m : Option String × α} (shorter : ∀ a b, P m.2 a b → b.length < a.length)
    (h : Named P m cs rest) : rest.length < cs.length := by
  cases h with
  | mk named before after value =>
    have name := named.raw.length_lt
    have colon := before.length_le
    have space := after.length_le
    have part := shorter _ _ value
    rw [List.length_cons] at colon ⊢
    omega

/-- A form takes at least one character. -/
theorem Written.length_lt {f : Form} (h : Written f cs rest) : rest.length < cs.length := by
  induction f generalizing cs rest with
  | null | boolean =>
    cases h <;> simp only [List.length_cons] <;> omega
  | number written =>
    cases h with
    | number number =>
      obtain ⟨c, digits, rfl, _⟩ := number.head
      rw [List.length_append, List.length_cons]
      omega
  | string content =>
    cases h with
    | string quoted => exact Nat.lt_succ_of_lt quoted.raw.length_lt
  | list items ih =>
    cases h with
    | list parts =>
      have inside := parts.length_le fun x hx _ _ => ih x hx
      rw [List.length_cons] at inside ⊢
      omega
  | object members ih =>
    cases h with
    | object parts =>
      have inside := parts.length_le fun x hx _ _ => Named.length_lt fun _ _ => ih x hx
      rw [List.length_cons] at inside ⊢
      omega

theorem Named.opens {α : Type} {P : α → List Char → List Char → Prop} {m : Option String × α}
    (h : Named P m cs rest) : Opens cs := by
  cases h with
  | mk => exact ⟨_, _, rfl, by decide, by decide, by decide⟩

/-- A form starts neither with space nor with a closing bracket. -/
theorem Written.opens {f : Form} (h : Written f cs rest) : Opens cs := by
  cases h with
  | null | yes | no | string | list | object =>
    exact ⟨_, _, rfl, by decide, by decide, by decide⟩
  | number number =>
    obtain ⟨c, digits, rfl, start⟩ := number.head
    refine ⟨c, _, rfl, ?_⟩
    rcases start with rfl | digit
    · decide
    · exact ⟨isSpace_of_isDigit digit, ne_of_isDigit digit rfl, ne_of_isDigit digit rfl⟩

end

end PageExtract.Json
