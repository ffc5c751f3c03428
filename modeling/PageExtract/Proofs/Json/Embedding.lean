import Mathlib.Data.List.Forall2
import PageExtract.Proofs.Json.Form

/-!
# Texts inside a text

A JSON text can stand inside another one as it is: as the value of a member of an object.  What is
written in it is then written in the other (`Written.extend`), since a form does not depend on what
comes after it, and space around it may as well belong to the object.  So an object whose values are
texts is an object whose values are the forms in those texts (`IsObjectOf.writtenIn`).

Only for strings that hold half of a character alone is there something to see: no text that comes
later completes it (`Raw.content_of_extend`).
-/

namespace PageExtract.Json

/-! ## More text at the end -/

section

variable {cs rest : List Char} (more : List Char)

theorem Space.extend (h : Space cs rest) : Space (cs ++ more) (rest ++ more) := by
  induction h with
  | stop => exact .stop
  | pass space _ ih => exact .pass space ih

theorem Content.extend {s : List Char} (h : Content s cs rest) :
    Content s (cs ++ more) (rest ++ more) := by
  induction h with
  | close => exact .close
  | plain mark backslash printed _ ih => exact .plain mark backslash printed ih
  | short escape _ ih => exact .short escape ih
  | unit unit high low _ ih => exact .unit unit high low ih
  | halves unit high unit' low _ ih => exact .halves unit high unit' low ih

theorem Raw.extend (h : Raw cs rest) : Raw (cs ++ more) (rest ++ more) := by
  induction h with
  | close => exact .close
  | plain mark backslash printed _ ih => exact .plain mark backslash printed ih
  | short escape _ ih => exact .short escape ih
  | unit unit _ ih => exact .unit unit ih

variable {more}

/-- An escape with a number that a string starts with stands before more text comes. -/
theorem Raw.exists_of_unit {x y z w : Char} {full : List Char} (h : Raw cs rest)
    (start : cs ++ more = '\\' :: 'u' :: x :: y :: z :: w :: full) :
    ∃ inner, cs = '\\' :: 'u' :: x :: y :: z :: w :: inner ∧ inner ++ more = full ∧
      Raw inner rest := by
  cases h with
  | close => cases start
  | plain _ backslash => exact absurd (List.cons.inj start).1 backslash
  | short escape =>
    simp only [List.cons_append, List.cons.injEq] at start
    obtain ⟨-, rfl, -⟩ := start
    exact nomatch escape
  | unit _ inner =>
    simp only [List.cons_append, List.cons.injEq] at start
    obtain ⟨-, -, rfl, rfl, rfl, rfl, start⟩ := start
    exact ⟨_, rfl, start, inner⟩

/-- A string that ends before more text comes holds nothing else without it. -/
theorem Raw.content_of_extend {s : List Char} (h : Raw cs rest)
    (content : Content s (cs ++ more) (rest ++ more)) : Content s cs rest := by
  generalize start : cs ++ more = full at content
  generalize finish : rest ++ more = after at content
  induction content generalizing cs with
  | close =>
    cases h with
    | close => exact .close
    | plain mark => exact absurd (List.cons.inj start).1 mark
    | short | unit => cases start
  | plain mark backslash printed _ ih =>
    cases h with
    | close => exact absurd (List.cons.inj start).1.symm mark
    | plain _ _ _ inner =>
      simp only [List.cons_append, List.cons.injEq] at start
      obtain ⟨rfl, start⟩ := start
      exact .plain mark backslash printed (ih inner start finish)
    | short | unit => exact absurd (List.cons.inj start).1.symm backslash
  | short escape _ ih =>
    cases h with
    | close => cases start
    | plain _ backslash => exact absurd (List.cons.inj start).1 backslash
    | short _ inner =>
      simp only [List.cons_append, List.cons.injEq] at start
      obtain ⟨-, rfl, start⟩ := start
      exact .short escape (ih inner start finish)
    | unit =>
      simp only [List.cons_append, List.cons.injEq] at start
      obtain ⟨-, rfl, -⟩ := start
      exact nomatch escape
  | unit unit high low _ ih =>
    obtain ⟨inner, rfl, start, within⟩ := h.exists_of_unit start
    exact .unit unit high low (ih within start finish)
  | halves unit high unit' low _ ih =>
    obtain ⟨inner, rfl, start, within⟩ := h.exists_of_unit start
    obtain ⟨inner, rfl, start, within⟩ := within.exists_of_unit start
    exact .halves unit high unit' low (ih within start finish)

variable (more)

theorem Quoted.extend {content : Option String} (h : Quoted content cs rest) :
    Quoted content (cs ++ more) (rest ++ more) := by
  cases h with
  | text content => exact .text (content.extend more)
  | halved raw lone =>
    exact .halved (raw.extend more) fun s content => lone s (raw.content_of_extend content)

theorem Comma.extend {first : Bool} (h : Comma first cs rest) :
    Comma first (cs ++ more) (rest ++ more) := by
  cases h with
  | first space => exact .first (space.extend more)
  | later before after => exact .later (before.extend more) (after.extend more)

theorem Parts.extend {α : Type} {P : α → List Char → List Char → Prop} {first : Bool} {xs : List α}
    (part : ∀ x ∈ xs, ∀ cs rest, P x cs rest → P x (cs ++ more) (rest ++ more))
    (h : Parts P first xs cs rest) : Parts P first xs (cs ++ more) (rest ++ more) := by
  induction h with
  | done space => exact .done (space.extend more)
  | part comma here _ ih =>
    obtain ⟨this, others⟩ := List.forall_mem_cons.mp part
    exact .part (comma.extend more) (this _ _ here) (ih others)

/-- A form that is written is still written if more text comes. -/
theorem Written.extend {f : Form} (h : Written f cs rest) :
    Written f (cs ++ more) (rest ++ more) := by
  induction f generalizing cs rest with
  | null =>
    cases h with
    | null => exact .null
  | boolean value =>
    cases h with
    | yes => exact .yes
    | no => exact .no
  | number written =>
    cases h with
    | number number =>
      rw [List.append_assoc]
      exact .number number
  | string content =>
    cases h with
    | string quoted => exact .string (quoted.extend more)
  | list items ih =>
    cases h with
    | list parts => exact .list (parts.extend more fun f mem cs rest => ih f mem)
  | object members ih =>
    cases h with
    | object parts =>
      refine .object (parts.extend more fun m mem cs rest part => ?_)
      cases part with
      | mk named before after value =>
        exact .mk (named.extend more) (before.extend more) (after.extend more) (ih _ mem value)

end

/-! ## Objects of texts -/

/-- Whether characters start with a text, and what comes after it. -/
def Verbatim (text : String) (cs rest : List Char) : Prop := cs = text.toList ++ rest

/-- Whether a text is an object with some names and the texts that stand for their values, with
space around it and around its parts. -/
def IsObjectOf (members : List (String × String)) (text : String) : Prop :=
  ∃ cs rest, Space text.toList ('{' :: cs) ∧
    Parts (Named Verbatim) true (members.map fun m => (some m.1, m.2)) cs ('}' :: rest) ∧
    Space rest []

/-- Whether a member is written with a name and a text for its value. -/
def Named.Holds (m : String × String) (form : Option String × Form) : Prop :=
  form.1 = some m.1 ∧ form.2.WrittenIn m.2

/-- Space in front of what comes after a part makes no difference. -/
theorem Parts.after_space {α : Type} {P : α → List Char → List Char → Prop} {xs : List α}
    {cs mid rest : List Char} (space : Space cs mid) (h : Parts P false xs mid rest) :
    Parts P false xs cs rest := by
  cases h with
  | done last => exact .done (space.trans last)
  | part comma here more =>
    cases comma with
    | later before after => exact .part (.later (space.trans before) after) here more

/-- Where texts stand in an object, the forms in them stand in it. -/
theorem parts_of_verbatim {members : List (String × String)}
    {forms : List (Option String × Form)} (holds : List.Forall₂ Named.Holds members forms)
    {first : Bool} {cs rest : List Char}
    (parts : Parts (Named Verbatim) first (members.map fun m => (some m.1, m.2)) cs rest) :
    Parts (Named Written) first forms cs rest := by
  induction holds generalizing first cs with
  | nil =>
    cases parts with
    | done space => exact .done space
  | @cons m form _ _ this _ ih =>
    obtain ⟨name, f⟩ := form
    obtain ⟨rfl, inner, back, front, written, space⟩ := this
    cases parts with
    | @part _ _ _ _ _ b _ comma part more =>
      cases part with
      | @mk _ _ _ _ _ c _ named before after value =>
        obtain rfl : c = m.2.toList ++ b := value
        have start := after.trans (front.extend b)
        refine .part comma (.mk named before start (written.extend b)) ?_
        exact (ih more).after_space (space.extend b)

theorem IsObjectOf.writtenIn {members : List (String × String)} {text : String}
    (h : IsObjectOf members text) {forms : List (Option String × Form)}
    (holds : List.Forall₂ Named.Holds members forms) : (Form.object forms).WrittenIn text := by
  obtain ⟨cs, rest, front, parts, back⟩ := h
  exact ⟨_, rest, front, .object (parts_of_verbatim holds parts), back⟩

end PageExtract.Json
