import PageExtract.Proofs.Checks
import PageExtract.Proofs.Json.Passing

/-!
# What is passed is a form

The reader of values that are not wanted passes forms and nothing else
(`exists_written_of_skipValue`).  So a text in which something is passed is still a JSON text there.

The reader holds the brackets that are open in a list.  After a value the text has to close each of
them, innermost first, with perhaps more parts before the bracket closes.  `Closes` says this of a
list of brackets.  Passing from a value on to the end of all brackets passes such a text
(`PassesForms.closeAndPass`), and a bracket whose parts and end have been passed is a form.
-/

namespace PageExtract.Json

variable {c d : Cursor} {rest : List Char}

/-! ## Characters -/

theorem Cursor.rest_of_at {x : Char} (here : c.at x = true) : c.rest = x :: c.advance.rest := by
  have first : c.rest.head? = some x := of_decide_eq_true here
  obtain ⟨cs, p⟩ := c
  cases cs with
  | nil => exact nomatch first
  | cons y cs =>
    cases first
    rfl

theorem Cursor.advance_rest {x : Char} (next : c.rest = x :: rest) : c.advance.rest = rest := by
  rw [Cursor.advance_of_cons next]

theorem rest_of_skipWord {word : List Char} (h : skipWord word c = .ok d) :
    c.rest = word ++ d.rest := by
  induction word generalizing c with
  | nil => exact congrArg Cursor.rest (Except.ok.inj h)
  | cons x word ih =>
    rw [skipWord] at h
    split at h
    next => exact nomatch h
    next y rest next =>
      split at h
      next same =>
        subst same
        rw [next, ← Cursor.advance_rest next, ih h, List.cons_append]
      next => exact nomatch h

/-! ## Numbers -/

section Numbers

theorem digitsFrom_split (cs : List Char) (p : Position) :
    cs = (digitsFrom cs p).1 ++ (digitsFrom cs p).2.rest ∧
      ∀ x ∈ (digitsFrom cs p).1, isDigit x = true := by
  induction cs generalizing p with
  | nil => exact ⟨rfl, List.forall_mem_nil _⟩
  | cons x cs ih =>
    rw [digitsFrom]
    split
    next digit =>
      obtain ⟨split, digits⟩ := ih (p.after x)
      exact ⟨congrArg (x :: ·) split, List.forall_mem_cons.mpr ⟨digit, digits⟩⟩
    next => exact ⟨rfl, List.forall_mem_nil _⟩

theorem Cursor.digits_split (c : Cursor) : c.rest = c.digits.1 ++ c.digits.2.rest :=
  (digitsFrom_split c.rest c.position).1

theorem Cursor.isDigits_of_ne {c : Cursor} (filled : c.digits.1 ≠ []) : IsDigits c.digits.1 :=
  ⟨filled, (digitsFrom_split c.rest c.position).2⟩

theorem Cursor.isDigits {c : Cursor} (here : c.atDigit = true) : IsDigits c.digits.1 := by
  refine c.isDigits_of_ne ?_
  obtain ⟨cs, p⟩ := c
  cases cs with
  | nil => exact nomatch here
  | cons x cs =>
    have digit : isDigit x = true := here
    rw [Cursor.digits, digitsFrom, if_pos digit]
    exact List.cons_ne_nil _ _

theorem Cursor.skipSign_split (c : Cursor) :
    ∃ sign, (sign = [] ∨ sign = ['+'] ∨ sign = ['-']) ∧ c.rest = sign ++ c.skipSign.rest := by
  rw [Cursor.skipSign]
  split
  next signed =>
    rcases Bool.or_eq_true_iff.mp signed with plus | minus
    · exact ⟨['+'], .inr (.inl rfl), Cursor.rest_of_at plus⟩
    · exact ⟨['-'], .inr (.inr rfl), Cursor.rest_of_at minus⟩
  next => exact ⟨[], .inl rfl, rfl⟩

theorem isPower_of_skipPower (h : skipPower c = .ok d) :
    ∃ power, IsPower power ∧ c.rest = power ++ d.rest := by
  rw [skipPower] at h
  split at h
  next exponent =>
    rw [skipExponent] at h
    split at h
    next here =>
      obtain ⟨e, letter, next⟩ : ∃ e, (e = 'e' ∨ e = 'E') ∧ c.rest = e :: c.advance.rest := by
        rcases Bool.or_eq_true_iff.mp exponent with small | large
        · exact ⟨'e', .inl rfl, Cursor.rest_of_at small⟩
        · exact ⟨'E', .inr rfl, Cursor.rest_of_at large⟩
      obtain ⟨sign, sign_ok, split⟩ := c.advance.skipSign_split
      have digits := Cursor.isDigits here
      refine ⟨e :: (sign ++ c.advance.skipSign.digits.1),
        .inr ⟨e, sign, _, rfl, letter, sign_ok, digits⟩, ?_⟩
      rw [next, split, List.cons_append, List.append_assoc, ← Except.ok.inj h,
        ← Cursor.digits_split]
    next => cases h
  next => exact ⟨[], .inl rfl, congrArg Cursor.rest (Except.ok.inj h)⟩

theorem isFraction_of_skipTail (h : skipTail c = .ok d) :
    ∃ fraction power, IsFraction fraction ∧ IsPower power ∧
      c.rest = fraction ++ (power ++ d.rest) := by
  rw [skipTail] at h
  split at h
  next point =>
    dsimp only at h
    split at h
    next => cases h
    next filled =>
      obtain ⟨power, power_ok, split⟩ := isPower_of_skipPower h
      refine ⟨'.' :: c.advance.digits.1, power,
        .inr ⟨_, rfl, Cursor.isDigits_of_ne filled⟩, power_ok, ?_⟩
      rw [List.cons_append, ← split, ← Cursor.digits_split]
      exact Cursor.rest_of_at point
  next =>
    obtain ⟨power, power_ok, split⟩ := isPower_of_skipPower h
    exact ⟨[], power, .inl rfl, power_ok, split⟩

/-- What is passed as a number is one. -/
theorem isNumber_of_skipNumber (h : skipNumber c = .ok d) :
    ∃ written, IsNumber written ∧ c.rest = written ++ d.rest := by
  rw [skipNumber] at h
  have signed : ∃ sign, (sign = [] ∨ sign = ['-']) ∧
      c.rest = sign ++ (if c.at '-' then c.advance else c).rest := by
    split
    next minus => exact ⟨['-'], .inr rfl, Cursor.rest_of_at minus⟩
    next => exact ⟨[], .inl rfl, rfl⟩
  generalize (if c.at '-' then c.advance else c) = unsigned at h signed
  obtain ⟨sign, sign_ok, first⟩ := signed
  -- The whole part, and then what follows it.
  have done {whole : List Char} {e : Cursor} (digits : IsDigits whole)
      (zeros : whole.head? = some '0' → whole = ['0']) (split : unsigned.rest = whole ++ e.rest)
      (tail : skipTail e = .ok d) : ∃ written, IsNumber written ∧ c.rest = written ++ d.rest := by
    obtain ⟨fraction, power, fraction_ok, power_ok, after⟩ := isFraction_of_skipTail tail
    refine ⟨_, .mk sign_ok digits zeros fraction_ok power_ok, ?_⟩
    rw [first, split, after]
    simp only [List.append_assoc]
  dsimp only at h
  split at h
  next zero =>
    split at h
    next => cases h
    next =>
      have digits : IsDigits ['0'] := ⟨List.cons_ne_nil _ _, List.forall_mem_singleton.mpr rfl⟩
      exact done digits (fun _ => rfl) (Cursor.rest_of_at zero) h
  next nonzero =>
    split at h
    next digit =>
      have digits := Cursor.isDigits digit
      refine done digits (fun zero => ?_) unsigned.digits_split h
      -- The first digit is the first character, and that is no zero.
      refine absurd (decide_eq_true ?_) nonzero
      obtain ⟨x, more, split, -⟩ := digits.head
      rw [unsigned.digits_split, split]
      rw [split] at zero
      exact zero
    next => cases h

end Numbers

/-! ## Values that are no brackets -/

/-- What is passed as a string is one, up to its closing mark. -/
theorem raw_of_skipStringFrom {cs : List Char} {p : Position} (h : skipStringFrom cs p = .ok d) :
    Raw cs d.rest := by
  fun_induction skipStringFrom cs p with
  | case1 | case4 | case5 | case7 | case8 | case9 => exact nomatch h
  | case2 rest p =>
    cases h
    exact .close
  | case3 x y z w rest p unit ih =>
    obtain ⟨n, unit⟩ := Option.isSome_iff_exists.mp unit
    exact .unit unit (ih h)
  | case6 p q x rest escape _ ih =>
    obtain ⟨y, escape⟩ := Option.isSome_iff_exists.mp escape
    exact .short escape (ih h)
  | case10 x rest p mark _ backslash printed ih =>
    exact .plain mark backslash (Nat.le_of_not_lt printed) (ih h)

/-- A string holds a text or half of a character alone. -/
theorem Raw.quoted {cs : List Char} (h : Raw cs rest) : ∃ content, Quoted content cs rest := by
  by_cases text : ∃ s : String, Content s.toList cs rest
  · obtain ⟨s, content⟩ := text
    exact ⟨some s, .text content⟩
  · refine ⟨none, .halved h fun s content => text ⟨String.ofList s, ?_⟩⟩
    rwa [String.toList_ofList]

/-- What comes after something is passed where that is. -/
theorem map_passed {α : Type} {result : Except Fault Cursor} {x y : α}
    (h : result.map (x, ·) = .ok (y, d)) : x = y ∧ result = .ok d := by
  cases result with
  | error fault => exact nomatch h
  | ok e =>
    cases h
    exact ⟨rfl, rfl⟩

/-- What is passed in one go is a form or the start of a bracket. -/
theorem written_or_opener_of_skipAtom {opened : Option Bracket} (h : skipAtom c = .ok (opened, d)) :
    (opened = none ∧ ∃ f, Written f c.rest d.rest) ∨
      ∃ b, opened = some b ∧ c.rest = b.opener :: d.rest := by
  have word {x : Char} {rest word : List Char} (next : c.rest = x :: rest)
      (h : skipWord word c.advance = .ok d) : c.rest = x :: (word ++ d.rest) := by
    rw [next, ← Cursor.advance_rest next, rest_of_skipWord h]
  rw [skipAtom] at h
  split at h
  next => cases h
  next next =>
    obtain ⟨rfl, passed⟩ := map_passed h
    exact .inl ⟨rfl, .null, word next passed ▸ .null⟩
  next next =>
    obtain ⟨rfl, passed⟩ := map_passed h
    exact .inl ⟨rfl, .boolean true, word next passed ▸ .yes⟩
  next next =>
    obtain ⟨rfl, passed⟩ := map_passed h
    exact .inl ⟨rfl, .boolean false, word next passed ▸ .no⟩
  next cs next =>
    obtain ⟨rfl, passed⟩ := map_passed h
    rw [skipString] at passed
    obtain ⟨content, quoted⟩ := (raw_of_skipStringFrom passed).quoted
    rw [Cursor.advance_rest next] at quoted
    exact .inl ⟨rfl, .string content, next ▸ .string quoted⟩
  next next =>
    cases h
    exact .inr ⟨.list, rfl, by rw [Cursor.advance_rest next]; exact next⟩
  next next =>
    cases h
    exact .inr ⟨.object, rfl, by rw [Cursor.advance_rest next]; exact next⟩
  next =>
    split at h
    next =>
      obtain ⟨rfl, passed⟩ := map_passed h
      obtain ⟨written, number, split⟩ := isNumber_of_skipNumber passed
      exact .inl ⟨rfl, .number written, split ▸ .number number⟩
    next => cases h

/-- What is passed as the name of a member, with its colon, is one. -/
theorem quoted_of_skipName (h : skipName c = .ok d) :
    ∃ name cs a, Space c.rest ('"' :: cs) ∧ Quoted name cs a ∧ Space a (':' :: d.rest) := by
  rw [skipName] at h
  dsimp only at h
  split at h
  next => cases h
  next cs next =>
    obtain ⟨e, passed, h⟩ := except_bind_eq_ok_iff.mp h
    split at h
    next => cases h
    next rest mark =>
      rw [skipString, Cursor.advance_rest next] at passed
      obtain ⟨name, quoted⟩ := (raw_of_skipStringFrom passed).quoted
      have after := Cursor.advance_rest mark
      rw [Except.ok.inj h] at after
      rw [← after] at mark
      exact ⟨name, cs, e.rest, (space_cons_iff rfl).mpr next, quoted, (space_cons_iff rfl).mpr mark⟩
    next => cases h
  next => cases h

/-! ## Brackets -/

/-- Whether characters are a part of a bracket, up to some others. -/
def Bracket.Part : Bracket → List Char → List Char → Prop
  | .list, cs, rest => ∃ f, Written f cs rest
  | .object, cs, rest => ∃ m, Named Written m cs rest

/-- Whether characters close a bracket, after a part of it or from its start. -/
def Bracket.Closes (filled : Bool) : Bracket → List Char → List Char → Prop
  | .list, cs, rest => ∃ items, Parts Written (!filled) items cs (']' :: rest)
  | .object, cs, rest => ∃ members, Parts (Named Written) (!filled) members cs ('}' :: rest)

/-- Whether characters close some brackets, innermost first. -/
def Closes : Bool → List Bracket → List Char → List Char → Prop
  | _, [], cs, rest => cs = rest
  | filled, b :: outer, cs, rest => ∃ mid, b.Closes filled cs mid ∧ Closes true outer mid rest

section Brackets

variable {b : Bracket} {filled : Bool} {stack : List Bracket} {cs : List Char} {steps : Nat}

/-- A bracket closes where its closing character comes. -/
theorem Bracket.closes_of_closer (space : Space cs (b.closer :: rest)) :
    b.Closes filled cs rest := by
  cases b with
  | list => exact ⟨[], .done space⟩
  | object => exact ⟨[], .done space⟩

/-- A bracket closes where a part of it comes and it closes after that. -/
theorem Bracket.closes_of_part {a e : List Char} (comma : Comma (!filled) cs a) (part : b.Part a e)
    (closes : b.Closes true e rest) : b.Closes filled cs rest := by
  cases b with
  | list =>
    obtain ⟨f, written⟩ := part
    obtain ⟨items, parts⟩ := closes
    exact ⟨f :: items, .part comma written parts⟩
  | object =>
    obtain ⟨m, named⟩ := part
    obtain ⟨members, parts⟩ := closes
    exact ⟨m :: members, .part comma named parts⟩

/-- A bracket that closes is a form. -/
theorem Bracket.exists_written (next : cs = b.opener :: rest) {after : List Char}
    (closes : b.Closes false rest after) : ∃ f, Written f cs after := by
  subst next
  cases b with
  | list =>
    obtain ⟨items, parts⟩ := closes
    exact ⟨.list items, .list parts⟩
  | object =>
    obtain ⟨members, parts⟩ := closes
    exact ⟨.object members, .object parts⟩

/-- Whether passing values passes a form and then what closes the brackets that are open, with so
many steps. -/
def PassesForms (steps : Nat) : Prop :=
  ∀ ⦃stack : List Bracket⦄ ⦃c d : Cursor⦄, skipValues steps stack c = .ok d →
    ∃ f a e, Space c.rest a ∧ Written f a e ∧ Closes true stack e d.rest

theorem PassesForms.passOpen (forms : PassesForms steps)
    (h : passOpen steps (b :: stack) c = .ok d) :
    ∃ a e, Space c.rest a ∧ b.Part a e ∧ Closes true (b :: stack) e d.rest := by
  cases b with
  | list =>
    obtain ⟨f, a, e, space, written, closes⟩ := forms h
    exact ⟨a, e, space, ⟨f, written⟩, closes⟩
  | object =>
    rw [Json.passOpen] at h
    obtain ⟨n, named, h⟩ := except_bind_eq_ok_iff.mp h
    obtain ⟨name, cs, mid, space, quoted, colon⟩ := quoted_of_skipName named
    obtain ⟨f, a, e, after, written, closes⟩ := forms h
    exact ⟨_, e, space, ⟨_, .mk quoted colon after written⟩, closes⟩

theorem PassesForms.closeAndPass (forms : PassesForms steps)
    (h : closeAndPass steps filled stack c = .ok d) : Closes filled stack c.rest d.rest := by
  induction stack generalizing filled c with
  | nil => exact congrArg Cursor.rest (Except.ok.inj h)
  | cons b stack ih =>
    have space := c.space_skipSpace
    cases next : c.skipSpace.rest with
    | nil =>
      rw [Json.closeAndPass, closeBrackets] at h
      dsimp only at h
      rw [next] at h
      cases h
    | cons x rest =>
      rw [next] at space
      by_cases closer : x = b.closer
      · subst closer
        rw [closeAndPass_of_closer next] at h
        have closes := ih h
        rw [Cursor.advance_rest next] at closes
        exact ⟨rest, Bracket.closes_of_closer space, closes⟩
      · have more {e : Cursor} (comma : ∀ a, Space e.rest a → Comma (!filled) c.rest a)
            (h : Json.passOpen steps (b :: stack) e = .ok d) :
            Closes filled (b :: stack) c.rest d.rest := by
          obtain ⟨a, _, space, part, mid, closes, outer⟩ := forms.passOpen h
          exact ⟨mid, Bracket.closes_of_part (comma a space) part closes, outer⟩
        cases filled with
        | false =>
          rw [closeAndPass_of_first next closer] at h
          exact more (fun a after => .first (c.space_skipSpace.trans after)) h
        | true =>
          by_cases comma : x = ','
          · subst comma
            rw [closeAndPass_of_comma next] at h
            refine more (fun a after => .later space ?_) h
            rwa [Cursor.advance_rest next] at after
          · rw [Json.closeAndPass, closeBrackets] at h
            dsimp only at h
            rw [next] at h
            dsimp only at h
            rw [if_neg fun same => comma same.1, if_neg closer, if_pos rfl] at h
            cases h

end Brackets

/-- With any number of steps, forms are passed and nothing else. -/
theorem passesForms (steps : Nat) : PassesForms steps := by
  induction steps with
  | zero => exact fun _ _ _ h => nomatch h
  | succ steps forms =>
    intro stack c d h
    rw [skipValues_succ] at h
    obtain ⟨⟨opened, e⟩, atom, h⟩ := except_bind_eq_ok_iff.mp h
    rcases written_or_opener_of_skipAtom atom with ⟨rfl, f, written⟩ | ⟨b, rfl, next⟩
    · exact ⟨f, _, e.rest, c.space_skipSpace, written, forms.closeAndPass h⟩
    · obtain ⟨mid, closes, outer⟩ := forms.closeAndPass h
      obtain ⟨f, written⟩ := Bracket.exists_written next closes
      exact ⟨f, _, mid, c.space_skipSpace, written, outer⟩

/-- What is passed is a form, with space in front of it. -/
theorem exists_written_of_skipValue (h : skipValue c = .ok d) :
    ∃ f a, Space c.rest a ∧ Written f a d.rest := by
  obtain ⟨f, a, _, space, written, rfl⟩ := passesForms _ h
  exact ⟨f, a, space, written⟩

end PageExtract.Json
