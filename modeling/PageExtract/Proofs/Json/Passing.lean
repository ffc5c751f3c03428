import PageExtract.Proofs.Json.Form
import PageExtract.Proofs.Json.Reading

/-!
# Passing forms

A value that no one asks for is passed, whatever form it has and however deep it nests
(`Written.skipValue`).

Passing goes on after a value as the brackets say that are open around it (`closeAndPass`).  So
passing a value and going on is the same as going on after it (`Form.passes`).  For the parts of
a bracket this is shown one after another (`closeAndPass_parts`), and then for the bracket.
-/

namespace PageExtract.Json

theorem Cursor.advance_of_cons {c : Cursor} {x : Char} {rest : List Char}
    (next : c.rest = x :: rest) : c.advance = ⟨rest, c.position.after x⟩ := by
  rw [Cursor.advance, next]

/-! ## Numbers -/

section Numbers

/-- How a fraction is written, if there is one. -/
def IsFraction (cs : List Char) : Prop := cs = [] ∨ ∃ ds, cs = '.' :: ds ∧ IsDigits ds

/-- How an exponent is written, if there is one. -/
def IsPower (cs : List Char) : Prop :=
  cs = [] ∨ ∃ e sign ds, cs = e :: (sign ++ ds) ∧ (e = 'e' ∨ e = 'E') ∧
    (sign = [] ∨ sign = ['+'] ∨ sign = ['-']) ∧ IsDigits ds

/-- Whether characters do not start with a digit. -/
def NoDigit (cs : List Char) : Prop := ∀ c ∈ cs.head?, isDigit c = false

theorem not_isDigit_of_isEnd {c : Char} (ends : isEnd c = true) : isDigit c = false := by
  refine eq_false_of_ne_true fun digit => ?_
  rw [isEnd, isSpace_of_isDigit digit, decide_eq_false (ne_of_isDigit digit (d := ',') rfl),
    decide_eq_false (ne_of_isDigit digit (d := ']') rfl),
    decide_eq_false (ne_of_isDigit digit (d := '}') rfl)] at ends
  exact Bool.false_ne_true ends

theorem Ends.noDigit {cs : List Char} (ends : Ends cs) : NoDigit cs :=
  fun c first => not_isDigit_of_isEnd (ends c first)

theorem NoDigit.atDigit {cs : List Char} (stop : NoDigit cs) (p : Position) :
    Cursor.atDigit ⟨cs, p⟩ = false := by
  cases cs with
  | nil => rfl
  | cons c cs => exact stop c rfl

/-- Where a value may end no character comes that may not. -/
theorem Ends.at_eq_false {cs : List Char} (ends : Ends cs) (p : Position) {c : Char}
    (other : isEnd c = false) : Cursor.at ⟨cs, p⟩ c = false := by
  refine decide_eq_false fun first => ?_
  rw [ends c first] at other
  exact nomatch other

theorem digitsFrom_append {ds rest : List Char} (digits : ∀ d ∈ ds, isDigit d = true)
    (stop : NoDigit rest) (p : Position) : ∃ q, digitsFrom (ds ++ rest) p = (ds, ⟨rest, q⟩) := by
  induction ds generalizing p with
  | nil =>
    refine ⟨p, ?_⟩
    cases rest with
    | nil => rfl
    | cons c rest =>
      rw [List.nil_append, digitsFrom, if_neg]
      rw [stop c rfl]
      exact Bool.false_ne_true
  | cons d ds ih =>
    obtain ⟨here, later⟩ := List.forall_mem_cons.mp digits
    obtain ⟨q, passed⟩ := ih later (p.after d)
    exact ⟨q, by rw [List.cons_append, digitsFrom, if_pos here, passed]⟩

theorem IsDigits.head {ds : List Char} (h : IsDigits ds) :
    ∃ d more, ds = d :: more ∧ isDigit d = true := by
  cases ds with
  | nil => exact absurd rfl h.1
  | cons d more => exact ⟨d, more, rfl, h.2 d (.head _)⟩

/-- Digits are passed up to what is none. -/
theorem IsDigits.passed {ds rest : List Char} (h : IsDigits ds) (stop : NoDigit rest)
    (p : Position) :
    Cursor.atDigit ⟨ds ++ rest, p⟩ = true ∧
      ∃ q, Cursor.digits ⟨ds ++ rest, p⟩ = (ds, ⟨rest, q⟩) := by
  refine ⟨?_, digitsFrom_append h.2 stop p⟩
  obtain ⟨d, more, rfl, digit⟩ := h.head
  exact digit

variable {power rest : List Char}

/-- An exponent, or none, is passed up to where a value may end. -/
theorem skipPower_append (power_ok : IsPower power) (ends : Ends rest) (p : Position) :
    ∃ q, skipPower ⟨power ++ rest, p⟩ = .ok ⟨rest, q⟩ := by
  rcases power_ok with rfl | ⟨e, sign, ds, rfl, letter, sign_ok, digits⟩
  · refine ⟨p, ?_⟩
    rw [List.nil_append, skipPower, Cursor.atExponent, ends.at_eq_false p rfl,
      ends.at_eq_false p rfl]
    rfl
  · have exponent : Cursor.atExponent ⟨e :: (sign ++ ds) ++ rest, p⟩ = true := by
      rcases letter with rfl | rfl <;> rfl
    have signed (p : Position) :
        ∃ q, Cursor.skipSign ⟨sign ++ (ds ++ rest), p⟩ = ⟨ds ++ rest, q⟩ := by
      rcases sign_ok with rfl | rfl | rfl
      · obtain ⟨d, more, rfl, digit⟩ := digits.head
        refine ⟨p, ?_⟩
        have plus : Cursor.at ⟨d :: more ++ rest, p⟩ '+' = false :=
          decide_eq_false fun h => ne_of_isDigit digit (d := '+') rfl (Option.some.inj h)
        have minus : Cursor.at ⟨d :: more ++ rest, p⟩ '-' = false :=
          decide_eq_false fun h => ne_of_isDigit digit (d := '-') rfl (Option.some.inj h)
        rw [List.nil_append, Cursor.skipSign, plus, minus]
        rfl
      · exact ⟨_, rfl⟩
      · exact ⟨_, rfl⟩
    obtain ⟨q, unsigned⟩ := signed (p.after e)
    obtain ⟨here, r, passed⟩ := digits.passed ends.noDigit q
    have advanced : Cursor.advance ⟨e :: (sign ++ ds) ++ rest, p⟩ =
        ⟨sign ++ (ds ++ rest), p.after e⟩ := by
      rw [List.cons_append, List.append_assoc]
      rfl
    refine ⟨r, ?_⟩
    rw [skipPower, if_pos exponent, skipExponent, advanced, unsigned, if_pos here, passed]

/-- What starts with an exponent, or is none, starts with no digit and no point. -/
theorem IsPower.head (power_ok : IsPower power) (ends : Ends rest) :
    NoDigit (power ++ rest) ∧ ∀ p, Cursor.at ⟨power ++ rest, p⟩ '.' = false := by
  rcases power_ok with rfl | ⟨e, sign, ds, rfl, letter, -⟩
  · exact ⟨ends.noDigit, fun p => ends.at_eq_false p rfl⟩
  · rcases letter with rfl | rfl
    · exact ⟨fun c first => Option.some.inj first ▸ rfl, fun _ => rfl⟩
    · exact ⟨fun c first => Option.some.inj first ▸ rfl, fun _ => rfl⟩

/-- What follows the whole part of a number is passed up to where a value may end. -/
theorem skipTail_append {fraction : List Char} (fraction_ok : IsFraction fraction)
    (power_ok : IsPower power) (ends : Ends rest) (p : Position) :
    NoDigit (fraction ++ (power ++ rest)) ∧
      ∃ q, skipTail ⟨fraction ++ (power ++ rest), p⟩ = .ok ⟨rest, q⟩ := by
  obtain ⟨stop, point⟩ := power_ok.head ends
  rcases fraction_ok with rfl | ⟨ds, rfl, digits⟩
  · obtain ⟨q, passed⟩ := skipPower_append power_ok ends p
    refine ⟨stop, q, ?_⟩
    rw [List.nil_append, skipTail, point, passed]
    rfl
  · refine ⟨fun c first => Option.some.inj first ▸ rfl, ?_⟩
    obtain ⟨-, q, after⟩ := digits.passed stop (p.after '.')
    obtain ⟨r, passed⟩ := skipPower_append power_ok ends q
    have advanced : Cursor.advance ⟨'.' :: ds ++ (power ++ rest), p⟩ =
        ⟨ds ++ (power ++ rest), p.after '.'⟩ := rfl
    refine ⟨r, ?_⟩
    have here : Cursor.at ⟨'.' :: ds ++ (power ++ rest), p⟩ '.' = true := rfl
    rw [skipTail, if_pos here, advanced, after]
    dsimp only
    rw [if_neg digits.1, passed]

/-- A number is passed up to where a value may end. -/
theorem IsNumber.skipNumber {written : List Char} (h : IsNumber written) (ends : Ends rest)
    (p : Position) : ∃ q, skipNumber ⟨written ++ rest, p⟩ = .ok ⟨rest, q⟩ := by
  cases h with
  | @mk sign whole fraction power sign_ok digits zeros fraction_ok power_ok =>
    have regroup : sign ++ (whole ++ (fraction ++ power)) ++ rest =
        sign ++ (whole ++ (fraction ++ (power ++ rest))) := by simp only [List.append_assoc]
    generalize after_ok : whole ++ (fraction ++ (power ++ rest)) = after
    have unsigned : ∃ q, (if Cursor.at ⟨sign ++ after, p⟩ '-' then Cursor.advance ⟨sign ++ after, p⟩
        else ⟨sign ++ after, p⟩) = ⟨after, q⟩ := by
      subst after_ok
      rcases sign_ok with rfl | rfl
      · obtain ⟨d, more, rfl, digit⟩ := digits.head
        refine ⟨p, if_neg fun minus => ?_⟩
        exact ne_of_isDigit digit (d := '-') rfl (Option.some.inj (of_decide_eq_true minus))
      · exact ⟨_, rfl⟩
    obtain ⟨q, unsigned⟩ := unsigned
    rw [regroup, after_ok, Json.skipNumber, unsigned]
    subst after_ok
    dsimp only
    by_cases zero : whole.head? = some '0'
    · obtain rfl := zeros zero
      obtain ⟨stop, r, passed⟩ := skipTail_append fraction_ok power_ok ends (q.after '0')
      have here : Cursor.at ⟨['0'] ++ (fraction ++ (power ++ rest)), q⟩ '0' = true := rfl
      have advanced : Cursor.advance ⟨['0'] ++ (fraction ++ (power ++ rest)), q⟩ =
        ⟨fraction ++ (power ++ rest), q.after '0'⟩ := rfl
      rw [if_pos here, advanced, stop.atDigit]
      exact ⟨r, passed⟩
    · have stop := (skipTail_append fraction_ok power_ok ends q).1
      obtain ⟨here, r, after⟩ := digits.passed stop q
      obtain ⟨-, s, passed⟩ := skipTail_append fraction_ok power_ok ends r
      have other : ¬ Cursor.at ⟨whole ++ (fraction ++ (power ++ rest)), q⟩ '0' = true := by
        obtain ⟨d, more, rfl, -⟩ := digits.head
        exact fun first => zero (of_decide_eq_true first)
      rw [if_neg other, if_pos here, after]
      exact ⟨s, passed⟩

end Numbers

/-! ## Values that are no brackets -/

section Atoms

variable {cs rest : List Char}

theorem skipStringFrom_plain {c : Char} {p : Position} (mark : c ≠ '"') (backslash : c ≠ '\\')
    (printed : 0x20 ≤ c.toNat) : skipStringFrom (c :: cs) p = skipStringFrom cs (p.after c) := by
  rw [skipStringFrom, if_neg (Nat.not_lt_of_le printed)]
  · exact mark
  · exact fun _ _ _ _ _ h _ => backslash h
  · exact backslash

theorem skipStringFrom_short {x c : Char} {p : Position} (escape : shortEscape? x = some c) :
    skipStringFrom ('\\' :: x :: cs) p = skipStringFrom cs ((p.after '\\').after x) := by
  rw [skipStringFrom]
  · simp only [escape, Option.isSome_some, if_true]
  · rintro _ _ _ _ _ same
    cases same
    exact nomatch escape

/-- A string is passed up to its closing mark. -/
theorem Raw.skipStringFrom (h : Raw cs rest) (p : Position) :
    ∃ q, skipStringFrom cs p = .ok ⟨rest, q⟩ := by
  induction h generalizing p with
  | close => exact ⟨_, rfl⟩
  | plain mark backslash printed _ ih =>
    rw [skipStringFrom_plain mark backslash printed]
    exact ih _
  | short escape _ ih =>
    rw [skipStringFrom_short escape]
    exact ih _
  | unit unit _ ih =>
    rw [Json.skipStringFrom, unit, Option.isSome_some, if_pos rfl]
    exact ih _

theorem Quoted.skipString {s : Option String} (h : Quoted s cs rest) (p : Position) :
    ∃ q, skipString ⟨'"' :: cs, p⟩ = .ok ⟨rest, q⟩ :=
  h.raw.skipStringFrom _

/-- A number starts with a minus or a digit, and with nothing else. -/
theorem ne_of_startsNumber {c d : Char} (start : c = '-' ∨ isDigit c = true)
    (digit : isDigit d = false) (minus : d ≠ '-') : c ≠ d := by
  rcases start with rfl | start
  · exact minus.symm
  · exact ne_of_isDigit start digit

theorem IsNumber.skipAtom {written : List Char} (h : IsNumber written) (ends : Ends rest)
    (p : Position) : ∃ q, skipAtom ⟨written ++ rest, p⟩ = .ok (none, ⟨rest, q⟩) := by
  obtain ⟨q, passed⟩ := h.skipNumber ends p
  obtain ⟨c, more, rfl, start⟩ := h.head
  refine ⟨q, ?_⟩
  have other {d : Char} := @ne_of_startsNumber c d start
  rw [Json.skipAtom, List.cons_append]
  split
  next none => exact nomatch none
  next same => exact absurd (List.cons.inj same).1 (other rfl (by decide))
  next same => exact absurd (List.cons.inj same).1 (other rfl (by decide))
  next same => exact absurd (List.cons.inj same).1 (other rfl (by decide))
  next same => exact absurd (List.cons.inj same).1 (other rfl (by decide))
  next same => exact absurd (List.cons.inj same).1 (other rfl (by decide))
  next same => exact absurd (List.cons.inj same).1 (other rfl (by decide))
  next x _ same =>
    obtain ⟨rfl, rfl⟩ := List.cons.inj same
    rw [if_pos start, ← List.cons_append, passed]
    rfl

end Atoms

/-! ## Brackets -/

/-- Passes what is left of the brackets that are open: where the innermost is an object, the name
of a member comes before the next value. -/
def passOpen (steps : Nat) : List Bracket → Cursor → Except Fault Cursor
  | [], c => .ok c
  | .list :: outer, c => skipValues steps (.list :: outer) c
  | .object :: outer, c => do skipValues steps (.object :: outer) (← skipName c)

/-- Closes the brackets that are closed here and passes what is left of the others. -/
def closeAndPass (steps : Nat) (filled : Bool) (stack : List Bracket) (c : Cursor) :
    Except Fault Cursor := do
  let (stack, c) ← closeBrackets filled stack c
  passOpen steps stack c

section Brackets

variable {b : Bracket} {stack : List Bracket} {c d : Cursor} {steps : Nat} {rest : List Char}

/-- After one value the brackets around it are closed, or more comes in them. -/
theorem skipValues_succ : skipValues (steps + 1) stack c = (do
    let (opened, c) ← skipAtom c.skipSpace
    match opened with
    | some b => closeAndPass steps false (b :: stack) c
    | none => closeAndPass steps true stack c) := by
  rw [skipValues]
  refine bind_congr fun answer => ?_
  obtain ⟨opened, c⟩ := answer
  cases opened with
  | some b | none =>
    refine bind_congr fun answer => ?_
    obtain ⟨stack, c⟩ := answer
    match stack with
    | [] => rfl
    | .list :: _ => rfl
    | .object :: _ => rfl

theorem skipValues_of_atom (atom : skipAtom c.skipSpace = .ok (none, d)) :
    skipValues (steps + 1) stack c = closeAndPass steps true stack d := by
  rw [skipValues_succ, atom]
  rfl

theorem skipValues_of_open (atom : skipAtom c.skipSpace = .ok (some b, d)) :
    skipValues (steps + 1) stack c = closeAndPass steps false (b :: stack) d := by
  rw [skipValues_succ, atom]
  rfl

/-- The character that opens a bracket. -/
def Bracket.opener : Bracket → Char
  | .list => '['
  | .object => '{'

theorem skipAtom_of_opener (next : c.rest = b.opener :: rest) :
    skipAtom c = .ok (some b, c.advance) := by
  cases b with
  | list => simp only [skipAtom, next, Bracket.opener]
  | object => simp only [skipAtom, next, Bracket.opener]

theorem Bracket.isSpace_opener (b : Bracket) : isSpace b.opener = false := by
  cases b <;> rfl

theorem Bracket.closes (b : Bracket) : b.closer = ']' ∨ b.closer = '}' := by
  cases b with
  | list => exact .inl rfl
  | object => exact .inr rfl

theorem Bracket.closer_ne_comma (b : Bracket) : b.closer ≠ ',' := by
  cases b <;> decide

theorem Bracket.isSpace_closer (b : Bracket) : isSpace b.closer = false := by
  cases b <;> rfl

/-- A closing bracket closes its bracket. -/
theorem closeAndPass_of_closer {filled : Bool} (next : c.skipSpace.rest = b.closer :: rest) :
    closeAndPass steps filled (b :: stack) c =
      closeAndPass steps true stack c.skipSpace.advance := by
  rw [closeAndPass, closeBrackets]
  dsimp only
  rw [next]
  dsimp only
  rw [if_neg fun h => b.closer_ne_comma h.1, if_pos rfl]
  rfl

/-- After a comma more comes in the innermost bracket. -/
theorem closeAndPass_of_comma (next : c.skipSpace.rest = ',' :: rest) :
    closeAndPass steps true (b :: stack) c = passOpen steps (b :: stack) c.skipSpace.advance := by
  rw [closeAndPass, closeBrackets]
  dsimp only
  rw [next]
  dsimp only
  rw [if_pos ⟨rfl, rfl⟩]
  rfl

/-- In a bracket that is not closed at once something comes. -/
theorem closeAndPass_of_first {x : Char} (next : c.skipSpace.rest = x :: rest)
    (other : x ≠ b.closer) :
    closeAndPass steps false (b :: stack) c = passOpen steps (b :: stack) c.skipSpace := by
  rw [closeAndPass, closeBrackets]
  dsimp only
  rw [next]
  dsimp only
  have unfilled : ¬ (x = ',' ∧ false = true) := fun h => Bool.false_ne_true h.2
  rw [if_neg unfilled, if_neg other, if_neg Bool.false_ne_true]
  rfl

end Brackets

/-! ## Values in brackets -/

/-- Whether passing goes on after a part of a bracket as if it began there, with steps enough. -/
def PassesPart {α : Type} (b : Bracket) (P : α → List Char → List Char → Prop) (x : α) : Prop :=
  ∀ ⦃cs rest : List Char⦄, P x cs rest → Ends rest → ∀ ⦃c : Cursor⦄ ⦃steps : Nat⦄,
    Space c.rest cs → c.rest.length < steps → ∀ stack, ∃ left q, rest.length < left ∧
      passOpen steps (b :: stack) c = closeAndPass left true (b :: stack) ⟨rest, q⟩

/-- If passing goes on after each part of a bracket, then it goes on after the bracket. -/
theorem closeAndPass_parts {α : Type} {b : Bracket} {P : α → List Char → List Char → Prop}
    {xs : List α} {first : Bool} {c : Cursor} {rest : List Char} {steps : Nat}
    (opens : ∀ x cs rest, P x cs rest → Opens cs) (passes : ∀ x ∈ xs, PassesPart b P x)
    (parts : Parts P first xs c.rest (b.closer :: rest)) (enough : c.rest.length < steps)
    (stack : List Bracket) :
    ∃ left q, rest.length < left ∧
      closeAndPass steps (!first) (b :: stack) c = closeAndPass left true stack ⟨rest, q⟩ := by
  generalize inside : c.rest = cs at parts
  generalize ends : b.closer :: rest = e at parts
  induction parts generalizing c steps with
  | done space =>
    subst inside ends
    have next := (space_cons_iff b.isSpace_closer).mp space
    have passed := Cursor.advance_of_cons next
    have short := space.length_le
    rw [List.length_cons] at short
    refine ⟨steps, c.skipSpace.position.after b.closer, by omega, ?_⟩
    rw [closeAndPass_of_closer next, passed]
  | @part _ x _ _ a _ _ comma part more ih =>
    subst inside ends
    obtain ⟨here, later⟩ := List.forall_mem_cons.mp passes
    have ends := more.ends b.closes
    -- From where the part starts, passing goes on after it, and then after the parts to come.
    have go {d : Cursor} (space : Space d.rest a) (short : d.rest.length ≤ c.rest.length) :
        ∃ left q, rest.length < left ∧
          passOpen steps (b :: stack) d = closeAndPass left true stack ⟨rest, q⟩ := by
      obtain ⟨left, q, enough, passed⟩ :=
        here part ends space (Nat.lt_of_le_of_lt short enough) stack
      obtain ⟨left', q', enough', closed⟩ := ih later (c := ⟨_, q⟩) enough rfl rfl
      exact ⟨left', q', enough', passed.trans closed⟩
    obtain ⟨y, after, rfl, other, list, object⟩ := opens _ _ _ part
    cases comma with
    | first space =>
      have next := (space_cons_iff other).mp space
      have differs : y ≠ b.closer := by
        rcases b.closes with closer | closer
        · exact closer ▸ list
        · exact closer ▸ object
      obtain ⟨left, q, enough', passed⟩ := go (d := c.skipSpace) (next ▸ .stop)
        c.space_skipSpace.length_le
      exact ⟨left, q, enough', (closeAndPass_of_first next differs).trans passed⟩
    | later before space =>
      have next := (space_cons_iff rfl).mp before
      have advanced := congrArg Cursor.rest (Cursor.advance_of_cons next)
      have short := before.length_le
      obtain ⟨left, q, enough', passed⟩ := go (d := c.skipSpace.advance) (advanced ▸ space)
        (advanced ▸ Nat.le_of_succ_le short)
      exact ⟨left, q, enough', (closeAndPass_of_comma next).trans passed⟩

/-- If passing goes on after each part of a bracket, then it goes on from before the bracket. -/
theorem skipValues_parts {α : Type} {b : Bracket} {P : α → List Char → List Char → Prop}
    {xs : List α} {c : Cursor} {cs rest : List Char} {steps : Nat}
    (opens : ∀ x cs rest, P x cs rest → Opens cs) (passes : ∀ x ∈ xs, PassesPart b P x)
    (parts : Parts P true xs cs (b.closer :: rest)) (space : Space c.rest (b.opener :: cs))
    (enough : c.rest.length < steps) (stack : List Bracket) :
    ∃ left q, rest.length < left ∧
      skipValues steps stack c = closeAndPass left true stack ⟨rest, q⟩ := by
  have next := (space_cons_iff b.isSpace_opener).mp space
  have entered := Cursor.advance_of_cons next
  have short := space.length_le
  rw [List.length_cons] at short
  obtain ⟨steps, rfl⟩ := Nat.exists_eq_succ_of_ne_zero (Nat.ne_zero_of_lt enough)
  have inside : c.skipSpace.advance.rest.length < steps := by
    rw [entered]
    dsimp only
    omega
  rw [show cs = c.skipSpace.advance.rest by rw [entered]] at parts
  obtain ⟨left, q, enough', passed⟩ := closeAndPass_parts opens passes parts inside stack
  exact ⟨left, q, enough', (skipValues_of_open (skipAtom_of_opener next)).trans passed⟩

/-- The name of a member is passed with its colon. -/
theorem Quoted.skipName {name : Option String} {c : Cursor} {cs a rest : List Char}
    (h : Quoted name cs a) (space : Space c.rest ('"' :: cs)) (colon : Space a (':' :: rest)) :
    ∃ q, skipName c = .ok ⟨rest, q⟩ := by
  have next := (space_cons_iff rfl).mp space
  obtain ⟨q, passed⟩ := h.skipString c.skipSpace.position
  have here : c.skipSpace = ⟨'"' :: cs, c.skipSpace.position⟩ := by rw [← next]
  have mark := (space_cons_iff (c := ⟨a, q⟩) rfl).mp colon
  have advanced := Cursor.advance_of_cons mark
  refine ⟨(Cursor.skipSpace ⟨a, q⟩).position.after ':', ?_⟩
  rw [Json.skipName, here]
  simp only [passed, bind, Except.bind, mark, advanced]

/-! ## Forms -/

/-- Whether passing goes on after a form as if it began there, with steps enough. -/
def Form.Passes (f : Form) : Prop :=
  ∀ ⦃cs rest : List Char⦄, Written f cs rest → Ends rest → ∀ ⦃c : Cursor⦄ ⦃steps : Nat⦄,
    Space c.rest cs → c.rest.length < steps → ∀ stack, ∃ left q, rest.length < left ∧
      skipValues steps stack c = closeAndPass left true stack ⟨rest, q⟩

theorem Form.Passes.item {f : Form} (h : f.Passes) : PassesPart .list Written f := by
  intro cs rest written ends c steps space enough stack
  exact h written ends space enough (.list :: stack)

theorem Form.Passes.member {m : Option String × Form} (h : m.2.Passes) :
    PassesPart .object (Named Written) m := by
  intro cs rest named ends c steps space enough stack
  cases named with
  | @mk _ _ _ _ b _ _ quoted before after value =>
    obtain ⟨q, passed⟩ := quoted.skipName space before
    have name := quoted.raw.length_lt
    have colon := before.length_le
    have all := space.length_le
    simp only [List.length_cons] at colon all
    have inside : b.length < steps := by omega
    obtain ⟨left, q', enough', done⟩ := h value ends (c := ⟨_, q⟩) after inside (.object :: stack)
    refine ⟨left, q', enough', ?_⟩
    rw [passOpen, passed]
    exact done

/-- Passing goes on after every form. -/
theorem Form.passes (f : Form) : f.Passes := by
  -- What is no bracket takes one step.  A bracket takes one for itself, and then its parts theirs.
  have atom {f : Form} (passed : ∀ ⦃cs rest⦄, Written f cs rest → Ends rest →
      ∀ p, ∃ q, skipAtom ⟨cs, p⟩ = .ok (none, ⟨rest, q⟩)) : f.Passes := by
    intro cs rest written ends c steps space enough stack
    obtain ⟨x, more, rfl, other, -⟩ := written.opens
    have next := (space_cons_iff other).mp space
    obtain ⟨q, passed⟩ := passed written ends c.skipSpace.position
    rw [← next] at passed
    obtain ⟨steps, rfl⟩ := Nat.exists_eq_succ_of_ne_zero (Nat.ne_zero_of_lt enough)
    have short := written.length_lt
    have all := space.length_le
    exact ⟨steps, q, by omega, skipValues_of_atom passed⟩
  induction f with
  | null =>
    refine atom fun cs rest written _ p => ?_
    cases written
    exact ⟨_, rfl⟩
  | boolean value =>
    refine atom fun cs rest written _ p => ?_
    cases written with
    | yes => exact ⟨_, rfl⟩
    | no => exact ⟨_, rfl⟩
  | number digits =>
    refine atom fun cs rest written ends p => ?_
    cases written with
    | number number => exact number.skipAtom ends p
  | string content =>
    refine atom fun cs rest written _ p => ?_
    cases written with
    | string quoted =>
      obtain ⟨q, passed⟩ := quoted.skipString p
      refine ⟨q, ?_⟩
      show (skipString _).map _ = _
      rw [passed]
      rfl
  | list items ih =>
    intro cs rest written ends c steps space enough stack
    cases written with
    | list parts =>
      exact skipValues_parts (b := .list) (fun _ _ _ => Written.opens)
        (fun f hf => (ih f hf).item) parts space enough stack
  | object members ih =>
    intro cs rest written ends c steps space enough stack
    cases written with
    | object parts =>
      exact skipValues_parts (b := .object) (fun _ _ _ => Named.opens)
        (fun m hm => (ih m hm).member) parts space enough stack

/-- A form is passed, whatever it is. -/
theorem Written.skipValue {f : Form} {c : Cursor} {cs rest : List Char} (h : Written f cs rest)
    (ends : Ends rest) (space : Space c.rest cs) : ∃ q, skipValue c = .ok ⟨rest, q⟩ := by
  obtain ⟨left, q, -, passed⟩ := f.passes h ends space (Nat.lt_succ_self _) []
  exact ⟨q, passed⟩

end PageExtract.Json
