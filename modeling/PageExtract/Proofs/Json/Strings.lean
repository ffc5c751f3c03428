import PageExtract.Proofs.Json.Grammar

/-!
# What strings hold

A string that is read has the content that the grammar gives it, and every string of
the grammar is read (`readString_eq_ok_iff`).  What is written as a string has the
content that was to be written (`content_quoteChars`): a character that must be escaped
is, and each escape stands for its character.
-/

namespace PageExtract.Json

/-! ## Reading -/

/-- What is read from after the opening mark is the content up to the closing one. -/
theorem content_of_stringFrom {done cs : List Char} {p : Position} {s : String} {c : Cursor}
    (h : stringFrom done cs p = .ok (s, c)) :
    ∃ content, s = String.ofList (done.reverse ++ content) ∧ Content content cs c.rest := by
  have step {x : Char} {done cs cs' : List Char}
      (more : ∃ content, s = String.ofList ((x :: done).reverse ++ content) ∧
        Content content cs c.rest)
      (written : ∀ content, Content content cs c.rest → Content (x :: content) cs' c.rest) :
      ∃ content, s = String.ofList (done.reverse ++ content) ∧ Content content cs' c.rest := by
    obtain ⟨content, rfl, holds⟩ := more
    refine ⟨x :: content, ?_, written content holds⟩
    rw [List.reverse_cons, List.append_assoc, List.singleton_append]
  fun_induction stringFrom done cs p with
  | case1 | case3 | case4 | case5 | case7 | case8 | case10 | case12 | case13 | case14 =>
    exact nomatch h
  | case2 done rest p =>
    cases h
    exact ⟨[], by rw [List.append_nil], .close⟩
  | case6 done x y z w p n first low high x' y' z' w' rest m second low' ih =>
    exact step (ih h) fun _ more => .halves first high second low' more
  | case9 done x y z w rest p n number low high ih =>
    exact step (ih h) fun _ more =>
      .unit number (eq_false_of_ne_true high) (eq_false_of_ne_true low) more
  | case11 done p q x rest y escape _ ih => exact step (ih h) fun _ more => .short escape more
  | case15 done x rest p mark _ backslash printed ih =>
    exact step (ih h) fun _ more => .plain mark backslash (Nat.le_of_not_lt printed) more

theorem isLowHalf_of_isHighHalf {n : Nat} (high : isHighHalf n = true) : isLowHalf n = false := by
  simp only [isHighHalf, isLowHalf, Bool.and_eq_true, Bool.and_eq_false_iff, decide_eq_true_eq,
    decide_eq_false_iff_not] at high ⊢
  omega

theorem stringFrom_plain {c : Char} {done cs : List Char} {p : Position} (mark : c ≠ '"')
    (backslash : c ≠ '\\') (printed : 0x20 ≤ c.toNat) :
    stringFrom done (c :: cs) p = stringFrom (c :: done) cs (p.after c) := by
  rw [stringFrom, if_neg (Nat.not_lt_of_le printed)]
  · exact mark
  · exact fun _ _ _ _ _ h _ => backslash h
  · exact backslash

theorem stringFrom_short {x c : Char} {done cs : List Char} {p : Position}
    (escape : shortEscape? x = some c) :
    stringFrom done ('\\' :: x :: cs) p = stringFrom (c :: done) cs ((p.after '\\').after x) := by
  rw [stringFrom]
  · simp only [escape]
  · rintro _ _ _ _ _ same
    cases same
    exact nomatch escape

/-- The content of a string is read up to its closing mark. -/
theorem Content.stringFrom {content cs rest : List Char} (h : Content content cs rest)
    (done : List Char) (p : Position) :
    ∃ q, stringFrom done cs p = .ok (String.ofList (done.reverse ++ content), ⟨rest, q⟩) := by
  have step (x : Char) (done content : List Char) :
      String.ofList ((x :: done).reverse ++ content) =
        String.ofList (done.reverse ++ x :: content) := by
    rw [List.reverse_cons, List.append_assoc, List.singleton_append]
  induction h generalizing done p with
  | close => exact ⟨_, by rw [Json.stringFrom, List.append_nil]⟩
  | plain mark backslash printed _ ih =>
    rw [stringFrom_plain mark backslash printed, ← step]
    exact ih _ _
  | short escape _ ih =>
    rw [stringFrom_short escape, ← step]
    exact ih _ _
  | unit number high low _ ih =>
    rw [Json.stringFrom, ← step]
    simp only [number, high, low]
    exact ih _ _
  | halves first high second low _ ih =>
    rw [Json.stringFrom, ← step]
    simp only [first, isLowHalf_of_isHighHalf high, high, second, low]
    exact ih _ _

/-- A string that comes next is read if it is one of the grammar. -/
theorem readString_eq_ok_iff {c : Cursor} {cs : List Char} (mark : c.rest = '"' :: cs) {s : String}
    {rest : List Char} :
    (∃ q, readString c = .ok (s, ⟨rest, q⟩)) ↔ Content s.toList cs rest := by
  have after : c.advance = ⟨cs, c.position.after '"'⟩ := by rw [Cursor.advance, mark]
  rw [readString, after]
  constructor
  · rintro ⟨q, h⟩
    obtain ⟨content, rfl, holds⟩ := content_of_stringFrom h
    rwa [String.toList_ofList]
  · intro h
    obtain ⟨q, read⟩ := h.stringFrom [] (c.position.after '"')
    rw [List.reverse_nil, List.nil_append, String.ofList_toList] at read
    exact ⟨q, read⟩

/-! ## Writing -/

theorem notHalf_of_lt {n : Nat} (h : n < 0xD800) : isHighHalf n = false ∧ isLowHalf n = false := by
  simp only [isHighHalf, isLowHalf, Bool.and_eq_false_iff, decide_eq_false_iff_not]
  omega

theorem hexDigit?_hexChar {n : Nat} (h : n < 16) : hexDigit? (hexChar n) = some n := by
  revert n
  decide

theorem hexUnit?_hexChar {n : Nat} (h : n < 256) :
    hexUnit? '0' '0' (hexChar (n / 16)) (hexChar (n % 16)) = some n := by
  have zero : hexDigit? '0' = some 0 := rfl
  rw [hexUnit?, zero, hexDigit?_hexChar (by omega), hexDigit?_hexChar (by omega)]
  simp only [Option.bind_eq_bind, Option.bind_some, Option.pure_def, Option.some.injEq]
  omega

/-- A character that is written stands for itself. -/
theorem content_escapeChar {c : Char} {s cs rest : List Char} (more : Content s cs rest) :
    Content (c :: s) (escapeChar c ++ cs) rest := by
  unfold escapeChar
  split
  -- All short escapes are read as what was written; what is left is written by number or as it is.
  all_goals try exact .short rfl more
  next mark backslash _ _ _ _ _ =>
  split
  next control =>
    have number := hexUnit?_hexChar (n := c.toNat) (Nat.lt_trans control (by decide))
    obtain ⟨high, low⟩ := notHalf_of_lt (Nat.lt_trans control (by decide))
    have written := Content.unit number high low more
    rwa [Char.ofNat_toNat] at written
  next printed => exact .plain mark backslash (Nat.le_of_not_lt printed) more

/-- What is written as a string has the content that was to be written. -/
theorem content_quoteChars (s : String) (rest : List Char) :
    ∃ cs, quoteChars s ++ rest = '"' :: cs ∧ Content s.toList cs rest := by
  refine ⟨s.toList.flatMap escapeChar ++ '"' :: rest, ?_, ?_⟩
  · rw [quoteChars, List.cons_append, List.cons_append, List.append_assoc, List.singleton_append]
  · induction s.toList with
    | nil => exact .close
    | cons c s ih =>
      rw [List.flatMap_cons, List.append_assoc]
      exact content_escapeChar ih

end PageExtract.Json
