import PageExtract.Charset.Declared

/-!
# Reading what was written

There are two readers of UTF-8.  One gives up where bytes are no UTF-8, the other puts U+FFFD
there.  What the first reads, the second reads in the same way (`decode_of_decode?`).  So it is
enough to follow the first through the bytes of one character, one case for each number of
bytes (`decode?_encodeChar_append`).  The bounds on the second byte are where the work is: they
keep surrogates and long forms out, and no character needs those.

The bytes of a text are those that UTF-8 has for it (`encode_toList`).  They start with a byte
order mark only if the text starts with U+FEFF (`ofMark?_encode`).
-/

namespace PageExtract.Charset

namespace Utf8

/-! ## The two readers -/

theorem decodeFrom?_none_cons (b : UInt8) (rest : List UInt8) :
    decodeFrom? none (b :: rest) = match first b.toNat with
      | .done c => (decodeFrom? none rest).map (c :: ·)
      | .goesOn p => decodeFrom? (some p) rest
      | .refused => none := rfl

theorem decodeFrom?_some_cons (p : Pending) (b : UInt8) (rest : List UInt8) :
    decodeFrom? (some p) (b :: rest) = match p.next b.toNat with
      | .done c => (decodeFrom? none rest).map (c :: ·)
      | .goesOn p => decodeFrom? (some p) rest
      | .refused => none := rfl

/-- What the strict reader reads, the other one reads in the same way. -/
theorem decodeFrom_of_decodeFrom? {p : Option Pending} {bytes : List UInt8} {cs : List Char}
    (h : decodeFrom? p bytes = some cs) : decodeFrom p bytes = cs := by
  induction bytes generalizing p cs with
  | nil =>
    cases p with
    | none => exact Option.some.inj h
    | some p => exact nomatch h
  | cons b rest ih =>
    cases p with
    | none =>
      rw [decodeFrom?_none_cons] at h
      rw [decodeFrom, decodeFirst]
      cases step : first b.toNat with
      | done c =>
        rw [step] at h
        obtain ⟨later, read, rfl⟩ := Option.map_eq_some_iff.mp h
        exact congrArg (c :: ·) (ih read)
      | goesOn p =>
        rw [step] at h
        exact ih h
      | refused =>
        rw [step] at h
        exact nomatch h
    | some p =>
      rw [decodeFrom?_some_cons] at h
      rw [decodeFrom]
      cases step : p.next b.toNat with
      | done c =>
        rw [step] at h
        obtain ⟨later, read, rfl⟩ := Option.map_eq_some_iff.mp h
        exact congrArg (c :: ·) (ih read)
      | goesOn p =>
        rw [step] at h
        exact ih h
      | refused =>
        rw [step] at h
        exact nomatch h

theorem decode_of_decode? {bytes : List UInt8} {cs : List Char} (h : decode? bytes = some cs) :
    decode bytes = cs := decodeFrom_of_decodeFrom? h

/-! ## The bytes of a character -/

theorem toNat_ofNat {n : Nat} (h : n < 256) : (UInt8.ofNat n).toNat = n :=
  UInt8.toNat_ofNat_of_lt' h

theorem first_of_two {n : Nat} (low : 2 ≤ n) (high : n < 32) :
    first (0xC0 + n) = .goesOn ⟨0, 0x80, 0xBF, n⟩ := by
  rw [first, if_neg (by omega), if_neg (by omega), if_pos (by omega), Nat.add_sub_cancel_left]

theorem first_of_three {n : Nat} (high : n < 16) :
    first (0xE0 + n) =
      .goesOn ⟨1, if n = 0 then 0xA0 else 0x80, if n = 13 then 0x9F else 0xBF, n⟩ := by
  have zero : 0xE0 + n = 0xE0 ↔ n = 0 := by omega
  have thirteen : 0xE0 + n = 0xED ↔ n = 13 := by omega
  rw [first, if_neg (by omega), if_neg (by omega), if_neg (by omega), if_pos (by omega),
    Nat.add_sub_cancel_left]
  simp only [zero, thirteen]

theorem first_of_four {n : Nat} (high : n < 5) :
    first (0xF0 + n) =
      .goesOn ⟨2, if n = 0 then 0x90 else 0x80, if n = 4 then 0x8F else 0xBF, n⟩ := by
  have zero : 0xF0 + n = 0xF0 ↔ n = 0 := by omega
  have four : 0xF0 + n = 0xF4 ↔ n = 4 := by omega
  rw [first, if_neg (by omega), if_neg (by omega), if_neg (by omega), if_neg (by omega),
    if_pos (by omega), Nat.add_sub_cancel_left]
  simp only [zero, four]

section

variable {more low high before bits : Nat}

/-- A byte of six bits that keeps to the bounds takes a character further. -/
theorem decodeFrom?_middle (few : bits < 64) (above : low ≤ 0x80 + bits)
    (below : 0x80 + bits ≤ high) (rest : List UInt8) :
    decodeFrom? (some ⟨more + 1, low, high, before⟩) (UInt8.ofNat (0x80 + bits) :: rest) =
      decodeFrom? (some ⟨more, 0x80, 0xBF, before * 64 + bits⟩) rest := by
  rw [decodeFrom?_some_cons, toNat_ofNat (by omega), Pending.next, if_pos ⟨above, below⟩,
    Nat.add_sub_cancel_left]

/-- The last byte of a character gives the character. -/
theorem decodeFrom?_last (few : bits < 64) (above : low ≤ 0x80 + bits)
    (below : 0x80 + bits ≤ high) (rest : List UInt8) :
    decodeFrom? (some ⟨0, low, high, before⟩) (UInt8.ofNat (0x80 + bits) :: rest) =
      (decodeFrom? none rest).map (Char.ofNat (before * 64 + bits) :: ·) := by
  rw [decodeFrom?_some_cons, toNat_ofNat (by omega), Pending.next, if_pos ⟨above, below⟩,
    Nat.add_sub_cancel_left]

end

section

variable {n : Nat}

theorem decode?_one (high : n < 0x80) (rest : List UInt8) :
    decode? (UInt8.ofNat n :: rest) = (decode? rest).map (Char.ofNat n :: ·) := by
  rw [decode?, decodeFrom?_none_cons, toNat_ofNat (by omega), first, if_pos high]
  rfl

theorem decode?_two (low : 0x80 ≤ n) (high : n < 0x800) (rest : List UInt8) :
    decode? (UInt8.ofNat (0xC0 + n / 64) :: UInt8.ofNat (0x80 + n % 64) :: rest) =
      (decode? rest).map (Char.ofNat n :: ·) := by
  have all : n / 64 * 64 + n % 64 = n := Nat.div_add_mod' n 64
  rw [decode?, decodeFrom?_none_cons, toNat_ofNat (by omega), first_of_two (by omega) (by omega)]
  dsimp only
  rw [decodeFrom?_last (by omega) (by omega) (by omega), all]
  rfl

theorem decode?_three (low : 0x800 ≤ n) (high : n < 0x10000) (valid : n < 0xD800 ∨ 0xDFFF < n)
    (rest : List UInt8) :
    decode? (UInt8.ofNat (0xE0 + n / 4096) :: UInt8.ofNat (0x80 + n / 64 % 64) ::
        UInt8.ofNat (0x80 + n % 64) :: rest) =
      (decode? rest).map (Char.ofNat n :: ·) := by
  have all : (n / 4096 * 64 + n / 64 % 64) * 64 + n % 64 = n := by omega
  rw [decode?, decodeFrom?_none_cons, toNat_ofNat (by omega), first_of_three (by omega)]
  dsimp only
  -- Shorter forms stay below the second byte, and surrogates above it.
  rw [decodeFrom?_middle (by omega) (by split <;> omega) (by split <;> omega),
    decodeFrom?_last (by omega) (by omega) (by omega), all]
  rfl

theorem decode?_four (low : 0x10000 ≤ n) (high : n < 0x110000) (rest : List UInt8) :
    decode? (UInt8.ofNat (0xF0 + n / 262144) :: UInt8.ofNat (0x80 + n / 4096 % 64) ::
        UInt8.ofNat (0x80 + n / 64 % 64) :: UInt8.ofNat (0x80 + n % 64) :: rest) =
      (decode? rest).map (Char.ofNat n :: ·) := by
  have all : ((n / 262144 * 64 + n / 4096 % 64) * 64 + n / 64 % 64) * 64 + n % 64 = n := by omega
  rw [decode?, decodeFrom?_none_cons, toNat_ofNat (by omega), first_of_four (by omega)]
  dsimp only
  -- Shorter forms stay below the second byte, and what is no code point above it.
  rw [decodeFrom?_middle (by omega) (by split <;> omega) (by split <;> omega),
    decodeFrom?_middle (by omega) (by omega) (by omega),
    decodeFrom?_last (by omega) (by omega) (by omega), all]
  rfl

end

section

variable {c : Char}

theorem encodeChar_of_one (high : c.toNat < 0x80) : encodeChar c = [UInt8.ofNat c.toNat] := by
  rw [encodeChar, if_pos high]

theorem encodeChar_of_two (low : 0x80 ≤ c.toNat) (high : c.toNat < 0x800) :
    encodeChar c = [UInt8.ofNat (0xC0 + c.toNat / 64), UInt8.ofNat (0x80 + c.toNat % 64)] := by
  simp only [encodeChar, Nat.div_one]
  rw [if_neg (by omega), if_pos high]

theorem encodeChar_of_three (low : 0x800 ≤ c.toNat) (high : c.toNat < 0x10000) :
    encodeChar c = [UInt8.ofNat (0xE0 + c.toNat / 4096), UInt8.ofNat (0x80 + c.toNat / 64 % 64),
      UInt8.ofNat (0x80 + c.toNat % 64)] := by
  simp only [encodeChar, Nat.div_one]
  rw [if_neg (by omega), if_neg (by omega), if_pos high]

theorem encodeChar_of_four (low : 0x10000 ≤ c.toNat) :
    encodeChar c = [UInt8.ofNat (0xF0 + c.toNat / 262144), UInt8.ofNat (0x80 + c.toNat / 4096 % 64),
      UInt8.ofNat (0x80 + c.toNat / 64 % 64), UInt8.ofNat (0x80 + c.toNat % 64)] := by
  simp only [encodeChar, Nat.div_one]
  rw [if_neg (by omega), if_neg (by omega), if_neg (by omega)]

/-- A character has one to four bytes, by its code point, which is that of no surrogate. -/
theorem bounds (c : Char) : c.toNat < 0x80 ∨ (0x80 ≤ c.toNat ∧ c.toNat < 0x800) ∨
    ((0x800 ≤ c.toNat ∧ c.toNat < 0x10000) ∧ (c.toNat < 0xD800 ∨ 0xDFFF < c.toNat)) ∨
    (0x10000 ≤ c.toNat ∧ c.toNat < 0x110000) := by
  have valid : c.toNat < 0xD800 ∨ 0xDFFF < c.toNat ∧ c.toNat < 0x110000 := c.valid
  omega

end

/-- The bytes of a character read as that character. -/
theorem decode?_encodeChar_append (c : Char) (rest : List UInt8) :
    decode? (encodeChar c ++ rest) = (decode? rest).map (c :: ·) := by
  suffices h : decode? (encodeChar c ++ rest) = (decode? rest).map (Char.ofNat c.toNat :: ·) by
    rwa [c.ofNat_toNat] at h
  rcases bounds c with one | ⟨low, two⟩ | ⟨⟨low, three⟩, valid⟩ | ⟨low, four⟩
  · rw [encodeChar_of_one one]
    exact decode?_one one rest
  · rw [encodeChar_of_two low two]
    exact decode?_two low two rest
  · rw [encodeChar_of_three low three]
    exact decode?_three low three valid rest
  · rw [encodeChar_of_four low]
    exact decode?_four low four rest

theorem decode?_encode (cs : List Char) : decode? (encode cs) = some cs := by
  induction cs with
  | nil => rfl
  | cons c rest ih =>
    have read : decode? (encodeChar c ++ encode rest) = _ := decode?_encodeChar_append c _
    rw [encode, List.flatMap_cons, ← encode, read, ih, Option.map_some]

/-- The bytes of a text read as that text. -/
theorem decode_encode (cs : List Char) : decode (encode cs) = cs :=
  decode_of_decode? (decode?_encode cs)

/-! ## The standard form -/

/-- The bytes of a character are those of the standard form. -/
theorem encodeChar_eq (c : Char) : encodeChar c = String.utf8EncodeChar c := by
  have same : c.val.toNat = c.toNat := rfl
  rw [String.utf8EncodeChar, same]
  rcases bounds c with one | ⟨low, two⟩ | ⟨⟨low, three⟩, valid⟩ | ⟨low, four⟩
  · rw [encodeChar_of_one one, if_pos (by omega)]
  · rw [encodeChar_of_two low two, if_neg (by omega), if_pos (by omega),
      Nat.mod_eq_of_lt (by omega : c.toNat / 64 < 32)]
    simp only [Nat.add_comm]
  · rw [encodeChar_of_three low three, if_neg (by omega), if_neg (by omega), if_pos (by omega),
      Nat.mod_eq_of_lt (by omega : c.toNat / 4096 < 16)]
    simp only [Nat.add_comm]
  · rw [encodeChar_of_four low, if_neg (by omega), if_neg (by omega), if_neg (by omega),
      Nat.mod_eq_of_lt (by omega : c.toNat / 262144 < 8)]
    simp only [Nat.add_comm]

/-- The bytes of a text are those that UTF-8 has for it. -/
theorem encode_toList (s : String) : encode s.toList = s.toUTF8.data.toList := by
  have bytes : s.toUTF8 = s.toList.utf8Encode := String.utf8Encode_toList.symm
  rw [bytes, List.utf8Encode, List.data_toByteArray, encode, funext encodeChar_eq]

/-! ## Byte order marks -/

theorem decode?_mark (rest : List UInt8) :
    decode? (0xEF :: 0xBB :: 0xBF :: rest) = (decode? rest).map ('\uFEFF' :: ·) :=
  decode?_encodeChar_append '\uFEFF' rest

theorem decode?_of_first_refused {b : UInt8} (refused : first b.toNat = .refused)
    (rest : List UInt8) : decode? (b :: rest) = none := by
  rw [decode?, decodeFrom?_none_cons, refused]

end Utf8

/-- The bytes of a text start with a byte order mark only if the text starts with U+FEFF. -/
theorem ofMark?_encode {cs : List Char} (unmarked : cs.head? ≠ some '\uFEFF') :
    ofMark? (Utf8.encode cs) = none := by
  have read := Utf8.decode?_encode cs
  generalize Utf8.encode cs = bytes at read
  unfold ofMark?
  split
  next rest =>
    rw [Utf8.decode?_mark] at read
    obtain ⟨later, _, rfl⟩ := Option.map_eq_some_iff.mp read
    exact absurd rfl unmarked
  next rest =>
    rw [Utf8.decode?_of_first_refused (by decide)] at read
    exact nomatch read
  next rest =>
    rw [Utf8.decode?_of_first_refused (by decide)] at read
    exact nomatch read
  next => rfl

end PageExtract.Charset
