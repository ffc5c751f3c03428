import PageExtract.Url.Host
import Mathlib.Data.List.Induction
import Mathlib.Tactic.IntervalCases

/-!
# Addresses as they are written

An address that is written and read again is the same address.  For a short one
this is `Ipv4.parse?_chars`, for a long one `Ipv6.parse?_chars`, with its first
longest run of zeros left out.

A written address is made of digits and of what stands between them, a dot or a
colon.  So the two forms are never taken for each other.
-/

namespace PageExtract

/-! ## Lists that are read item by item -/

/-- Items that were written one by one are read back. -/
theorem mapM_map_eq_some {α β : Type} {write : α → β} {read : β → Option α} {xs : List α}
    (h : ∀ x ∈ xs, read (write x) = some x) : (xs.map write).mapM read = some xs := by
  induction xs with
  | nil => rfl
  | cons x rest ih =>
    have hrest := ih fun y hy => h y (List.mem_cons_of_mem _ hy)
    simp [h x (List.mem_cons_self ..), hrest]

/-- Where a whole list can be read, each of its items can. -/
theorem isSome_of_mapM_eq_some {α β : Type} {read : β → Option α} {items : List β} {xs : List α}
    (h : items.mapM read = some xs) : ∀ item ∈ items, ∃ x, read item = some x := by
  induction items generalizing xs with
  | nil => simp
  | cons item rest ih =>
    rw [List.mapM_cons, Option.bind_eq_bind, Option.bind_eq_some_iff] at h
    obtain ⟨x, hx, h⟩ := h
    obtain ⟨ys, hys, -⟩ := Option.bind_eq_some_iff.mp h
    rintro other (_ | ⟨_, hm⟩)
    · exact ⟨x, hx⟩
    · exact ih hys other hm

/-! ## Numbers -/

namespace Ip

/-- A number grows by one digit at its end. -/
theorem number?_append (b : Nat) (cs : List Char) (c : Char) :
    number? b (cs ++ [c]) = (number? b cs).bind fun n =>
      (hexValue? c).bind fun d => if d < b then some (n * b + d) else none := by
  rw [number?, List.foldl_append]
  rfl

theorem hexValue?_digitChar {d : Nat} (h : d < 16) : hexValue? d.digitChar = some d := by
  interval_cases d <;> rfl

/-- A number that is written and read again is the same number. -/
theorem number?_toDigits {b : Nat} (hb : 1 < b) (hb' : b ≤ 16) (n : Nat) :
    number? b (Nat.toDigits b n) = some n := by
  induction n using Nat.strongRecOn with
  | ind n ih =>
    have hd : n % b < b := Nat.mod_lt n (by omega)
    by_cases h : n < b
    · have hone := number?_append b [] n.digitChar
      rw [List.nil_append, hexValue?_digitChar (by omega)] at hone
      rw [Nat.toDigits_of_lt_base h, hone]
      simp [number?, h]
    · have hlt : n / b < n := Nat.div_lt_self (by omega) hb
      have hn : n / b * b + n % b = n := Nat.div_add_mod' n b
      rw [Nat.toDigits_of_base_le hb (by omega), number?_append, ih _ hlt,
        hexValue?_digitChar (by omega)]
      simp [hd, hn]

/-- What is read as a number holds only digits of its base. -/
theorem digit_of_number? {b : Nat} {cs : List Char} {n : Nat} (h : number? b cs = some n)
    {c : Char} (hc : c ∈ cs) : ∃ d, hexValue? c = some d ∧ d < b := by
  induction cs using List.reverseRecOn generalizing n with
  | nil => cases hc
  | append_singleton cs e ih =>
    rw [number?_append, Option.bind_eq_some_iff] at h
    obtain ⟨m, hm, h⟩ := h
    obtain ⟨d, hd, h⟩ := Option.bind_eq_some_iff.mp h
    rcases List.mem_append.mp hc with hc | hc
    · exact ih hm hc
    · rw [List.mem_singleton.mp hc]
      by_cases hlt : d < b
      · exact ⟨d, hd, hlt⟩
      · rw [if_neg hlt] at h
        cases h

theorem digit_of_mem_toDigits {b : Nat} (hb : 1 < b) (hb' : b ≤ 16) {n : Nat} {c : Char}
    (h : c ∈ Nat.toDigits b n) : ∃ d, hexValue? c = some d ∧ d < b :=
  digit_of_number? (number?_toDigits hb hb' n) h

/-- The characters between and around numbers are no digits. -/
theorem separator_not_mem_toDigits {b : Nat} (hb : 1 < b) (hb' : b ≤ 16) (n : Nat)
    {c : Char} (h : c ∈ ['.', ':', '[', ']']) : c ∉ Nat.toDigits b n := by
  intro hm
  obtain ⟨d, hd, -⟩ := digit_of_mem_toDigits hb hb' hm
  have hn : hexValue? c = none := by
    simp only [List.mem_cons, List.not_mem_nil, or_false] at h
    rcases h with rfl | rfl | rfl | rfl <;> rfl
  rw [hn] at hd
  cases hd

/-- No number but zero is written with a zero at its start. -/
theorem toDigits_zero_cons {b : Nat} (hb : 1 < b) (hb' : b ≤ 16) {n : Nat}
    {rest : List Char} (h : Nat.toDigits b n = '0' :: rest) : rest = [] := by
  induction n using Nat.strongRecOn generalizing rest with
  | ind n ih =>
    by_cases hn : n < b
    · rw [Nat.toDigits_of_lt_base hn, List.cons.injEq] at h
      exact h.2.symm
    · rw [Nat.toDigits_of_base_le hb (by omega)] at h
      cases hq : Nat.toDigits b (n / b) with
      | nil => exact absurd hq Nat.toDigits_ne_nil
      | cons c cs =>
        rw [hq, List.cons_append, List.cons.injEq] at h
        obtain ⟨rfl, -⟩ := h
        have hcs := ih _ (Nat.div_lt_self (by omega) hb) hq
        have hzero : number? b (Nat.toDigits b (n / b)) = some 0 := by
          rw [hq, hcs, ← Nat.toDigits_zero b]
          exact number?_toDigits hb hb' 0
        rw [number?_toDigits hb hb', Option.some.injEq, Nat.div_eq_zero_iff] at hzero
        omega

end Ip

/-! ## Short addresses -/

namespace Ipv4

theorem octets_lt (a : Ipv4) : ∀ d ∈ a.octets, d < 256 := by
  have h : a.value.toNat < 2 ^ 32 := a.value.isLt
  simp only [octets, List.mem_cons, List.not_mem_nil, or_false]
  rintro d (rfl | rfl | rfl | rfl) <;> omega

/-- The four numbers of an address make it up. -/
theorem ofOctets_octets (a : Ipv4) : ofOctets a.octets = a := by
  have h : a.value.toNat < 2 ^ 32 := a.value.isLt
  have hn : a.octets.foldl (fun n d => n * 256 + d) 0 = a.value.toNat := by
    simp only [octets, List.foldl_cons, List.foldl_nil]
    omega
  rw [ofOctets, hn, BitVec.ofNat_toNat, BitVec.setWidth_eq]

theorem octet?_toDigits {d : Nat} (h : d < 256) : octet? (Nat.toDigits 10 d) = some d := by
  have hlen : (Nat.toDigits 10 d).length ≤ 3 :=
    (Nat.length_toDigits_le_iff (by decide) (by decide)).mpr (by omega)
  have hnum := Ip.number?_toDigits (b := 10) (by decide) (by decide) d
  unfold octet?
  split
  · next hnil => exact absurd hnil Nat.toDigits_ne_nil
  · next hzero => cases Ip.toDigits_zero_cons (by decide) (by decide) hzero
  · simp [hlen, hnum, h]

/-- The numbers of an address, as they are written, are the pieces between its dots. -/
theorem splitAt_chars (a : Ipv4) :
    Text.splitAt '.' a.chars = a.octets.map fun d => Nat.toDigits 10 d := by
  apply Text.splitAt_joinWith
  · simp [octets]
  · intro piece hp
    obtain ⟨d, -, rfl⟩ := List.mem_map.mp hp
    exact Ip.separator_not_mem_toDigits (by decide) (by decide) d (by decide)

/-- An address that is written and read again is the same address. -/
theorem parse?_chars (a : Ipv4) : parse? a.chars = some a := by
  have hread : (a.octets.map fun d => Nat.toDigits 10 d).mapM octet? = some a.octets :=
    mapM_map_eq_some fun d hd => octet?_toDigits (octets_lt a d hd)
  have hlen : (a.octets.map fun d => Nat.toDigits 10 d).length = 4 := rfl
  rw [parse?, splitAt_chars, if_pos hlen, hread, Option.map_some, ofOctets_octets]

end Ipv4

/-! ## Long addresses -/

namespace Ipv6

theorem pieces_lt (a : Ipv6) : ∀ d ∈ a.pieces, d < 65536 := by
  have h : a.value.toNat < 2 ^ 128 := a.value.isLt
  simp only [pieces, List.mem_cons, List.not_mem_nil, or_false]
  rintro d (rfl | rfl | rfl | rfl | rfl | rfl | rfl | rfl) <;> omega

/-- The eight pieces of an address make it up. -/
theorem ofPieces_pieces (a : Ipv6) : ofPieces a.pieces = a := by
  have h : a.value.toNat < 2 ^ 128 := a.value.isLt
  have hn : a.pieces.foldl (fun n d => n * 65536 + d) 0 = a.value.toNat := by
    simp only [pieces, List.foldl_cons, List.foldl_nil]
    omega
  rw [ofPieces, hn, BitVec.ofNat_toNat, BitVec.setWidth_eq]

/-! ### The run of zeros that is left out -/

theorem take_leadingZeros (numbers : List Nat) :
    numbers = List.replicate (leadingZeros numbers) 0 ++ numbers.drop (leadingZeros numbers) := by
  induction numbers with
  | nil => rfl
  | cons d rest ih =>
    by_cases h : d = 0
    · subst h
      have hcount : leadingZeros (0 :: rest) = leadingZeros rest + 1 := by simp [leadingZeros]
      rw [hcount, List.replicate_succ, List.drop_succ_cons, List.cons_append, ← ih]
    · have hcount : leadingZeros (d :: rest) = 0 := by simp [leadingZeros, h]
      rw [hcount, List.replicate_zero, List.drop_zero, List.nil_append]

/-- At the place that is left out stand as many zeros as are left out. -/
theorem longestZeros_spec (numbers : List Nat) :
    numbers = numbers.take (longestZeros numbers).1 ++
      (List.replicate (longestZeros numbers).2 0 ++
        numbers.drop ((longestZeros numbers).1 + (longestZeros numbers).2)) := by
  induction numbers with
  | nil => rfl
  | cons d rest ih =>
    by_cases h : (longestZeros rest).2 ≤ leadingZeros (d :: rest)
    · have hz : longestZeros (d :: rest) = (0, leadingZeros (d :: rest)) := by
        simp [longestZeros, h]
      rw [hz, List.take_zero, List.nil_append, Nat.zero_add]
      exact take_leadingZeros (d :: rest)
    · have hz : longestZeros (d :: rest) = ((longestZeros rest).1 + 1, (longestZeros rest).2) := by
        simp [longestZeros, h]
      rw [hz, List.take_succ_cons, Nat.add_right_comm, List.drop_succ_cons, List.cons_append, ← ih]

/-! ### Groups between colons -/

theorem piece?_toDigits {d : Nat} (h : d < 65536) : piece? (Nat.toDigits 16 d) = some d := by
  have hlen : (Nat.toDigits 16 d).length ≤ 4 :=
    (Nat.length_toDigits_le_iff (by decide) (by decide)).mpr (by omega)
  have hne : (Nat.toDigits 16 d).isEmpty = false := by simp [Nat.toDigits_ne_nil]
  rw [piece?, hne, if_neg (by simpa using hlen)]
  exact Ip.number?_toDigits (by decide) (by decide) d

/-- Pieces that were written one by one are read back, at the end of an address too. -/
theorem groups?_map_toDigits (endsHere : Bool) {numbers : List Nat}
    (h : ∀ d ∈ numbers, d < 65536) :
    groups? endsHere (numbers.map fun d => Nat.toDigits 16 d) = some numbers := by
  induction numbers with
  | nil => rfl
  | cons d rest ih =>
    have hd := piece?_toDigits (h d (List.mem_cons_self ..))
    cases rest with
    | nil =>
      have hdot : '.' ∉ Nat.toDigits 16 d :=
        Ip.separator_not_mem_toDigits (by decide) (by decide) d (by decide)
      simp only [List.map_cons, List.map_nil, groups?]
      rw [if_neg (by simp [hdot]), hd, Option.map_some]
    | cons e es =>
      have hrest := ih fun d' hm => h d' (List.mem_cons_of_mem _ hm)
      rw [List.map_cons] at hrest
      simp only [List.map_cons, groups?, hd, hrest]
      rfl

theorem colon_not_mem_toDigits (d : Nat) : ':' ∉ Nat.toDigits 16 d :=
  Ip.separator_not_mem_toDigits (by decide) (by decide) d (by decide)

/-- Written pieces start with something else than a colon. -/
theorem writePieces_cons (d : Nat) (rest : List Nat) :
    ∃ c cs, writePieces (d :: rest) = c :: cs ∧ c ≠ ':' := by
  obtain ⟨c, cs, hc⟩ := List.exists_cons_of_ne_nil (Nat.toDigits_ne_nil (n := d) (b := 16))
  have hne : c ≠ ':' := by
    rintro rfl
    apply colon_not_mem_toDigits d
    rw [hc]
    exact List.mem_cons_self ..
  cases rest with
  | nil => exact ⟨c, cs, hc, hne⟩
  | cons e es => exact ⟨c, cs ++ ':' :: writePieces (e :: es), by
      simp [writePieces, Text.joinWith, hc], hne⟩

/-- The pieces on one side of a run of zeros are read back. -/
theorem side?_writePieces (endsHere : Bool) {numbers : List Nat} (h : ∀ d ∈ numbers, d < 65536) :
    side? endsHere (writePieces numbers) = some numbers := by
  cases numbers with
  | nil => rfl
  | cons d rest =>
    obtain ⟨c, cs, hc, -⟩ := writePieces_cons d rest
    have hsplit : Text.splitAt ':' (writePieces (d :: rest)) =
        (d :: rest).map fun d => Nat.toDigits 16 d := by
      apply Text.splitAt_joinWith (by simp)
      intro piece hp
      obtain ⟨e, -, rfl⟩ := List.mem_map.mp hp
      exact colon_not_mem_toDigits e
    rw [side?, if_neg (by simp [hc]), hsplit, groups?_map_toDigits endsHere h]

/-! ### The pair of colons -/

theorem atDouble?_cons_of_ne {c : Char} (h : c ≠ ':') (cs : List Char) :
    atDouble? (c :: cs) = (atDouble? cs).map fun (left, right) => (c :: left, right) := by
  rw [atDouble?]
  rintro rest heq -
  exact h heq

/-- Characters before which no colon stands are no part of a pair of colons. -/
theorem atDouble?_append {piece : List Char} (h : ':' ∉ piece) (cs : List Char) :
    atDouble? (piece ++ cs) = (atDouble? cs).map fun (left, right) => (piece ++ left, right) := by
  induction piece with
  | nil => simp
  | cons c rest ih =>
    rw [List.mem_cons, not_or] at h
    rw [List.cons_append, atDouble?_cons_of_ne (Ne.symm h.1), ih h.2, Option.map_map]
    rfl

/-- A colon before something else is no part of a pair of colons. -/
theorem atDouble?_colon_cons {c : Char} (h : c ≠ ':') (cs : List Char) :
    atDouble? (':' :: c :: cs) =
      (atDouble? (c :: cs)).map fun (left, right) => (':' :: left, right) := by
  rw [atDouble?]
  rintro rest - heq
  exact h (List.cons.inj heq).1

/-- Between written pieces there is no pair of colons. -/
theorem atDouble?_writePieces (numbers : List Nat) (cs : List Char) :
    atDouble? (writePieces numbers ++ cs) =
      (atDouble? cs).map fun (left, right) => (writePieces numbers ++ left, right) := by
  induction numbers with
  | nil => simp [writePieces, Text.joinWith]
  | cons d rest ih =>
    cases rest with
    | nil => exact atDouble?_append (colon_not_mem_toDigits d) cs
    | cons e es =>
      have hw : writePieces (d :: e :: es) =
          Nat.toDigits 16 d ++ ':' :: writePieces (e :: es) := rfl
      obtain ⟨c, tail, hc, hne⟩ := writePieces_cons e es
      rw [hc, List.cons_append] at ih
      rw [hw, hc, List.append_assoc, atDouble?_append (colon_not_mem_toDigits d), List.cons_append,
        List.cons_append, atDouble?_colon_cons hne, ih, Option.map_map, Option.map_map]
      simp [Function.comp_def]

/-! ### Reading back -/

/-- An address that is written and read again is the same address. -/
theorem parse?_chars (a : Ipv6) : parse? a.chars = some a := by
  have hlt := pieces_lt a
  have hlen : a.pieces.length = 8 := rfl
  cases hz : longestZeros a.pieces with
  | mk start length =>
    by_cases hshort : length < 2
    · have hchars : a.chars = writePieces a.pieces := by simp [chars, hz, hshort]
      have hnone : atDouble? (writePieces a.pieces) = none := by
        have := atDouble?_writePieces a.pieces []
        simpa [atDouble?] using this
      rw [hchars, parse?, hnone]
      simp [side?_writePieces true hlt, hlen, ofPieces_pieces]
    · have hchars : a.chars = writePieces (a.pieces.take start) ++ ':' :: ':' ::
          writePieces (a.pieces.drop (start + length)) := by simp [chars, hz, hshort]
      have hspec : a.pieces = a.pieces.take start ++
          (List.replicate length 0 ++ a.pieces.drop (start + length)) := by
        simpa only [hz] using longestZeros_spec a.pieces
      have hsum := congrArg List.length hspec
      rw [hlen, List.length_append, List.length_append, List.length_replicate] at hsum
      have hsome : atDouble? a.chars = some (writePieces (a.pieces.take start),
          writePieces (a.pieces.drop (start + length))) := by
        rw [hchars, atDouble?_writePieces]
        simp [atDouble?]
      have hleft : side? false (writePieces (a.pieces.take start)) = some (a.pieces.take start) :=
        side?_writePieces false fun d hd => hlt d (List.mem_of_mem_take hd)
      have hright : side? true (writePieces (a.pieces.drop (start + length))) =
          some (a.pieces.drop (start + length)) :=
        side?_writePieces true fun d hd => hlt d (List.mem_of_mem_drop hd)
      have hzeros : 8 - (a.pieces.take start).length - (a.pieces.drop (start + length)).length =
          length := by omega
      rw [parse?, hsome]
      simp only [hleft, hright, Option.bind_eq_bind, Option.bind_some]
      rw [if_pos (by omega), hzeros, List.append_assoc, ← hspec, ofPieces_pieces]

/-- Of two runs of zeros that are equally long the first one is left out. -/
example : (parse? "1:0:0:2:0:0:3:4".toList).map chars = some "1::2:0:0:3:4".toList := by
  decide +kernel

/-- A written address has digits and colons only. -/
theorem not_mem_chars (a : Ipv6) {c : Char} (h : c ∈ ['.', '[', ']']) : c ∉ a.chars := by
  have hsep : c ∈ ['.', ':', '[', ']'] ∧ c ≠ ':' := by
    simp only [List.mem_cons, List.not_mem_nil, or_false] at h
    rcases h with rfl | rfl | rfl <;> decide
  obtain ⟨hmem, hcolon⟩ := hsep
  have hdigits : ∀ d, c ∉ Nat.toDigits 16 d := fun d =>
    Ip.separator_not_mem_toDigits (by decide) (by decide) d hmem
  have hpieces : ∀ numbers, c ∉ writePieces numbers := by
    intro numbers hm
    rcases Text.mem_joinWith hm with hc | ⟨piece, hp, hc⟩
    · exact hcolon hc
    · obtain ⟨d, -, rfl⟩ := List.mem_map.mp hp
      exact hdigits d hc
  unfold chars
  split
  split
  · exact hpieces _
  · simp [hpieces, hcolon]

end Ipv6

namespace Ipv4

/-- A written address has digits and dots only. -/
theorem not_mem_chars (a : Ipv4) {c : Char} (h : c ∈ ['[', ']']) : c ∉ a.chars := by
  intro hm
  rcases Text.mem_joinWith hm with rfl | ⟨piece, hp, hc⟩
  · revert h
    decide
  · obtain ⟨d, -, rfl⟩ := List.mem_map.mp hp
    refine Ip.separator_not_mem_toDigits (b := 10) (by decide) (by decide) d ?_ hc
    exact List.mem_cons_of_mem _ (List.mem_cons_of_mem _ h)

end Ipv4

end PageExtract
