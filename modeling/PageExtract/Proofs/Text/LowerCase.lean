import PageExtract.Text.Blank
import PageExtract.Text.LowerCase
import PageExtract.Text.Split

/-!
# Lower case of the parts of a text

The lower case of a character depends on those around it in one case only, the sigma, and these are
looked at no further than to the next character that *ends words*: one that is no cased letter and
is not passed over.  Blanks, semicolons and quotes end words.  So a text that is cut at such
characters can be brought into lower case piece by piece (`lowerFrom_append_cons`).  Hence it makes
no difference whether a text is split or trimmed before or after (`splitAt_lowerList`,
`trimList_lowerList`).

The mapping keeps these characters and makes no other character one of them.  This is read off
the tables: no run of them lies where they are or leads there (`Separates`).

Whether an ASCII letter was a capital letter does not show in lower case (`lowerList_toLower`).  Two
characters outside ASCII have a lower case with an ASCII letter in it (`ascii_of_mem_lowerBetween`).
One of them leaves a dot behind, and the letter of the other one is `k`.  So a text of ASCII
characters without a `k` is the lower case of ASCII texts only (`lowerList_eq_iff`).
-/

namespace PageExtract.Text

/-! ## Characters that end words -/

/-- Whether all of some code points end words, and the mapping leads neither out of them nor into
them. -/
def Separates (first last : Nat) : Prop :=
  ((casedRuns ++ passedRuns).all fun run => run.2 < first || last < run.1) = true ∧
    (lowerRuns.all fun run =>
      (run.2.1 < first || last < run.1) &&
        (run.2.1 + run.2.2.2 < first || last < run.1 + run.2.2.2)) = true ∧
    ∀ n ∈ [(0, 0), (65, 90), (97, 122), (0x130, 0x130), (0x307, 0x307), (0x3a3, 0x3a3),
      (0x3c2, 0x3c3)], n.2 < first ∨ last < n.1

instance (first last : Nat) : Decidable (Separates first last) := by
  unfold Separates
  infer_instance

/-- Whether a character ends words and is kept in lower case. -/
structure EndsWord (c : Char) : Prop where
  /-- It is no cased letter. -/
  uncased : isCased c = false
  /-- It is not passed over. -/
  counted : isPassed c = false
  /-- It is its own lower case. -/
  kept : lowerChar c = [c]

theorem inRuns_eq_false {runs : List (Nat × Nat)} {n : Nat}
    (apart : ∀ run ∈ runs, run.2 < n ∨ n < run.1) : inRuns runs n = false := by
  refine List.any_eq_false.mpr fun run mem => ?_
  have := apart run mem
  simp only [Bool.and_eq_true, decide_eq_true_eq]
  omega

/-- A number is the code point of its character, or that character is the first of all. -/
theorem toNat_ofNat_cases (n : Nat) : (Char.ofNat n).toNat = n ∨ (Char.ofNat n).toNat = 0 := by
  by_cases valid : n.isValidChar
  · left
    rw [Char.ofNat, dif_pos valid]
    exact UInt32.toNat_ofNatLT ..
  · right
    rw [Char.ofNat, dif_neg valid]
    rfl

namespace Separates

variable {first last : Nat} {c d : Char}

/-- What is kept, or comes of a character and is kept, is that character. -/
theorem lowerChar_eq (h : Separates first last) (mem : d ∈ lowerChar c)
    (inside : (first ≤ c.toNat ∧ c.toNat ≤ last) ∨ (first ≤ d.toNat ∧ d.toNat ≤ last)) :
    lowerChar c = [c] := by
  obtain ⟨-, runs, others⟩ := h
  have zero := others (0, 0) (by decide)
  have capital := others (65, 90) (by decide)
  have small := others (97, 122) (by decide)
  have dotted := others (0x130, 0x130) (by decide)
  have dot := others (0x307, 0x307) (by decide)
  simp only at zero capital small dotted dot
  unfold lowerChar at mem ⊢
  split at mem
  next ascii =>
    obtain rfl := List.mem_singleton.mp mem
    rw [if_pos ascii]
    rcases toLower_cases c with same | ⟨letter, lowered⟩
    · rw [same]
    · omega
  next beyond =>
    rw [if_neg beyond]
    split at mem
    next special =>
      subst special
      have : '\u0130'.toNat = 0x130 := rfl
      have : 'i'.toNat = 105 := rfl
      have : '\u0307'.toNat = 0x307 := rfl
      rcases List.mem_cons.mp mem with rfl | mem
      · omega
      · obtain rfl := List.mem_singleton.mp mem
        omega
    next plain =>
      rw [if_neg plain]
      split at mem
      next run found =>
        exfalso
        have covers := List.find?_some found
        have apart := List.all_eq_true.mp runs run (List.mem_of_find?_eq_some found)
        rw [CaseRun.covers] at covers
        simp only [Bool.and_eq_true, Bool.or_eq_true, decide_eq_true_eq] at covers apart
        obtain rfl := List.mem_singleton.mp mem
        have value := toNat_ofNat_cases (c.toNat + run.2.2.2).toNat
        omega
      next => rfl

theorem endsWord (h : Separates first last) (low : first ≤ c.toNat) (high : c.toNat ≤ last) :
    EndsWord c := by
  have apart (run : Nat × Nat) (mem : run ∈ casedRuns ++ passedRuns) :
      run.2 < c.toNat ∨ c.toNat < run.1 := by
    have := List.all_eq_true.mp h.1 run mem
    simp only [Bool.or_eq_true, decide_eq_true_eq] at this
    omega
  obtain ⟨d, mem⟩ : ∃ d, d ∈ lowerChar c := by
    unfold lowerChar
    split
    next => exact ⟨_, List.mem_cons_self⟩
    next =>
      split
      next => exact ⟨_, List.mem_cons_self⟩
      next => split <;> exact ⟨_, List.mem_cons_self⟩
  exact ⟨inRuns_eq_false fun run mem => apart run (List.mem_append_left _ mem),
    inRuns_eq_false fun run mem => apart run (List.mem_append_right _ mem),
    h.lowerChar_eq mem (.inl ⟨low, high⟩)⟩

/-- No other character becomes one that is kept. -/
theorem eq_of_mem_lowerBetween (h : Separates first last) {before after : List Char}
    (mem : d ∈ lowerBetween before c after) (low : first ≤ d.toNat) (high : d.toNat ≤ last) :
    d = c := by
  unfold lowerBetween at mem
  split at mem
  next sigma =>
    have small := h.2.2 (0x3c2, 0x3c3) (by decide)
    have : '\u03c2'.toNat = 0x3c2 := rfl
    have : '\u03c3'.toNat = 0x3c3 := rfl
    split at mem
    all_goals
      obtain rfl := List.mem_singleton.mp mem
      omega
  next =>
    rw [h.lowerChar_eq mem (.inr ⟨low, high⟩)] at mem
    exact List.mem_singleton.mp mem

end Separates

theorem separates_blankRuns : ∀ run ∈ blankRuns, Separates run.1 run.2 := by decide +kernel

theorem endsWord_of_isBlank {c : Char} (blank : isBlank c = true) : EndsWord c := by
  obtain ⟨run, mem, inside⟩ := List.any_eq_true.mp blank
  rw [Bool.and_eq_true, decide_eq_true_eq, decide_eq_true_eq] at inside
  exact (separates_blankRuns run mem).endsWord inside.1 inside.2

/-- No other character becomes a blank. -/
theorem isBlank_of_mem_lowerBetween {before after : List Char} {c d : Char}
    (mem : d ∈ lowerBetween before c after) (blank : isBlank d = true) : isBlank c = true := by
  obtain ⟨run, mem_run, inside⟩ := List.any_eq_true.mp blank
  rw [Bool.and_eq_true, decide_eq_true_eq, decide_eq_true_eq] at inside
  exact (separates_blankRuns run mem_run).eq_of_mem_lowerBetween mem inside.1 inside.2 ▸ blank

theorem separates_quote : Separates '"'.toNat '"'.toNat := by decide +kernel

theorem separates_semicolon : Separates ';'.toNat ';'.toNat := by decide +kernel

/-! ## Lower case between characters that end words -/

theorem meetsCased_cons (c : Char) (cs : List Char) :
    meetsCased (c :: cs) = if isPassed c then meetsCased cs else isCased c := by
  unfold meetsCased
  rw [List.dropWhile_cons]
  by_cases passed : isPassed c = true
  · rw [if_pos passed, if_pos passed]
  · rw [if_neg passed, if_neg passed]

namespace EndsWord

variable {b : Char} (h : EndsWord b)
include h

/-- What stands behind a character that ends words is not looked at. -/
theorem meetsCased_append (near far : List Char) :
    meetsCased (near ++ b :: far) = meetsCased near := by
  induction near with
  | nil =>
    rw [List.nil_append, meetsCased_cons, h.counted, h.uncased]
    rfl
  | cons c near ih => rw [List.cons_append, meetsCased_cons, meetsCased_cons, ih]

theorem lowerBetween_before (before far : List Char) (c : Char) (after : List Char) :
    lowerBetween (before ++ b :: far) c after = lowerBetween before c after := by
  rw [lowerBetween, lowerBetween, h.meetsCased_append]

theorem lowerBetween_after (before : List Char) (c : Char) (after far : List Char) :
    lowerBetween before c (after ++ b :: far) = lowerBetween before c after := by
  rw [lowerBetween, lowerBetween, h.meetsCased_append]

theorem lowerBetween_self (before after : List Char) : lowerBetween before b after = [b] := by
  have other : b ≠ '\u03a3' := by
    rintro rfl
    exact absurd h.uncased (by decide +kernel)
  rw [lowerBetween, if_neg other, h.kept]

theorem lowerFrom_before (before far cs : List Char) :
    lowerFrom (before ++ b :: far) cs = lowerFrom before cs := by
  induction cs generalizing before with
  | nil => rfl
  | cons c after ih =>
    rw [lowerFrom, lowerFrom, h.lowerBetween_before, ← List.cons_append, ih]

/-- What stands before and after a character that ends words can be brought into lower case on its
own. -/
theorem lowerFrom_append_cons (before front back : List Char) :
    lowerFrom before (front ++ b :: back) = lowerFrom before front ++ b :: lowerList back := by
  induction front generalizing before with
  | nil =>
    rw [List.nil_append, lowerFrom, lowerFrom, h.lowerBetween_self]
    exact congrArg (b :: ·) (h.lowerFrom_before [] before back)
  | cons c front ih =>
    rw [List.cons_append, lowerFrom, lowerFrom, h.lowerBetween_after, ih, List.append_assoc]

theorem lowerList_append_cons (front back : List Char) :
    lowerList (front ++ b :: back) = lowerList front ++ b :: lowerList back :=
  h.lowerFrom_append_cons [] front back

end EndsWord

/-! ## Blanks around a text -/

theorem lowerList_blank_append {left : List Char} (blank : ∀ c ∈ left, isBlank c = true)
    (cs : List Char) : lowerList (left ++ cs) = left ++ lowerList cs := by
  induction left with
  | nil => rfl
  | cons b left ih =>
    obtain ⟨first, later⟩ := List.forall_mem_cons.mp blank
    have cut := (endsWord_of_isBlank first).lowerList_append_cons [] (left ++ cs)
    rw [ih later] at cut
    exact cut

theorem lowerList_append_blank {right : List Char} (blank : ∀ c ∈ right, isBlank c = true)
    (cs : List Char) : lowerList (cs ++ right) = lowerList cs ++ right := by
  cases right with
  | nil => rw [List.append_nil, List.append_nil]
  | cons b right =>
    obtain ⟨first, later⟩ := List.forall_mem_cons.mp blank
    have rest : lowerList (right ++ []) = right ++ [] := lowerList_blank_append later []
    rw [List.append_nil] at rest
    rw [(endsWord_of_isBlank first).lowerList_append_cons, rest]

/-- Blanks at the ends are kept. -/
theorem lowerList_blanks {left right : List Char} (leftBlank : ∀ c ∈ left, isBlank c = true)
    (rightBlank : ∀ c ∈ right, isBlank c = true) (cs : List Char) :
    lowerList (left ++ cs ++ right) = left ++ lowerList cs ++ right := by
  rw [lowerList_append_blank rightBlank, lowerList_blank_append leftBlank]

theorem lowerBetween_ne_nil (before : List Char) (c : Char) (after : List Char) :
    lowerBetween before c after ≠ [] := by
  unfold lowerBetween lowerChar
  repeat' split
  all_goals exact List.cons_ne_nil _ _

theorem exists_lowerFrom_concat (before front : List Char) (c : Char) : ∃ lowered earlier,
    lowerFrom before (front ++ [c]) = lowered ++ lowerBetween earlier c [] := by
  induction front generalizing before with
  | nil => exact ⟨[], before, List.append_nil _⟩
  | cons e front ih =>
    obtain ⟨lowered, earlier, same⟩ := ih (e :: before)
    refine ⟨lowerBetween before e (front ++ [c]) ++ lowered, earlier, ?_⟩
    rw [List.cons_append, lowerFrom, same, List.append_assoc]

/-- The lower case of what is left has no blanks at its ends. -/
theorem trimList_lowerList_trimList (cs : List Char) :
    trimList (lowerList (trimList cs)) = lowerList (trimList cs) := by
  have filled {before after : List Char} {c d : Char} (full : isBlank c = false)
      (mem : d ∈ lowerBetween before c after) : isBlank d = false :=
    Bool.eq_false_iff.mpr fun blank => Bool.eq_false_iff.mp full
      (isBlank_of_mem_lowerBetween mem blank)
  refine trimList_of_ends (fun d rest starts => ?_) (fun d rest ends => ?_)
  next =>
    cases left : trimList cs with
    | nil =>
      rw [left] at starts
      exact nomatch starts
    | cons c after =>
      have head : (lowerBetween [] c after ++ lowerFrom [c] after).head? = some d := by
        rw [left] at starts
        exact congrArg List.head? starts
      obtain ⟨e, first⟩ := Option.ne_none_iff_exists'.mp
        (mt List.head?_eq_none_iff.mp (lowerBetween_ne_nil [] c after))
      rw [List.head?_append, first, Option.some_or] at head
      exact filled (trimList_head left) (List.mem_of_head? (first.trans head))
  next =>
    rcases List.eq_nil_or_concat (trimList cs) with none | ⟨front, c, left⟩
    · rw [none] at ends
      exact absurd ends (List.append_ne_nil_of_right_ne_nil _ (List.cons_ne_nil _ _)).symm
    · obtain ⟨lowered, earlier, same⟩ := exists_lowerFrom_concat [] front c
      have last : (lowered ++ lowerBetween earlier c []).getLast? = some d := by
        rw [left, List.concat_eq_append, lowerList, same] at ends
        rw [ends, List.getLast?_concat]
      obtain ⟨e, final⟩ := Option.ne_none_iff_exists'.mp
        (mt List.getLast?_eq_none_iff.mp (lowerBetween_ne_nil earlier c []))
      rw [List.getLast?_append, final, Option.some_or] at last
      exact filled (trimList_getLast (left.trans List.concat_eq_append))
        (List.mem_of_getLast? (final.trans last))

/-- It makes no difference whether a text is trimmed before or after. -/
theorem trimList_lowerList (cs : List Char) : trimList (lowerList cs) = lowerList (trimList cs) := by
  obtain ⟨left, right, leftBlank, rightBlank, whole⟩ := exists_blanks_trimList cs
  calc trimList (lowerList cs)
    _ = trimList (left ++ lowerList (trimList cs) ++ right) := by
      rw [← lowerList_blanks leftBlank rightBlank, ← whole]
    _ = lowerList (trimList cs) := by
      rw [trimList_blanks leftBlank rightBlank, trimList_lowerList_trimList]

/-! ## Pieces of a text -/

theorem exists_of_mem_lowerFrom {before cs : List Char} {d : Char} (mem : d ∈ lowerFrom before cs) :
    ∃ earlier after, ∃ c ∈ cs, d ∈ lowerBetween earlier c after := by
  induction cs generalizing before with
  | nil => exact nomatch mem
  | cons c after ih =>
    rcases List.mem_append.mp mem with here | later
    · exact ⟨before, after, c, List.mem_cons_self, here⟩
    · obtain ⟨earlier, after', e, within, at_e⟩ := ih later
      exact ⟨earlier, after', e, List.mem_cons_of_mem _ within, at_e⟩

/-- It makes no difference whether a text is split before or after. -/
theorem splitAt_lowerList {sep : Char} (separates : Separates sep.toNat sep.toNat)
    (cs : List Char) : splitAt sep (lowerList cs) = (splitAt sep cs).map lowerList := by
  have ends : EndsWord sep := separates.endsWord (Nat.le_refl _) (Nat.le_refl _)
  have lowered (pieces : List (List Char)) :
      lowerList (joinWith sep pieces) = joinWith sep (pieces.map lowerList) := by
    induction pieces with
    | nil => rfl
    | cons piece pieces ih =>
      cases pieces with
      | nil => rfl
      | cons next pieces =>
        rw [joinWith, ends.lowerList_append_cons, ih]
        · rfl
        · exact List.cons_ne_nil _ _
  have apart : ∀ piece ∈ (splitAt sep cs).map lowerList, sep ∉ piece := by
    refine List.forall_mem_map.mpr fun piece mem inside => ?_
    obtain ⟨_, _, c, within, comes⟩ := exists_of_mem_lowerFrom inside
    obtain rfl := separates.eq_of_mem_lowerBetween comes (Nat.le_refl _) (Nat.le_refl _)
    exact not_mem_of_mem_splitAt mem within
  calc splitAt sep (lowerList cs)
    _ = splitAt sep (joinWith sep ((splitAt sep cs).map lowerList)) := by
      rw [← lowered, joinWith_splitAt]
    _ = (splitAt sep cs).map lowerList :=
      splitAt_joinWith (mt List.map_eq_nil_iff.mp (splitAt_ne_nil sep cs)) apart

/-! ## The case of ASCII letters -/

theorem toNat_toUpper {d : Char} (low : 97 ≤ d.toNat) (high : d.toNat ≤ 122) :
    d.toUpper.toNat + 32 = d.toNat := by
  have small : 'a'.val ≤ d.val ∧ d.val ≤ 'z'.val :=
    ⟨UInt32.le_iff_toNat_le.mpr low, UInt32.le_iff_toNat_le.mpr high⟩
  have shift : d.toUpper.toNat = (d.toNat + 0xffffffe0) % 0x100000000 := by
    unfold Char.toUpper
    rw [dif_pos small]
    exact UInt32.toNat_add ..
  omega

theorem toNat_toLower {c : Char} (low : 65 ≤ c.toNat) (high : c.toNat ≤ 90) :
    c.toLower.toNat = c.toNat + 32 := by
  have capital : 'A'.val ≤ c.val ∧ c.val ≤ 'Z'.val :=
    ⟨UInt32.le_iff_toNat_le.mpr low, UInt32.le_iff_toNat_le.mpr high⟩
  have shift : c.toLower.toNat = (c.toNat + 32) % 0x100000000 := by
    unfold Char.toLower
    rw [dif_pos capital]
    exact UInt32.toNat_add ..
  omega

/-- A small letter is the lower case of itself and of one capital letter. -/
theorem toLower_eq_iff {c d : Char} (low : 97 ≤ d.toNat) (high : d.toNat ≤ 122) :
    c.toLower = d ↔ c = d ∨ c = d.toUpper := by
  have capital := toNat_toUpper low high
  constructor
  · rintro rfl
    rcases toLower_cases c with same | ⟨-, small⟩
    · exact .inl same.symm
    · exact .inr (Char.toNat_inj.mp (by omega))
  · rintro (rfl | rfl)
    · rcases toLower_cases c with same | ⟨letter, -⟩
      · exact same
      · omega
    · have small := toNat_toLower (c := d.toUpper) (by omega) (by omega)
      exact Char.toNat_inj.mp (by omega)

theorem isBlank_toLower (c : Char) : isBlank c.toLower = isBlank c := by
  refine apply_toLower (fun c letter => ?_) c
  simp only [isBlank, blankRuns, List.any_cons, List.any_nil, Bool.or_false,
    Bool.or_eq_false_iff, Bool.and_eq_false_iff, decide_eq_false_iff_not]
  omega

theorem isCased_toLower (c : Char) : isCased c.toLower = isCased c := by
  have letters := apply_toLower (p := fun c => !isCased c) (fun c letter => ?_) c
  · exact Bool.not_inj letters
  · rw [Bool.not_eq_false', isCased, inRuns, List.any_eq_true]
    rcases letter with capital | small
    · refine ⟨(0x41, 0x5a), List.mem_cons_self, ?_⟩
      simpa using capital
    · refine ⟨(0x61, 0x7a), List.mem_cons_of_mem _ List.mem_cons_self, ?_⟩
      simpa using small

theorem isPassed_toLower (c : Char) : isPassed c.toLower = isPassed c := by
  have apart : ∀ run ∈ passedRuns, (run.2 < 65 ∨ 90 < run.1) ∧ (run.2 < 97 ∨ 122 < run.1) := by
    decide +kernel
  refine apply_toLower (fun c letter => inRuns_eq_false fun run mem => ?_) c
  have := apart run mem
  omega

theorem meetsCased_toLower (cs : List Char) : meetsCased (cs.map Char.toLower) = meetsCased cs := by
  induction cs with
  | nil => rfl
  | cons c cs ih =>
    rw [List.map_cons, meetsCased_cons, meetsCased_cons, isPassed_toLower, isCased_toLower, ih]

theorem lowerChar_toLower (c : Char) : lowerChar c.toLower = lowerChar c := by
  rcases toLower_cases c with same | ⟨capital, small⟩
  · rw [same]
  · rw [lowerChar_ascii (by omega), lowerChar_ascii (by omega), toLower_toLower]

theorem lowerFrom_toLower (before cs : List Char) :
    lowerFrom (before.map Char.toLower) (cs.map Char.toLower) = lowerFrom before cs := by
  induction cs generalizing before with
  | nil => rfl
  | cons c after ih =>
    have sigma : c.toLower = '\u03a3' ↔ c = '\u03a3' := by
      have same := apply_toLower (p := (· == '\u03a3')) (fun c letter => ?_) c
      · rw [← beq_iff_eq, same, beq_iff_eq]
      · refine beq_eq_false_iff_ne.mpr fun eq => ?_
        have : '\u03a3'.toNat = 0x3a3 := rfl
        rw [eq] at letter
        omega
    have first : lowerBetween (before.map Char.toLower) c.toLower (after.map Char.toLower) =
        lowerBetween before c after := by
      rw [lowerBetween, lowerBetween, meetsCased_toLower, meetsCased_toLower, lowerChar_toLower]
      simp only [sigma]
    rw [List.map_cons, lowerFrom, lowerFrom, first, ← ih (c :: before), List.map_cons]

/-- Giving up the case of ASCII letters beforehand makes no difference. -/
theorem lowerList_toLower (cs : List Char) : lowerList (cs.map Char.toLower) = lowerList cs :=
  lowerFrom_toLower [] cs

/-! ## What becomes an ASCII character -/

/-- Whether a run of the mapping leads to characters outside ASCII only. -/
def CaseRun.LeavesAscii (run : CaseRun) : Prop :=
  0x80 ≤ run.1 + run.2.2.2 ∧
    (run.2.1 + run.2.2.2 < 0xd800 ∨ 0xdfff < run.1 + run.2.2.2 ∧ run.2.1 + run.2.2.2 < 0x110000)

instance (run : CaseRun) : Decidable run.LeavesAscii := by
  unfold CaseRun.LeavesAscii
  infer_instance

/-- All runs but one lead to characters outside ASCII, and that one makes the sign of the kelvin a
`k`. -/
theorem leavesAscii_lowerRuns :
    ∀ run ∈ lowerRuns, CaseRun.LeavesAscii run ∨ run = (0x212a, 0x212a, 1, -8383) := by
  decide +kernel

theorem CaseRun.LeavesAscii.le_toNat {run : CaseRun} (h : run.LeavesAscii) {n : Nat}
    (covers : run.covers n = true) : 0x80 ≤ (Char.ofNat (n + run.2.2.2).toNat).toNat := by
  obtain ⟨beyond, valid⟩ := h
  simp only [CaseRun.covers, Bool.and_eq_true, decide_eq_true_eq] at covers
  have number : (n + run.2.2.2).toNat.isValidChar := by
    rw [Nat.isValidChar]
    omega
  have value : (Char.ofNat (n + run.2.2.2).toNat).toNat = (n + run.2.2.2).toNat := by
    rw [Char.ofNat, dif_pos number]
    exact UInt32.toNat_ofNatLT ..
  omega

/-- An ASCII character comes of the same letter in ASCII, or is the `i` of the capital I with a dot
above or the `k` of the sign of the kelvin. -/
theorem ascii_of_mem_lowerBetween {before after : List Char} {c d : Char}
    (mem : d ∈ lowerBetween before c after) (ascii : d.toNat < 0x80) :
    (c.toNat < 0x80 ∧ d = c.toLower) ∨ (c = '\u0130' ∧ d = 'i') ∨ (c = '\u212a' ∧ d = 'k') := by
  unfold lowerBetween at mem
  split at mem
  next sigma =>
    split at mem
    all_goals
      obtain rfl := List.mem_singleton.mp mem
      exact absurd ascii (by decide)
  next =>
    unfold lowerChar at mem
    split at mem
    next small => exact .inl ⟨small, List.mem_singleton.mp mem⟩
    next large =>
      split at mem
      next dotted =>
        rcases List.mem_cons.mp mem with rfl | mem
        · exact .inr (.inl ⟨dotted, rfl⟩)
        · obtain rfl := List.mem_singleton.mp mem
          exact absurd ascii (by decide)
      next =>
        split at mem
        next run found =>
          obtain rfl := List.mem_singleton.mp mem
          have covers := List.find?_some found
          rcases leavesAscii_lowerRuns run (List.mem_of_find?_eq_some found) with leaves | rfl
          · exact absurd (leaves.le_toNat covers) (Nat.not_le_of_lt ascii)
          · simp only [CaseRun.covers, Bool.and_eq_true, decide_eq_true_eq] at covers
            have kelvin : c.toNat = '\u212a'.toNat := Nat.le_antisymm covers.1.2 covers.1.1
            obtain rfl := Char.toNat_inj.mp kelvin
            exact .inr (.inr ⟨rfl, rfl⟩)
        next =>
          obtain rfl := List.mem_singleton.mp mem
          exact absurd ascii large

/-- The dot of the capital I is kept, and after it the sign of the kelvin is a plain letter. -/
example : lower "\u0130\u212a" = "i\u0307k" := by decide +kernel

/-- Only ASCII characters have a lower case in ASCII without a `k`. -/
theorem ascii_of_lowerBetween {before after : List Char} {c : Char}
    (plain : ∀ d ∈ lowerBetween before c after, d.toNat < 0x80 ∧ d ≠ 'k') : c.toNat < 0x80 := by
  obtain ⟨d, mem⟩ := List.exists_mem_of_ne_nil _ (lowerBetween_ne_nil before c after)
  rcases ascii_of_mem_lowerBetween mem (plain d mem).1 with ⟨ascii, -⟩ | ⟨rfl, -⟩ | ⟨-, same⟩
  · exact ascii
  -- The dot stays behind as a character of its own.
  · exact absurd (plain '\u0307' (.tail _ (.head _))).1 (by decide)
  · exact absurd same (plain d mem).2

theorem exists_lowerBetween_subset (before : List Char) {cs : List Char} {c : Char} (mem : c ∈ cs) :
    ∃ earlier after, lowerBetween earlier c after ⊆ lowerFrom before cs := by
  induction cs generalizing before with
  | nil => exact nomatch mem
  | cons e rest ih =>
    cases mem with
    | head => exact ⟨before, rest, List.subset_append_left _ _⟩
    | tail _ mem =>
      obtain ⟨earlier, after, sub⟩ := ih (e :: before) mem
      exact ⟨earlier, after, List.subset_append_of_subset_right _ sub⟩

/-- For ASCII characters other than `k`, lower case can be compared letter by letter. -/
theorem lowerList_eq_iff {cs ds : List Char} (plain : ∀ d ∈ ds, d.toNat < 0x80 ∧ d ≠ 'k') :
    lowerList cs = ds ↔ cs.map Char.toLower = ds := by
  constructor
  · rintro rfl
    refine (lowerList_of_ascii fun c mem => ?_).symm
    obtain ⟨earlier, after, sub⟩ := exists_lowerBetween_subset [] mem
    exact ascii_of_lowerBetween fun d lowered => plain d (sub lowered)
  · rintro rfl
    refine lowerList_of_ascii fun c mem => ?_
    have ascii := (plain c.toLower (List.mem_map_of_mem mem)).1
    rcases toLower_cases c with same | ⟨capital, -⟩
    · rwa [same] at ascii
    · omega

end PageExtract.Text
