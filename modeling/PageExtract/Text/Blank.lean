/-!
# Blanks and trimming

A *blank* is a character of Unicode's White_Space property.  There are 25 of
them, in ten runs of code points.  Zero-width characters are not blanks.
`trim` drops the blanks at both ends of a text and leaves those inside it.

`trimList` is the same on lists of characters, where it is easiest to reason
about: its result starts and ends with no blank (`trimList_head`,
`trimList_getLast`), and trimming twice is trimming once (`trimList_trimList`).
-/

namespace PageExtract.Text

/-- The runs of blank characters, as first and last code point. -/
def blankRuns : List (Nat × Nat) :=
  [(0x09, 0x0D), (0x20, 0x20), (0x85, 0x85), (0xA0, 0xA0), (0x1680, 0x1680), (0x2000, 0x200A),
   (0x2028, 0x2029), (0x202F, 0x202F), (0x205F, 0x205F), (0x3000, 0x3000)]

/-- Whether a character is a blank. -/
def isBlank (c : Char) : Bool :=
  blankRuns.any fun (first, last) => first ≤ c.toNat && c.toNat ≤ last

/-- A list of characters without the blanks it starts with. -/
def dropBlanks : List Char → List Char
  | [] => []
  | c :: rest => if isBlank c then dropBlanks rest else c :: rest

/-- A list of characters without the blanks at its ends. -/
def trimList (cs : List Char) : List Char :=
  (dropBlanks (dropBlanks cs).reverse).reverse

/-- A text without the blanks at its ends. -/
def trim (s : String) : String := String.ofList (trimList s.toList)

/-- A text that may be given, trimmed, unless it is blank. -/
def trimmed? (given : Option String) : Option String :=
  match given.map trim with
  | none => none
  | some s => if s.isEmpty then none else some s

/-- Whether a text holds nothing but blanks. -/
def isAllBlank (s : String) : Bool := s.toList.all isBlank

/-! ## What trimming leaves -/

theorem dropBlanks_suffix (cs : List Char) : ∃ front, cs = front ++ dropBlanks cs := by
  induction cs with
  | nil => exact ⟨[], rfl⟩
  | cons c rest ih =>
    by_cases h : isBlank c
    · obtain ⟨front, hf⟩ := ih
      exact ⟨c :: front, by simp [dropBlanks, h, ← hf]⟩
    · exact ⟨[], by simp [dropBlanks, h]⟩

theorem dropBlanks_head {cs : List Char} {c : Char} {rest : List Char}
    (h : dropBlanks cs = c :: rest) : isBlank c = false := by
  induction cs with
  | nil => simp [dropBlanks] at h
  | cons d ds ih =>
    by_cases hd : isBlank d
    · exact ih (by simpa [dropBlanks, hd] using h)
    · have : d = c := by
        have := h
        simp [dropBlanks, hd] at this
        exact this.1
      simpa [← this] using hd

theorem dropBlanks_of_head {c : Char} {rest : List Char} (h : isBlank c = false) :
    dropBlanks (c :: rest) = c :: rest := by
  simp [dropBlanks, h]

/-- The last character that trimming leaves is no blank. -/
theorem trimList_getLast {cs : List Char} {c : Char} {rest : List Char}
    (h : trimList cs = rest ++ [c]) : isBlank c = false := by
  have h' : dropBlanks (dropBlanks cs).reverse = c :: rest.reverse := by
    rw [trimList, List.reverse_eq_iff] at h
    simpa using h
  exact dropBlanks_head h'

/-- The first character that trimming leaves is no blank. -/
theorem trimList_head {cs : List Char} {c : Char} {rest : List Char}
    (h : trimList cs = c :: rest) : isBlank c = false := by
  obtain ⟨front, hf⟩ := dropBlanks_suffix (dropBlanks cs).reverse
  have hd : dropBlanks cs = c :: (rest ++ front.reverse) := by
    have := congrArg List.reverse hf
    rw [List.reverse_reverse, List.reverse_append] at this
    rw [this, ← trimList, h]
    simp
  exact dropBlanks_head hd

/-- Trimming a list that is trimmed at both ends changes nothing. -/
theorem trimList_of_ends {cs : List Char}
    (head : ∀ c rest, cs = c :: rest → isBlank c = false)
    (last : ∀ c rest, cs = rest ++ [c] → isBlank c = false) : trimList cs = cs := by
  cases cs with
  | nil => rfl
  | cons c rest =>
    have hc : dropBlanks (c :: rest) = c :: rest := dropBlanks_of_head (head c rest rfl)
    cases hr : (c :: rest).reverse with
    | nil => simp at hr
    | cons d ds =>
      have hd : isBlank d = false := by
        apply last d ds.reverse
        have := congrArg List.reverse hr
        simpa using this
      rw [trimList, hc, hr, dropBlanks_of_head hd, ← hr, List.reverse_reverse]

@[simp] theorem trimList_trimList (cs : List Char) : trimList (trimList cs) = trimList cs :=
  trimList_of_ends (fun _ _ h => trimList_head h) (fun _ _ h => trimList_getLast h)

@[simp] theorem trim_trim (s : String) : trim (trim s) = trim s := by
  simp [trim]

section

variable {f : Char → Char} (same : ∀ c, isBlank (f c) = isBlank c)
include same

theorem dropBlanks_map (cs : List Char) : dropBlanks (cs.map f) = (dropBlanks cs).map f := by
  induction cs with
  | nil => rfl
  | cons c rest ih =>
    rw [List.map_cons, dropBlanks, dropBlanks, same, ih]
    split
    next => rfl
    next => rfl

/-- A change of characters that keeps blanks apart keeps what trimming leaves. -/
theorem trimList_map (cs : List Char) : trimList (cs.map f) = (trimList cs).map f := by
  rw [trimList, trimList, dropBlanks_map same, ← List.map_reverse, dropBlanks_map same,
    List.map_reverse]

end

theorem dropBlanks_eq_dropWhile (cs : List Char) : dropBlanks cs = cs.dropWhile isBlank := by
  induction cs with
  | nil => rfl
  | cons c rest ih => rw [dropBlanks, List.dropWhile_cons, ih]

theorem dropBlanks_append_of_blank {left : List Char} (blank : ∀ c ∈ left, isBlank c = true)
    (cs : List Char) : dropBlanks (left ++ cs) = dropBlanks cs := by
  rw [dropBlanks_eq_dropWhile, dropBlanks_eq_dropWhile, List.dropWhile_append_of_pos blank]

/-- Blanks that are added at the ends are not left. -/
theorem trimList_blanks {left right : List Char} (leftBlank : ∀ c ∈ left, isBlank c = true)
    (rightBlank : ∀ c ∈ right, isBlank c = true) (cs : List Char) :
    trimList (left ++ cs ++ right) = trimList cs := by
  have backwards : ∀ c ∈ right.reverse, isBlank c = true :=
    fun c mem => rightBlank c (List.mem_reverse.mp mem)
  have all : dropBlanks right = [] := by
    simpa [dropBlanks] using dropBlanks_append_of_blank rightBlank []
  rw [trimList, trimList, List.append_assoc, dropBlanks_append_of_blank leftBlank,
    dropBlanks_eq_dropWhile (cs ++ right), List.dropWhile_append, ← dropBlanks_eq_dropWhile,
    ← dropBlanks_eq_dropWhile, all]
  split
  next none =>
    rw [List.isEmpty_iff.mp none]
  next =>
    rw [List.reverse_append, dropBlanks_append_of_blank backwards]

/-- The wide space of East Asian texts is a blank, the one of no width is none. -/
example : trim "\u200b a b\u3000" = "\u200b a b" := by decide

/-- What trimming takes away are blanks at the ends. -/
theorem exists_blanks_trimList (cs : List Char) : ∃ left right, (∀ c ∈ left, isBlank c = true) ∧
    (∀ c ∈ right, isBlank c = true) ∧ cs = left ++ trimList cs ++ right := by
  have front (cs : List Char) : cs.takeWhile isBlank ++ dropBlanks cs = cs := by
    rw [dropBlanks_eq_dropWhile, List.takeWhile_append_dropWhile]
  have blank (cs : List Char) : ∀ c ∈ cs.takeWhile isBlank, isBlank c = true :=
    List.all_eq_true.mp List.all_takeWhile
  refine ⟨cs.takeWhile isBlank, ((dropBlanks cs).reverse.takeWhile isBlank).reverse, blank cs,
    fun c mem => blank _ c (List.mem_reverse.mp mem), ?_⟩
  rw [trimList, List.append_assoc, ← List.reverse_append, front, List.reverse_reverse, front]

/-- What is left of a text that may be given is that text trimmed, if it is not empty. -/
theorem trimmed?_eq_some_iff {given : Option String} {s : String} :
    trimmed? given = some s ↔ ∃ written, given = some written ∧ trim written = s ∧ s ≠ "" := by
  rw [trimmed?]
  cases given with
  | none => simp
  | some written =>
    rw [Option.map_some]
    by_cases blank : (trim written).isEmpty = true
    · simp only [if_pos blank]
      refine iff_of_false (Option.some_ne_none s).symm ?_
      rintro ⟨_, same, rfl, filled⟩
      obtain rfl := Option.some.inj same
      exact filled (String.isEmpty_iff.mp blank)
    · simp only [if_neg blank]
      constructor
      · intro h
        obtain rfl := Option.some.inj h
        exact ⟨written, rfl, rfl, fun empty => blank (String.isEmpty_iff.mpr empty)⟩
      · rintro ⟨_, same, rfl, -⟩
        rw [Option.some.inj same]

end PageExtract.Text
