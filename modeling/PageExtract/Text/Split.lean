/-!
# Splitting at a character

A list of characters is cut wherever some character stands.  There is always one
piece more than there are cuts, and joining the pieces again gives the list back.
-/

namespace PageExtract.Text

/-- The pieces of a list between the places where a character stands. -/
def splitAt (sep : Char) : List Char → List (List Char)
  | [] => [[]]
  | c :: rest =>
      if c = sep then [] :: splitAt sep rest
      else match splitAt sep rest with
        | [] => [[c]]
        | piece :: pieces => (c :: piece) :: pieces

/-- Pieces with a character between them. -/
def joinWith (sep : Char) : List (List Char) → List Char
  | [] => []
  | [piece] => piece
  | piece :: pieces => piece ++ sep :: joinWith sep pieces

theorem splitAt_ne_nil (sep : Char) (cs : List Char) : splitAt sep cs ≠ [] := by
  cases cs with
  | nil => simp [splitAt]
  | cons c rest =>
    unfold splitAt
    split
    · simp
    · split <;> simp

/-- Joining what splitting gives changes nothing. -/
theorem joinWith_splitAt (sep : Char) (cs : List Char) : joinWith sep (splitAt sep cs) = cs := by
  induction cs with
  | nil => rfl
  | cons c rest ih =>
    cases h : splitAt sep rest with
    | nil => exact absurd h (splitAt_ne_nil sep rest)
    | cons piece pieces =>
      rw [h] at ih
      by_cases hc : c = sep
      · simp [splitAt, hc, h, joinWith, ih]
      · simp only [splitAt, hc, if_false, h]
        cases pieces with
        | nil => simpa [joinWith] using ih
        | cons p ps => simpa [joinWith] using ih

/-- No piece holds the character. -/
theorem not_mem_of_mem_splitAt {sep : Char} {cs piece : List Char}
    (h : piece ∈ splitAt sep cs) : sep ∉ piece := by
  induction cs generalizing piece with
  | nil => simp [splitAt] at h; simp [h]
  | cons c rest ih =>
    by_cases hc : c = sep
    · simp only [splitAt, hc, if_true, List.mem_cons] at h
      rcases h with h | h
      · simp [h]
      · exact ih h
    · simp only [splitAt, hc, if_false] at h
      cases hs : splitAt sep rest with
      | nil => exact absurd hs (splitAt_ne_nil sep rest)
      | cons p ps =>
        rw [hs] at h ih
        rcases List.mem_cons.mp h with h | h
        · subst h
          have := ih (List.mem_cons_self ..)
          simp [this, Ne.symm hc]
        · exact ih (List.mem_cons_of_mem _ h)

/-- A list without the character is one piece. -/
theorem splitAt_of_not_mem {sep : Char} {cs : List Char} (h : sep ∉ cs) :
    splitAt sep cs = [cs] := by
  induction cs with
  | nil => rfl
  | cons c rest ih =>
    rw [List.mem_cons, not_or] at h
    simp [splitAt, Ne.symm h.1, ih h.2]

/-- The first character ends the first piece. -/
theorem splitAt_append_cons {sep : Char} {piece : List Char} (h : sep ∉ piece)
    (rest : List Char) : splitAt sep (piece ++ sep :: rest) = piece :: splitAt sep rest := by
  induction piece with
  | nil => simp [splitAt]
  | cons c cs ih =>
    rw [List.mem_cons, not_or] at h
    simp [splitAt, Ne.symm h.1, ih h.2]

/-- Splitting gives back pieces that were joined, if none holds the character. -/
theorem splitAt_joinWith {sep : Char} {pieces : List (List Char)} (hne : pieces ≠ [])
    (h : ∀ piece ∈ pieces, sep ∉ piece) : splitAt sep (joinWith sep pieces) = pieces := by
  induction pieces with
  | nil => exact absurd rfl hne
  | cons p ps ih =>
    have hp : sep ∉ p := h p (List.mem_cons_self ..)
    cases ps with
    | nil => exact splitAt_of_not_mem hp
    | cons q qs =>
      rw [joinWith, splitAt_append_cons hp,
        ih (by simp) fun piece hm => h piece (List.mem_cons_of_mem _ hm)]
      · simp

/-- What is joined has the characters of the pieces and the one between them. -/
theorem mem_joinWith {sep c : Char} {pieces : List (List Char)} (h : c ∈ joinWith sep pieces) :
    c = sep ∨ ∃ piece ∈ pieces, c ∈ piece := by
  induction pieces with
  | nil => cases h
  | cons p ps ih =>
    cases ps with
    | nil => exact Or.inr ⟨p, List.mem_cons_self .., h⟩
    | cons q qs =>
      rw [joinWith, List.mem_append, List.mem_cons] at h
      · rcases h with h | h | h
        · exact Or.inr ⟨p, List.mem_cons_self .., h⟩
        · exact Or.inl h
        · rcases ih h with h' | ⟨piece, hm, hc⟩
          · exact Or.inl h'
          · exact Or.inr ⟨piece, List.mem_cons_of_mem _ hm, hc⟩
      · simp

/-- A change of characters that keeps them apart from the one between pieces keeps the pieces. -/
theorem splitAt_map {f : Char → Char} {sep : Char} (same : ∀ c, f c = sep ↔ c = sep)
    (cs : List Char) : splitAt sep (cs.map f) = (splitAt sep cs).map (List.map f) := by
  induction cs with
  | nil => rfl
  | cons c rest ih =>
    rw [List.map_cons, splitAt, splitAt, ih]
    by_cases cut : c = sep
    · rw [if_pos ((same c).mpr cut), if_pos cut]
      rfl
    · rw [if_neg (fun h => cut ((same c).mp h)), if_neg cut]
      cases splitAt sep rest with
      | nil => rfl
      | cons piece pieces => rfl

end PageExtract.Text
