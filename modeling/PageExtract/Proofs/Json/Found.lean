import PageExtract.Proofs.Json.Passed

/-!
# What is read is a form

A reader of typed values `Finds` forms if all that it reads is one, with space in front of it.  The
readers of texts and of values that may be null do.  The readers of brackets keep this: if the value
of every member is found, then the object is (`findsObject_members`), and the parts of an array are
found one after another (`Finds.parts_of_nextElement`).

So where a value is read from a whole text, the text is a JSON text (`Finds.exists_writtenIn`).
-/

namespace PageExtract.Json

variable {α β σ : Type} {c d : Cursor} {rest : List Char}

/-- Whether all that a reader reads is a form, with space in front of it. -/
def Finds (read : Reader α) : Prop :=
  ∀ ⦃c x d⦄, read c = .ok (x, d) → ∃ f a, Space c.rest a ∧ Written f a d.rest

/-- Whether a reader reads the members of an object, with its end. -/
def FindsObject (read : Reader α) : Prop :=
  ∀ ⦃c x d⦄, read c = .ok (x, d) →
    ∃ members, Parts (Named Written) true members (Cursor.rest c) ('}' :: d.rest)

/-- Whether a reader reads the items of a list, with its end. -/
def FindsList (read : Reader α) : Prop :=
  ∀ ⦃c x d⦄, read c = .ok (x, d) →
    ∃ items, Parts Written true items (Cursor.rest c) (']' :: d.rest)

/-! ## Values -/

theorem finds_text : Finds text := by
  intro c x d h
  rw [text] at h
  split at h
  next cs mark =>
    have content := (readString_eq_ok_iff mark).mp ⟨d.position, h⟩
    exact ⟨_, '"' :: cs, (space_cons_iff rfl).mpr mark, .string (.text content)⟩
  next => exact absurd h wrongType_ne_ok

theorem finds_optional {read : Reader α} (finds : Finds read) : Finds (optional read) := by
  intro c x d h
  rw [optional] at h
  dsimp only at h
  split at h
  next rest next =>
    obtain ⟨-, passed⟩ := map_passed h
    have word := rest_of_skipWord passed
    rw [Cursor.advance_rest next] at word
    subst word
    exact ⟨.null, _, (space_cons_iff rfl).mpr next, .null⟩
  next =>
    obtain ⟨y, given, -⟩ := map_eq_ok_iff.mp h
    obtain ⟨f, a, space, written⟩ := finds given
    exact ⟨f, a, c.space_skipSpace.trans space, written⟩

theorem finds_inObject_none (wanted : String) : Finds (inObject wanted none : Reader α) :=
  fun _ _ d h => absurd ⟨d.position, h⟩ not_gives_inObject_none

theorem finds_inObject {read : Reader α} (finds : FindsObject read) (wanted : String) :
    Finds (inObject wanted (some read)) := by
  intro c x d h
  rw [inObject] at h
  split at h
  next cs next =>
    obtain ⟨members, parts⟩ := finds h
    rw [Cursor.advance_rest next] at parts
    exact ⟨_, _, (space_cons_iff rfl).mpr next, .object parts⟩
  next => exact absurd h wrongType_ne_ok

theorem finds_inStructure_none (wanted : String) : Finds (inStructure wanted none : Reader α) := by
  intro c x d h
  rw [inStructure] at h
  split at h
  next => exact nomatch h
  next => exact nomatch h
  next => exact absurd h wrongType_ne_ok

theorem finds_inStructure {object list : Reader α} (findsObject : FindsObject object)
    (findsList : FindsList list) (wanted : String) :
    Finds (inStructure wanted (some (object, list))) := by
  intro c x d h
  rw [inStructure] at h
  split at h
  next cs next =>
    obtain ⟨members, parts⟩ := findsObject h
    rw [Cursor.advance_rest next] at parts
    exact ⟨_, _, (space_cons_iff rfl).mpr next, .object parts⟩
  next cs next =>
    obtain ⟨items, parts⟩ := findsList h
    rw [Cursor.advance_rest next] at parts
    exact ⟨_, _, (space_cons_iff rfl).mpr next, .list parts⟩
  next => exact absurd h wrongType_ne_ok

/-! ## Members -/

/-- Whether a step of reading members reads a colon and a form. -/
def StepFinds (step : σ → String → Reader σ) : Prop :=
  ∀ ⦃state name c state' d⦄, step state name c = .ok (state', d) →
    ∃ f a b, Space c.rest (':' :: a) ∧ Space a b ∧ Written f b d.rest

/-- After a colon a reader that finds forms finds one. -/
theorem exists_written_of_colon {result : Cursor → Except Fault (β × Cursor)} {y : β}
    (finds : ∀ e, result e = .ok (y, d) → ∃ f b, Space e.rest b ∧ Written f b d.rest)
    (h : (colon c >>= result) = .ok (y, d)) :
    ∃ f a b, Space c.rest (':' :: a) ∧ Space a b ∧ Written f b d.rest := by
  obtain ⟨e, mark, h⟩ := except_bind_eq_ok_iff.mp h
  obtain ⟨f, b, space, written⟩ := finds e h
  exact ⟨f, e.rest, b, (passes_colon.eq_ok_iff rfl).mp ⟨e.position, mark⟩, space, written⟩

theorem Finds.exists_written_of_valueOf {read : Reader α} (finds : Finds read) {x : α}
    (h : valueOf read c = .ok (x, d)) :
    ∃ f a b, Space c.rest (':' :: a) ∧ Space a b ∧ Written f b d.rest :=
  exists_written_of_colon (fun _ given => finds given) h

theorem Finds.exists_written_of_once {read : Reader α} (finds : Finds read) {name : String}
    {given : Option α} {put : α → σ} {state : σ} (h : once name given read put c = .ok (state, d)) :
    ∃ f a b, Space c.rest (':' :: a) ∧ Space a b ∧ Written f b d.rest := by
  cases given with
  | some _ => exact nomatch h
  | none =>
    obtain ⟨x, given, -⟩ := map_eq_ok_iff.mp h
    exact finds.exists_written_of_valueOf given

theorem StepFinds.exists_parts {step : σ → String → Reader σ} (finds : StepFinds step)
    {steps : Nat} {first : Bool} {state state' : σ}
    (h : membersFrom step steps first state c = .ok (state', d)) :
    ∃ members after, d.rest = '}' :: after ∧
      Parts (Named Written) first members c.rest d.rest := by
  induction steps generalizing first state c with
  | zero => exact nomatch h
  | succ steps ih =>
    obtain ⟨⟨value, e⟩, next, h⟩ := except_bind_eq_ok_iff.mp h
    rcases nextName_gives_iff.mp ⟨e.position, next⟩ with
      ⟨rfl, after, ends, space⟩ | ⟨name, cs, rfl, comma, content⟩
    · cases h
      exact ⟨[], after, ends, .done space⟩
    · obtain ⟨⟨between, e'⟩, taken, h⟩ := except_bind_eq_ok_iff.mp h
      obtain ⟨f, a, b, before, after, written⟩ := finds taken
      obtain ⟨members, rest, ends, parts⟩ := ih h
      exact ⟨(some name, f) :: members, rest, ends,
        .part comma (.mk (.text content) before after written) parts⟩

/-- Reading members and then what ends the object reads an object. -/
theorem findsObject_members_then {step : σ → String → Reader σ} (finds : StepFinds step) (state : σ)
    {after : σ → Reader α}
    (ends : ∀ s ⦃c x d⦄, after s c = .ok (x, d) → Space c.rest ('}' :: d.rest)) :
    FindsObject (fun c => do
      let (s, c) ← members step state c
      after s c) := by
  intro c x d h
  obtain ⟨⟨s, e⟩, inside, closed⟩ := except_bind_eq_ok_iff.mp h
  obtain ⟨members, after, last, parts⟩ := finds.exists_parts inside
  have passed := ends s closed
  rw [last] at passed parts
  obtain ⟨-, rfl⟩ := passed.unique_cons .stop rfl rfl
  exact ⟨members, parts⟩

/-- Where an object is closed its closing brace comes. -/
theorem space_of_closeObject {x y : α} (h : (do return (x, ← closeObject c)) = Except.ok (y, d)) :
    Space c.rest ('}' :: d.rest) := by
  obtain ⟨e, closed, same⟩ := except_bind_eq_ok_iff.mp h
  cases same
  exact (passes_closeObject.eq_ok_iff rfl).mp ⟨d.position, closed⟩

theorem findsObject_members {step : σ → String → Reader σ} (finds : StepFinds step) (state : σ)
    (finish : σ → α) :
    FindsObject (fun c => do
      let (s, c) ← members step state c
      return (finish s, ← closeObject c)) :=
  @findsObject_members_then α σ step finds state (fun s c => do return (finish s, ← closeObject c))
    fun _ _ _ _ => space_of_closeObject

/-! ## Elements -/

/-- The next element, if there is one, is a part before those to come. -/
theorem Finds.parts_of_nextElement {read : Reader α} (finds : Finds read) {first : Bool}
    {value : Option α} (h : nextElement first read c = .ok (value, d))
    (more : ∃ items, Parts Written false items d.rest (']' :: rest)) :
    ∃ items, Parts Written first items c.rest (']' :: rest) := by
  obtain ⟨items, parts⟩ := more
  rcases end_or_read_of_nextElement h with ⟨rfl, after, ends, space⟩ | ⟨x, e, rfl, given, comma⟩
  · rw [ends] at parts space
    cases parts with
    | done closed => exact ⟨[], .done (space.trans closed)⟩
    | part comma part => exact (comma.not_closed (.inl rfl) part.opens .stop).elim
  · obtain ⟨f, a, space, written⟩ := finds given
    exact ⟨f :: items, .part (comma a space) written parts⟩

theorem parts_of_closeArray (h : closeArray c = .ok d) :
    ∃ items, Parts Written false items c.rest (']' :: d.rest) :=
  ⟨[], .done ((passes_closeArray.eq_ok_iff rfl).mp ⟨d.position, h⟩)⟩

/-! ## Texts -/

/-- A text from which a value is read is a JSON text. -/
theorem Finds.exists_writtenIn {read : Reader α} (finds : Finds read) {text : String} {x : α}
    (h : readAll read text = .ok x) : ∃ f : Form, f.WrittenIn text := by
  obtain ⟨rest, ⟨p, given⟩, space⟩ := readAll_eq_ok_iff.mp h
  obtain ⟨f, a, before, written⟩ := finds given
  exact ⟨f, a, rest, before, written, space⟩

end PageExtract.Json
