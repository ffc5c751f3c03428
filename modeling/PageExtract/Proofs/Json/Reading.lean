import PageExtract.Proofs.Json.Strings

/-!
# Readers and the grammar

A reader `Reads` the parts of a grammar if it gives from each cursor what the grammar
says, and nothing else: it passes space, and then reads one part.  The readers of
brackets keep this.  If a reader reads some parts, then reading elements gives the parts
of an array (`elements_gives_iff`), and reading members gives those of an object
(`members_gives_iff`).
-/

namespace PageExtract.Json

variable {α σ : Type}

/-- Whether a reader gives a value and leaves some characters unread. -/
def Gives (read : Reader α) (c : Cursor) (x : α) (rest : List Char) : Prop :=
  ∃ p, read c = .ok (x, ⟨rest, p⟩)

/-- Parts that may stand in a bracket. -/
structure IsPart (P : α → List Char → List Char → Prop) : Prop where
  /-- A part cannot be mistaken for space or for the end of the bracket. -/
  opens : ∀ {x cs rest}, P x cs rest → Opens cs
  /-- A part takes at least one character. -/
  shorter : ∀ {x cs rest}, P x cs rest → rest.length < cs.length

/-- A reader of some parts, which may have space in front. -/
structure Reads (read : Reader α) (P : α → List Char → List Char → Prop) : Prop
    extends IsPart P where
  /-- The reader gives what the grammar says. -/
  gives_iff : ∀ {c x rest}, Gives read c x rest ↔ ∃ cs, Space c.rest cs ∧ P x cs rest

/-! ## Cursors -/

theorem skipSpaceFrom_rest (cs : List Char) (p : Position) :
    (skipSpaceFrom cs p).rest = cs.dropWhile isSpace := by
  induction cs generalizing p with
  | nil => rfl
  | cons c cs ih =>
    rw [skipSpaceFrom]
    split
    next space => rw [ih, List.dropWhile_cons_of_pos space]
    next other => rw [List.dropWhile_cons_of_neg other]

theorem Cursor.skipSpace_rest (c : Cursor) : c.skipSpace.rest = c.rest.dropWhile isSpace :=
  skipSpaceFrom_rest c.rest c.position

/-- What does not open with space stands where all space has been passed. -/
theorem exists_space_iff {Q : List Char → Prop} (opens : ∀ cs, Q cs → Opens cs) (c : Cursor) :
    (∃ cs, Space c.rest cs ∧ Q cs) ↔ Q c.skipSpace.rest := by
  rw [Cursor.skipSpace_rest]
  constructor
  · rintro ⟨cs, space, holds⟩
    obtain ⟨x, rest, rfl, other, _⟩ := opens cs holds
    rwa [space.dropWhile_of_cons other]
  · intro holds
    exact ⟨_, .dropWhile _, holds⟩

/-- Where a character comes next that is no space, all space has been passed. -/
theorem space_cons_iff {c : Cursor} {x : Char} {rest : List Char} (other : isSpace x = false) :
    Space c.rest (x :: rest) ↔ c.skipSpace.rest = x :: rest := by
  rw [Cursor.skipSpace_rest]
  refine ⟨fun space => space.dropWhile_of_cons other, fun next => ?_⟩
  rw [← next]
  exact .dropWhile _

theorem Cursor.space_skipSpace (c : Cursor) : Space c.rest c.skipSpace.rest := by
  rw [Cursor.skipSpace_rest]
  exact .dropWhile _

theorem Cursor.faultAhead_ne_ok {c : Cursor} {cause : Cause} {x : α} :
    c.faultAhead cause ≠ .ok x := fun h => nomatch h

/-- A value that is made from what is read is given where that is. -/
theorem map_eq_ok_iff {β : Type} {result : Except Fault (α × Cursor)} {f : α → β} {y : β}
    {c : Cursor} :
    result.map (fun answer => (f answer.1, answer.2)) = .ok (y, c) ↔
      ∃ x, result = .ok (x, c) ∧ f x = y := by
  cases result with
  | error fault => exact ⟨fun h => (nomatch h), fun ⟨_, h, _⟩ => (nomatch h)⟩
  | ok answer =>
    constructor
    · intro h
      cases h
      exact ⟨answer.1, rfl, rfl⟩
    · rintro ⟨x, h, rfl⟩
      cases h
      rfl

/-- What stands in a bracket is given where the bracket has been closed. -/
theorem close_eq_ok_iff {β : Type} {result : Except Fault (α × Cursor)}
    {close : Cursor → Except Fault Cursor} {f : α → β} {y : β} {c : Cursor} :
    (do let (x, d) ← result; return (f x, ← close d)) = Except.ok (y, c) ↔
      ∃ x d, result = .ok (x, d) ∧ close d = .ok c ∧ f x = y := by
  constructor
  · intro h
    cases result with
    | error fault => exact nomatch h
    | ok answer =>
      obtain ⟨x, d⟩ := answer
      cases closed : close d with
      | error fault =>
        simp only [bind, Except.bind, closed] at h
        exact nomatch h
      | ok e =>
        simp only [bind, Except.bind, closed, pure, Except.pure] at h
        cases h
        exact ⟨x, d, rfl, closed, rfl⟩
  · rintro ⟨x, d, rfl, closed, rfl⟩
    simp only [bind, Except.bind, closed, pure, Except.pure]

/-! ## Marks between parts -/

/-- Passing space and a mark, and nothing else. -/
def Passes (pass : Cursor → Except Fault Cursor) (mark : Char) : Prop :=
  ∀ c d, pass c = .ok d ↔ ∃ after, c.skipSpace.rest = mark :: after ∧ d = c.skipSpace.advance

theorem Passes.eq_ok_iff {pass : Cursor → Except Fault Cursor} {mark : Char}
    (passes : Passes pass mark) (other : isSpace mark = false) {c : Cursor} {rest : List Char} :
    (∃ p, pass c = .ok ⟨rest, p⟩) ↔ Space c.rest (mark :: rest) := by
  rw [space_cons_iff other]
  constructor
  · rintro ⟨p, h⟩
    obtain ⟨after, next, same⟩ := (passes c _).mp h
    have passed : rest = c.skipSpace.advance.rest := congrArg Cursor.rest same
    rw [Cursor.advance, next] at passed
    rw [next, passed]
  · intro next
    have passed : c.skipSpace.advance = ⟨rest, c.skipSpace.position.after mark⟩ := by
      rw [Cursor.advance, next]
    exact ⟨_, (passes c _).mpr ⟨rest, next, passed.symm⟩⟩

theorem passes_colon : Passes colon ':' := by
  intro c d
  rw [colon]
  split
  next ends => exact ⟨fun h => (nomatch h), fun ⟨_, h, _⟩ => (nomatch ends.symm.trans h)⟩
  next after mark =>
    exact ⟨fun h => ⟨after, mark, (Except.ok.inj h).symm⟩, fun ⟨_, _, h⟩ => congrArg _ h.symm⟩
  next other => exact ⟨fun h => (nomatch h), fun ⟨after, h, _⟩ => absurd h (other after)⟩

theorem passes_closeObject : Passes closeObject '}' := by
  intro c d
  rw [closeObject]
  split
  next ends => exact ⟨fun h => (nomatch h), fun ⟨_, h, _⟩ => (nomatch ends.symm.trans h)⟩
  next after mark =>
    exact ⟨fun h => ⟨after, mark, (Except.ok.inj h).symm⟩, fun ⟨_, _, h⟩ => congrArg _ h.symm⟩
  next comma =>
    exact ⟨fun h => (nomatch h), fun ⟨_, h, _⟩ => (nomatch comma.symm.trans h)⟩
  next other _ => exact ⟨fun h => (nomatch h), fun ⟨after, h, _⟩ => absurd h (other after)⟩

theorem passes_closeArray : Passes closeArray ']' := by
  intro c d
  rw [closeArray]
  split
  next ends => exact ⟨fun h => (nomatch h), fun ⟨_, h, _⟩ => (nomatch ends.symm.trans h)⟩
  next after mark =>
    exact ⟨fun h => ⟨after, mark, (Except.ok.inj h).symm⟩, fun ⟨_, _, h⟩ => congrArg _ h.symm⟩
  next comma =>
    refine ⟨fun h => ?_, fun ⟨_, h, _⟩ => (nomatch comma.symm.trans h)⟩
    dsimp only at h
    split at h <;> exact nomatch h
  next other _ => exact ⟨fun h => (nomatch h), fun ⟨after, h, _⟩ => absurd h (other after)⟩

/-! ## Elements -/

section Elements

variable {read : Reader α} {P : α → List Char → List Char → Prop} {first : Bool} {c : Cursor}
  {rest : List Char}

theorem nextElement_of_end {after : List Char} (next : c.skipSpace.rest = ']' :: after) :
    nextElement first read c = .ok (none, c.skipSpace) := by
  simp only [nextElement, next]

theorem nextElement_of_first {x : Char} {after : List Char} (next : c.skipSpace.rest = x :: after)
    (other : x ≠ ']') :
    nextElement true read c = (read c.skipSpace).map fun answer => (some answer.1, answer.2) := by
  rw [nextElement]
  dsimp only
  split
  next ends => exact absurd (next.symm.trans ends) (List.cons_ne_nil _ _)
  next closed => exact absurd (List.cons.inj (next.symm.trans closed)).1 other
  next => exact if_pos rfl

theorem nextElement_of_comma {x : Char} {after more : List Char}
    (next : c.skipSpace.rest = ',' :: after)
    (part : c.skipSpace.advance.skipSpace.rest = x :: more) (other : x ≠ ']') :
    nextElement false read c =
      (read c.skipSpace.advance.skipSpace).map fun answer => (some answer.1, answer.2) := by
  rw [nextElement]
  dsimp only
  split
  next ends => exact absurd (next.symm.trans ends) (List.cons_ne_nil _ _)
  next closed => exact absurd (List.cons.inj (next.symm.trans closed)).1 (by decide)
  next y _ _ comma =>
    rw [if_neg Bool.false_ne_true, if_pos (List.cons.inj (comma.symm.trans next)).1]
    split
    next ends => exact absurd (part.symm.trans ends) (List.cons_ne_nil _ _)
    next closed => exact absurd (List.cons.inj (part.symm.trans closed)).1 other
    next => rfl

/-- The next element is read after its comma, or there is none since the end comes next. -/
theorem end_or_read_of_nextElement {value : Option α} {d : Cursor}
    (h : nextElement first read c = .ok (value, d)) :
    (value = none ∧ ∃ after, d.rest = ']' :: after ∧ Space c.rest d.rest) ∨
      ∃ x e, value = some x ∧ read e = .ok (x, d) ∧
        ∀ cs, Space e.rest cs → Comma first c.rest cs := by
  rw [nextElement] at h
  dsimp only at h
  split at h
  next => exact absurd h Cursor.faultAhead_ne_ok
  next after closed =>
    cases h
    exact .inl ⟨rfl, after, closed, c.space_skipSpace⟩
  next x after other next =>
    refine .inr ?_
    split at h
    next isFirst =>
      obtain ⟨y, given, rfl⟩ := map_eq_ok_iff.mp h
      subst isFirst
      exact ⟨y, c.skipSpace, rfl, given, fun _ space => .first (c.space_skipSpace.trans space)⟩
    next later =>
      obtain rfl := eq_false_of_ne_true later
      split at h
      next comma =>
        subst comma
        split at h
        next => exact absurd h Cursor.faultAhead_ne_ok
        next => exact absurd h Cursor.faultAhead_ne_ok
        next =>
          obtain ⟨y, given, rfl⟩ := map_eq_ok_iff.mp h
          refine ⟨y, _, rfl, given, fun _ space => .later (next ▸ c.space_skipSpace) ?_⟩
          have passed := c.skipSpace.advance.space_skipSpace.trans space
          rwa [Cursor.advance, next] at passed
      next => exact absurd h Cursor.faultAhead_ne_ok

/-- The next element is one of the array, or there is none since the end comes next. -/
theorem nextElement_gives_iff (reads : Reads read P) {value : Option α} :
    Gives (nextElement first read) c value rest ↔
      (value = none ∧ ∃ after, rest = ']' :: after ∧ Space c.rest rest) ∨
        ∃ x cs, value = some x ∧ Comma first c.rest cs ∧ P x cs rest := by
  constructor
  · rintro ⟨p, h⟩
    rcases end_or_read_of_nextElement h with closed | ⟨x, e, rfl, given, comma⟩
    · exact .inl closed
    · obtain ⟨cs, space, part⟩ := reads.gives_iff.mp ⟨p, given⟩
      exact .inr ⟨x, cs, rfl, comma cs space, part⟩
  · rintro (⟨rfl, after, rfl, space⟩ | ⟨x, cs, rfl, comma, part⟩)
    · have next := (space_cons_iff (by decide)).mp space
      refine ⟨c.skipSpace.position, ?_⟩
      rw [nextElement_of_end next, ← next]
    · obtain ⟨y, more, rfl, nonspace, other, _⟩ := reads.opens part
      cases comma with
      | first space =>
        have next := (space_cons_iff nonspace).mp space
        obtain ⟨p, given⟩ := reads.gives_iff.mpr ⟨_, .stop, next ▸ part⟩
        exact ⟨p, by rw [nextElement_of_first next other, given]; rfl⟩
      | later before after =>
        have comes := (space_cons_iff (by decide)).mp before
        have next : c.skipSpace.advance.skipSpace.rest = y :: more := by
          rw [← space_cons_iff nonspace, Cursor.advance, comes]
          exact after
        obtain ⟨p, given⟩ := reads.gives_iff.mpr ⟨_, .stop, next ▸ part⟩
        exact ⟨p, by rw [nextElement_of_comma comes next other, given]; rfl⟩

/-- Reading so many elements gives those that are there up to the end of the array. -/
theorem elementsFrom_gives_iff (reads : Reads read P) {steps : Nat} {done ys : List α} :
    Gives (elementsFrom read steps first done) c ys rest ↔
      ∃ xs, ys = done.reverse ++ xs ∧ xs.length < steps ∧ (∃ after, rest = ']' :: after) ∧
        Parts P first xs c.rest rest := by
  -- What is read moves from the elements to come to those that are done, which are backwards.
  have longer (x : α) (done xs : List α) : done.reverse ++ x :: xs = (x :: done).reverse ++ xs := by
    rw [List.reverse_cons, List.append_assoc, List.singleton_append]
  induction steps generalizing first done c with
  | zero => exact ⟨fun ⟨_, h⟩ => (nomatch h), fun ⟨_, _, few, _⟩ => (nomatch few)⟩
  | succ steps ih =>
    rw [Gives, elementsFrom]
    constructor
    · rintro ⟨p, h⟩
      cases next : nextElement first read c with
      | error fault =>
        rw [next] at h
        exact nomatch h
      | ok answer =>
        obtain ⟨value, d⟩ := answer
        rw [next] at h
        rcases (nextElement_gives_iff reads).mp ⟨d.position, next⟩ with
          ⟨rfl, after, ends, space⟩ | ⟨x, cs, rfl, comma, part⟩
        · cases h
          exact ⟨[], (List.append_nil _).symm, Nat.succ_pos _, ⟨after, ends⟩, .done space⟩
        · obtain ⟨xs, rfl, few, ends, parts⟩ := ih.mp ⟨p, h⟩
          exact ⟨x :: xs, (longer x done xs).symm, Nat.succ_lt_succ few, ends,
            .part comma part parts⟩
    · rintro ⟨xs, rfl, few, ⟨after, rfl⟩, parts⟩
      cases parts with
      | done space =>
        obtain ⟨p, next⟩ : Gives (nextElement first read) c none (']' :: after) :=
          (nextElement_gives_iff reads).mpr (.inl ⟨rfl, after, rfl, space⟩)
        exact ⟨p, by rw [next, List.append_nil]; rfl⟩
      | @part _ x xs _ cs mid _ comma part more =>
        obtain ⟨p, next⟩ := (nextElement_gives_iff reads).mpr (.inr ⟨x, cs, rfl, comma, part⟩)
        obtain ⟨q, rest⟩ := (ih (c := ⟨mid, p⟩)).mpr
          ⟨xs, longer x done xs, Nat.lt_of_succ_lt_succ few, ⟨after, rfl⟩, more⟩
        exact ⟨q, by rw [next]; exact rest⟩

/-- Reading elements gives those of an array up to its end. -/
theorem elements_gives_iff (reads : Reads read P) {xs : List α} :
    Gives (elements read) c xs rest ↔
      (∃ after, rest = ']' :: after) ∧ Parts P true xs c.rest rest := by
  refine Iff.trans (elementsFrom_gives_iff reads) ⟨?_, ?_⟩
  · rintro ⟨_, rfl, _, ends, parts⟩
    exact ⟨ends, parts⟩
  · rintro ⟨ends, parts⟩
    have length := parts.length_le fun _ _ _ _ => reads.shorter
    exact ⟨xs, rfl, by omega, ends, parts⟩

/-- Reading elements and then the end of the array gives the elements of the array. -/
theorem array_gives_iff (reads : Reads read P) {xs : List α} :
    (∃ d p, elements read c = .ok (xs, d) ∧ closeArray d = .ok ⟨rest, p⟩) ↔
      Parts P true xs c.rest (']' :: rest) := by
  have close (d : Cursor) : (∃ p, closeArray d = .ok ⟨rest, p⟩) ↔ Space d.rest (']' :: rest) :=
    passes_closeArray.eq_ok_iff (by decide)
  constructor
  · rintro ⟨d, p, inside, closed⟩
    obtain ⟨⟨after, ends⟩, parts⟩ := (elements_gives_iff reads).mp ⟨d.position, inside⟩
    have passed := (close d).mp ⟨p, closed⟩
    rw [ends] at passed parts
    obtain ⟨_, rfl⟩ := passed.unique_cons .stop rfl rfl
    exact parts
  · intro parts
    obtain ⟨p, inside⟩ := (elements_gives_iff reads).mpr ⟨⟨rest, rfl⟩, parts⟩
    obtain ⟨q, closed⟩ := (close ⟨']' :: rest, p⟩).mpr .stop
    exact ⟨_, q, inside, closed⟩

end Elements

/-! ## Members -/

section Members

variable {read : Reader α} {P : α → List Char → List Char → Prop} {first : Bool} {c : Cursor}
  {rest : List Char}

theorem nextName_of_end {after : List Char} (next : c.skipSpace.rest = '}' :: after) :
    nextName first c = .ok (none, c.skipSpace) := by
  simp only [nextName, next]

theorem nextName_of_first {after : List Char} (next : c.skipSpace.rest = '"' :: after) :
    nextName true c =
      (readString c.skipSpace).map fun answer => (some answer.1, answer.2) := by
  rw [nextName]
  dsimp only
  split
  next ends => exact nomatch next.symm.trans ends
  next closed => exact absurd (List.cons.inj (next.symm.trans closed)).1 (by decide)
  next mark => rw [if_pos rfl, if_pos (List.cons.inj (mark.symm.trans next)).1]

theorem nextName_of_comma {after more : List Char} (next : c.skipSpace.rest = ',' :: after)
    (name : c.skipSpace.advance.skipSpace.rest = '"' :: more) :
    nextName false c =
      (readString c.skipSpace.advance.skipSpace).map fun answer => (some answer.1, answer.2) := by
  rw [nextName]
  dsimp only
  split
  next ends => exact nomatch next.symm.trans ends
  next closed => exact absurd (List.cons.inj (next.symm.trans closed)).1 (by decide)
  next comma =>
    rw [if_neg Bool.false_ne_true, if_pos (List.cons.inj (comma.symm.trans next)).1]
    split
    next ends => exact nomatch name.symm.trans ends
    next => rfl
    next closed => exact absurd (List.cons.inj (name.symm.trans closed)).1 (by decide)
    next other _ => exact absurd name (other more)

/-- The next name is that of a member, or there is none since the end of the object comes next. -/
theorem nextName_gives_iff {value : Option String} :
    Gives (nextName first) c value rest ↔
      (value = none ∧ ∃ after, rest = '}' :: after ∧ Space c.rest rest) ∨
        ∃ name cs, value = some name ∧ Comma first c.rest ('"' :: cs) ∧
          Content name.toList cs rest := by
  constructor
  · rintro ⟨p, h⟩
    rw [nextName] at h
    dsimp only at h
    split at h
    next => exact absurd h Cursor.faultAhead_ne_ok
    next after closed =>
      obtain ⟨rfl, same⟩ := Prod.mk.inj (Except.ok.inj h)
      obtain rfl : c.skipSpace.rest = rest := congrArg Cursor.rest same
      exact .inl ⟨rfl, after, closed, c.space_skipSpace⟩
    next x after other next =>
      refine .inr ?_
      split at h
      next isFirst =>
        split at h
        next mark =>
          subst mark isFirst
          obtain ⟨name, given, rfl⟩ := map_eq_ok_iff.mp h
          exact ⟨name, after, rfl, .first (next ▸ c.space_skipSpace),
            (readString_eq_ok_iff next).mp ⟨p, given⟩⟩
        next => exact absurd h Cursor.faultAhead_ne_ok
      next later =>
        obtain rfl := eq_false_of_ne_true later
        split at h
        next comma =>
          subst comma
          split at h
          next => exact absurd h Cursor.faultAhead_ne_ok
          next more mark =>
            obtain ⟨name, given, rfl⟩ := map_eq_ok_iff.mp h
            have passed := c.skipSpace.advance.space_skipSpace
            rw [mark, Cursor.advance, next] at passed
            exact ⟨name, more, rfl, .later (next ▸ c.space_skipSpace) passed,
              (readString_eq_ok_iff mark).mp ⟨p, given⟩⟩
          next => exact absurd h Cursor.faultAhead_ne_ok
          next => exact absurd h Cursor.faultAhead_ne_ok
        next => exact absurd h Cursor.faultAhead_ne_ok
  · rintro (⟨rfl, after, rfl, space⟩ | ⟨name, cs, rfl, comma, content⟩)
    · have next := (space_cons_iff (by decide)).mp space
      refine ⟨c.skipSpace.position, ?_⟩
      rw [nextName_of_end next, ← next]
    · cases comma with
      | first space =>
        have next := (space_cons_iff (by decide)).mp space
        obtain ⟨p, given⟩ := (readString_eq_ok_iff next).mpr content
        exact ⟨p, by rw [nextName_of_first next, given]; rfl⟩
      | later before after =>
        have comes := (space_cons_iff (by decide)).mp before
        have next : c.skipSpace.advance.skipSpace.rest = '"' :: cs := by
          rw [← space_cons_iff (by decide), Cursor.advance, comes]
          exact after
        obtain ⟨p, given⟩ := (readString_eq_ok_iff next).mpr content
        exact ⟨p, by rw [nextName_of_comma comes next, given]; rfl⟩

/-- What follows the name of a member is a colon and a value. -/
theorem valueOf_gives_iff (reads : Reads read P) {x : α} :
    Gives (valueOf read) c x rest ↔
      ∃ a b, Space c.rest (':' :: a) ∧ Space a b ∧ P x b rest := by
  constructor
  · rintro ⟨p, h⟩
    rw [valueOf] at h
    cases mark : colon c with
    | error fault =>
      rw [mark] at h
      exact nomatch h
    | ok d =>
      rw [mark] at h
      obtain ⟨cs, space, part⟩ := reads.gives_iff.mp ⟨p, h⟩
      exact ⟨d.rest, cs, (passes_colon.eq_ok_iff (by decide)).mp ⟨d.position, mark⟩, space, part⟩
  · rintro ⟨a, b, before, after, part⟩
    obtain ⟨p, mark⟩ := (passes_colon.eq_ok_iff (by decide)).mpr before
    obtain ⟨q, given⟩ := (reads.gives_iff (c := ⟨a, p⟩)).mpr ⟨b, after, part⟩
    exact ⟨q, by rw [valueOf, mark]; exact given⟩

/-- A step of reading members that reads the value of a member and puts it to those before. -/
def Puts (step : σ → String → Reader σ) (read : Reader α) (put : σ → String → α → σ) : Prop :=
  ∀ state name c state' rest, Gives (step state name) c state' rest ↔
    ∃ x, put state name x = state' ∧ Gives (valueOf read) c x rest

/-- A step may read the value of a member and put it to those before. -/
theorem puts_map (read : Reader α) (put : σ → String → α → σ) :
    Puts (fun state name c => (valueOf read c).map fun answer =>
      (put state name answer.1, answer.2)) read put := by
  intro state name c state' rest
  constructor
  · rintro ⟨p, h⟩
    obtain ⟨x, given, rfl⟩ := map_eq_ok_iff.mp h
    exact ⟨x, rfl, p, given⟩
  · rintro ⟨x, rfl, p, given⟩
    exact ⟨p, map_eq_ok_iff.mpr ⟨x, given, rfl⟩⟩

theorem membersFrom_of_fault {step : σ → String → Reader σ} {steps : Nat} {state : σ}
    {name : String} {d : Cursor} {fault : Fault} (next : nextName first c = .ok (some name, d))
    (failed : step state name d = .error fault) :
    membersFrom step (steps + 1) first state c = .error fault := by
  rw [membersFrom, next]
  show (step state name d >>= fun answer => membersFrom step steps false answer.1 answer.2) = _
  rw [failed]
  rfl

theorem membersFrom_of_name {step : σ → String → Reader σ} {steps : Nat} {state between : σ}
    {name : String} {d e : Cursor} (next : nextName first c = .ok (some name, d))
    (taken : step state name d = .ok (between, e)) :
    membersFrom step (steps + 1) first state c = membersFrom step steps false between e := by
  rw [membersFrom, next]
  show (step state name d >>= fun answer => membersFrom step steps false answer.1 answer.2) = _
  rw [taken]
  rfl

/-- Reading so many members puts those that are there up to the end of the object. -/
theorem membersFrom_gives_iff (reads : Reads read P) {step : σ → String → Reader σ}
    {put : σ → String → α → σ} (puts : Puts step read put) {steps : Nat} {state state' : σ} :
    Gives (membersFrom step steps first state) c state' rest ↔
      ∃ ms, ms.foldl (fun s m => put s m.1 m.2) state = state' ∧ ms.length < steps ∧
        (∃ after, rest = '}' :: after) ∧ Parts (Member P) first ms c.rest rest := by
  induction steps generalizing first state c with
  | zero => exact ⟨fun ⟨_, h⟩ => (nomatch h), fun ⟨_, _, few, _⟩ => (nomatch few)⟩
  | succ steps ih =>
    constructor
    · rintro ⟨p, h⟩
      cases next : nextName first c with
      | error fault =>
        rw [membersFrom, next] at h
        exact nomatch h
      | ok answer =>
        obtain ⟨value, d⟩ := answer
        rcases nextName_gives_iff.mp ⟨d.position, next⟩ with
          ⟨rfl, after, ends, space⟩ | ⟨name, cs, rfl, comma, content⟩
        · rw [membersFrom, next] at h
          cases h
          exact ⟨[], rfl, Nat.succ_pos _, ⟨after, ends⟩, .done space⟩
        · cases taken : step state name d with
          | error fault =>
            rw [membersFrom_of_fault next taken] at h
            exact nomatch h
          | ok answer =>
            obtain ⟨between, e⟩ := answer
            rw [membersFrom_of_name next taken] at h
            obtain ⟨x, rfl, given⟩ := (puts _ _ _ _ _).mp ⟨e.position, taken⟩
            obtain ⟨a, b, before, after, part⟩ := (valueOf_gives_iff reads).mp given
            obtain ⟨ms, folded, few, ends, parts⟩ := ih.mp ⟨p, h⟩
            exact ⟨(name, x) :: ms, folded, Nat.succ_lt_succ few, ends,
              .part comma (.mk content before after part) parts⟩
    · rintro ⟨ms, rfl, few, ⟨after, rfl⟩, parts⟩
      cases parts with
      | done space =>
        obtain ⟨p, next⟩ : Gives (nextName first) c none ('}' :: after) :=
          nextName_gives_iff.mpr (.inl ⟨rfl, after, rfl, space⟩)
        exact ⟨p, by rw [membersFrom, next]; rfl⟩
      | @part _ m ms _ cs mid _ comma member more =>
        cases member with
        | @mk name x _ a _ _ _ named before after part =>
          obtain ⟨p, next⟩ := nextName_gives_iff.mpr (.inr ⟨name, _, rfl, comma, named⟩)
          obtain ⟨q, taken⟩ := (puts state name ⟨a, p⟩ (put state name x) mid).mpr
            ⟨x, rfl, (valueOf_gives_iff reads).mpr ⟨_, _, before, after, part⟩⟩
          obtain ⟨r, rest⟩ := (ih (c := ⟨mid, q⟩)).mpr
            ⟨ms, rfl, Nat.lt_of_succ_lt_succ few, ⟨_, rfl⟩, more⟩
          exact ⟨r, (membersFrom_of_name next taken).trans rest⟩

/-- Reading members puts those of an object up to its end. -/
theorem members_gives_iff (reads : Reads read P) {step : σ → String → Reader σ}
    {put : σ → String → α → σ} (puts : Puts step read put) {state state' : σ} :
    Gives (members step state) c state' rest ↔
      ∃ ms, ms.foldl (fun s m => put s m.1 m.2) state = state' ∧
        (∃ after, rest = '}' :: after) ∧ Parts (Member P) true ms c.rest rest := by
  refine Iff.trans (membersFrom_gives_iff reads puts) ⟨?_, ?_⟩
  · rintro ⟨ms, folded, _, ends, parts⟩
    exact ⟨ms, folded, ends, parts⟩
  · rintro ⟨ms, folded, ends, parts⟩
    have length := parts.length_le fun _ _ _ _ => Member.length_lt fun _ _ => reads.shorter
    exact ⟨ms, folded, by omega, ends, parts⟩

/-- Reading members and then the end of the object puts the members of the object. -/
theorem object_gives_iff (reads : Reads read P) {step : σ → String → Reader σ}
    {put : σ → String → α → σ} (puts : Puts step read put) (state : σ) {state' : σ} :
    (∃ d p, members step state c = .ok (state', d) ∧ closeObject d = .ok ⟨rest, p⟩) ↔
      ∃ ms, ms.foldl (fun s m => put s m.1 m.2) state = state' ∧
        Parts (Member P) true ms c.rest ('}' :: rest) := by
  have close (d : Cursor) : (∃ p, closeObject d = .ok ⟨rest, p⟩) ↔ Space d.rest ('}' :: rest) :=
    passes_closeObject.eq_ok_iff (by decide)
  constructor
  · rintro ⟨d, p, inside, closed⟩
    obtain ⟨ms, folded, ⟨after, ends⟩, parts⟩ :=
      (members_gives_iff reads puts).mp ⟨d.position, inside⟩
    have passed := (close d).mp ⟨p, closed⟩
    rw [ends] at passed parts
    obtain ⟨_, rfl⟩ := passed.unique_cons .stop rfl rfl
    exact ⟨ms, folded, parts⟩
  · rintro ⟨ms, folded, parts⟩
    obtain ⟨p, inside⟩ := (members_gives_iff reads puts).mpr ⟨ms, folded, ⟨rest, rfl⟩, parts⟩
    obtain ⟨q, closed⟩ := (close ⟨'}' :: rest, p⟩).mpr .stop
    exact ⟨_, q, inside, closed⟩

end Members

/-! ## Values -/

section Values

variable {read : Reader α} {c : Cursor} {x : α} {rest : List Char}

/-- A value of the wrong type is never given. -/
theorem wrongType_ne_ok {wanted : String} {answer : α × Cursor} :
    wrongType wanted c ≠ .ok answer := by
  have failed {β : Type} (found : β → Found) (after : β → Cursor) {result : Except Fault β} :
      (result >>= fun y => (after y).faultHere (.wrongType (found y) wanted)) ≠ .ok answer := by
    cases result with
    | error fault => exact fun h => nomatch h
    | ok y => exact fun h => nomatch h
  intro h
  unfold wrongType at h
  dsimp only at h
  split at h
  next => exact nomatch h
  next => exact failed (fun _ => .null) id h
  next => exact failed (fun _ => .boolean true) id h
  next => exact failed (fun _ => .boolean false) id h
  next => exact failed (fun y => .string y.1) Prod.snd h
  next => exact nomatch h
  next => exact nomatch h
  next =>
    split at h
    next => exact failed Prod.fst Prod.snd h
    next => exact nomatch h

/-- No object is given if no level is left. -/
theorem not_gives_inObject_none {wanted : String} : ¬ Gives (inObject wanted none) c x rest := by
  rintro ⟨p, h⟩
  rw [inObject] at h
  split at h
  next => exact nomatch h
  next => exact wrongType_ne_ok h

/-- An object is entered by its opening brace. -/
theorem inObject_gives_iff {Q : α → List Char → List Char → Prop} {wanted : String}
    (inside : ∀ {c x rest}, Gives read c x rest ↔ Q x c.rest rest) :
    Gives (inObject wanted (some read)) c x rest ↔
      ∃ cs, Space c.rest ('{' :: cs) ∧ Q x cs rest := by
  constructor
  · rintro ⟨p, h⟩
    rw [inObject] at h
    split at h
    next cs next =>
      have given := inside.mp ⟨p, h⟩
      rw [Cursor.advance, next] at given
      exact ⟨cs, (space_cons_iff (by decide)).mpr next, given⟩
    next => exact absurd h wrongType_ne_ok
  · rintro ⟨cs, space, holds⟩
    have next := (space_cons_iff (by decide)).mp space
    have entered : c.skipSpace.advance = ⟨cs, c.skipSpace.position.after '{'⟩ := by
      rw [Cursor.advance, next]
    obtain ⟨p, given⟩ := (inside (c := c.skipSpace.advance)).mpr (by rwa [entered])
    refine ⟨p, ?_⟩
    rw [inObject]
    split
    next => exact given
    next other => exact absurd next (other cs)

/-- A whole text is read if nothing but space is left. -/
theorem readAll_eq_ok_iff {text : String} :
    readAll read text = .ok x ↔ ∃ rest, Gives read (Cursor.start text) x rest ∧ Space rest [] := by
  have ends (d : Cursor) : Space d.rest [] ↔ d.skipSpace.rest = [] := by
    rw [Cursor.skipSpace_rest]
    refine ⟨fun space => space.dropWhile_eq, fun passed => ?_⟩
    rw [← passed]
    exact .dropWhile _
  constructor
  · intro h
    cases given : read (Cursor.start text) with
    | error fault =>
      rw [readAll, given] at h
      exact nomatch h
    | ok answer =>
      obtain ⟨y, d⟩ := answer
      simp only [readAll, given, bind, Except.bind] at h
      split at h
      next passed =>
        cases h
        exact ⟨d.rest, ⟨d.position, given⟩, (ends d).mpr passed⟩
      next => exact nomatch h
  · rintro ⟨rest, ⟨p, given⟩, space⟩
    have passed := (ends ⟨rest, p⟩).mp space
    simp only [readAll, given, bind, Except.bind, passed]

end Values

end PageExtract.Json
