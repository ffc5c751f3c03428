import PageExtract.Extraction

/-!
# Asking through a cache

A computation that looks up selectors depends on what the cache holds.  It does
not when all it asks is what texts compile to and the cache is sound.  Then it
has one *answer* and leaves a sound cache behind.

`Answers` says this of a computation.  It holds of asking for one text, and it
is kept by `pure` and `bind`, so it holds of all that is put together from such
questions.  The empty cache is sound (`sound_empty`), and so is every cache that
is reached from it by asking.
-/

namespace PageExtract.Css.Cache

/-- Adding what a text compiles to keeps a cache sound. -/
theorem sound_insertIfAbsent {c : Cache} (sound : c.Sound) (text : String) :
    (c.insertIfAbsent text (compile text)).2.Sound := by
  intro other held h
  rw [get?_insertIfAbsent] at h
  split at h
  next same =>
    subst same
    cases kept : c.get? other with
    | none => simpa [kept] using h.symm
    | some old =>
      have : old = held := by simpa [kept] using h
      exact this ▸ sound other old kept
  next => exact sound other held h

/-- What is given for a text is what it compiles to, whether it was there or not. -/
theorem fst_insertIfAbsent {c : Cache} (sound : c.Sound) (text : String) :
    (c.insertIfAbsent text (compile text)).1 = compile text := by
  unfold insertIfAbsent
  split
  next held h => exact sound text held h
  next => rfl

/-- What a cache holds is not changed by adding a text. -/
theorem get?_insertIfAbsent_of_some {c : Cache} {other : String} {held : Option (List Selector)}
    (before : c.get? other = some held) (text : String) (compiled : Option (List Selector)) :
    (c.insertIfAbsent text compiled).2.get? other = some held := by
  rw [get?_insertIfAbsent]
  split
  next same => rw [← same, before, Option.getD_some]
  next => exact before

/-- What is given for a text is what the cache holds for it then. -/
theorem get?_insertIfAbsent_self (c : Cache) (text : String) (compiled : Option (List Selector)) :
    (c.insertIfAbsent text compiled).2.get? text = some (c.insertIfAbsent text compiled).1 := by
  rw [get?_insertIfAbsent, if_pos rfl, insertIfAbsent]
  cases c.get? text with
  | some held => rfl
  | none => rfl

/-- Whether a computation gives `a` whatever a sound cache holds, and leaves it sound. -/
def Answers {α : Type} (x : StateM Cache α) (a : α) : Prop :=
  ∀ c : Cache, c.Sound → (x.run c).1 = a ∧ (x.run c).2.Sound

theorem answers_pure {α : Type} (a : α) : Answers (pure a) a :=
  fun _ sound => ⟨rfl, sound⟩

theorem answers_bind {α β : Type} {x : StateM Cache α} {f : α → StateM Cache β} {a : α} {b : β}
    (hx : Answers x a) (hf : Answers (f a) b) : Answers (x >>= f) b := by
  intro c sound
  obtain ⟨value, kept⟩ := hx c sound
  have h := hf (x.run c).2 kept
  rw [← value] at h
  exact h

theorem answers_map {α β : Type} {x : StateM Cache α} {a : α} (f : α → β) (h : Answers x a) :
    Answers (f <$> x) (f a) := by
  rw [map_eq_pure_bind]
  exact answers_bind h (answers_pure (f a))

/-- What asking for a text gives, and the cache after it. -/
theorem run_getOrCompile (text : String) (c : Cache) :
    (getOrCompile text).run c = match c.get? text with
      | some held => (held, c)
      | none => c.insertIfAbsent text (compile text) := by
  cases h : c.get? text with
  | some held =>
    simp only [getOrCompile, StateT.run_bind, StateT.run_get, pure_bind, h]
    rfl
  | none =>
    simp only [getOrCompile, StateT.run_bind, StateT.run_get, pure_bind, h]
    rfl

/-- Asking for a text answers with what it compiles to. -/
theorem answers_getOrCompile (text : String) : Answers (getOrCompile text) (compile text) := by
  intro c sound
  rw [run_getOrCompile]
  cases h : c.get? text with
  | some held => exact ⟨sound text held h, sound⟩
  | none => exact ⟨fst_insertIfAbsent sound text, sound_insertIfAbsent sound text⟩

/-- Asking whether a text is a selector answers truly. -/
theorem answers_compiles (text : String) : Answers (compiles text) (isSelector text) :=
  answers_map Option.isSome (answers_getOrCompile text)

/-! ## Questions that may end in a mistake -/

section

variable {ε α β : Type}

/-- Whether a computation that may fail does through a cache what it does without one. -/
def Agrees (x : ExceptT ε (StateM Cache) α) (y : ExceptT ε Id α) : Prop :=
  Answers x.run y.run.run

theorem agrees_pure (a : α) : Agrees (pure a : ExceptT ε (StateM Cache) α) (pure a) :=
  answers_pure (Except.ok a)

theorem agrees_throw (e : ε) : Agrees (throw e : ExceptT ε (StateM Cache) α) (throw e) :=
  answers_pure (Except.error e)

theorem agrees_lift {x : StateM Cache α} {a : α} (h : Answers x a) :
    Agrees (liftM x : ExceptT ε (StateM Cache) α) (liftM (pure a : Id α)) :=
  answers_map Except.ok h

theorem agrees_bind {x : ExceptT ε (StateM Cache) α} {y : ExceptT ε Id α}
    {f : α → ExceptT ε (StateM Cache) β} {g : α → ExceptT ε Id β} (hx : Agrees x y)
    (hf : ∀ a, Agrees (f a) (g a)) : Agrees (x >>= f) (y >>= g) := by
  rw [Agrees, ExceptT.run_bind, ExceptT.run_bind, Id.run_bind]
  refine answers_bind hx ?_
  cases y.run.run with
  | ok a => exact hf a
  | error e => exact answers_pure (Except.error e)

end

end PageExtract.Css.Cache
