import Mathlib.Logic.Function.Basic
import PageExtract.Proofs.Css.Cache

/-!
# Calls at the same time

Several calls may ask one cache at the same time.  Each takes the three steps of
`getOrCompile`: it looks its text up, it compiles the text outside of the cache, and
it looks again and adds what it compiled.  One step is taken at a time.  Between two
steps of one call any number of steps of others may come, and each of them may have
added the text that the call has just missed.

A *schedule* lists the calls in the order in which they take their steps.  Every list
is a schedule.  A call that has answered takes no more steps, whenever its turn comes.

What one step keeps is `Calls.Sound`: the cache is sound, what a call holds in its
hands is what its text compiles to, and what a call has answered is in the cache.
`Calls.run_interleaved` draws the conclusions for every schedule.
-/

namespace PageExtract.Css

/-! ## Steps -/

/-- How far a call has come. -/
inductive Stage where
  /-- It has done nothing yet. -/
  | waiting
  /-- It has looked its text up in vain. -/
  | missed
  /-- It has compiled its text. -/
  | compiled (result : Option (List Selector))
  /-- It has answered. -/
  | answered (answer : Option (List Selector))

/-- The greatest number of steps that a call has still to take. -/
def Stage.stepsLeft : Stage → Nat
  | waiting => 3
  | missed => 2
  | compiled _ => 1
  | answered _ => 0

theorem Stage.stepsLeft_le (stage : Stage) : stage.stepsLeft ≤ 3 := by
  cases stage <;> simp [stepsLeft]

theorem Stage.answered_of_stepsLeft_eq_zero {stage : Stage} (finished : stage.stepsLeft = 0) :
    ∃ answer, stage = .answered answer := by
  cases stage with
  | answered answer => exact ⟨answer, rfl⟩
  | _ => exact absurd finished (by simp [stepsLeft])

/-- Whether what a call for `word` has compiled is what `word` compiles to, and whether what it
has answered is what a cache holds for `word`. -/
def Stage.Right (cache : Cache) (word : String) : Stage → Prop
  | waiting => True
  | missed => True
  | compiled result => result = compile word
  | answered answer => cache.get? word = some answer

theorem Stage.Right.mono {cache later : Cache} {word : String} {stage : Stage}
    (grows : ∀ held, cache.get? word = some held → later.get? word = some held)
    (right : stage.Right cache word) : stage.Right later word := by
  cases stage with
  | answered answer => exact grows answer right
  | _ => exact right

/-- Calls that share a cache. -/
structure Calls (ι : Type) where
  /-- The cache. -/
  cache : Cache
  /-- How far each call has come. -/
  stage : ι → Stage

namespace Calls

variable {ι : Type} [DecidableEq ι]

/-- Calls of which none has done anything yet, with a cache that holds nothing. -/
def start : Calls ι := ⟨.empty, fun _ => .waiting⟩

/-- The calls after one of them has come further. -/
def advance (s : Calls ι) (i : ι) (stage : Stage) : Calls ι :=
  { s with stage := Function.update s.stage i stage }

variable (text : ι → String)

/-- The calls after the next step of one of them, which asks for `text i`. -/
def step (s : Calls ι) (i : ι) : Calls ι :=
  match s.stage i with
  | .waiting =>
    match s.cache.get? (text i) with
    | some held => s.advance i (.answered held)
    | none => s.advance i .missed
  | .missed => s.advance i (.compiled (compile (text i)))
  | .compiled result =>
    let (answer, cache) := s.cache.insertIfAbsent (text i) result
    { s with cache }.advance i (.answered answer)
  | .answered _ => s

/-- The calls after a schedule. -/
def run (s : Calls ι) (schedule : List ι) : Calls ι := schedule.foldl (step text) s

@[simp] theorem cache_advance (s : Calls ι) (i : ι) (stage : Stage) :
    (s.advance i stage).cache = s.cache := rfl

@[simp] theorem stage_advance_self (s : Calls ι) (i : ι) (stage : Stage) :
    (s.advance i stage).stage i = stage := Function.update_self ..

theorem stage_advance_of_ne {i j : ι} (other : j ≠ i) (s : Calls ι) (stage : Stage) :
    (s.advance i stage).stage j = s.stage j := Function.update_of_ne other ..

/-- What a step does. -/
inductive Step (s : Calls ι) (i : ι) : Calls ι → Prop where
  /-- The text is there, and the call answers. -/
  | found {held : Option (List Selector)} (waits : s.stage i = .waiting)
      (there : s.cache.get? (text i) = some held) : Step s i (s.advance i (.answered held))
  /-- The text is not there. -/
  | missed (waits : s.stage i = .waiting) (absent : s.cache.get? (text i) = none) :
      Step s i (s.advance i .missed)
  /-- The text is compiled. -/
  | compiled (looked : s.stage i = .missed) :
      Step s i (s.advance i (.compiled (compile (text i))))
  /-- What the text compiles to is added, unless the text is there by now. -/
  | added {result : Option (List Selector)} (ready : s.stage i = .compiled result) :
      Step s i ({ s with cache := (s.cache.insertIfAbsent (text i) result).2 }.advance i
        (.answered (s.cache.insertIfAbsent (text i) result).1))
  /-- The call has answered before. -/
  | rested {answer : Option (List Selector)} (answered : s.stage i = .answered answer) : Step s i s

theorem step_follows (s : Calls ι) (i : ι) : Step text s i (step text s i) := by
  cases stage : s.stage i with
  | waiting =>
    cases looked : s.cache.get? (text i) with
    | some held =>
      have taken : step text s i = s.advance i (.answered held) := by
        simp only [step, stage, looked]
      exact taken ▸ .found stage looked
    | none =>
      have taken : step text s i = s.advance i .missed := by simp only [step, stage, looked]
      exact taken ▸ .missed stage looked
  | missed =>
    have taken : step text s i = s.advance i (.compiled (compile (text i))) := by
      simp only [step, stage]
    exact taken ▸ .compiled stage
  | compiled result =>
    have taken : step text s i =
        { s with cache := (s.cache.insertIfAbsent (text i) result).2 }.advance i
          (.answered (s.cache.insertIfAbsent (text i) result).1) := by
      simp only [step, stage]
    exact taken ▸ .added stage
  | answered answer =>
    have taken : step text s i = s := by simp only [step, stage]
    exact taken.symm ▸ .rested stage

@[simp] theorem run_nil (s : Calls ι) : run text s [] = s := rfl

@[simp] theorem run_cons (s : Calls ι) (i : ι) (schedule : List ι) :
    run text s (i :: schedule) = run text (step text s i) schedule := rfl

theorem run_append (s : Calls ι) (schedule later : List ι) :
    run text s (schedule ++ later) = run text (run text s schedule) later := List.foldl_append

/-! ## What a step keeps -/

variable {text} {s t : Calls ι} {i : ι}

/-- A call that does not take the step stays where it is. -/
theorem Step.stage_of_ne (h : Step text s i t) {j : ι} (other : j ≠ i) : t.stage j = s.stage j := by
  cases h with
  | rested => rfl
  | _ => exact stage_advance_of_ne other _ _

/-- What the cache holds, it holds after a step too. -/
theorem Step.get?_of_some (h : Step text s i t) {word : String} {held : Option (List Selector)}
    (before : s.cache.get? word = some held) : t.cache.get? word = some held := by
  cases h with
  | found => exact before
  | missed => exact before
  | compiled => exact before
  | added => exact Cache.get?_insertIfAbsent_of_some before (text i) _
  | rested => exact before

/-- A step brings a call nearer to its answer. -/
theorem Step.stepsLeft_le (h : Step text s i t) :
    (t.stage i).stepsLeft ≤ (s.stage i).stepsLeft - 1 := by
  cases h with
  | found waits => simp [waits, Stage.stepsLeft]
  | missed waits => simp [waits, Stage.stepsLeft]
  | compiled looked => simp [looked, Stage.stepsLeft]
  | added ready => simp [ready, Stage.stepsLeft]
  | rested answered => simp [answered, Stage.stepsLeft]

/-- Calls are *sound* if the cache is and the stage of each call is right. -/
structure Sound (text : ι → String) (s : Calls ι) : Prop where
  /-- The cache holds what the texts compile to. -/
  cache : s.cache.Sound
  /-- Each call has compiled and answered rightly. -/
  stage : ∀ i, (s.stage i).Right s.cache (text i)

omit [DecidableEq ι] in
theorem sound_start (text : ι → String) : Sound text start :=
  ⟨Cache.sound_empty, fun _ => trivial⟩

/-- A step keeps calls sound. -/
theorem Step.sound (h : Step text s i t) (sound : Sound text s) : Sound text t := by
  have others : ∀ j, j ≠ i → (t.stage j).Right t.cache (text j) := by
    intro j other
    rw [h.stage_of_ne other]
    exact (sound.stage j).mono fun _ => h.get?_of_some
  suffices own : t.cache.Sound ∧ (t.stage i).Right t.cache (text i) by
    refine ⟨own.1, fun j => ?_⟩
    by_cases same : j = i
    · exact same ▸ own.2
    · exact others j same
  have here := sound.stage i
  cases h with
  | found waits there =>
    rw [stage_advance_self]
    exact ⟨sound.cache, there⟩
  | missed waits absent =>
    rw [stage_advance_self]
    exact ⟨sound.cache, trivial⟩
  | compiled looked =>
    rw [stage_advance_self]
    exact ⟨sound.cache, rfl⟩
  | added ready =>
    rw [ready] at here
    obtain rfl : _ = compile (text i) := here
    rw [stage_advance_self]
    exact ⟨Cache.sound_insertIfAbsent sound.cache (text i),
      Cache.get?_insertIfAbsent_self s.cache (text i) _⟩
  | rested => exact ⟨sound.cache, here⟩

/-! ## What a schedule keeps -/

theorem sound_run (sound : Sound text s) (schedule : List ι) :
    Sound text (run text s schedule) := by
  induction schedule generalizing s with
  | nil => exact sound
  | cons i rest ih => exact ih ((step_follows text s i).sound sound)

/-- What the cache holds, it holds ever after. -/
theorem get?_run {word : String} {held : Option (List Selector)}
    (before : s.cache.get? word = some held) (schedule : List ι) :
    (run text s schedule).cache.get? word = some held := by
  induction schedule generalizing s with
  | nil => exact before
  | cons i rest ih => exact ih ((step_follows text s i).get?_of_some before)

/-- Each turn of a call brings it nearer to its answer. -/
theorem stepsLeft_run_le (text : ι → String) (s : Calls ι) (schedule : List ι) (i : ι) :
    ((run text s schedule).stage i).stepsLeft ≤ (s.stage i).stepsLeft - schedule.count i := by
  induction schedule generalizing s with
  | nil => exact Nat.le_refl _
  | cons j rest ih =>
    have later := ih (step text s j)
    rw [run_cons]
    by_cases same : j = i
    · subst same
      have nearer := (step_follows text s j).stepsLeft_le
      rw [List.count_cons_self]
      omega
    · rw [(step_follows text s j).stage_of_ne (Ne.symm same)] at later
      rwa [List.count_cons_of_ne same]

/-- A call that has had three turns has answered. -/
theorem answered_of_three_turns (text : ι → String) (s : Calls ι) {schedule : List ι} {i : ι}
    (turns : 3 ≤ schedule.count i) :
    ∃ answer, (run text s schedule).stage i = .answered answer := by
  have few := stepsLeft_run_le text s schedule i
  have most := (s.stage i).stepsLeft_le
  exact Stage.answered_of_stepsLeft_eq_zero (by omega)

/-- A call whose steps no other comes between does what `getOrCompile` does. -/
theorem run_alone {s : Calls ι} {i : ι} (waits : s.stage i = .waiting) :
    (run text s [i, i, i]).cache = ((Cache.getOrCompile (text i)).run s.cache).2 ∧
      (run text s [i, i, i]).stage i =
        .answered ((Cache.getOrCompile (text i)).run s.cache).1 := by
  rw [Cache.run_getOrCompile]
  cases looked : s.cache.get? (text i) with
  | some held => simp [step, waits, looked]
  | none => simp [step, waits, looked]

/-- Whatever texts are asked for and in whatever order the steps are taken: a call alone does
what `getOrCompile` does; the cache holds only what the texts compile to; what it holds is never
changed or removed; an answer is what the text of the call compiles to, and is in the cache;
and a call has answered once it has had three turns. -/
theorem run_interleaved (text : ι → String) (schedule later : List ι) :
    (∀ (s : Calls ι) (i : ι), s.stage i = .waiting →
      (run text s [i, i, i]).cache = ((Cache.getOrCompile (text i)).run s.cache).2 ∧
        (run text s [i, i, i]).stage i =
          .answered ((Cache.getOrCompile (text i)).run s.cache).1) ∧
    (∀ word held, (run text start schedule).cache.get? word = some held → held = compile word) ∧
    (∀ word held, (run text start schedule).cache.get? word = some held →
      (run text start (schedule ++ later)).cache.get? word = some held) ∧
    (∀ i answer, (run text start schedule).stage i = .answered answer →
      answer = compile (text i) ∧
        (run text start schedule).cache.get? (text i) = some answer) ∧
    (∀ i, 3 ≤ schedule.count i →
      (run text start schedule).stage i = .answered (compile (text i))) := by
  have sound := sound_run (sound_start text) schedule
  have answers : ∀ i answer, (run text start schedule).stage i = .answered answer →
      answer = compile (text i) ∧
        (run text start schedule).cache.get? (text i) = some answer := by
    intro i answer stage
    have kept := sound.stage i
    rw [stage] at kept
    exact ⟨sound.cache _ _ kept, kept⟩
  refine ⟨fun s i waits => run_alone waits, sound.cache, ?_, answers, ?_⟩
  · intro word held there
    rw [run_append]
    exact get?_run there later
  · intro i turns
    obtain ⟨answer, stage⟩ := answered_of_three_turns text start turns
    rw [stage, (answers i answer stage).1]

/-- Two calls miss the same text and both compile it; a third asks for what is no selector. -/
theorem run_interleaved_race :
    let text : Fin 3 → String := fun i => if i = 2 then "[" else "p"
    let schedule : List (Fin 3) := [0, 1, 2, 0, 1, 0, 2, 1, 2]
    (run text start schedule).stage 1 = .answered (compile "p") ∧
      (run text start schedule).cache.get? "[" = some none := by
  intro text schedule
  obtain ⟨-, sound, -, answers, turns⟩ := run_interleaved text schedule []
  have third := turns 2 (by decide)
  have kept := (answers 2 _ third).2
  have none_of_bracket : compile "[" = none := by decide +kernel
  exact ⟨turns 1 (by decide), none_of_bracket ▸ kept⟩

end Calls

end PageExtract.Css
