import PageExtract.CommandLine.Arguments
import PageExtract.Proofs.Checks

/-!
# The switch `--strict`

A line of arguments with the switch `--strict` somewhere in it says what the line without
it says, and strictness besides.  If the line with the switch is accepted, wherever the
switch stands in it, then so is the line without it (`Arguments.parse_without_strict`).
In turn, each accepted line without the switch has a place for it
(`Arguments.exists_parse_strict`).

The two lines do not go in step all the way.  An option that waits with its value is
looked at when the switch comes, and without the switch it waits longer.  So the line
without the switch may be *behind* by one option (`Intake.Behind`).  Whatever makes the
other line go on makes it look at that option first, and then it has caught up.
-/

namespace PageExtract.CommandLine

namespace Intake

/-! ## When an option is taken in -/

theorem any_fst_iff {seen : List (Opt × String)} {opt : Opt} :
    (seen.any fun entry => entry.1 == opt) = true ↔ opt ∈ seen.map Prod.fst := by
  simp

theorem add_eq_ok_iff {i taken : Intake} {opt : Opt} {value : String} :
    i.add opt value = .ok taken ↔
      opt ≠ .help ∧ opt ∉ i.seen.map Prod.fst ∧
      ¬ (opt.isPath = true ∧ value.isEmpty = true) ∧
      (opt = .timeout → ∃ n, readSeconds value = .ok n) ∧
      { i with seen := (opt, value) :: i.seen } = taken := by
  rw [add]
  simp only [except_throw_bind]
  by_cases help : opt = .help
  · rw [if_pos help]
    exact iff_of_false error_ne_ok fun h => h.1 help
  by_cases repeated : opt ∈ i.seen.map Prod.fst
  · rw [if_neg help, if_pos (any_fst_iff.mpr repeated)]
    exact iff_of_false error_ne_ok fun h => h.2.1 repeated
  by_cases blank : opt.isPath = true ∧ value.isEmpty = true
  · rw [if_neg help, if_neg (repeated ∘ any_fst_iff.mp), if_pos blank]
    exact iff_of_false error_ne_ok fun h => h.2.2.1 blank
  rw [if_neg help, if_neg (repeated ∘ any_fst_iff.mp), if_neg blank]
  by_cases timed : opt = .timeout
  · rw [if_pos timed]
    cases readSeconds value with
    | error fault =>
      refine iff_of_false error_ne_ok fun h => ?_
      obtain ⟨n, read⟩ := h.2.2.2.1 timed
      exact error_ne_ok read
    | ok n =>
      constructor
      · exact fun h => ⟨help, repeated, blank, fun _ => ⟨n, rfl⟩, Except.ok.inj h⟩
      · exact fun h => congrArg Except.ok h.2.2.2.2
  · rw [if_neg timed]
    constructor
    · exact fun h => ⟨help, repeated, blank, fun now => absurd now timed, Except.ok.inj h⟩
    · exact fun h => congrArg Except.ok h.2.2.2.2

/-- Help is shown only if it is asked for. -/
theorem add_eq_help_iff {i : Intake} {opt : Opt} {value : String} :
    i.add opt value = .error .helpWanted ↔ opt = .help := by
  rw [add]
  simp only [except_throw_bind]
  by_cases help : opt = .help
  · rw [if_pos help]
    exact iff_of_true rfl help
  rw [if_neg help]
  refine iff_of_false ?_ help
  split
  next => exact nofun
  split
  next => exact nofun
  split
  next =>
    split
    next => exact nofun
    next => exact nofun
  next => exact nofun

/-- Nothing waits once it has been looked at. -/
theorem pending_of_settle {i clear : Intake} (settled : i.settle = .ok clear) :
    clear.pending = none := by
  unfold settle at settled
  split at settled
  next h => exact Except.ok.inj settled ▸ h
  next => exact nomatch settled
  next =>
    obtain ⟨-, -, -, -, rfl⟩ := add_eq_ok_iff.mp settled
    rfl

theorem settle_of_clear {i : Intake} (clear : i.pending = none) : i.settle = .ok i := by
  rw [settle, clear]

/-- Another option looks at the one that waits first. -/
theorem option_of_settle {i clear : Intake} (settled : i.settle = .ok clear) (opt : Opt)
    (attached : Option String) : i.option opt attached = clear.option opt attached := by
  have settled' := settle_of_clear (pending_of_settle settled)
  unfold option
  rw [settled, settled']

theorem letters_of_settle {i clear : Intake} (settled : i.settle = .ok clear) (c : Char)
    (rest : List Char) : i.letters (c :: rest) = clear.letters (c :: rest) := by
  unfold letters
  simp only [option_of_settle settled]

theorem named_of_settle {i clear : Intake} (settled : i.settle = .ok clear) (cs : List Char) :
    i.named cs = clear.named cs := by
  unfold named
  simp only [option_of_settle settled]

/-! ## Lines that go in step -/

/-- Whether an intake `j` has taken in what `i` has, and the switch. -/
structure Adds (i j : Intake) : Prop where
  pending : i.pending = j.pending
  ended : i.ended = j.ended
  seen : ∃ after before, i.seen = after ++ before ∧ j.seen = after ++ (.strict, "") :: before
  new : .strict ∉ i.seen.map Prod.fst

/-- Whether what goes well on the one side does so on the other, with results that are related,
and help is asked for on the other if it is on the one. -/
structure Matched (R : Intake → Intake → Prop) (x y : Except UsageFault Intake) : Prop where
  goes : ∀ j, y = .ok j → ∃ i, x = .ok i ∧ R i j
  helps : y = .error .helpWanted → x = .error .helpWanted

section

variable {R S : Intake → Intake → Prop} {i j : Intake}

theorem Matched.ok (h : R i j) : Matched R (.ok i) (.ok j) where
  goes _ same := ⟨i, rfl, Except.ok.inj same ▸ h⟩
  helps := nofun

theorem Matched.error (x : Except UsageFault Intake) {fault : UsageFault}
    (other : fault ≠ .helpWanted) : Matched R x (.error fault) where
  goes := nofun
  helps wanted := absurd (Except.error.inj wanted) other

theorem Matched.bind {x y : Except UsageFault Intake} {f g : Intake → Except UsageFault Intake}
    (h : Matched R x y) (next : ∀ i j, R i j → Matched S (f i) (g j)) :
    Matched S (x >>= f) (y >>= g) := by
  cases ran : y with
  | error fault =>
    refine ⟨nofun, ?_⟩
    intro wanted
    obtain rfl := Except.error.inj wanted
    rw [h.helps ran]
    rfl
  | ok j =>
    obtain ⟨i, ran', related⟩ := h.goes j ran
    rw [ran']
    exact next i j related

theorem Matched.mono {x y : Except UsageFault Intake} (h : Matched R x y)
    (weaker : ∀ {i j}, R i j → S i j) : Matched S x y where
  goes j taken := by
    obtain ⟨i, taken', related⟩ := h.goes j taken
    exact ⟨i, taken', weaker related⟩
  helps := h.helps

theorem Adds.add (h : Adds i j) (opt : Opt) (value : String) :
    Matched Adds (i.add opt value) (j.add opt value) := by
  refine ⟨?_, fun wanted => add_eq_help_iff.mpr (add_eq_help_iff.mp wanted)⟩
  intro taken accepted
  obtain ⟨help, new, blank, timed, rfl⟩ := add_eq_ok_iff.mp accepted
  obtain ⟨after, before, seen, seen'⟩ := h.seen
  have other : opt ≠ .strict := by
    rintro rfl
    exact new (by simp [seen'])
  have still : opt ∉ i.seen.map Prod.fst := by
    intro old
    refine new ?_
    rw [seen, List.map_append] at old
    rw [seen', List.map_append, List.map_cons]
    exact (List.mem_append.mp old).elim (List.mem_append_left _)
      fun older => List.mem_append_right _ (.tail _ older)
  refine ⟨_, add_eq_ok_iff.mpr ⟨help, still, blank, timed, rfl⟩, h.pending, h.ended, ?_, ?_⟩
  · exact ⟨(opt, value) :: after, before, by simp [seen], by simp [seen']⟩
  · rw [List.map_cons]
    exact List.not_mem_cons_of_ne_of_not_mem other.symm h.new

theorem Adds.withPending (h : Adds i j) (pending : Option (Opt × Option String)) :
    Adds { i with pending } { j with pending } :=
  ⟨rfl, h.ended, h.seen, h.new⟩

theorem Adds.settle (h : Adds i j) : Matched Adds i.settle j.settle := by
  unfold Intake.settle
  rw [h.pending]
  cases waits : j.pending with
  | none => exact .ok h
  | some entry =>
    obtain ⟨opt, value⟩ := entry
    cases value with
    | none => exact .error _ nofun
    | some value => exact (h.withPending none).add opt value

theorem Adds.option (h : Adds i j) (opt : Opt) (attached : Option String) :
    Matched Adds (i.option opt attached) (j.option opt attached) := by
  unfold Intake.option
  split
  next =>
    cases attached with
    | some value => exact h.settle.bind fun _ _ clear => clear.add opt value
    | none => exact h.settle.bind fun _ _ clear => .ok (clear.withPending _)
  next =>
    cases attached with
    | some value => exact .error _ nofun
    | none => exact h.settle.bind fun _ _ clear => clear.add opt ""

theorem Adds.letters (h : Adds i j) (cs : List Char) :
    Matched Adds (i.letters cs) (j.letters cs) := by
  induction cs generalizing i j with
  | nil => exact .ok h
  | cons c rest ih =>
    rw [Intake.letters, Intake.letters]
    cases Opt.ofLetter? c with
    | none => exact .error _ nofun
    | some opt =>
      dsimp only
      split
      next =>
        split
        next => exact h.option opt none
        next => exact h.option opt _
        next => exact h.option opt _
      next => exact (h.option opt none).bind fun _ _ more => ih more

theorem Adds.named (h : Adds i j) (cs : List Char) : Matched Adds (i.named cs) (j.named cs) := by
  unfold Intake.named
  dsimp only
  split
  next => exact .error _ nofun
  next opt _ => exact h.option opt _

theorem Adds.plain (h : Adds i j) (arg : String) : Matched Adds (i.plain arg) (j.plain arg) := by
  unfold Intake.plain
  rw [h.pending, h.ended]
  split
  next opt _ =>
    split
    next => exact .error _ nofun
    next => exact .ok ⟨rfl, rfl, h.seen, h.new⟩
  next => exact .error _ nofun

/-- Nothing that is no option can stand where no option waits for a value. -/
theorem plain_of_clear (clear : j.pending = none) (arg : String) :
    j.plain arg = .error (.unexpected arg) := by
  rw [Intake.plain, clear]

/-! ## Lines of which one is behind -/

/-- Whether an intake `j` has taken in what `i` has, and the switch, while an option may still
wait in `i` that `j` has looked at. -/
inductive Behind (i j : Intake) : Prop where
  | even (h : Adds i j)
  | behind {clear : Intake} (ended : i.ended = j.ended) (waits : j.pending = none)
      (settled : i.settle = .ok clear) (h : Adds clear j)

theorem settle_ended {clear : Intake} (settled : i.settle = .ok clear) (ended : Bool) :
    { i with ended }.settle = .ok { clear with ended } := by
  unfold Intake.settle at settled ⊢
  dsimp only
  split at settled
  next waits =>
    obtain rfl := Except.ok.inj settled
    rw [waits]
  next => exact nomatch settled
  next opt value waits =>
    obtain ⟨help, new, blank, timed, rfl⟩ := add_eq_ok_iff.mp settled
    exact add_eq_ok_iff.mpr ⟨help, new, blank, timed, rfl⟩

theorem Behind.settle (h : Behind i j) : Matched Adds i.settle j.settle := by
  cases h with
  | even h => exact h.settle
  | behind _ waits settled h =>
    rw [settled, settle_of_clear waits]
    exact .ok h

theorem Behind.step (h : Behind i j) (arg : String) :
    Matched Behind (i.step arg) (j.step arg) := by
  unfold Intake.step
  cases h with
  | even h =>
    rw [h.ended]
    split
    next => exact (h.plain arg).mono .even
    next =>
      split
      next => exact .ok (.even ⟨h.pending, rfl, h.seen, h.new⟩)
      next => exact (h.named _).mono .even
      next => exact (h.plain arg).mono .even
      next => exact (h.letters _).mono .even
      next => exact (h.plain arg).mono .even
  | behind ended waits settled h =>
    rw [ended, plain_of_clear waits]
    split
    next => exact .error _ nofun
    next =>
      split
      next =>
        have settled' := settle_ended settled true
        exact .ok (.behind rfl waits settled' ⟨h.pending, rfl, h.seen, h.new⟩)
      next cs _ _ =>
        rw [named_of_settle settled]
        exact (h.named cs).mono .even
      next => exact .error _ nofun
      next cs _ _ nonempty _ =>
        cases cs with
        | nil => exact absurd rfl nonempty
        | cons c rest =>
          rw [letters_of_settle settled]
          exact (h.letters _).mono .even
      next => exact .error _ nofun

theorem Behind.steps (h : Behind i j) (args : List String) :
    Matched Adds (i.steps args) (j.steps args) := by
  induction args generalizing i j with
  | nil => exact h.settle
  | cons arg rest ih => exact (h.step arg).bind fun _ _ related => ih related

theorem step_strict (i : Intake) :
    i.step "--strict" =
      if i.ended then i.plain "--strict" else i.settle >>= fun clear => clear.add .strict "" := rfl

theorem plain_of_ended (ended : i.ended = true) (arg : String) :
    i.plain arg = .error (.unexpected arg) := by
  rw [Intake.plain, ended]
  split
  next => rfl
  next => rfl

/-! ## What is kept -/

/-- Whether taking in options keeps a property. -/
structure Kept (P : Intake → Prop) : Prop where
  seen : ∀ {i : Intake} {seen}, P i → P { i with seen }
  settled : ∀ {i : Intake}, P i → P { i with pending := none }
  waits : ∀ {i : Intake} {opt : Opt}, opt.takesValue = true → P i →
    P { i with pending := some (opt, none) }
  value : ∀ {i : Intake} {opt : Opt} {arg : String}, i.pending = some (opt, none) → P i →
    P { i with pending := some (opt, some arg) }

theorem kept_ended (ended : Bool) : Kept fun i => i.ended = ended where
  seen h := h
  settled h := h
  waits _ h := h
  value _ h := h

/-- Whether nothing but an option that takes a value waits for one. -/
def Waits (i : Intake) : Prop := ∀ opt value, i.pending = some (opt, value) → opt.takesValue = true

theorem kept_waits : Kept Waits where
  seen h := h
  settled _ := nofun
  waits takes _ := by
    intro opt value same
    cases same
    exact takes
  value waiting h := by
    intro opt value same
    cases same
    exact h _ _ waiting

theorem waits_start : Waits {} := by
  intro opt value waiting
  exact nomatch waiting

variable {P : Intake → Prop}

theorem Kept.add (kept : Kept P) (h : P i) {opt : Opt} {value : String}
    (taken : i.add opt value = .ok j) : P j := by
  obtain ⟨-, -, -, -, rfl⟩ := add_eq_ok_iff.mp taken
  exact kept.seen h

theorem Kept.settle (kept : Kept P) (h : P i) (taken : i.settle = .ok j) : P j := by
  unfold Intake.settle at taken
  split at taken
  next => exact Except.ok.inj taken ▸ h
  next => exact nomatch taken
  next => exact kept.add (kept.settled h) taken

theorem Kept.option (kept : Kept P) (h : P i) {opt : Opt} {attached : Option String}
    (taken : i.option opt attached = .ok j) : P j := by
  unfold Intake.option at taken
  split at taken
  next takes =>
    cases attached with
    | some value =>
      obtain ⟨k, settled, added⟩ := except_bind_eq_ok_iff.mp taken
      exact kept.add (kept.settle h settled) added
    | none =>
      obtain ⟨k, settled, waiting⟩ := except_bind_eq_ok_iff.mp taken
      exact Except.ok.inj waiting ▸ kept.waits takes (kept.settle h settled)
  next =>
    cases attached with
    | some value => exact nomatch taken
    | none =>
      obtain ⟨k, settled, added⟩ := except_bind_eq_ok_iff.mp taken
      exact kept.add (kept.settle h settled) added

theorem Kept.letters (kept : Kept P) (h : P i) {cs : List Char} (taken : i.letters cs = .ok j) :
    P j := by
  induction cs generalizing i with
  | nil => exact Except.ok.inj taken ▸ h
  | cons c rest ih =>
    rw [Intake.letters] at taken
    split at taken
    next => exact nomatch taken
    next =>
      split at taken
      next =>
        split at taken
        next => exact kept.option h taken
        next => exact kept.option h taken
        next => exact kept.option h taken
      next =>
        obtain ⟨k, first, later⟩ := except_bind_eq_ok_iff.mp taken
        exact ih (kept.option h first) later

theorem Kept.plain (kept : Kept P) (h : P i) {arg : String} (taken : i.plain arg = .ok j) :
    P j := by
  unfold Intake.plain at taken
  split at taken
  next opt waiting =>
    split at taken
    next => exact nomatch taken
    next => exact Except.ok.inj taken ▸ kept.value waiting h
  next => exact nomatch taken

/-- An argument keeps what options keep, unless it is `--`. -/
theorem Kept.step (kept : Kept P) (h : P i) {arg : String} (taken : i.step arg = .ok j) :
    P j ∨ arg = "--" ∧ j = { i with ended := true } := by
  unfold Intake.step at taken
  split at taken
  next => exact .inl (kept.plain h taken)
  next =>
    split at taken
    next dashes => exact .inr ⟨String.toList_inj.mp dashes, (Except.ok.inj taken).symm⟩
    next =>
      unfold Intake.named at taken
      dsimp only at taken
      split at taken
      next => exact nomatch taken
      next => exact .inl (kept.option h taken)
    next => exact .inl (kept.plain h taken)
    next => exact .inl (kept.letters h taken)
    next => exact .inl (kept.plain h taken)

theorem Waits.step (waits : i.Waits) {arg : String} (taken : i.step arg = .ok j) : j.Waits := by
  obtain waits' | ⟨-, rfl⟩ := kept_waits.step waits taken
  · exact waits'
  · exact waits

/-! ## The switch comes -/

theorem Waits.settle_ne_help (waits : i.Waits) : i.settle ≠ .error .helpWanted := by
  unfold Intake.settle
  split
  next => exact nofun
  next => exact nofun
  next opt value waiting =>
    intro wanted
    have takes := waits opt (some value) waiting
    rw [add_eq_help_iff.mp wanted] at takes
    exact nomatch takes

/-- Who has just taken in the switch has looked at the option that waited. -/
theorem matched_strict (waits : i.Waits) : Matched Behind (.ok i) (i.step "--strict") := by
  rw [step_strict]
  split
  next ended =>
    rw [plain_of_ended ended]
    exact .error _ nofun
  next =>
    cases settled : i.settle with
    | error fault => exact .error _ fun wanted => waits.settle_ne_help (wanted ▸ settled)
    | ok clear =>
      change Matched Behind (.ok i) (clear.add .strict "")
      have other : clear.add .strict "" ≠ .error .helpWanted :=
        fun wanted => nomatch add_eq_help_iff.mp wanted
      refine ⟨?_, fun wanted => absurd wanted other⟩
      intro j added
      obtain ⟨-, new, -, -, rfl⟩ := add_eq_ok_iff.mp added
      have ended : clear.ended = i.ended := (kept_ended i.ended).settle rfl settled
      have rests : clear.pending = none := pending_of_settle settled
      exact ⟨i, rfl, .behind ended.symm rests settled
        ⟨rfl, rfl, ⟨[], clear.seen, rfl, rfl⟩, new⟩⟩

/-- A line goes as well without the switch. -/
theorem matched_steps (waits : i.Waits) (before after : List String) :
    Matched Adds (i.steps (before ++ after)) (i.steps (before ++ "--strict" :: after)) := by
  induction before generalizing i with
  | nil => exact (matched_strict waits).bind fun _ _ related => related.steps after
  | cons arg rest ih =>
    have alike : Matched (fun i j => i = j ∧ j.Waits) (i.step arg) (i.step arg) :=
      ⟨fun j taken => ⟨j, taken, rfl, waits.step taken⟩, id⟩
    refine alike.bind ?_
    rintro i _ ⟨rfl, waits'⟩
    exact ih waits'

/-! ## A place for the switch -/

theorem step_dashes (going : i.ended = false) : i.step "--" = .ok { i with ended := true } := by
  rw [Intake.step, going]
  rfl

/-- If no option waits for it as a value, the switch can be taken in where the options end. -/
theorem step_strict_of_settle {clear : Intake} (settled : i.settle = .ok clear)
    (going : i.ended = false) (new : .strict ∉ clear.seen.map Prod.fst) :
    i.step "--strict" = .ok { clear with seen := (.strict, "") :: clear.seen } := by
  rw [step_strict, going, settled]
  exact add_eq_ok_iff.mpr ⟨by decide, new, by decide, nofun, rfl⟩

/-- Somewhere in a line that goes well the switch can be put in, if it is not there yet. -/
theorem exists_steps_strict {line : List String} (accepted : i.steps line = .ok j)
    (going : i.ended = false) (new : .strict ∉ j.seen.map Prod.fst) :
    ∃ before after, line = before ++ after ∧
      i.steps (before ++ "--strict" :: after) =
        .ok { j with seen := (.strict, "") :: j.seen } := by
  induction line generalizing i with
  | nil =>
    have clear : j.pending = none := pending_of_settle accepted
    exact ⟨[], [], rfl, except_bind_eq_ok_iff.mpr
      ⟨_, step_strict_of_settle accepted going new, settle_of_clear clear⟩⟩
  | cons arg rest ih =>
    obtain ⟨next, stepped, later⟩ := except_bind_eq_ok_iff.mp accepted
    cases (kept_ended false).step going stepped with
    | inl still =>
      obtain ⟨before, after, rfl, switched⟩ := ih later still
      exact ⟨arg :: before, after, rfl, except_bind_eq_ok_iff.mpr ⟨next, stepped, switched⟩⟩
    | inr ends =>
      obtain ⟨rfl, rfl⟩ := ends
      cases rest with
      | nil =>
        have settled : i.settle = .ok { j with ended := i.ended } := settle_ended later i.ended
        have first := step_strict_of_settle settled going new
        have clear : j.pending = none := pending_of_settle later
        have ended : j.ended = true := (kept_ended true).settle rfl later
        refine ⟨[], ["--"], rfl, except_bind_eq_ok_iff.mpr
          ⟨_, first, except_bind_eq_ok_iff.mpr ⟨_, step_dashes going, ?_⟩⟩⟩
        rw [← ended]
        exact settle_of_clear clear
      | cons arg others =>
        obtain ⟨_, after, -⟩ := except_bind_eq_ok_iff.mp later
        exact nomatch (plain_of_ended rfl arg).symm.trans after

/-! ## What the line says -/

theorem Adds.value? (h : Adds i j) {opt : Opt} (other : opt ≠ .strict) :
    i.value? opt = j.value? opt := by
  obtain ⟨after, before, seen, seen'⟩ := h.seen
  have differs : (opt == Opt.strict) = false := beq_eq_false_iff_ne.mpr other
  rw [Intake.value?, Intake.value?, seen, seen', List.lookup_append, List.lookup_append,
    List.lookup_cons, differs]

theorem Adds.has (h : Adds i j) {opt : Opt} (other : opt ≠ .strict) : i.has opt = j.has opt := by
  rw [Intake.has, Intake.has, h.value? other]

theorem Adds.has_strict (h : Adds i j) : j.has .strict = true := by
  obtain ⟨after, before, -, seen'⟩ := h.seen
  rw [Intake.has, Intake.value?, seen', List.lookup_append, List.lookup_cons]
  cases after.lookup Opt.strict <;> rfl

theorem hasNot_iff {opt : Opt} : i.has opt = false ↔ opt ∉ i.seen.map Prod.fst := by
  rw [Intake.has, Intake.value?, Option.isSome_eq_false_iff, Option.isNone_iff_eq_none,
    List.lookup_eq_none_iff, List.mem_map, not_exists]
  refine forall_congr' fun entry => ?_
  rw [not_and, bne_iff_ne, ne_comm]

theorem Adds.hasNot_strict (h : Adds i j) : i.has .strict = false := hasNot_iff.mpr h.new

end

end Intake

theorem Arguments.ofIntake_eq_ok_iff {i : Intake} {args : Arguments} :
    Arguments.ofIntake i = .ok args ↔
      ¬ (i.has .url = true ∧ i.has .html = true) ∧ ∃ config, i.value? .config = some config ∧
        args = {
          config
          url := i.value? .url
          html := i.value? .html
          strict := i.has .strict
          compact := i.has .compact
          output := i.value? .output
          timeout := ((i.value? .timeout).bind fun s => (readSeconds s).toOption).getD 30
          userAgent := i.value? .userAgent
          allowPrivate := i.has .allowPrivate
          timing := i.has .timing
          logLevel := (i.value? .logLevel).getD "warn" } := by
  by_cases both : i.has .url = true ∧ i.has .html = true
  · refine iff_of_false ?_ fun h => h.1 both
    rw [ofIntake, if_pos both]
    split
    next => exact nofun
    next => exact nofun
  · rw [and_iff_right both, ofIntake, if_neg both]
    cases i.value? .config with
    | none => exact iff_of_false nofun nofun
    | some config =>
      constructor
      · exact fun said => ⟨config, rfl, (Except.ok.inj said).symm⟩
      · rintro ⟨_, same, rfl⟩
        rw [← Option.some.inj same]
        rfl

theorem Arguments.ofIntake_ne_help {i : Intake} :
    Arguments.ofIntake i ≠ .error .helpWanted := by
  rw [ofIntake]
  split
  next =>
    split
    next => exact nofun
    next => exact nofun
  next =>
    cases i.value? .config with
    | none => exact nofun
    | some config => exact nofun

theorem Intake.Adds.ofIntake_eq_ok_iff {i j : Intake} (h : Intake.Adds i j) {args : Arguments} :
    Arguments.ofIntake j = .ok args ↔
      args.strict = true ∧ Arguments.ofIntake i = .ok { args with strict := false } := by
  rw [Arguments.ofIntake_eq_ok_iff, Arguments.ofIntake_eq_ok_iff,
    ← h.has (show Opt.url ≠ .strict by decide), ← h.has (show Opt.html ≠ .strict by decide),
    ← h.value? (show Opt.config ≠ .strict by decide), h.hasNot_strict, h.has_strict]
  constructor
  · rintro ⟨apart, config, named, rfl⟩
    refine ⟨rfl, apart, config, named, ?_⟩
    simp [h.has, h.value?]
  · rintro ⟨strict, apart, config, named, same⟩
    have back : args = { { args with strict := false } with strict := true } := by rw [← strict]
    refine ⟨apart, config, named, ?_⟩
    rw [back, same]
    simp [h.has, h.value?]

/-- If a line with the switch is accepted, then it says to be strict, and the line without the
switch is accepted and says the same but for that. -/
theorem Arguments.parse_without_strict {before after : List String} {args : Arguments}
    (accepted : Arguments.parse (before ++ "--strict" :: after) = .ok args) :
    args.strict = true ∧
      Arguments.parse (before ++ after) = .ok { args with strict := false } := by
  obtain ⟨j, taken, said⟩ := except_bind_eq_ok_iff.mp accepted
  obtain ⟨i, taken', adds⟩ := (Intake.matched_steps Intake.waits_start before after).goes j taken
  obtain ⟨strict, said'⟩ := adds.ofIntake_eq_ok_iff.mp said
  exact ⟨strict, except_bind_eq_ok_iff.mpr ⟨i, taken', said'⟩⟩

/-- Who asks for help by a line with the switch does so without it. -/
theorem Arguments.parse_help_without_strict {before after : List String}
    (wanted : Arguments.parse (before ++ "--strict" :: after) = .error .helpWanted) :
    Arguments.parse (before ++ after) = .error .helpWanted := by
  have matched := Intake.matched_steps Intake.waits_start before after
  rw [Arguments.parse] at wanted ⊢
  cases taken : ({} : Intake).steps (before ++ "--strict" :: after) with
  | error fault =>
    rw [taken] at wanted
    obtain rfl := Except.error.inj wanted
    rw [matched.helps taken]
    rfl
  | ok j =>
    rw [taken] at wanted
    exact absurd wanted Arguments.ofIntake_ne_help

/-- A line that is rejected is rejected with the switch too. -/
theorem Arguments.parse_strict_of_error {before after : List String} {fault : UsageFault}
    (rejected : Arguments.parse (before ++ after) = .error fault) :
    ∃ fault', Arguments.parse (before ++ "--strict" :: after) = .error fault' := by
  cases said : Arguments.parse (before ++ "--strict" :: after) with
  | error fault' => exact ⟨fault', rfl⟩
  | ok args =>
    obtain ⟨-, accepted⟩ := Arguments.parse_without_strict said
    exact absurd (rejected.symm.trans accepted) error_ne_ok

/-- In each line that is accepted without the switch there is a place for it. -/
theorem Arguments.exists_parse_strict {line : List String} {args : Arguments}
    (accepted : Arguments.parse line = .ok args) (lenient : args.strict = false) :
    ∃ before after, line = before ++ after ∧
      Arguments.parse (before ++ "--strict" :: after) = .ok { args with strict := true } := by
  obtain ⟨i, taken, said⟩ := except_bind_eq_ok_iff.mp accepted
  have new : Opt.strict ∉ i.seen.map Prod.fst := by
    obtain ⟨-, config, -, rfl⟩ := Arguments.ofIntake_eq_ok_iff.mp said
    exact Intake.hasNot_iff.mp lenient
  obtain ⟨before, after, rfl, switched⟩ := Intake.exists_steps_strict taken rfl new
  have adds : Intake.Adds i { i with seen := (.strict, "") :: i.seen } :=
    ⟨rfl, rfl, ⟨[], i.seen, rfl, rfl⟩, new⟩
  refine ⟨before, after, rfl, except_bind_eq_ok_iff.mpr
    ⟨_, switched, adds.ofIntake_eq_ok_iff.mpr ⟨rfl, ?_⟩⟩⟩
  rw [said, ← lenient]

end PageExtract.CommandLine
