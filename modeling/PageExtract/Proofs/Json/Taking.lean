import PageExtract.Proofs.Json.Passing

/-!
# What readers take from forms

Where a form is written, a reader either takes a value from it or it fails.  Which of the two
happens, and which value it is, depends on the form only: a reader `Takes` what a function of
forms says.  How the form is written makes no difference, nor does space in front of it.

The readers of brackets keep this.  For an object the function is put together from one that
says what comes of a member after those before it (`takesObject_members`).  For an array it is put
together from one for each element (`Takes.comes_nextElement`).
-/

namespace PageExtract.Json

variable {α β σ : Type} {rest : List Char}

/-- Whether a result is an expected value, with some characters left, or a fault if no value is
expected. -/
def Comes (result : Except Fault (α × Cursor)) : Option α → List Char → Prop
  | some x, rest => ∃ q, result = .ok (x, ⟨rest, q⟩)
  | none, _ => ∀ answer, result ≠ .ok answer

/-- Whether a reader takes from each form what a function says. -/
def Takes (read : Reader α) (value : Form → Option α) : Prop :=
  ∀ ⦃f cs rest⦄, Written f cs rest → Ends rest → ∀ ⦃c : Cursor⦄, Space c.rest cs →
    Comes (read c) (value f) rest

/-! ## Results -/

/-- A fault is a fault, whatever was to come next. -/
theorem Comes.bind_none {result : Except Fault (α × Cursor)} {mid : List Char}
    (fault : Comes result none mid) (next : α × Cursor → Except Fault (β × Cursor)) :
    Comes (result >>= next) none rest := by
  intro answer
  cases result with
  | error fault => exact nofun
  | ok given => exact absurd rfl (fault given)

/-- A result goes on to another. -/
theorem Comes.bind {result : Except Fault (α × Cursor)}
    {next : α × Cursor → Except Fault (β × Cursor)} {x? : Option α} {y? : α → Option β}
    {mid : List Char} (first : Comes result x? mid)
    (after : ∀ x q, x? = some x → Comes (next (x, ⟨mid, q⟩)) (y? x) rest) :
    Comes (result >>= next) (x?.bind y?) rest := by
  cases x? with
  | none => exact first.bind_none next
  | some x =>
    obtain ⟨q, rfl⟩ := first
    exact after x q rfl

theorem Comes.map {result : Except Fault (α × Cursor)} {x? : Option α} (h : Comes result x? rest)
    (f : α → β) : Comes (result.map fun answer => (f answer.1, answer.2)) (x?.map f) rest := by
  cases x? with
  | none =>
    intro answer
    cases result with
    | error fault => exact nofun
    | ok given => exact absurd rfl (h given)
  | some x =>
    obtain ⟨q, rfl⟩ := h
    exact ⟨q, rfl⟩

/-- A result that comes is given exactly if it is expected. -/
theorem Comes.eq_ok_iff {result : Except Fault (α × Cursor)} {x? : Option α}
    (h : Comes result x? rest) {x : α} {after : List Char} :
    (∃ q, result = .ok (x, ⟨after, q⟩)) ↔ x? = some x ∧ after = rest := by
  cases x? with
  | none => exact ⟨fun ⟨q, given⟩ => absurd given (h _), fun ⟨same, _⟩ => nomatch same⟩
  | some y =>
    obtain ⟨q, rfl⟩ := h
    constructor
    · rintro ⟨r, same⟩
      cases same
      exact ⟨rfl, rfl⟩
    · rintro ⟨same, rfl⟩
      cases same
      exact ⟨q, rfl⟩

/-! ## How forms start -/

/-- Whether a form may start with a character. -/
def Form.Starts : Form → Char → Prop
  | .null, x => x = 'n'
  | .boolean true, x => x = 't'
  | .boolean false, x => x = 'f'
  | .number _, x => x = '-' ∨ isDigit x = true
  | .string _, x => x = '"'
  | .list _, x => x = '['
  | .object _, x => x = '{'

theorem Written.starts {f : Form} {cs : List Char} (h : Written f cs rest) :
    ∃ x more, cs = x :: more ∧ isSpace x = false ∧ f.Starts x := by
  cases h with
  | number number =>
    obtain ⟨c, digits, rfl, start⟩ := number.head
    refine ⟨c, _, rfl, ?_, start⟩
    rcases start with rfl | digit
    · rfl
    · exact isSpace_of_isDigit digit
  | _ => exact ⟨_, _, rfl, rfl, rfl⟩

/-- What starts like null, a string, a list or an object is one. -/
theorem Form.Starts.kind {f : Form} {x : Char} (h : f.Starts x) :
    (x = 'n' → f = .null) ∧ (x = '"' → ∃ content, f = .string content) ∧
      (x = '[' → ∃ items, f = .list items) ∧ (x = '{' → ∃ members, f = .object members) := by
  cases f with
  | number =>
    have other {y : Char} := @ne_of_startsNumber x y h
    exact ⟨fun same => absurd same (other rfl (by decide)),
      fun same => absurd same (other rfl (by decide)),
      fun same => absurd same (other rfl (by decide)),
      fun same => absurd same (other rfl (by decide))⟩
  | boolean value => cases value <;> cases h <;> simp
  | null | string | list | object =>
    cases h
    simp

/-! ## Values -/

/-- The text that a form is. -/
def Form.text? : Form → Option String
  | .string content => content
  | _ => none

/-- Nothing for null, and otherwise what a function says. -/
def Form.optional? (value : Form → Option α) : Form → Option (Option α)
  | .null => some none
  | f => (value f).map some

theorem Form.optional?_of_ne_null {value : Form → Option α} {f : Form} (other : f ≠ .null) :
    f.optional? value = (value f).map some := by
  cases f with
  | null => exact absurd rfl other
  | _ => rfl

theorem Form.exists_of_optional? {value : Form → Option α} {f : Form} {given : Option α}
    (other : f ≠ .null) (read : f.optional? value = some given) :
    ∃ x, value f = some x ∧ given = some x := by
  rw [Form.optional?_of_ne_null other] at read
  obtain ⟨x, inside, same⟩ := Option.map_eq_some_iff.mp read
  exact ⟨x, inside, same.symm⟩

/-- A string ends where it ends, whatever it holds. -/
theorem Raw.unique {cs a b : List Char} (h : Raw cs a) (h' : Raw cs b) : a = b := by
  obtain ⟨p, passed⟩ := h.skipStringFrom ⟨1, 0⟩
  obtain ⟨q, passed'⟩ := h'.skipStringFrom ⟨1, 0⟩
  exact congrArg Cursor.rest (Except.ok.inj (passed.symm.trans passed'))

/-- From a string the text is read that it holds. -/
theorem Quoted.comes {content : Option String} {cs : List Char} (h : Quoted content cs rest)
    {c : Cursor} (mark : c.rest = '"' :: cs) : Comes (readString c) content rest := by
  cases h with
  | text content => exact (readString_eq_ok_iff mark).mpr content
  | halved raw lone =>
    rintro ⟨s, d⟩ read
    have given : ∃ q, readString c = .ok (s, ⟨d.rest, q⟩) := ⟨d.position, read⟩
    have content := (readString_eq_ok_iff mark).mp given
    rw [content.raw.unique raw] at content
    exact lone _ content

theorem takes_text : Takes text Form.text? := by
  intro f cs rest written ends c space
  obtain ⟨x, more, rfl, other, starts⟩ := written.starts
  have next := (space_cons_iff other).mp space
  by_cases mark : x = '"'
  · subst mark
    obtain ⟨content, rfl⟩ := starts.kind.2.1 rfl
    cases written with
    | string quoted =>
      have entered : text c = readString c.skipSpace := by simp only [text, next]
      rw [entered]
      exact quoted.comes next
  · have none : f.text? = none := by
      cases f with
      | string => exact absurd starts mark
      | _ => rfl
    rw [none]
    intro answer given
    rw [text] at given
    split at given
    next same => exact mark (List.cons.inj (next.symm.trans same)).1
    next => exact wrongType_ne_ok given

theorem takes_optional {read : Reader α} {value : Form → Option α} (takes : Takes read value) :
    Takes (optional read) (Form.optional? value) := by
  intro f cs rest written ends c space
  obtain ⟨x, more, rfl, other, starts⟩ := written.starts
  have next := (space_cons_iff other).mp space
  by_cases null : x = 'n'
  · subst null
    obtain rfl := starts.kind.1 rfl
    cases written with
    | null =>
      have passed : optional read c =
          (skipWord "ull".toList c.skipSpace.advance).map (none, ·) := by
        simp only [optional, next]
      rw [passed, Cursor.advance_of_cons next]
      exact ⟨_, rfl⟩
  · have same : optional read c =
        (read c.skipSpace).map fun answer => (some answer.1, answer.2) := by
      rw [optional]
      split
      next same => exact absurd (List.cons.inj (next.symm.trans same)).1 null
      next => rfl
    have value : f ≠ .null := by
      rintro rfl
      exact null starts
    rw [same, Form.optional?_of_ne_null value]
    exact (takes written ends (next ▸ .stop)).map some

/-! ## Brackets -/

/-- What a function says of the members of an object, and another of the items of a list. -/
def Form.inside (object : List (Option String × Form) → Option α) (list : List Form → Option α) :
    Form → Option α
  | .object members => object members
  | .list items => list items
  | _ => none

/-- Whether a reader takes from the members of an object, with its end, what a function says. -/
def TakesObject (read : Reader α) (object : List (Option String × Form) → Option α) : Prop :=
  ∀ ⦃members c rest⦄, Parts (Named Written) true members (Cursor.rest c) ('}' :: rest) →
    Comes (read c) (object members) rest

/-- Whether a reader takes from the items of a list, with its end, what a function says. -/
def TakesList (read : Reader α) (list : List Form → Option α) : Prop :=
  ∀ ⦃items c rest⦄, Parts Written true items (Cursor.rest c) (']' :: rest) →
    Comes (read c) (list items) rest

theorem takes_inObject_none (wanted : String) :
    Takes (inObject wanted none : Reader α) fun _ => none := by
  intro f cs rest _ _ c _ answer given
  exact not_gives_inObject_none ⟨answer.2.position, given⟩

theorem takes_inStructure_none (wanted : String) :
    Takes (inStructure wanted none : Reader α) fun _ => none := by
  intro f cs rest _ _ c _ answer given
  rw [inStructure] at given
  split at given
  next => exact nomatch given
  next => exact nomatch given
  next => exact wrongType_ne_ok given

theorem takes_inStructure {object list : Reader α}
    {ofObject : List (Option String × Form) → Option α} {ofList : List Form → Option α}
    (takesObject : TakesObject object ofObject)
    (takesList : TakesList list ofList) (wanted : String) :
    Takes (inStructure wanted (some (object, list))) (Form.inside ofObject ofList) := by
  intro f cs rest written ends c space
  obtain ⟨x, more, rfl, other, starts⟩ := written.starts
  have next := (space_cons_iff other).mp space
  have entered := Cursor.advance_of_cons next
  by_cases brace : x = '{'
  · subst brace
    obtain ⟨members, rfl⟩ := starts.kind.2.2.2 rfl
    cases written with
    | object parts =>
      have same : inStructure wanted (some (object, list)) c = object c.skipSpace.advance := by
        simp only [inStructure, next]
      rw [same]
      exact takesObject (by rwa [entered])
  by_cases bracket : x = '['
  · subst bracket
    obtain ⟨items, rfl⟩ := starts.kind.2.2.1 rfl
    cases written with
    | list parts =>
      have same : inStructure wanted (some (object, list)) c = list c.skipSpace.advance := by
        simp only [inStructure, next]
      rw [same]
      exact takesList (by rwa [entered])
  · have none : f.inside ofObject ofList = none := by
      cases f with
      | list => exact absurd starts bracket
      | object => exact absurd starts brace
      | _ => rfl
    rw [none]
    intro answer given
    rw [inStructure] at given
    split at given
    next same => exact brace (List.cons.inj (next.symm.trans same)).1
    next same => exact bracket (List.cons.inj (next.symm.trans same)).1
    next => exact wrongType_ne_ok given

theorem takes_inObject {object : Reader α} {ofObject : List (Option String × Form) → Option α}
    (takesObject : TakesObject object ofObject) (wanted : String) :
    Takes (inObject wanted (some object)) (Form.inside ofObject fun _ => none) := by
  intro f cs rest written ends c space
  obtain ⟨x, more, rfl, other, starts⟩ := written.starts
  have next := (space_cons_iff other).mp space
  have entered := Cursor.advance_of_cons next
  by_cases brace : x = '{'
  · subst brace
    obtain ⟨members, rfl⟩ := starts.kind.2.2.2 rfl
    cases written with
    | object parts =>
      have same : inObject wanted (some object) c = object c.skipSpace.advance := by
        simp only [inObject, next]
      rw [same]
      exact takesObject (by rwa [entered])
  · have none : f.inside ofObject (fun _ => none) = none := by
      cases f with
      | object => exact absurd starts brace
      | _ => rfl
    rw [none]
    intro answer given
    rw [inObject] at given
    split at given
    next same => exact brace (List.cons.inj (next.symm.trans same)).1
    next => exact wrongType_ne_ok given

/-! ## Members -/

/-- What comes of a member that has a name.  Nothing comes of one that has none. -/
def named? (put : σ → String → Form → Option σ) (state : σ) : Option String × Form → Option σ
  | (some name, f) => put state name f
  | (none, _) => none

/-- Whether a step of reading members takes from the value of each member, with the colon before
it, what a function says. -/
def StepTakes (step : σ → String → Reader σ) (put : σ → String → Form → Option σ) : Prop :=
  ∀ state name ⦃f a cs rest⦄, Written f cs rest → Ends rest → Space a cs → ∀ ⦃c : Cursor⦄,
    Space c.rest (':' :: a) → Comes (step state name c) (put state name f) rest

theorem comes_colon {read : Reader α} {x? : Option α} {a : List Char}
    (after : ∀ q, Comes (read ⟨a, q⟩) x? rest) {c : Cursor} (space : Space c.rest (':' :: a)) :
    Comes (valueOf read c) x? rest := by
  obtain ⟨q, passed⟩ := (passes_colon.eq_ok_iff rfl).mpr space
  rw [valueOf, passed]
  exact after q

theorem Takes.comes_valueOf {read : Reader α} {value : Form → Option α} (takes : Takes read value)
    {f : Form} {a cs : List Char} (written : Written f cs rest) (ends : Ends rest)
    (after : Space a cs) {c : Cursor} (space : Space c.rest (':' :: a)) :
    Comes (valueOf read c) (value f) rest :=
  comes_colon (fun _ => takes written ends after) space

theorem Takes.comes_once {read : Reader α} {value : Form → Option α} (takes : Takes read value)
    {f : Form} {a cs : List Char} (written : Written f cs rest) (ends : Ends rest)
    (after : Space a cs) {c : Cursor} (space : Space c.rest (':' :: a)) (name : String)
    (given : Option α) (put : α → σ) :
    Comes (once name given read put c) (if given.isSome then none else (value f).map put) rest := by
  cases given with
  | none => exact (takes.comes_valueOf written ends after space).map put
  | some _ => exact fun _ => nofun

/-- The name of the next member is read, if the member has one. -/
theorem Quoted.comes_nextName {name : Option String} {first : Bool} {c : Cursor} {cs : List Char}
    (h : Quoted name cs rest) (comma : Comma first c.rest ('"' :: cs)) :
    Comes (nextName first c) (name.map some) rest := by
  cases comma with
  | first space =>
    have next := (space_cons_iff rfl).mp space
    rw [nextName_of_first next]
    exact (h.comes next).map some
  | later before after =>
    have next := (space_cons_iff rfl).mp before
    have name : c.skipSpace.advance.skipSpace.rest = '"' :: cs := by
      rw [← space_cons_iff rfl, Cursor.advance_of_cons next]
      exact after
    rw [nextName_of_comma next name]
    exact (h.comes name).map some

/-- Reading so many members takes from each what the step takes. -/
theorem comes_membersFrom {step : σ → String → Reader σ} {put : σ → String → Form → Option σ}
    (takes : StepTakes step put) {ms : List (Option String × Form)} {first : Bool} {c : Cursor}
    (parts : Parts (Named Written) first ms c.rest ('}' :: rest)) {steps : Nat}
    (enough : ms.length < steps) (state : σ) :
    Comes (membersFrom step steps first state c) (ms.foldlM (named? put) state) ('}' :: rest) := by
  induction ms generalizing first c steps state with
  | nil =>
    obtain ⟨steps, rfl⟩ := Nat.exists_eq_succ_of_ne_zero (Nat.ne_zero_of_lt enough)
    cases parts with
    | done space =>
      have next := (space_cons_iff rfl).mp space
      refine ⟨c.skipSpace.position, ?_⟩
      rw [membersFrom, nextName_of_end next, ← next]
      rfl
  | cons m ms ih =>
    obtain ⟨steps, rfl⟩ := Nat.exists_eq_succ_of_ne_zero (Nat.ne_zero_of_lt enough)
    cases parts with
    | part comma member more =>
      have ends := more.ends (.inr rfl)
      cases member with
      | @mk name f _ a _ _ _ quoted before after value =>
        have next := quoted.comes_nextName comma
        rw [membersFrom, List.foldlM_cons]
        cases name with
        | none => exact next.bind_none _
        | some name =>
          obtain ⟨q, next⟩ := next
          rw [next]
          refine (takes state name value ends after before).bind fun between r taken => ?_
          exact ih more (Nat.lt_of_succ_lt_succ enough) between

/-- Reading members and then what ends the object takes from each member what the step takes. -/
theorem takesObject_members_then {step : σ → String → Reader σ}
    {put : σ → String → Form → Option σ} (takes : StepTakes step put) (state : σ)
    {after : σ → Reader α} {finish : σ → Option α}
    (ends : ∀ s rest q, Comes (after s ⟨'}' :: rest, q⟩) (finish s) rest) :
    TakesObject (fun c => do
        let (s, c) ← members step state c
        after s c)
      fun ms => (ms.foldlM (named? put) state).bind finish := by
  intro ms c rest parts
  have length := parts.length_le fun _ _ _ _ => Named.length_lt fun _ _ => Written.length_lt
  have enough : ms.length < c.rest.length + 1 := by
    rw [List.length_cons] at length
    omega
  exact (comes_membersFrom takes parts enough state).bind fun s q _ => ends s rest q

/-- Nothing but the closing brace may come after the members that have been read. -/
theorem comes_closeObject (x : α) (rest : List Char) (q : Position) :
    Comes (do return (x, ← closeObject ⟨'}' :: rest, q⟩)) (some x) rest := by
  obtain ⟨r, closed⟩ := (passes_closeObject.eq_ok_iff (c := ⟨'}' :: rest, q⟩) rfl).mpr .stop
  exact ⟨r, by rw [closed]; rfl⟩

theorem takesObject_members {step : σ → String → Reader σ} {put : σ → String → Form → Option σ}
    (takes : StepTakes step put) (state : σ) (finish : σ → α) :
    TakesObject (fun c => do
        let (s, c) ← members step state c
        return (finish s, ← closeObject c))
      fun ms => (ms.foldlM (named? put) state).map finish := by
  have object := @takesObject_members_then α σ step put takes state
    (fun s c => do return (finish s, ← closeObject c)) (fun s => some (finish s))
    fun s => comes_closeObject (finish s)
  simp only [Option.map_eq_bind]
  exact object

/-! ## Elements -/

/-- What a function says of the first item, if there is one. -/
def Form.first? (value : Form → Option α) : List Form → Option (Option α)
  | [] => some none
  | f :: _ => (value f).map some

/-- The next element is taken, if there is one.  Those after it come next. -/
theorem Takes.comes_nextElement {read : Reader α} {value : Form → Option α}
    (takes : Takes read value) {items : List Form} {first : Bool} {c : Cursor}
    (parts : Parts Written first items c.rest (']' :: rest)) :
    ∃ mid, Comes (nextElement first read c) (Form.first? value items) mid ∧
      Parts Written false items.tail mid (']' :: rest) := by
  cases parts with
  | done space =>
    have next := (space_cons_iff rfl).mp space
    refine ⟨']' :: rest, ⟨c.skipSpace.position, ?_⟩, .done .stop⟩
    rw [nextElement_of_end next, ← next]
  | part comma part more =>
    refine ⟨_, ?_, more⟩
    have ends := more.ends (.inl rfl)
    obtain ⟨x, after, rfl, other, bracket, -⟩ := part.opens
    cases comma with
    | first space =>
      have next := (space_cons_iff other).mp space
      rw [nextElement_of_first next bracket]
      exact (takes part ends (next ▸ .stop)).map some
    | later before space =>
      have next := (space_cons_iff rfl).mp before
      have start : c.skipSpace.advance.skipSpace.rest = x :: after := by
        rw [← space_cons_iff other, Cursor.advance_of_cons next]
        exact space
      rw [nextElement_of_comma next start bracket]
      exact (takes part ends (start ▸ .stop)).map some

/-- A list is closed if no items are left. -/
theorem comes_closeArray {items : List Form} {c : Cursor}
    (parts : Parts Written false items c.rest (']' :: rest)) (x : α) :
    Comes (do return (x, ← closeArray c)) (if items.isEmpty then some x else none) rest := by
  cases parts with
  | done space =>
    obtain ⟨q, closed⟩ := (passes_closeArray.eq_ok_iff rfl).mpr space
    exact ⟨q, by rw [closed]; rfl⟩
  | part comma =>
    cases comma with
    | later before =>
      have next := (space_cons_iff rfl).mp before
      intro answer given
      cases closed : closeArray c with
      | error fault =>
        rw [closed] at given
        exact nomatch given
      | ok d =>
        obtain ⟨after, bracket, -⟩ := (passes_closeArray c d).mp closed
        exact absurd (List.cons.inj (next.symm.trans bracket)).1 (by decide)

/-! ## Texts -/

/-- From a text a value is read exactly if it is what comes of the form that is written in it. -/
theorem Takes.readAll_eq_ok_iff {read : Reader α} {value : Form → Option α}
    (takes : Takes read value) {f : Form} {text : String} (written : f.WrittenIn text) {x : α} :
    readAll read text = .ok x ↔ value f = some x := by
  obtain ⟨cs, rest, before, form, after⟩ := written
  have comes := takes form (after.ends ends_nil) (c := Cursor.start text) before
  rw [Json.readAll_eq_ok_iff]
  constructor
  · rintro ⟨_, given, _⟩
    exact (comes.eq_ok_iff.mp given).1
  · intro expected
    exact ⟨rest, comes.eq_ok_iff.mpr ⟨expected, rfl⟩, after⟩

end PageExtract.Json
