import PageExtract.Proofs.Json.Grammar

/-!
# The grammar is unambiguous

A text denotes at most one JSON value (`Denotes.unique`).  What a value starts with says
which kind of value it is, and what may come after a value, if it *ends* there, cannot
be taken for more of it.  So where a value ends is settled as well, and the parts of a
bracket are settled one after another.
-/

namespace PageExtract.Json

/-- Whether a character may come after a value. -/
def isEnd (c : Char) : Bool := isSpace c || c = ',' || c = ']' || c = '}'

/-- Whether a value may end before some characters. -/
def Ends (cs : List Char) : Prop := ∀ c ∈ cs.head?, isEnd c = true

theorem ends_nil : Ends [] := fun _ h => nomatch h

theorem ends_cons {c : Char} {cs : List Char} (h : isEnd c = true) : Ends (c :: cs) :=
  fun _ first => Option.some.inj first ▸ h

/-- A value may end before space, and what comes after space is no worse. -/
theorem Space.ends {cs rest : List Char} (h : Space cs rest) (ends : Ends rest) : Ends cs := by
  cases h with
  | stop => exact ends
  | pass space _ => exact ends_cons (by rw [isEnd, space]; rfl)

/-- Space is passed in one way only. -/
theorem Space.unique {cs a b : List Char} (h : Space cs a) (h' : Space cs b) (opens : Opens a)
    (opens' : Opens b) : a = b := by
  obtain ⟨c, rest, rfl, next, _⟩ := opens
  obtain ⟨d, rest', rfl, next', _⟩ := opens'
  rw [← h.dropWhile_of_cons next, h'.dropWhile_of_cons next']

/-! ## Strings and numbers -/

theorem Content.unique {s t cs a b : List Char} (h : Content s cs a) (h' : Content t cs b) :
    s = t ∧ a = b := by
  induction h generalizing t with
  | close =>
    cases h' with
    | close => exact ⟨rfl, rfl⟩
    | plain mark => exact absurd rfl mark
  | plain mark backslash printed _ ih =>
    cases h' with
    | close => exact absurd rfl mark
    | plain _ _ _ more =>
      obtain ⟨rfl, rfl⟩ := ih more
      exact ⟨rfl, rfl⟩
    | short | unit | halves => exact absurd rfl backslash
  | short escape _ ih =>
    cases h' with
    | plain _ backslash => exact absurd rfl backslash
    | short escape' more =>
      obtain ⟨rfl, rfl⟩ := ih more
      exact ⟨by rw [Option.some.inj (escape.symm.trans escape')], rfl⟩
    | unit | halves => exact nomatch escape
  | unit number high low _ ih =>
    cases h' with
    | plain _ backslash => exact absurd rfl backslash
    | short escape => exact nomatch escape
    | unit number' _ _ more =>
      obtain ⟨rfl, rfl⟩ := ih more
      exact ⟨by rw [Option.some.inj (number.symm.trans number')], rfl⟩
    | halves number' high' =>
      rw [Option.some.inj (number.symm.trans number'), high'] at high
      exact nomatch high
  | halves first high second low _ ih =>
    cases h' with
    | plain _ backslash => exact absurd rfl backslash
    | short escape => exact nomatch escape
    | unit number' high' =>
      rw [← Option.some.inj (first.symm.trans number'), high] at high'
      exact nomatch high'
    | halves first' _ second' _ more =>
      obtain ⟨rfl, rfl⟩ := ih more
      exact ⟨by rw [Option.some.inj (first.symm.trans first'),
        Option.some.inj (second.symm.trans second')], rfl⟩

/-- A number goes on through all its characters. -/
theorem IsNumber.not_isEnd {cs : List Char} (h : IsNumber cs) : ∀ c ∈ cs, isEnd c = false := by
  have digits {ds : List Char} (h : IsDigits ds) : ∀ c ∈ ds, isEnd c = false := by
    intro c hc
    have digit := h.2 c hc
    rw [isEnd, isSpace_of_isDigit digit, decide_eq_false (ne_of_isDigit digit (d := ',') rfl),
      decide_eq_false (ne_of_isDigit digit (d := ']') rfl),
      decide_eq_false (ne_of_isDigit digit (d := '}') rfl)]
    rfl
  cases h with
  | mk sign whole zeros fraction power =>
    intro c hc
    rw [List.mem_append, List.mem_append, List.mem_append] at hc
    rcases hc with hc | hc | hc | hc
    · rcases sign with rfl | rfl
      · exact nomatch hc
      · exact List.mem_singleton.mp hc ▸ rfl
    · exact digits whole c hc
    · rcases fraction with rfl | ⟨ds, rfl, after⟩
      · exact nomatch hc
      · rcases List.mem_cons.mp hc with rfl | hc
        · rfl
        · exact digits after c hc
    · rcases power with rfl | ⟨e, sign, ds, rfl, letter, sign_ok, after⟩
      · exact nomatch hc
      · rcases List.mem_cons.mp hc with rfl | hc
        · rcases letter with rfl | rfl <;> rfl
        · rcases List.mem_append.mp hc with hc | hc
          · rcases sign_ok with rfl | rfl | rfl
            · exact nomatch hc
            · exact List.mem_singleton.mp hc ▸ rfl
            · exact List.mem_singleton.mp hc ▸ rfl
          · exact digits after c hc

/-- A number is all that comes before what may come after a value. -/
theorem IsNumber.takeWhile_append {cs rest : List Char} (h : IsNumber cs) (ends : Ends rest) :
    (cs ++ rest).takeWhile (fun c => !isEnd c) = cs := by
  rw [List.takeWhile_append_of_pos fun c hc => by rw [h.not_isEnd c hc]; rfl]
  cases rest with
  | nil => rw [List.takeWhile_nil, List.append_nil]
  | cons c rest =>
    rw [List.takeWhile_cons_of_neg, List.append_nil]
    rw [ends c rfl]
    exact Bool.false_ne_true

theorem IsNumber.unique {v w a b : List Char} (h : IsNumber v) (h' : IsNumber w) (ends : Ends a)
    (ends' : Ends b) (same : v ++ a = w ++ b) : v = w ∧ a = b := by
  have first : v = w := by
    rw [← h.takeWhile_append ends, same, h'.takeWhile_append ends']
  subst first
  exact ⟨rfl, List.append_cancel_left same⟩

/-- What starts with a number starts as a number does. -/
theorem IsNumber.head_of_append {w cs rest : List Char} {c : Char} (h : IsNumber w)
    (split : c :: cs = w ++ rest) : c = '-' ∨ isDigit c = true := by
  obtain ⟨d, digits, rfl, start⟩ := h.head
  rwa [(List.cons.inj split).1]

/-! ## Brackets -/

section

variable {α : Type} {P : α → List Char → List Char → Prop} {first : Bool} {xs ys : List α}
  {cs a b rest rest' : List Char}

theorem Comma.unique (h : Comma first cs a) (h' : Comma first cs b) (opens : Opens a)
    (opens' : Opens b) : a = b := by
  cases h with
  | first space =>
    cases h' with
    | first space' => exact space.unique space' opens opens'
  | later before after =>
    cases h' with
    | later before' after' =>
      obtain ⟨_, rfl⟩ := before.unique_cons before' rfl rfl
      exact after.unique after' opens opens'

/-- No part comes where a bracket is closed. -/
theorem Comma.not_closed {closer : Char} (closes : closer = ']' ∨ closer = '}')
    (h : Comma first cs a) (opens : Opens a) (space : Space cs (closer :: rest)) : False := by
  have other : isSpace closer = false ∧ closer ≠ ',' := by
    rcases closes with rfl | rfl <;> decide
  cases h with
  | first before =>
    obtain ⟨c, more, rfl, next, list, object⟩ := opens
    obtain ⟨rfl, _⟩ := before.unique_cons space next other.1
    rcases closes with rfl | rfl
    · exact list rfl
    · exact object rfl
  | later before _ => exact other.2 (before.unique_cons space rfl other.1).1.symm

/-- A part may end where the next one or the end of the bracket follows. -/
theorem Parts.ends {closer : Char} (closes : closer = ']' ∨ closer = '}')
    (h : Parts P false xs cs (closer :: rest)) : Ends cs := by
  cases h with
  | done space => exact space.ends (ends_cons (by rcases closes with rfl | rfl <;> rfl))
  | part comma =>
    cases comma with
    | later before => exact before.ends (ends_cons rfl)

/-- The parts of a bracket are settled if each of them is. -/
theorem Parts.unique {closer : Char} (closes : closer = ']' ∨ closer = '}')
    (opens : ∀ x cs rest, P x cs rest → Opens cs)
    (unique : ∀ x ∈ xs, ∀ y cs a b, P x cs a → P y cs b → Ends a → Ends b → x = y ∧ a = b)
    (h : Parts P first xs cs (closer :: rest)) (h' : Parts P first ys cs (closer :: rest')) :
    xs = ys ∧ rest = rest' := by
  -- Where the bracket is closed no part can start, so there is a part on both sides or on neither.
  generalize ends : closer :: rest = e at h
  induction h generalizing ys with
  | done space =>
    subst ends
    cases h' with
    | done space' =>
      have other : isSpace closer = false := by rcases closes with rfl | rfl <;> rfl
      exact ⟨rfl, (space.unique_cons space' other other).2⟩
    | part comma part => exact (comma.not_closed closes (opens _ _ _ part) space).elim
  | part comma part more ih =>
    subst ends
    cases h' with
    | done space' => exact (comma.not_closed closes (opens _ _ _ part) space').elim
    | part comma' part' more' =>
      obtain rfl := comma.unique comma' (opens _ _ _ part) (opens _ _ _ part')
      obtain ⟨rfl, rfl⟩ :=
        unique _ (.head _) _ _ _ _ part part' (more.ends closes) (more'.ends closes)
      obtain ⟨rfl, rfl⟩ := ih (fun x hx => unique x (.tail _ hx)) more' rfl
      exact ⟨rfl, rfl⟩

theorem Member.opens {m : String × α} (h : Member P m cs rest) : Opens cs := by
  cases h with
  | mk => exact ⟨_, _, rfl, by decide, by decide, by decide⟩

theorem Member.unique {m n : String × α} (opens : ∀ x cs rest, P x cs rest → Opens cs)
    (unique : ∀ y cs, P m.2 cs a → P y cs b → m.2 = y ∧ a = b) (h : Member P m cs a)
    (h' : Member P n cs b) : m = n ∧ a = b := by
  cases h with
  | mk named before after value =>
    cases h' with
    | mk named' before' after' value' =>
      obtain ⟨same, rfl⟩ := named.unique named'
      obtain ⟨_, rfl⟩ := before.unique_cons before' rfl rfl
      obtain rfl := after.unique after' (opens _ _ _ value) (opens _ _ _ value')
      obtain ⟨rfl, rfl⟩ := unique _ _ value value'
      exact ⟨by rw [String.toList_inj.mp same], rfl⟩

end

/-! ## Values -/

theorem Spells.unique {t u : Tree} {cs a b : List Char} (h : Spells t cs a) (h' : Spells u cs b)
    (ends : Ends a) (ends' : Ends b) : t = u ∧ a = b := by
  -- The first character says what kind of value it is.  Only numbers start in several ways.
  induction t generalizing u cs a b with
  | null | boolean =>
    cases h <;> cases h' with
    | number number split => exact absurd (number.head_of_append split) (by decide)
    | _ => exact ⟨rfl, rfl⟩
  | number written =>
    cases h with
    | number number split =>
      cases h' with
      | number number' split' =>
        obtain ⟨rfl, rfl⟩ := number.unique number' ends ends' (split.symm.trans split')
        exact ⟨rfl, rfl⟩
      | null | yes | no | string | list | object =>
        exact absurd (number.head_of_append split) (by decide)
  | string content =>
    cases h with
    | string content_ok =>
      cases h' with
      | number number split => exact absurd (number.head_of_append split) (by decide)
      | string content_ok' =>
        obtain ⟨same, rfl⟩ := content_ok.unique content_ok'
        exact ⟨by rw [String.toList_inj.mp same], rfl⟩
  | list items ih =>
    cases h with
    | list parts =>
      cases h' with
      | number number split => exact absurd (number.head_of_append split) (by decide)
      | list parts' =>
        obtain ⟨rfl, rfl⟩ := parts.unique (.inl rfl) (fun _ _ _ => Spells.opens)
          (fun x hx _ _ _ _ => ih x hx) parts'
        exact ⟨rfl, rfl⟩
  | object members ih =>
    cases h with
    | object parts =>
      cases h' with
      | number number split => exact absurd (number.head_of_append split) (by decide)
      | object parts' =>
        have member : ∀ m ∈ members, ∀ n cs a b, Member Spells m cs a → Member Spells n cs b →
            Ends a → Ends b → m = n ∧ a = b := by
          intro m hm n cs a b h h' ends ends'
          refine h.unique (fun _ _ _ => Spells.opens) ?_ h'
          intro y cs value value'
          exact ih m hm value value' ends ends'
        obtain ⟨rfl, rfl⟩ := parts.unique (.inr rfl) (fun _ _ _ => Member.opens) member parts'
        exact ⟨rfl, rfl⟩

/-- A text denotes at most one value. -/
theorem Denotes.unique {text : String} {t u : Tree} (h : Denotes text t) (h' : Denotes text u) :
    t = u := by
  obtain ⟨cs, rest, space, spelled, ends⟩ := h
  obtain ⟨cs', rest', space', spelled', ends'⟩ := h'
  obtain rfl := space.unique space' spelled.opens spelled'.opens
  exact (spelled.unique spelled' (ends.ends ends_nil) (ends'.ends ends_nil)).1

theorem Denotes.iff_eq {text : String} {t u : Tree} (h : Denotes text t) :
    Denotes text u ↔ u = t :=
  ⟨fun h' => h'.unique h, fun same => same ▸ h⟩

end PageExtract.Json
