import Mathlib.Logic.Relation
import PageExtract.Proofs.Rule.Reading
import PageExtract.Proofs.Rule.Validation

/-!
# Spellings of rule sets

A rule set can be spelled in many ways.  The members of an object that is a rule may be in any
order, have either of their names, be null instead of being left out, and have others with unknown
names among them.  All this may be so in each field, and in the child rules of each rule.

`RuleSetDef.Respells` relates two forms of which one is the other with one thing spelled
differently, and two texts are `SpelledAlike` if such steps lead from the form of one to that of
the other.  A step never changes which definition is read (`RuleSetDef.Respells.ofForm?_eq`), so
texts that are spelled alike define the same rule set or are refused for the same reason.

Two steps carry the content.  Members may be in any order, since entries for different members do
not disturb one another, and two for the same member are refused in either order
(`RuleDef.named?_member?_comm`).  Null may stand for a member that is left out, since it may be
read last, where nothing else has been read for the member (`RuleDef.ofMembers?_null`).

The value of a member with an unknown name may be anything that is well formed, at any depth, and
hold strings that are no texts.  The name itself is a text, since every name of a rule is read as
one.
-/

namespace PageExtract

open Json

/-! ## Names of members -/

namespace RuleDef

/-- The names that a member may have: its own, and the one that older files use. -/
def Member.names : Member → List String
  | .kind => ["kind", "type"]
  | .selector => ["selector"]
  | .attributeName => ["attributeName", "attribute"]
  | .childRules => ["childRules", "itemRules"]

theorem Member.ofName?_eq_some_iff {name : String} {member : Member} :
    Member.ofName? name = some member ↔ name ∈ member.names := by
  constructor
  · intro found
    unfold Member.ofName? at found
    split at found
    next known => cases found; simpa [names] using known
    next =>
      split at found
      next known => cases found; simpa [names] using known
      next =>
        split at found
        next known => cases found; simpa [names] using known
        next =>
          split at found
          next known => cases found; simpa [names] using known
          next => cases found
  · intro known
    cases member <;> simp only [names, List.mem_cons, List.not_mem_nil, or_false] at known <;>
      rcases known with rfl | rfl <;> decide

end RuleDef

/-! ## Steps -/

mutual

/-- Whether two forms of a rule set differ in one thing that may be spelled in several ways. -/
inductive RuleSetDef.Respells : Form → Form → Prop where
  /-- The difference is in the rule of a field. -/
  | field {before after : List (Option String × Form)} {name : Option String} {f g : Form}
      (rule : RuleDef.Respells f g) :
      RuleSetDef.Respells (.object (before ++ (name, f) :: after))
        (.object (before ++ (name, g) :: after))

/-- Whether two forms of a rule differ in one thing that may be spelled in several ways. -/
inductive RuleDef.Respells : Form → Form → Prop where
  /-- The members are in another order. -/
  | order {members others : List (Option String × Form)} (same : members.Perm others) :
      RuleDef.Respells (.object members) (.object others)
  /-- A member has another of its names. -/
  | name {before after : List (Option String × Form)} {member : RuleDef.Member}
      {name other : String} {f : Form} (known : name ∈ member.names)
      (also : other ∈ member.names) :
      RuleDef.Respells (.object (before ++ (some name, f) :: after))
        (.object (before ++ (some other, f) :: after))
  /-- A member other than the selector is left out in one and null in the other. -/
  | null {members : List (Option String × Form)} {member : RuleDef.Member} {name : String}
      (spare : member ≠ .selector) (known : name ∈ member.names)
      (absent : ∀ m ∈ members, ∀ other ∈ member.names, m.1 ≠ some other) :
      RuleDef.Respells (.object members) (.object ((some name, .null) :: members))
  /-- One has a member more, with an unknown name and any value. -/
  | unknown {members : List (Option String × Form)} {name : String} {f : Form}
      (unknown : ∀ member : RuleDef.Member, name ∉ member.names) :
      RuleDef.Respells (.object members) (.object ((some name, f) :: members))
  /-- The difference is in the child rules. -/
  | children {before after : List (Option String × Form)} {name : String} {f g : Form}
      (known : name ∈ RuleDef.Member.childRules.names) (rules : RuleSetDef.Respells f g) :
      RuleDef.Respells (.object (before ++ (some name, f) :: after))
        (.object (before ++ (some name, g) :: after))
  /-- The difference is in the child rules of a rule that is written as a list. -/
  | item {kind selector attributeName f g : Form} {after : List Form}
      (rules : RuleSetDef.Respells f g) :
      RuleDef.Respells (.list (kind :: selector :: attributeName :: f :: after))
        (.list (kind :: selector :: attributeName :: g :: after))
  /-- A list leaves out a value other than the selector, and the other ends with null for it. -/
  | last {items : List Form} (few : items.length < 4) (spare : items.length ≠ 1) :
      RuleDef.Respells (.list items) (.list (items ++ [.null]))

end

/-- Whether two texts are JSON texts that differ only in what may be spelled in several ways. -/
def SpelledAlike (text other : String) : Prop :=
  ∃ f g : Form, f.WrittenIn text ∧ g.WrittenIn other ∧ Relation.EqvGen RuleSetDef.Respells f g

/-! ## Members of a rule -/

/-- Steps that may be taken in either order may be taken in any order. -/
theorem foldlM_perm {α σ : Type} {step : σ → α → Option σ}
    (comm : ∀ s a b, (step s a).bind (step · b) = (step s b).bind (step · a)) {xs ys : List α}
    (perm : xs.Perm ys) (s : σ) : xs.foldlM step s = ys.foldlM step s := by
  induction perm generalizing s with
  | nil => rfl
  | cons x _ ih =>
    rw [List.foldlM_cons, List.foldlM_cons]
    exact bind_congr ih
  | swap x y xs =>
    simp only [List.foldlM_cons, Option.bind_eq_bind]
    rw [← Option.bind_assoc, ← Option.bind_assoc, comm]
  | trans _ _ first second => rw [first, second]

namespace RuleDef

variable {children : Form → Option RuleSetDef}

theorem Draft.has_put (d : Draft) (e : Entry) (member : Member) :
    (d.put e).has member = (d.has member || decide (e.member = member)) := by
  cases e <;> cases member <;> simp [has, put, Entry.member]

theorem Draft.put_comm (d : Draft) {a b : Entry} (other : a.member ≠ b.member) :
    (d.put a).put b = (d.put b).put a := by
  cases a <;> cases b <;> first | rfl | exact absurd rfl other

/-- Entries may be added in either order, and two for the same member in none. -/
theorem Draft.add?_comm (d : Draft) (a b : Entry) :
    (d.add? a).bind (·.add? b) = (d.add? b).bind (·.add? a) := by
  simp only [add?]
  by_cases same : a.member = b.member
  · cases has : d.has b.member <;> simp [same, has, has_put]
  · have other : ¬ b.member = a.member := fun h => same h.symm
    cases hasA : d.has a.member <;> cases hasB : d.has b.member <;>
      simp [hasA, hasB, has_put, same, other, d.put_comm same]

theorem Draft.member?_of_mem {member : Member} {name : String} (known : name ∈ member.names)
    (d : Draft) (f : Form) :
    d.member? children name f = (Entry.ofForm? children f member).bind d.add? := by
  rw [member?, Member.ofName?_eq_some_iff.mpr known]

theorem Draft.member?_of_unknown {name : String} (unknown : ∀ member : Member, name ∉ member.names)
    (d : Draft) (f : Form) : d.member? children name f = some d := by
  rw [member?]
  cases found : Member.ofName? name with
  | none => rfl
  | some member => exact absurd (Member.ofName?_eq_some_iff.mp found) (unknown member)

/-- Members may be read in any order. -/
theorem named?_member?_comm (d : Draft) (m n : Option String × Form) :
    (named? (Draft.member? children) d m).bind (named? (Draft.member? children) · n) =
      (named? (Draft.member? children) d n).bind (named? (Draft.member? children) · m) := by
  -- A member without a name leaves nothing, one with an unknown name leaves the draft as it is.
  obtain ⟨mName, f⟩ := m
  obtain ⟨nName, g⟩ := n
  cases mName with
  | none => cases named? (Draft.member? children) d (nName, g) <;> rfl
  | some m =>
    cases nName with
    | none => cases named? (Draft.member? children) d (some m, f) <;> rfl
    | some n =>
      simp only [named?, Draft.member?]
      cases Member.ofName? m with
      | none => cases Member.ofName? n <;> simp
      | some first =>
        cases Member.ofName? n with
        | none => simp
        | some second =>
          dsimp only
          cases Entry.ofForm? children f first with
          | none => cases (Entry.ofForm? children g second).bind d.add? <;> rfl
          | some a =>
            cases Entry.ofForm? children g second with
            | none => cases (some a).bind d.add? <;> rfl
            | some b => exact d.add?_comm a b

theorem ofMembers?_perm {members others : List (Option String × Form)}
    (same : members.Perm others) : ofMembers? children members = ofMembers? children others := by
  rw [ofMembers?, ofMembers?, foldlM_perm named?_member?_comm same]

/-- What is read from an object is so from one with another member for which the same is read. -/
theorem ofMembers?_congr {before after : List (Option String × Form)} {m n : Option String × Form}
    (same : ∀ d, named? (Draft.member? children) d m = named? (Draft.member? children) d n) :
    ofMembers? children (before ++ m :: after) = ofMembers? children (before ++ n :: after) := by
  rw [ofMembers?, ofMembers?, List.foldlM_append, List.foldlM_append]
  refine congrArg (Option.map Draft.finish) (bind_congr fun d => ?_)
  rw [List.foldlM_cons, List.foldlM_cons, same]

/-! ## Members that are left out -/

theorem Entry.member_of_ofForm? {f : Form} {member : Member} {e : Entry}
    (given : Entry.ofForm? children f member = some e) : e.member = member := by
  cases member with
  | kind | selector | attributeName | childRules =>
    obtain ⟨value, _, rfl⟩ := Option.map_eq_some_iff.mp given
    rfl

/-- A member with another name adds no entry for a member. -/
theorem has_of_named? {d d' : Draft} {m : Option String × Form} {member : Member}
    (lacks : d.has member = false) (taken : named? (Draft.member? children) d m = some d')
    (absent : ∀ other ∈ member.names, m.1 ≠ some other) : d'.has member = false := by
  obtain ⟨name, f⟩ := m
  cases name with
  | none => cases taken
  | some name =>
    rw [named?, Draft.member?] at taken
    cases found : Member.ofName? name with
    | none =>
      rw [found] at taken
      obtain rfl := Option.some.inj taken
      exact lacks
    | some this =>
      rw [found] at taken
      obtain ⟨e, given, added⟩ := Option.bind_eq_some_iff.mp taken
      have differs : e.member ≠ member := by
        rintro rfl
        rw [Entry.member_of_ofForm? given] at absent
        exact absent name (Member.ofName?_eq_some_iff.mp found) rfl
      rw [Draft.add?] at added
      split at added
      next => cases added
      next =>
        obtain rfl := Option.some.inj added
        rw [Draft.has_put, lacks, decide_eq_false differs]
        rfl

theorem has_of_foldlM {members : List (Option String × Form)} {d d' : Draft} {member : Member}
    (lacks : d.has member = false)
    (taken : members.foldlM (named? (Draft.member? children)) d = some d')
    (absent : ∀ m ∈ members, ∀ other ∈ member.names, m.1 ≠ some other) :
    d'.has member = false := by
  induction members generalizing d with
  | nil =>
    obtain rfl := Option.some.inj taken
    exact lacks
  | cons m members ih =>
    obtain ⟨here, later⟩ := List.forall_mem_cons.mp absent
    rw [List.foldlM_cons] at taken
    obtain ⟨between, first, rest⟩ := Option.bind_eq_some_iff.mp taken
    exact ih (has_of_named? lacks first here) rest later

/-- Null for a member that is absent amounts to nothing. -/
theorem exists_add?_null {d : Draft} {member : Member} (spare : member ≠ .selector)
    (lacks : d.has member = false) :
    ∃ d', (Entry.ofForm? children .null member).bind d.add? = some d' ∧ d'.finish = d.finish := by
  obtain ⟨kind, selector, attributeName, childRules⟩ := d
  cases member with
  | selector => exact absurd rfl spare
  | kind =>
    obtain rfl : kind = none := by simpa [Draft.has] using lacks
    exact ⟨_, rfl, rfl⟩
  | attributeName =>
    obtain rfl : attributeName = none := by simpa [Draft.has] using lacks
    exact ⟨_, rfl, rfl⟩
  | childRules =>
    obtain rfl : childRules = none := by simpa [Draft.has] using lacks
    exact ⟨_, rfl, rfl⟩

theorem ofMembers?_null {members : List (Option String × Form)} {member : Member} {name : String}
    (spare : member ≠ .selector) (known : name ∈ member.names)
    (absent : ∀ m ∈ members, ∀ other ∈ member.names, m.1 ≠ some other) :
    ofMembers? children ((some name, .null) :: members) = ofMembers? children members := by
  -- Read after all others, the member adds its entry to a draft that has none for it.
  have last : ((some name, Form.null) :: members).Perm (members ++ [(some name, .null)]) :=
    (List.perm_append_singleton _ members).symm
  rw [ofMembers?_perm last, ofMembers?, ofMembers?, List.foldlM_append]
  cases taken : members.foldlM (named? (Draft.member? children)) {} with
  | none => rfl
  | some d =>
    have lacks : d.has member = false := by
      refine has_of_foldlM ?_ taken absent
      cases member <;> rfl
    obtain ⟨d', added, same⟩ := @exists_add?_null children _ _ spare lacks
    have step : [(some name, Form.null)].foldlM (named? (Draft.member? children)) d = some d' := by
      rw [List.foldlM_cons, named?, Draft.member?_of_mem known, added]
      rfl
    simp only [Option.bind_eq_bind, Option.bind_some, step, Option.map_some, same]

theorem ofMembers?_unknown {members : List (Option String × Form)} {name : String}
    (unknown : ∀ member : Member, name ∉ member.names) (f : Form) :
    ofMembers? children ((some name, f) :: members) = ofMembers? children members := by
  rw [ofMembers?, ofMembers?, List.foldlM_cons, named?, Draft.member?_of_unknown unknown]
  rfl

/-! ## Rules that are written as lists -/

theorem ofItems?_congr {kind selector attributeName f g : Form} {after : List Form}
    (same : f.optional? children = g.optional? children) :
    ofItems? children (kind :: selector :: attributeName :: f :: after) =
      ofItems? children (kind :: selector :: attributeName :: g :: after) := by
  simp only [ofItems?, List.tail_cons, Form.first?, same]
  rfl

theorem ofItems?_last {items : List Form} (few : items.length < 4) (spare : items.length ≠ 1) :
    ofItems? children (items ++ [.null]) = ofItems? children items := by
  match items with
  | [] => rfl
  | [_] => exact absurd rfl spare
  | [_, _] => rfl
  | [_, _, _] => rfl
  | _ :: _ :: _ :: _ :: _ =>
    simp only [List.length_cons] at few
    omega

end RuleDef

/-! ## Steps change no definition -/

theorem RuleSetDef.ofMembers?_congr {rule : Form → Option RuleDef}
    {before after : List (Option String × Form)} {name : Option String} {f g : Form}
    (same : rule f = rule g) :
    ofMembers? rule (before ++ (name, f) :: after) =
      ofMembers? rule (before ++ (name, g) :: after) := by
  have field : field? rule (name, f) = field? rule (name, g) := by rw [field?, field?, same]
  simp only [ofMembers?, List.mapM_append, List.mapM_cons, field]

/-- What differs in the spelling of a rule set is no null. -/
theorem RuleSetDef.Respells.optional?_eq {f g : Form} (h : RuleSetDef.Respells f g)
    {children : Form → Option RuleSetDef} (same : children f = children g) :
    f.optional? children = g.optional? children := by
  cases h with
  | field => exact congrArg (Option.map some) same

mutual

/-- Forms of a rule set that differ in spelling are read as the same definition. -/
theorem RuleSetDef.Respells.ofForm?_eq : ∀ {f g : Form}, RuleSetDef.Respells f g →
    ∀ levels, RuleSetDef.ofForm? levels f = RuleSetDef.ofForm? levels g
  | _, _, _, 0 => rfl
  | _, _, .field rule, levels + 1 =>
    RuleSetDef.ofMembers?_congr (RuleDef.Respells.ofForm?_eq rule levels)

/-- Forms of a rule that differ in spelling are read as the same definition. -/
theorem RuleDef.Respells.ofForm?_eq : ∀ {f g : Form}, RuleDef.Respells f g →
    ∀ levels, RuleDef.ofForm? levels f = RuleDef.ofForm? levels g
  | _, _, _, 0 => rfl
  | _, _, .order same, levels + 1 => RuleDef.ofMembers?_perm same
  | _, _, .name known also, levels + 1 => RuleDef.ofMembers?_congr fun d => by
    rw [named?, named?, RuleDef.Draft.member?_of_mem known, RuleDef.Draft.member?_of_mem also]
  | _, _, .null spare known absent, levels + 1 =>
    (RuleDef.ofMembers?_null spare known absent).symm
  | _, _, .unknown unknown, levels + 1 => (RuleDef.ofMembers?_unknown unknown _).symm
  | _, _, .children known rules, levels + 1 => RuleDef.ofMembers?_congr fun d => by
    have same := rules.optional?_eq (RuleSetDef.Respells.ofForm?_eq rules levels)
    rw [named?, named?, RuleDef.Draft.member?_of_mem known, RuleDef.Draft.member?_of_mem known,
      RuleDef.Entry.ofForm?, RuleDef.Entry.ofForm?, same]
  | _, _, .item rules, levels + 1 =>
    RuleDef.ofItems?_congr (rules.optional?_eq (RuleSetDef.Respells.ofForm?_eq rules levels))
  | _, _, .last few spare, levels + 1 => (RuleDef.ofItems?_last few spare).symm

end

/-- Steps one after another, there and back, change no definition. -/
theorem ofForm?_eq_of_eqvGen {f g : Form} (h : Relation.EqvGen RuleSetDef.Respells f g)
    (levels : Nat) : RuleSetDef.ofForm? levels f = RuleSetDef.ofForm? levels g := by
  induction h with
  | rel f g step => exact step.ofForm?_eq levels
  | refl f => rfl
  | symm f g _ ih => exact ih.symm
  | trans f g h _ _ first second => exact first.trans second

/-! ## Texts -/

/-- From texts that are spelled alike the same definition is read, or none from either. -/
theorem SpelledAlike.parse_eq_ok_iff {text other : String} (alike : SpelledAlike text other)
    {d : RuleSetDef} : RuleSetDef.parse text = .ok d ↔ RuleSetDef.parse other = .ok d := by
  obtain ⟨f, g, written, written', steps⟩ := alike
  rw [RuleSetDef.parse_eq_ok_iff written, RuleSetDef.parse_eq_ok_iff written',
    ofForm?_eq_of_eqvGen steps]

/-- Texts that are spelled alike define the same rule set, or both are refused without being read,
or they are refused for the same mistake. -/
theorem SpelledAlike.ofJson {text other : String} (alike : SpelledAlike text other) :
    RuleSet.ofJson text = RuleSet.ofJson other ∨
      (∃ fault, RuleSet.ofJson text = .error (.json fault)) ∧
        ∃ fault, RuleSet.ofJson other = .error (.json fault) := by
  have refused {text : String} {fault : Fault} (unread : RuleSetDef.parse text = .error fault) :
      RuleSet.ofJson text = .error (.json fault) := by
    rw [RuleSet.ofJson, RuleSet.parse, unread]
    rfl
  cases read : RuleSetDef.parse text with
  | ok d =>
    have read' := alike.parse_eq_ok_iff.mp read
    left
    rw [RuleSet.ofJson, RuleSet.ofJson, RuleSet.parse, RuleSet.parse, read, read']
  | error fault =>
    cases read' : RuleSetDef.parse other with
    | ok d => exact absurd (read.symm.trans (alike.parse_eq_ok_iff.mpr read')) error_ne_ok
    | error fault' => exact .inr ⟨⟨fault, refused read⟩, ⟨fault', refused read'⟩⟩

/-- Whatever sound caches hold: of two texts that are spelled alike both define the same rule set
or neither defines one, and if one is read and refused, then the other is for the same mistake in
the same field. -/
theorem RuleSet.spelledAlike_ofJsonCached {text other : String} (alike : SpelledAlike text other)
    {cache cache' : Css.Cache} (sound : cache.Sound) (sound' : cache'.Sound) :
    let first := ((RuleSet.ofJsonCached text).run cache).1
    let second := ((RuleSet.ofJsonCached other).run cache').1
    (∀ rules, first = .ok rules ↔ second = .ok rules) ∧
      ∀ mistake, (∀ fault, mistake ≠ .json fault) →
        (first = .error mistake ↔ second = .error mistake) := by
  intro first second
  have plain : first = RuleSet.ofJson text := (RuleSet.answers_ofJsonCached text cache sound).1
  have plain' : second = RuleSet.ofJson other :=
    (RuleSet.answers_ofJsonCached other cache' sound').1
  rw [plain, plain']
  rcases alike.ofJson with same | ⟨⟨fault, refused⟩, ⟨fault', refused'⟩⟩
  · rw [same]
    exact ⟨fun _ => Iff.rfl, fun _ _ => Iff.rfl⟩
  · rw [refused, refused']
    refine ⟨fun _ => iff_of_false error_ne_ok error_ne_ok, fun mistake read => ?_⟩
    refine iff_of_false ?_ ?_
    · intro same
      exact read fault (Except.error.inj same).symm
    · intro same
      exact read fault' (Except.error.inj same).symm

/-- A rule in the short spelling, and with space, in another order, with the other name of its
kind, with null for the child rules that it has none of, and with an unknown member. -/
theorem RuleSet.spelledAlike_ofJsonCached_paragraph :
    let text := "\x7b\"a\":\x7b\"kind\":\"text\",\"selector\":\"p\"\x7d\x7d"
    let other := " \x7b\"a\":\x7b\"x\":[true] ,\"childRules\":null,\"selector\":\"p\"," ++
      "\"type\":\"text\"\x7d\x7d"
    SpelledAlike text other ∧ Css.Cache.empty.Sound ∧
      ((RuleSet.ofJsonCached other).run .empty).1 = .ok ⟨[("a", .text "p")]⟩ := by
  intro text other
  let kind (name : String) : Option String × Form := (some name, .string (some "text"))
  let selector : Option String × Form := (some "selector", .string (some "p"))
  let null : Option String × Form := (some "childRules", .null)
  let extra : Option String × Form := (some "x", .list [.boolean true])
  let field (members : List (Option String × Form)) : Form := .object [(some "a", .object members)]
  -- How the members, and a field that has them, are written.
  have kindIn (name : String) (rest : List Char) : Named Written (kind name) _ rest :=
    .quoteChars name (.quoteChars "text" rest)
  have selectorIn (rest : List Char) : Named Written selector _ rest :=
    .quoteChars "selector" (.quoteChars "p" rest)
  have nullIn (rest : List Char) : Named Written null _ rest := .quoteChars "childRules" .null
  have extraIn (rest : List Char) : Named Written extra _ rest :=
    .quoteChars "x" (.list (.part (.first .stop) .yes (.done .stop)))
  have fieldIn {members : List (Option String × Form)} {cs : List Char}
      (parts : Parts (Named Written) true members cs ['}', '}']) : Written (field members) _ [] :=
    .object (.part (.first .stop) (.quoteChars "a" (.object parts)) (.done .stop))
  have writtenIn {f : Form} {text : String} {cs : List Char} (form : Written f cs [])
      (same : text.toList.dropWhile isSpace = cs) : f.WrittenIn text :=
    ⟨cs, [], same ▸ .dropWhile _, form, .stop⟩
  have written : (field [kind "kind", selector]).WrittenIn text := by
    have form := fieldIn (.part (.first .stop) (kindIn "kind" _)
      (.part (.later .stop .stop) (selectorIn _) (.done .stop)))
    exact writtenIn form (by decide)
  have written' : (field [extra, null, selector, kind "type"]).WrittenIn other := by
    have blank (rest : List Char) : Space (' ' :: rest) rest := .pass rfl .stop
    have form := fieldIn (.part (.first .stop) (extraIn _)
      (.part (.later (blank _) .stop) (nullIn _)
      (.part (.later .stop .stop) (selectorIn _)
      (.part (.later .stop .stop) (kindIn "type" _) (.done .stop)))))
    exact writtenIn form (by decide)
  -- The steps from one to the other.
  have step {members others : List (Option String × Form)}
      (h : RuleDef.Respells (.object members) (.object others)) :
      Relation.EqvGen RuleSetDef.Respells (field members) (field others) :=
    .rel _ _ (@RuleSetDef.Respells.field [] [] _ _ _ h)
  have named := @RuleDef.Respells.name [] [selector] .kind "kind" "type" (.string (some "text"))
    (by decide) (by decide)
  have ordered := RuleDef.Respells.order (List.Perm.swap selector (kind "type") [])
  have absent := @RuleDef.Respells.null [selector, kind "type"] .childRules "childRules" nofun
    (by decide) (by decide)
  have unknown := @RuleDef.Respells.unknown [null, selector, kind "type"] "x"
    (.list [.boolean true]) (by rintro (_ | _ | _ | _) <;> decide)
  have alike : SpelledAlike text other :=
    ⟨_, _, written, written', .trans _ _ _ (.trans _ _ _ (step named) (step ordered))
      (.trans _ _ _ (step absent) (step unknown))⟩
  -- What the short spelling defines, the other defines as well.
  have accepted : ((RuleSet.ofJsonCached text).run .empty).1 = .ok ⟨[("a", .text "p")]⟩ := by
    let d : RuleSetDef := .mk [("a", .mk (some "text") "p" none none)]
    have parsed : RuleSetDef.parse text = .ok d := (RuleSetDef.parse_eq_ok_iff written).mpr rfl
    have valid : d.Valid := .mk (by decide) (List.forall_mem_singleton.mpr
      (.text (by decide +kernel) ⟨by decide, by decide +kernel⟩))
    rw [(RuleSet.answers_ofJsonCached text .empty Css.Cache.sound_empty).1, RuleSet.ofJson,
      RuleSet.parse, parsed]
    exact (RuleSetDef.validate_eq_ok_iff d "" _).mpr ⟨valid, by decide +kernel⟩
  have fresh := Css.Cache.sound_empty
  have spelled := RuleSet.spelledAlike_ofJsonCached alike fresh fresh
  exact ⟨alike, fresh, (spelled.1 _).mp accepted⟩

end PageExtract
