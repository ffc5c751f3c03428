import PageExtract.Job.Load
import PageExtract.Proofs.Rule.Spelling

/-!
# What jobs are read from

Which definition of a job is read from a text depends on the form that is written in it only, and
`JobDef.ofForm?` tells which one it is (`JobDef.parse_eq_ok_iff`).  The rules in it are read as a
rule set is on its own, with one level less.  Members may be in any order
(`JobDef.ofMembers?_perm`), since those with other names are passed and a name that occurs twice is
refused wherever it does.

What a job is made of its definition does not depend on the cache (`Job.answers_ofJsonCached`).
-/

namespace PageExtract

open Json

namespace JobDef

variable {children : Form → Option RuleSetDef}

/-- A draft with one more member.  A member with another name changes nothing. -/
def Draft.member? (children : Form → Option RuleSetDef) (d : Draft) (name : String) (f : Form) :
    Option Draft :=
  if name = "url" then
    if d.url.isSome then none else (f.optional? Form.text?).map fun v => { d with url := some v }
  else if name = "rules" then
    if d.rules.isSome then none else (children f).map fun v => { d with rules := some v }
  else some d

/-- The definition that a draft amounts to, if there are rules in it. -/
def Draft.finish? (d : Draft) : Option JobDef := d.rules.map fun rules => ⟨d.url.getD none, rules⟩

/-- The definition that is read from the members of an object. -/
def ofMembers? (children : Form → Option RuleSetDef) (members : List (Option String × Form)) :
    Option JobDef :=
  (members.foldlM (named? (Draft.member? children)) {}).bind Draft.finish?

/-- The definition that is read from the items of a list. -/
def ofItems? (children : Form → Option RuleSetDef) (items : List Form) : Option JobDef := do
  let url ← Form.first? (Form.optional? Form.text?) items
  let rules ← Form.first? children items.tail
  let rules ← rules
  if items.tail.tail.isEmpty then some ⟨url.getD none, rules⟩ else none

/-- The definition of a job that is read from a form. -/
def ofForm? : Form → Option JobDef :=
  Form.inside (ofMembers? (RuleSetDef.ofForm? (maxLevels - 1)))
    (ofItems? (RuleSetDef.ofForm? (maxLevels - 1)))

/-! ## Reading -/

theorem stepTakes_readMember {read : Reader RuleSetDef} (takes : Takes read children) :
    StepTakes (readMember read) (Draft.member? children) := by
  intro d name f a cs rest written ends after c space
  rw [readMember, Draft.member?]
  split
  next => exact (takes_optional takes_text).comes_once written ends after space _ _ _
  next =>
    split
    next => exact takes.comes_once written ends after space _ _ _
    next =>
      obtain ⟨q, passed⟩ := (passes_colon.eq_ok_iff rfl).mpr space
      obtain ⟨r, skipped⟩ := written.skipValue (c := ⟨a, q⟩) ends after
      refine ⟨r, ?_⟩
      dsimp only
      rw [passed]
      simp only [bind, Except.bind, skipped]
      rfl

/-- What is done once the members of a job have been read. -/
def afterMembers (d : Draft) : Reader JobDef := fun c =>
  match d.rules with
  | none => c.faultClosed .object (.missingMember "rules")
  | some rules => do return (⟨d.url.getD none, rules⟩, ← closeObject c)

theorem takesObject_readObject {read : Reader RuleSetDef} (takes : Takes read children) :
    TakesObject (readObject read) (ofMembers? children) := by
  refine @takesObject_members_then _ _ _ _ (stepTakes_readMember takes) {} afterMembers _ ?_
  rintro ⟨url, _ | rules⟩ rest q
  · exact fun _ => nofun
  · exact comes_closeObject _ rest q

theorem takesList_readArray {read : Reader RuleSetDef} (takes : Takes read children) :
    TakesList (readArray read) (ofItems? children) := by
  intro items c rest parts
  obtain ⟨mid, url, parts⟩ := (takes_optional takes_text).comes_nextElement parts
  refine url.bind fun url q _ => ?_
  obtain ⟨mid, rules, parts⟩ := takes.comes_nextElement (c := ⟨_, q⟩) parts
  refine rules.bind fun rules q _ => ?_
  cases rules with
  | none => exact fun _ => nofun
  | some rules => exact comes_closeArray (c := ⟨mid, q⟩) parts _

theorem takes_read : Takes read ofForm? :=
  takes_inStructure (takesObject_readObject (RuleSetDef.takes_read _))
    (takesList_readArray (RuleSetDef.takes_read _)) wanted

/-- From a text the job is read that comes of the form that is written in it. -/
theorem parse_eq_ok_iff {f : Form} {text : String} (written : f.WrittenIn text) {d : JobDef} :
    parse text = .ok d ↔ ofForm? f = some d :=
  takes_read.readAll_eq_ok_iff written

/-! ## Texts that are read -/

theorem stepFinds_readMember {read : Reader RuleSetDef} (finds : Finds read) :
    StepFinds (readMember read) := by
  intro d name c d' e given
  rw [readMember] at given
  split at given
  next => exact (finds_optional finds_text).exists_written_of_once given
  next =>
    split at given
    next => exact finds.exists_written_of_once given
    next =>
      refine exists_written_of_colon (fun c' passed => ?_) given
      obtain ⟨after, skipped, same⟩ := except_bind_eq_ok_iff.mp passed
      cases same
      exact exists_written_of_skipValue skipped

theorem findsObject_readObject {read : Reader RuleSetDef} (finds : Finds read) :
    FindsObject (readObject read) := by
  refine @findsObject_members_then _ _ _ (stepFinds_readMember finds) {} afterMembers ?_
  rintro ⟨url, _ | rules⟩ c x d given
  · exact nomatch given
  · exact space_of_closeObject given

theorem findsList_readArray {read : Reader RuleSetDef} (finds : Finds read) :
    FindsList (readArray read) := by
  intro c d e given
  obtain ⟨⟨url, c₁⟩, first, given⟩ := except_bind_eq_ok_iff.mp given
  obtain ⟨⟨rules, c₂⟩, second, given⟩ := except_bind_eq_ok_iff.mp given
  cases rules with
  | none => exact nomatch given
  | some rules =>
    obtain ⟨c₃, closed, same⟩ := except_bind_eq_ok_iff.mp given
    cases same
    exact (finds_optional finds_text).parts_of_nextElement first
      (finds.parts_of_nextElement second (parts_of_closeArray closed))

theorem finds_read : Finds read :=
  finds_inStructure (findsObject_readObject (RuleSetDef.finds_read _))
    (findsList_readArray (RuleSetDef.finds_read _)) wanted

/-- A text from which a job is read is a JSON text, and its form says which one. -/
theorem exists_form_of_parse {text : String} {d : JobDef} (parsed : parse text = .ok d) :
    ∃ f : Form, f.WrittenIn text ∧ ofForm? f = some d := by
  obtain ⟨f, written⟩ := finds_read.exists_writtenIn parsed
  exact ⟨f, written, (parse_eq_ok_iff written).mp parsed⟩

/-! ## Rules that are read -/

/-- The rules of a draft are read from a form, whatever is added to it. -/
theorem Draft.exists_rules_of_named? {d d' : Draft} {m : Option String × Form}
    (given : ∀ rules, d.rules = some rules → ∃ f, children f = some rules)
    (taken : named? (member? children) d m = some d') :
    ∀ rules, d'.rules = some rules → ∃ f, children f = some rules := by
  obtain ⟨name, f⟩ := m
  cases name with
  | none => exact nomatch taken
  | some name =>
    rw [named?, member?] at taken
    split at taken
    next =>
      obtain ⟨-, taken⟩ := Option.ite_none_left_eq_some.mp taken
      obtain ⟨url, -, rfl⟩ := Option.map_eq_some_iff.mp taken
      exact given
    next =>
      split at taken
      next =>
        obtain ⟨-, taken⟩ := Option.ite_none_left_eq_some.mp taken
        obtain ⟨inner, read, rfl⟩ := Option.map_eq_some_iff.mp taken
        rintro rules same
        obtain rfl : inner = rules := Option.some.inj same
        exact ⟨f, read⟩
      next =>
        obtain rfl := Option.some.inj taken
        exact given

theorem exists_rules_of_ofMembers? {members : List (Option String × Form)} {d : JobDef}
    (read : ofMembers? children members = some d) : ∃ f, children f = some d.rules := by
  obtain ⟨draft, taken, finished⟩ := Option.bind_eq_some_iff.mp read
  obtain ⟨rules, given, rfl⟩ := Option.map_eq_some_iff.mp finished
  suffices ∀ start : Draft, (∀ rules, start.rules = some rules → ∃ f, children f = some rules) →
      members.foldlM (named? (Draft.member? children)) start = some draft →
        ∃ f, children f = some rules from this {} (fun _ => nofun) taken
  clear taken read
  intro start inside taken
  induction members generalizing start with
  | nil =>
    obtain rfl := Option.some.inj taken
    exact inside rules given
  | cons m members ih =>
    rw [List.foldlM_cons] at taken
    obtain ⟨between, first, taken⟩ := Option.bind_eq_some_iff.mp taken
    exact ih between (Draft.exists_rules_of_named? inside first) taken

theorem exists_rules_of_ofItems? {items : List Form} {d : JobDef}
    (read : ofItems? children items = some d) : ∃ f, children f = some d.rules := by
  obtain ⟨url, -, read⟩ := Option.bind_eq_some_iff.mp read
  obtain ⟨second, given, read⟩ := Option.bind_eq_some_iff.mp read
  obtain ⟨rules, rfl, read⟩ := Option.bind_eq_some_iff.mp read
  obtain ⟨-, same⟩ := Option.ite_none_right_eq_some.mp read
  obtain rfl := Option.some.inj same
  cases rest : items.tail with
  | nil =>
    rw [rest] at given
    exact nomatch given
  | cons f after =>
    rw [rest] at given
    obtain ⟨inner, taken, same⟩ := Option.map_eq_some_iff.mp given
    obtain rfl : inner = rules := Option.some.inj same
    exact ⟨f, taken⟩

/-- The rules of a job are read from a form, with one level less. -/
theorem exists_rules_of_ofForm? : ∀ {f : Form} {d : JobDef}, ofForm? f = some d →
    ∃ g, RuleSetDef.ofForm? (maxLevels - 1) g = some d.rules
  | .object _, _, read => exists_rules_of_ofMembers? read
  | .list _, _, read => exists_rules_of_ofItems? read

/-! ## Members -/

theorem Draft.member?_of_unknown {name : String} (url : name ≠ "url") (rules : name ≠ "rules")
    (d : Draft) (f : Form) : d.member? children name f = some d := by
  rw [member?, if_neg url, if_neg rules]

theorem Draft.foldlM_of_unknown {others : List (Option String × Form)}
    (unknown : ∀ m ∈ others, ∃ name, m.1 = some name ∧ name ≠ "url" ∧ name ≠ "rules") (d : Draft) :
    others.foldlM (named? (Draft.member? children)) d = some d := by
  induction others with
  | nil => rfl
  | cons m others ih =>
    obtain ⟨⟨name, named, url, rules⟩, later⟩ := List.forall_mem_cons.mp unknown
    obtain ⟨_, f⟩ := m
    obtain rfl : _ = some name := named
    rw [List.foldlM_cons, named?, Draft.member?_of_unknown url rules]
    exact ih later

/-- The two members may be read in either order. -/
theorem Draft.member?_url_rules (d : Draft) (f g : Form) :
    (d.member? children "url" f).bind (·.member? children "rules" g) =
      (d.member? children "rules" g).bind (·.member? children "url" f) := by
  have other : "rules" ≠ "url" := by decide
  simp only [member?, if_pos, if_neg other]
  cases f.optional? Form.text? <;> cases children g <;> cases d.url <;> cases d.rules <;> simp

/-- The same member is refused the second time, whichever comes first. -/
theorem Draft.member?_twice (d : Draft) (name : String) (f g : Form)
    (known : name = "url" ∨ name = "rules") :
    (d.member? children name f).bind (·.member? children name g) = none := by
  have other : "rules" ≠ "url" := by decide
  rcases known with rfl | rfl
  · simp only [member?, if_pos]
    cases f.optional? Form.text? <;> cases d.url <;> simp
  · simp only [member?, if_neg other, if_pos]
    cases children f <;> cases d.rules <;> simp

/-- Members may be read in any order. -/
theorem named?_member?_comm (d : Draft) (m n : Option String × Form) :
    (named? (Draft.member? children) d m).bind (named? (Draft.member? children) · n) =
      (named? (Draft.member? children) d n).bind (named? (Draft.member? children) · m) := by
  -- A member without a name leaves nothing, one with another name leaves the draft as it is.
  obtain ⟨mName, f⟩ := m
  obtain ⟨nName, g⟩ := n
  cases mName with
  | none => cases named? (Draft.member? children) d (nName, g) <;> rfl
  | some m =>
    cases nName with
    | none => cases named? (Draft.member? children) d (some m, f) <;> rfl
    | some n =>
      simp only [named?]
      by_cases mKnown : m = "url" ∨ m = "rules"
      · by_cases nKnown : n = "url" ∨ n = "rules"
        · by_cases same : m = n
          · rw [same] at mKnown ⊢
            rw [Draft.member?_twice d n f g mKnown, Draft.member?_twice d n g f nKnown]
          · rcases mKnown with rfl | rfl <;> rcases nKnown with rfl | rfl
            · exact absurd rfl same
            · exact d.member?_url_rules f g
            · exact (d.member?_url_rules g f).symm
            · exact absurd rfl same
        · obtain ⟨url, rules⟩ := not_or.mp nKnown
          simp only [Draft.member?_of_unknown url rules, Option.bind_some, Option.bind_fun_some]
      · obtain ⟨url, rules⟩ := not_or.mp mKnown
        simp only [Draft.member?_of_unknown url rules, Option.bind_some, Option.bind_fun_some]

theorem ofMembers?_perm {members others : List (Option String × Form)}
    (same : members.Perm others) : ofMembers? children members = ofMembers? children others := by
  rw [ofMembers?, ofMembers?, foldlM_perm named?_member?_comm same]

/-- Of a text for the URL and of rules, among members with other names, a job is read if the rules
are. -/
theorem ofMembers?_url_rules {members others : List (Option String × Form)} {url : String}
    {rules : Form}
    (order : members.Perm ((some "url", .string (some url)) :: (some "rules", rules) :: others))
    (unknown : ∀ m ∈ others, ∃ name, m.1 = some name ∧ name ≠ "url" ∧ name ≠ "rules") :
    ofMembers? children members = (children rules).map fun d => ⟨some url, d⟩ := by
  have known : "rules" ≠ "url" := by decide
  let before : Draft := { url := some (some url) }
  have first : named? (Draft.member? children) {} (some "url", .string (some url)) =
      some before := by
    rw [named?, Draft.member?, if_pos rfl]
    rfl
  have second : named? (Draft.member? children) before (some "rules", rules) =
      (children rules).map fun d => { before with rules := some d } := by
    rw [named?, Draft.member?, if_neg known, if_pos rfl]
    rfl
  rw [ofMembers?_perm order, ofMembers?, List.foldlM_cons, first, Option.bind_eq_bind,
    Option.bind_some, List.foldlM_cons, second]
  cases children rules with
  | none => rfl
  | some d =>
    rw [Option.map_some, Option.bind_eq_bind, Option.bind_some, Draft.foldlM_of_unknown unknown]
    rfl

end JobDef

/-! ## Validation -/

namespace Job

open Css.Cache

/-- A text defines a job exactly if it can be read and its rules are valid. -/
theorem ofJson_eq_ok_iff {text : String} {job : Job} :
    ofJson text = .ok job ↔ ∃ d, JobDef.parse text = .ok d ∧ d.rules.Valid ∧
      job = ⟨Text.trimmed? d.url, d.rules.ruleSet⟩ := by
  show (Job.parse RuleDef.knows text).run.run = _ ↔ _
  rw [Job.parse]
  cases JobDef.parse text with
  | error fault => exact iff_of_false throw_ne_ok nofun
  | ok d =>
    simp only [bind_eq_ok_iff, pure_eq_ok_iff, RuleSetDef.validate_eq_ok_iff]
    constructor
    · rintro ⟨_, ⟨valid, rfl⟩, rfl⟩
      exact ⟨d, rfl, valid, rfl⟩
    · rintro ⟨_, same, valid, rfl⟩
      obtain rfl := Except.ok.inj same
      exact ⟨_, ⟨valid, rfl⟩, rfl⟩

theorem answers_ofJsonCached (text : String) : Answers (ofJsonCached text) (ofJson text) := by
  show Agrees (Job.parse compiles text) (Job.parse RuleDef.knows text)
  rw [Job.parse, Job.parse]
  cases JobDef.parse text with
  | error fault => exact agrees_throw _
  | ok d => exact agrees_bind (RuleSetDef.agrees_validate d.rules "") fun _ => agrees_pure _

/-- A job that can be read is refused for the first mistake in its rules, or defined. -/
theorem ofJson_of_parse {text : String} {d : JobDef} (parsed : JobDef.parse text = .ok d) :
    ofJson text = (d.rules.validate RuleDef.knows "").run.run.map
      fun rules => ⟨Text.trimmed? d.url, rules⟩ := by
  show (Job.parse RuleDef.knows text).run.run = _
  rw [Job.parse, parsed]
  dsimp only
  rw [ExceptT.run_bind, Id.run_bind]
  cases (d.rules.validate RuleDef.knows "").run.run <;> rfl

end Job

end PageExtract
