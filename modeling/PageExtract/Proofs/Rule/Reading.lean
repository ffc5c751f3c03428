import PageExtract.Proofs.Json.Found
import PageExtract.Proofs.Json.Taking
import PageExtract.Rule.Definition

/-!
# What definitions are read from

Which definition is read from a text depends on the form that is written in it only, and
`RuleSetDef.ofForm?` tells which one it is (`RuleSetDef.parse_eq_ok_iff`).  It takes no account of
how the form is written, and not of the values of members with unknown names.  A text in which no
form is written has no definition (`RuleSetDef.exists_form_of_parse`).

An object is read member by member.  A member with a known name is an entry for one of the four
members of a definition, and a draft takes one entry for each.
-/

namespace PageExtract

open Json

/-! ## Rules -/

namespace RuleDef

/-- One of the four members of a definition, with its value. -/
inductive Entry where
  | kind (value : Option String)
  | selector (value : String)
  | attributeName (value : Option String)
  | childRules (value : Option RuleSetDef)

/-- A member with the value that a form is for it, if it is one. -/
def Entry.ofForm? (children : Form → Option RuleSetDef) (f : Form) : Member → Option Entry
  | .kind => (f.optional? Form.text?).map .kind
  | .selector => f.text?.map .selector
  | .attributeName => (f.optional? Form.text?).map .attributeName
  | .childRules => (f.optional? children).map .childRules

/-- The member that an entry is for. -/
def Entry.member : Entry → Member
  | .kind _ => .kind
  | .selector _ => .selector
  | .attributeName _ => .attributeName
  | .childRules _ => .childRules

/-- Whether a draft has an entry for a member. -/
def Draft.has (d : Draft) : Member → Bool
  | .kind => d.kind.isSome
  | .selector => d.selector.isSome
  | .attributeName => d.attributeName.isSome
  | .childRules => d.childRules.isSome

/-- A draft with an entry. -/
def Draft.put (d : Draft) : Entry → Draft
  | .kind value => { d with kind := some value }
  | .selector value => { d with selector := some value }
  | .attributeName value => { d with attributeName := some value }
  | .childRules value => { d with childRules := some value }

/-- A draft with one more entry, if it has none for the same member. -/
def Draft.add? (d : Draft) (e : Entry) : Option Draft :=
  if d.has e.member then none else some (d.put e)

/-- A draft with one more member.  A member with an unknown name changes nothing. -/
def Draft.member? (children : Form → Option RuleSetDef) (d : Draft) (name : String) (f : Form) :
    Option Draft :=
  match Member.ofName? name with
  | some member => (Entry.ofForm? children f member).bind d.add?
  | none => some d

/-- The definition that is read from the members of an object. -/
def ofMembers? (children : Form → Option RuleSetDef) (members : List (Option String × Form)) :
    Option RuleDef :=
  (members.foldlM (named? (Draft.member? children)) {}).map Draft.finish

/-- The definition that is read from the items of a list. -/
def ofItems? (children : Form → Option RuleSetDef) (items : List Form) : Option RuleDef := do
  let kind ← Form.first? (Form.optional? Form.text?) items
  let selector ← Form.first? Form.text? items.tail
  let attributeName ← Form.first? (Form.optional? Form.text?) items.tail.tail
  let childRules ← Form.first? (Form.optional? children) items.tail.tail.tail
  let d : Draft := { kind, selector, attributeName, childRules }
  if items.tail.tail.tail.tail.isEmpty then some d.finish else none

/-- An entry is put where there is none. -/
theorem Draft.bind_add? {α : Type} {x? : Option α} {entry : α → Entry} {d : Draft}
    {given : Option α} {put : α → Draft}
    (add : ∀ x, d.add? (entry x) = if given.isSome then none else some (put x)) :
    (x?.map entry).bind d.add? = if given.isSome then none else x?.map put := by
  cases x? with
  | none => cases given <;> rfl
  | some x => rw [Option.map_some, Option.bind_some, add, Option.map_some]

theorem stepTakes_readMember {read : Reader RuleSetDef} {children : Form → Option RuleSetDef}
    (takes : Takes read children) : StepTakes (readMember read) (Draft.member? children) := by
  intro d name f a cs rest written ends after c space
  rw [readMember, Draft.member?]
  cases Member.ofName? name with
  | none =>
    obtain ⟨q, passed⟩ := (passes_colon.eq_ok_iff rfl).mpr space
    obtain ⟨r, skipped⟩ := written.skipValue (c := ⟨a, q⟩) ends after
    exact ⟨r, by dsimp only; rw [passed]; simp only [bind, Except.bind, skipped]; rfl⟩
  | some member =>
    cases member with
    | kind =>
      dsimp only
      rw [Entry.ofForm?, Draft.bind_add? fun _ => rfl]
      exact (takes_optional takes_text).comes_once written ends after space _ _ _
    | selector =>
      dsimp only
      rw [Entry.ofForm?, Draft.bind_add? fun _ => rfl]
      exact takes_text.comes_once written ends after space _ _ _
    | attributeName =>
      dsimp only
      rw [Entry.ofForm?, Draft.bind_add? fun _ => rfl]
      exact (takes_optional takes_text).comes_once written ends after space _ _ _
    | childRules =>
      dsimp only
      rw [Entry.ofForm?, Draft.bind_add? fun _ => rfl]
      exact (takes_optional takes).comes_once written ends after space _ _ _

theorem takesObject_readObject {read : Reader RuleSetDef} {children : Form → Option RuleSetDef}
    (takes : Takes read children) : TakesObject (readObject read) (ofMembers? children) :=
  takesObject_members (stepTakes_readMember takes) {} Draft.finish

theorem takesList_readArray {read : Reader RuleSetDef} {children : Form → Option RuleSetDef}
    (takes : Takes read children) : TakesList (readArray read) (ofItems? children) := by
  intro items c rest parts
  obtain ⟨mid, kind, parts⟩ := (takes_optional takes_text).comes_nextElement parts
  refine kind.bind fun kind q _ => ?_
  obtain ⟨mid, selector, parts⟩ := takes_text.comes_nextElement (c := ⟨_, q⟩) parts
  refine selector.bind fun selector q _ => ?_
  obtain ⟨mid, attributeName, parts⟩ :=
    (takes_optional takes_text).comes_nextElement (c := ⟨_, q⟩) parts
  refine attributeName.bind fun attributeName q _ => ?_
  obtain ⟨mid, childRules, parts⟩ := (takes_optional takes).comes_nextElement (c := ⟨_, q⟩) parts
  refine childRules.bind fun childRules q _ => ?_
  exact comes_closeArray (c := ⟨mid, q⟩) parts _

end RuleDef

/-! ## Rule sets -/

namespace RuleSetDef

/-- The field that is read from a member, if it has a name. -/
def field? (rule : Form → Option RuleDef) (m : Option String × Form) : Option (String × RuleDef) :=
  m.1.bind fun name => (rule m.2).map fun d => (name, d)

/-- The definition that is read from the members of an object. -/
def ofMembers? (rule : Form → Option RuleDef) (members : List (Option String × Form)) :
    Option RuleSetDef :=
  (members.mapM (field? rule)).map RuleSetDef.mk

/-- Fields that have been read, which are backwards, with that of one more member. -/
def addField? (rule : Form → Option RuleDef) (fields : List (String × RuleDef)) (name : String)
    (f : Form) : Option (List (String × RuleDef)) :=
  (rule f).map fun d => (name, d) :: fields

/-- Members that are read one after another are read each for itself. -/
theorem foldlM_addField? (rule : Form → Option RuleDef) (members : List (Option String × Form))
    (done : List (String × RuleDef)) :
    members.foldlM (named? (addField? rule)) done =
      (members.mapM (field? rule)).map fun fields => fields.reverse ++ done := by
  induction members generalizing done with
  | nil => rfl
  | cons m members ih =>
    obtain ⟨name, f⟩ := m
    rw [List.foldlM_cons, List.mapM_cons]
    cases name with
    | none => rfl
    | some name =>
      rw [named?, addField?, field?]
      cases rule f with
      | none => rfl
      | some d =>
        have step (fields : List (String × RuleDef)) :
            ((name, d) :: fields).reverse ++ done = fields.reverse ++ (name, d) :: done := by
          rw [List.reverse_cons, List.append_assoc, List.singleton_append]
        simp only [Option.map_some, Option.bind_eq_bind, Option.bind_some, ih]
        cases members.mapM (field? rule) with
        | none => rfl
        | some fields => exact congrArg some (step fields).symm

theorem takesObject_readFields {read : Reader RuleDef} {rule : Form → Option RuleDef}
    (takes : Takes read rule) : TakesObject (readFields read) (ofMembers? rule) := by
  have inside (members : List (Option String × Form)) :
      (members.foldlM (named? (addField? rule)) []).map (fun fields => .mk fields.reverse) =
        ofMembers? rule members := by
    rw [foldlM_addField?, ofMembers?, Option.map_map]
    refine congrArg (fun make => (members.mapM (field? rule)).map make) (funext fun fields => ?_)
    rw [Function.comp_apply, List.append_nil, List.reverse_reverse]
  have step : StepTakes (fun fields name c => (valueOf read c).map fun answer =>
      ((name, answer.1) :: fields, answer.2)) (addField? rule) := by
    intro fields name f a cs rest written ends after c space
    exact (takes.comes_valueOf written ends after space).map fun d => (name, d) :: fields
  have object := takesObject_members step [] fun fields => RuleSetDef.mk fields.reverse
  simp only [inside] at object
  exact object

end RuleSetDef

/-! ## Levels -/

mutual

/-- The definition of a rule set that is read from a form, with that many levels. -/
def RuleSetDef.ofForm? : Nat → Form → Option RuleSetDef
  | 0 => fun _ => none
  | levels + 1 =>
      Form.inside (RuleSetDef.ofMembers? (RuleDef.ofForm? levels)) fun _ => none

/-- The definition of a rule that is read from a form, with that many levels. -/
def RuleDef.ofForm? : Nat → Form → Option RuleDef
  | 0 => fun _ => none
  | levels + 1 =>
      Form.inside (RuleDef.ofMembers? (RuleSetDef.ofForm? levels))
        (RuleDef.ofItems? (RuleSetDef.ofForm? levels))

end

mutual

theorem RuleSetDef.takes_read : ∀ levels, Takes (RuleSetDef.read levels) (RuleSetDef.ofForm? levels)
  | 0 => takes_inObject_none _
  | levels + 1 => takes_inObject (RuleSetDef.takesObject_readFields (RuleDef.takes_read levels)) _

theorem RuleDef.takes_read : ∀ levels, Takes (RuleDef.read levels) (RuleDef.ofForm? levels)
  | 0 => takes_inStructure_none _
  | levels + 1 =>
    takes_inStructure (RuleDef.takesObject_readObject (RuleSetDef.takes_read levels))
      (RuleDef.takesList_readArray (RuleSetDef.takes_read levels)) _

end

/-! ## Texts that are read -/

theorem RuleDef.stepFinds_readMember {read : Reader RuleSetDef} (finds : Finds read) :
    StepFinds (RuleDef.readMember read) := by
  intro d name c d' e given
  rw [RuleDef.readMember] at given
  cases known : RuleDef.Member.ofName? name with
  | none =>
    simp only [known] at given
    refine exists_written_of_colon (fun c' passed => ?_) given
    obtain ⟨after, skipped, same⟩ := except_bind_eq_ok_iff.mp passed
    cases same
    exact exists_written_of_skipValue skipped
  | some member =>
    simp only [known] at given
    cases member with
    | kind => exact (finds_optional finds_text).exists_written_of_once given
    | selector => exact finds_text.exists_written_of_once given
    | attributeName => exact (finds_optional finds_text).exists_written_of_once given
    | childRules => exact (finds_optional finds).exists_written_of_once given

theorem RuleDef.findsObject_readObject {read : Reader RuleSetDef} (finds : Finds read) :
    FindsObject (RuleDef.readObject read) :=
  findsObject_members (RuleDef.stepFinds_readMember finds) {} RuleDef.Draft.finish

theorem RuleDef.findsList_readArray {read : Reader RuleSetDef} (finds : Finds read) :
    FindsList (RuleDef.readArray read) := by
  intro c d e given
  obtain ⟨⟨kind, c₁⟩, first, given⟩ := except_bind_eq_ok_iff.mp given
  obtain ⟨⟨selector, c₂⟩, second, given⟩ := except_bind_eq_ok_iff.mp given
  obtain ⟨⟨attributeName, c₃⟩, third, given⟩ := except_bind_eq_ok_iff.mp given
  obtain ⟨⟨childRules, c₄⟩, fourth, given⟩ := except_bind_eq_ok_iff.mp given
  obtain ⟨c₅, closed, same⟩ := except_bind_eq_ok_iff.mp given
  cases same
  have parts := (finds_optional finds).parts_of_nextElement fourth (parts_of_closeArray closed)
  have parts := (finds_optional finds_text).parts_of_nextElement third parts
  exact (finds_optional finds_text).parts_of_nextElement first
    (finds_text.parts_of_nextElement second parts)

theorem RuleSetDef.findsObject_readFields {read : Reader RuleDef} (finds : Finds read) :
    FindsObject (RuleSetDef.readFields read) := by
  refine findsObject_members ?_ [] fun fields => RuleSetDef.mk fields.reverse
  intro fields name c fields' d given
  obtain ⟨rule, value, -⟩ := (map_eq_ok_iff (f := fun rule => (name, rule) :: fields)).mp given
  exact finds.exists_written_of_valueOf value

mutual

theorem RuleSetDef.finds_read : ∀ levels, Finds (RuleSetDef.read levels)
  | 0 => finds_inObject_none _
  | levels + 1 => finds_inObject (RuleSetDef.findsObject_readFields (RuleDef.finds_read levels)) _

theorem RuleDef.finds_read : ∀ levels, Finds (RuleDef.read levels)
  | 0 => finds_inStructure_none _
  | levels + 1 =>
    finds_inStructure (RuleDef.findsObject_readObject (RuleSetDef.finds_read levels))
      (RuleDef.findsList_readArray (RuleSetDef.finds_read levels)) _

end

/-- From a text the definition is read that comes of the form that is written in it. -/
theorem RuleSetDef.parse_eq_ok_iff {f : Form} {text : String} (written : f.WrittenIn text)
    {d : RuleSetDef} : RuleSetDef.parse text = .ok d ↔ RuleSetDef.ofForm? maxLevels f = some d :=
  (RuleSetDef.takes_read maxLevels).readAll_eq_ok_iff written

/-- A text from which a definition is read is a JSON text, and its form says which one. -/
theorem RuleSetDef.exists_form_of_parse {text : String} {d : RuleSetDef}
    (parsed : RuleSetDef.parse text = .ok d) :
    ∃ f : Form, f.WrittenIn text ∧ RuleSetDef.ofForm? maxLevels f = some d := by
  obtain ⟨f, written⟩ := (RuleSetDef.finds_read maxLevels).exists_writtenIn parsed
  exact ⟨f, written, (RuleSetDef.parse_eq_ok_iff written).mp parsed⟩

end PageExtract
