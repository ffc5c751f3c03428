import PageExtract.Proofs.Rule.Spelling

/-!
# Shapes of rule sets

A rule set is written as an object.  The value of each of its members is a rule, and so is that of
each member of the child rules of a rule, unless these are null.

A rule is written as an object.  But a list of at most four values is a rule as well: its kind, its
selector, the name of its attribute and its child rules, without the values at its end.  So a rule
is never a string, a number, a truth value or null, and whether all rules of a text are objects is
a matter of the lists in it only.

`RuleSetDef.Shaped` says this of a form, with lists or without them, and `RuleSetDef.HasList` that
some rule in it is a list, at any depth.  The form of a text that is accepted is shaped with lists
(`RuleSetDef.shaped_of_ofForm?`), since an object is read only if each of its members is.
-/

namespace PageExtract

open Json

/-! ## Shapes -/

mutual

/-- Whether a form is an object whose members are rules.  `lists` tells whether rules may be
lists. -/
inductive RuleSetDef.Shaped (lists : Bool) : Form → Prop where
  /-- Each member is a rule. -/
  | object {members : List (Option String × Form)}
      (rules : ∀ m ∈ members, RuleDef.Shaped lists m.2) : RuleSetDef.Shaped lists (.object members)

/-- Whether a form is a rule. -/
inductive RuleDef.Shaped (lists : Bool) : Form → Prop where
  /-- An object is one, if its child rules are null or a rule set. -/
  | object {members : List (Option String × Form)}
      (children : ∀ m ∈ members, ∀ name ∈ RuleDef.Member.childRules.names, m.1 = some name →
        m.2 ≠ .null → RuleSetDef.Shaped lists m.2) : RuleDef.Shaped lists (.object members)
  /-- A list of at most four values is one, if the fourth is null or a rule set. -/
  | list {items : List Form} (allowed : lists = true) (few : items.length ≤ 4)
      (children : ∀ f, items[3]? = some f → f ≠ .null → RuleSetDef.Shaped lists f) :
      RuleDef.Shaped lists (.list items)

end

mutual

/-- Whether a rule of a rule set is a list, or one of their child rules is. -/
inductive RuleSetDef.HasList : Form → Prop where
  /-- There is a list in one of the rules. -/
  | field {members : List (Option String × Form)} {m : Option String × Form}
      (mem : m ∈ members) (inside : RuleDef.HasList m.2) : RuleSetDef.HasList (.object members)

/-- Whether a rule is a list, or one of its child rules is. -/
inductive RuleDef.HasList : Form → Prop where
  /-- The rule is a list. -/
  | list {items : List Form} : RuleDef.HasList (.list items)
  /-- There is a list in the child rules. -/
  | children {members : List (Option String × Form)} {m : Option String × Form} {name : String}
      (mem : m ∈ members) (known : name ∈ RuleDef.Member.childRules.names)
      (named : m.1 = some name) (inside : RuleSetDef.HasList m.2) :
      RuleDef.HasList (.object members)

end

mutual

theorem RuleSetDef.HasList.not_shaped : ∀ {f : Form}, RuleSetDef.HasList f →
    ¬ RuleSetDef.Shaped false f
  | _, .field mem inside, .object rules => RuleDef.HasList.not_shaped inside (rules _ mem)

theorem RuleDef.HasList.not_shaped : ∀ {f : Form}, RuleDef.HasList f → ¬ RuleDef.Shaped false f
  | _, .list, .list allowed _ _ => nomatch allowed
  | _, .children mem known named inside, .object rules => by
    refine RuleSetDef.HasList.not_shaped inside (rules _ mem _ known named ?_)
    rintro null
    rw [null] at inside
    cases inside

end

mutual

/-- Without lists in it, a form that is shaped with lists is shaped without them. -/
theorem RuleSetDef.Shaped.of_not_hasList : ∀ {f : Form}, RuleSetDef.Shaped true f →
    ¬ RuleSetDef.HasList f → RuleSetDef.Shaped false f
  | _, .object rules, without =>
    .object fun m mem => RuleDef.Shaped.of_not_hasList (rules m mem) fun inside =>
      without (.field mem inside)

theorem RuleDef.Shaped.of_not_hasList : ∀ {f : Form}, RuleDef.Shaped true f →
    ¬ RuleDef.HasList f → RuleDef.Shaped false f
  | _, .object children, without =>
    .object fun m mem name known named filled =>
      RuleSetDef.Shaped.of_not_hasList (children m mem name known named filled) fun inside =>
        without (.children mem known named inside)
  | _, .list _ _ _, without => absurd .list without

end

/-! ## Forms that are read -/

/-- Where members are read one after another, each of them is read. -/
theorem exists_put_of_foldlM {α σ : Type} {put : σ → α → Option σ} {xs : List α} {s s' : σ}
    (h : xs.foldlM put s = some s') : ∀ x ∈ xs, ∃ t t', put t x = some t' := by
  induction xs generalizing s with
  | nil => exact fun x mem => absurd mem List.not_mem_nil
  | cons first rest ih =>
    rw [List.foldlM_cons] at h
    obtain ⟨t, taken, h⟩ := Option.bind_eq_some_iff.mp h
    exact List.forall_mem_cons.mpr ⟨⟨s, t, taken⟩, ih h⟩

/-- Where a list of values is given, each member has one, and each value is one of a member. -/
theorem exists_of_mapM {α β : Type} {value : α → Option β} {xs : List α} {ys : List β}
    (h : xs.mapM value = some ys) :
    (∀ x ∈ xs, ∃ y, value x = some y) ∧ ∀ y ∈ ys, ∃ x, value x = some y := by
  induction xs generalizing ys with
  | nil =>
    cases h
    exact ⟨List.forall_mem_nil _, List.forall_mem_nil _⟩
  | cons first rest ih =>
    rw [List.mapM_cons] at h
    obtain ⟨y, here, h⟩ := Option.bind_eq_some_iff.mp h
    obtain ⟨zs, later, same⟩ := Option.bind_eq_some_iff.mp h
    cases same
    obtain ⟨given, come⟩ := ih later
    exact ⟨List.forall_mem_cons.mpr ⟨⟨y, here⟩, given⟩,
      List.forall_mem_cons.mpr ⟨⟨first, here⟩, come⟩⟩

namespace RuleDef

variable {children : Form → Option RuleSetDef} {d : RuleDef}

/-- Child rules are read from the members of a rule that have one of their names. -/
theorem exists_children_of_ofMembers? {members : List (Option String × Form)}
    (read : ofMembers? children members = some d) :
    ∀ m ∈ members, ∀ name ∈ Member.childRules.names, m.1 = some name →
      m.2 ≠ .null → ∃ inner, children m.2 = some inner := by
  intro m mem name known named filled
  obtain ⟨draft, taken, -⟩ := Option.map_eq_some_iff.mp read
  obtain ⟨before, after, put⟩ := exists_put_of_foldlM taken m mem
  obtain ⟨_, f⟩ := m
  obtain rfl : _ = some name := named
  rw [named?, Draft.member?_of_mem known] at put
  obtain ⟨e, entry, -⟩ := Option.bind_eq_some_iff.mp put
  obtain ⟨value, given, -⟩ := Option.map_eq_some_iff.mp entry
  obtain ⟨inner, read, -⟩ := Form.exists_of_optional? filled given
  exact ⟨inner, read⟩

/-- A list that is read as a rule has at most four values, and its child rules are read from the
fourth. -/
theorem fourth_of_ofItems? {items : List Form} {kind attributeName : Option String}
    {selector : String} {childRules : Option RuleSetDef}
    (read : ofItems? children items = some (.mk kind selector attributeName childRules)) :
    items.length ≤ 4 ∧ ∃ fourth, Form.first? (Form.optional? children) items.tail.tail.tail =
      some fourth ∧ fourth.getD none = childRules := by
  obtain ⟨_, -, read⟩ := Option.bind_eq_some_iff.mp read
  obtain ⟨_, -, read⟩ := Option.bind_eq_some_iff.mp read
  obtain ⟨_, -, read⟩ := Option.bind_eq_some_iff.mp read
  obtain ⟨fourth, given, read⟩ := Option.bind_eq_some_iff.mp read
  split at read
  next none =>
    refine ⟨?_, fourth, given, by injection Option.some.inj read⟩
    have length := congrArg List.length (List.isEmpty_iff.mp none)
    simp only [List.length_tail, List.length_nil] at length
    omega
  next => exact nomatch read

theorem exists_children_of_ofItems? {items : List Form}
    (read : ofItems? children items = some d) :
    items.length ≤ 4 ∧ ∀ f, items[3]? = some f → f ≠ .null → ∃ inner, children f = some inner := by
  cases d with
  | mk =>
    obtain ⟨few, fourth, given, -⟩ := fourth_of_ofItems? read
    refine ⟨few, fun f here filled => ?_⟩
    have start : items.tail.tail.tail.head? = some f := by
      simpa [List.head?_eq_getElem?, List.getElem?_tail] using here
    obtain ⟨after, same⟩ := List.head?_eq_some_iff.mp start
    rw [same] at given
    obtain ⟨value, given, -⟩ := Option.map_eq_some_iff.mp given
    obtain ⟨inner, read, -⟩ := Form.exists_of_optional? filled given
    exact ⟨inner, read⟩

end RuleDef

mutual

/-- A form that is read as a rule set is shaped like one. -/
theorem RuleSetDef.shaped_of_ofForm? : ∀ {levels : Nat} {f : Form} {d : RuleSetDef},
    RuleSetDef.ofForm? levels f = some d → RuleSetDef.Shaped true f
  | levels + 1, .object members, d, read => by
    obtain ⟨fields, taken, -⟩ := Option.map_eq_some_iff.mp read
    refine .object fun m mem => ?_
    obtain ⟨field, given⟩ := (exists_of_mapM taken).1 m mem
    obtain ⟨name, -, given⟩ := Option.bind_eq_some_iff.mp given
    obtain ⟨rule, given, -⟩ := Option.map_eq_some_iff.mp given
    exact RuleDef.shaped_of_ofForm? given

/-- A form that is read as a rule is shaped like one. -/
theorem RuleDef.shaped_of_ofForm? : ∀ {levels : Nat} {f : Form} {d : RuleDef},
    RuleDef.ofForm? levels f = some d → RuleDef.Shaped true f
  | levels + 1, .object members, d, read =>
    .object fun m mem name known named filled => by
      obtain ⟨inner, given⟩ :=
        RuleDef.exists_children_of_ofMembers? read m mem name known named filled
      exact RuleSetDef.shaped_of_ofForm? given
  | levels + 1, .list items, d, read => by
    obtain ⟨few, children⟩ := RuleDef.exists_children_of_ofItems? read
    refine .list rfl few fun f here filled => ?_
    obtain ⟨inner, given⟩ := children f here filled
    exact RuleSetDef.shaped_of_ofForm? given

end

/-! ## Texts -/

/-- A text is accepted exactly if it is that of a valid definition. -/
theorem RuleSet.ofJson_eq_ok_iff {text : String} {rules : RuleSet} :
    RuleSet.ofJson text = .ok rules ↔
      ∃ d, RuleSetDef.parse text = .ok d ∧ d.Valid ∧ rules = d.ruleSet := by
  rw [RuleSet.ofJson, RuleSet.parse]
  cases RuleSetDef.parse text with
  | error fault =>
    refine iff_of_false error_ne_ok ?_
    rintro ⟨_, read, -⟩
    exact error_ne_ok read
  | ok d =>
    constructor
    · exact fun accepted => ⟨d, rfl, (RuleSetDef.validate_eq_ok_iff d "" rules).mp accepted⟩
    · rintro ⟨_, same, accepted⟩
      cases same
      exact (RuleSetDef.validate_eq_ok_iff d "" rules).mpr accepted

/-- A form that is read as a valid definition makes its text accepted, whatever a sound cache
holds. -/
theorem RuleSet.ofJsonCached_eq_ok {f : Form} {text : String} (written : f.WrittenIn text)
    {d : RuleSetDef} (read : RuleSetDef.ofForm? maxLevels f = some d) (valid : d.Valid)
    {cache : Css.Cache} (sound : cache.Sound) :
    ((RuleSet.ofJsonCached text).run cache).1 = .ok d.ruleSet := by
  rw [(RuleSet.answers_ofJsonCached text cache sound).1]
  exact RuleSet.ofJson_eq_ok_iff.mpr
    ⟨d, (RuleSetDef.parse_eq_ok_iff written).mpr read, valid, rfl⟩

/-- Whatever a sound cache holds: a text that is accepted is an object, and each rule in it, at any
depth, is an object or a list of at most four values.  All of them are objects exactly if none is
a list.  A text of any other shape is refused without being validated. -/
theorem RuleSet.shaped_ofJsonCached (text : String) {cache : Css.Cache} (sound : cache.Sound) :
    let answer := ((RuleSet.ofJsonCached text).run cache).1
    (∀ rules, answer = .ok rules → (∃ f : Form, f.WrittenIn text) ∧
      ∀ f : Form, f.WrittenIn text → RuleSetDef.Shaped true f ∧
        (RuleSetDef.Shaped false f ↔ ¬ RuleSetDef.HasList f)) ∧
    ((∀ f : Form, f.WrittenIn text → ¬ RuleSetDef.Shaped true f) →
      ∃ fault, answer = .error (.json fault)) := by
  intro answer
  have plain : answer = RuleSet.ofJson text := (RuleSet.answers_ofJsonCached text cache sound).1
  rw [plain]
  refine ⟨fun rules accepted => ?_, fun unshaped => ?_⟩
  · obtain ⟨d, parsed, -⟩ := RuleSet.ofJson_eq_ok_iff.mp accepted
    obtain ⟨f, written, -⟩ := RuleSetDef.exists_form_of_parse parsed
    refine ⟨⟨f, written⟩, fun g written => ?_⟩
    have shaped := RuleSetDef.shaped_of_ofForm? ((RuleSetDef.parse_eq_ok_iff written).mp parsed)
    exact ⟨shaped, fun objects inside => inside.not_shaped objects, shaped.of_not_hasList⟩
  · rw [RuleSet.ofJson, RuleSet.parse]
    cases parsed : RuleSetDef.parse text with
    | error fault => exact ⟨fault, rfl⟩
    | ok d =>
      obtain ⟨f, written, read⟩ := RuleSetDef.exists_form_of_parse parsed
      exact absurd (RuleSetDef.shaped_of_ofForm? read) (unshaped f written)

/-- A rule that is an object, whose child rules are an object too. -/
theorem RuleSet.shaped_ofJsonCached_paragraph :
    let text := "\x7b\"a\":\x7b\"type\":\"list\",\"selector\":\"p\",\"itemRules\":\x7b\x7d\x7d\x7d"
    Css.Cache.empty.Sound ∧
      ((RuleSet.ofJsonCached text).run .empty).1 = .ok ⟨[("a", .list "p" ⟨[]⟩)]⟩ ∧
      ∃ f : Form, f.WrittenIn text ∧ RuleSetDef.Shaped false f := by
  intro text
  have fresh := Css.Cache.sound_empty
  let rule : Form := .object [(some "type", .string (some "list")),
    (some "selector", .string (some "p")), (some "itemRules", .object [])]
  have inside (rest : List Char) : Written rule _ rest :=
    .object (.part (.first .stop) (.quoteChars "type" (.quoteChars "list" _))
      (.part (.later .stop .stop) (.quoteChars "selector" (.quoteChars "p" _))
        (.part (.later .stop .stop) (.quoteChars "itemRules" (.object (.done .stop)))
          (.done .stop))))
  have form : Written (.object [(some "a", rule)]) _ [] :=
    .object (.part (.first .stop) (.quoteChars "a" (inside _)) (.done .stop))
  have written : Form.WrittenIn _ text := form.writtenIn (by decide)
  let d : RuleSetDef := .mk [("a", .mk (some "list") "p" none (some (.mk [])))]
  have valid : d.Valid := .mk (by decide) (List.forall_mem_singleton.mpr
    (.list (by decide +kernel) ⟨by decide, by decide +kernel⟩
      (.mk (by decide) (List.forall_mem_nil _))))
  have accepted := RuleSet.ofJsonCached_eq_ok written (d := d) rfl valid fresh
  have shapes := ((RuleSet.shaped_ofJsonCached text fresh).1 _ accepted).2 _ written
  have without : ¬ RuleSetDef.HasList (.object [(some "a", rule)]) := by
    rintro (⟨mem, inside⟩)
    obtain rfl := List.mem_singleton.mp mem
    cases inside with
    | children mem _ _ inside =>
      simp only [List.mem_cons, List.not_mem_nil, or_false] at mem
      rcases mem with rfl | rfl | rfl
      · cases inside
      · cases inside
      · cases inside with
        | field mem => cases mem
  exact ⟨fresh, accepted.trans (congrArg _ (by decide +kernel)), _, written, shapes.2.mpr without⟩

/-- A rule that is a list is accepted. -/
theorem RuleSet.ofJsonCached_of_list :
    let text := "\x7b\"a\":[\"text\",\"p\"]\x7d"
    ((RuleSet.ofJsonCached text).run .empty).1 = .ok ⟨[("a", .text "p")]⟩ ∧
      ∃ f : Form, f.WrittenIn text ∧ ¬ RuleSetDef.Shaped false f := by
  intro text
  let rule : Form := .list [.string (some "text"), .string (some "p")]
  have items (rest : List Char) : Written rule _ rest :=
    .list (.part (.first .stop) (.quoteChars "text" _)
      (.part (.later .stop .stop) (.quoteChars "p" _) (.done .stop)))
  have form : Written (.object [(some "a", rule)]) _ [] :=
    .object (.part (.first .stop) (.quoteChars "a" (items _)) (.done .stop))
  have written : Form.WrittenIn _ text := form.writtenIn (by decide)
  let d : RuleSetDef := .mk [("a", .mk (some "text") "p" none none)]
  have valid : d.Valid := .mk (by decide) (List.forall_mem_singleton.mpr
    (.text (by decide +kernel) ⟨by decide, by decide +kernel⟩))
  have accepted := RuleSet.ofJsonCached_eq_ok written (d := d) rfl valid Css.Cache.sound_empty
  exact ⟨accepted.trans (congrArg _ (by decide +kernel)), _, written,
    (RuleSetDef.HasList.field (.head _) .list).not_shaped⟩

end PageExtract
