import Mathlib.Data.List.Perm.Basic
import PageExtract.Proofs.Job.Reading
import PageExtract.Proofs.Json.Embedding
import PageExtract.Proofs.Rule.Nesting
import PageExtract.Proofs.Rule.Shape

/-!
# Jobs and their rules

The same rules can be given alone or as part of a job.  In a job they stand one level deeper, so
rules that may be read alone but have no level to spare are too deep for a job.  That is the only
difference: the text of a rule set is read in the same way inside the text of a job, and it defines
the same rules or is refused for the same mistake (`Job.ofJsonCached_of_wraps`).

`Job.Wraps` says that a text is that of a job with the text of some rules in it as it is.
-/

namespace PageExtract

open Json

namespace Job

/-- Whether a text is an object with a text for a URL and the text of some rules, in either order
and among members with other names. -/
inductive Wraps (url rules : String) : String → Prop
  | mk {members others : List (String × String)} {spelled text : String}
      (object : IsObjectOf members text) (string : (Form.string (some url)).WrittenIn spelled)
      (order : members.Perm (("url", spelled) :: ("rules", rules) :: others))
      (unknown : ∀ m ∈ others, m.1 ≠ "url" ∧ m.1 ≠ "rules" ∧ ∃ f : Form, f.WrittenIn m.2) :
      Wraps url rules text

variable {url text config : String} {f : Form}

/-- From a text with rules in it the job is read whose rules are read, with one level less. -/
theorem Wraps.parse_eq_ok_iff (h : Wraps url text config) (written : f.WrittenIn text)
    {d : JobDef} : JobDef.parse config = .ok d ↔
      ∃ rules, RuleSetDef.ofForm? (maxLevels - 1) f = some rules ∧ d = ⟨some url, rules⟩ := by
  cases h with
  | @mk members others spelled _ object string order unknown =>
    obtain ⟨extra, holds, passed⟩ : ∃ extra, List.Forall₂ Named.Holds others extra ∧
        ∀ m ∈ extra, ∃ name, m.1 = some name ∧ name ≠ "url" ∧ name ≠ "rules" := by
      clear order object
      induction others with
      | nil => exact ⟨[], .nil, List.forall_mem_nil _⟩
      | cons m others ih =>
        obtain ⟨⟨url, rules, g, written⟩, later⟩ := List.forall_mem_cons.mp unknown
        obtain ⟨extra, holds, passed⟩ := ih later
        exact ⟨(some m.1, g) :: extra, .cons ⟨rfl, written⟩ holds,
          List.forall_mem_cons.mpr ⟨⟨m.1, rfl, url, rules⟩, passed⟩⟩
    have known : List.Forall₂ Named.Holds (("url", spelled) :: ("rules", text) :: others)
        ((some "url", .string (some url)) :: (some "rules", f) :: extra) :=
      .cons ⟨rfl, string⟩ (.cons ⟨rfl, written⟩ holds)
    obtain ⟨forms, holds, order⟩ := List.perm_comp_forall₂ order known
    have whole : (Form.object forms).WrittenIn config := object.writtenIn holds
    rw [JobDef.parse_eq_ok_iff whole, JobDef.ofForm?, Form.inside,
      JobDef.ofMembers?_url_rules order passed, Option.map_eq_some_iff]
    simp only [eq_comm]

/-- Rules that nest no deeper than they may inside a job are what the rules of the job are, or
neither can be read. -/
theorem Wraps.ofJson (wraps : Wraps url text config) (written : f.WrittenIn text)
    (shallow : RuleSetDef.nesting f ≤ maxLevels - 1) :
    Job.ofJson config = (RuleSet.ofJson text).map (fun rules => ⟨Text.trimmed? (some url), rules⟩) ∨
      (∃ fault, RuleSet.ofJson text = .error (.json fault)) ∧
        ∃ fault, Job.ofJson config = .error (.json fault) := by
  cases read : RuleSetDef.parse text with
  | ok d =>
    have deep := (RuleSetDef.parse_eq_ok_iff written).mp read
    have inside := RuleSetDef.ofForm?_of_nesting_le deep shallow
    have read' := (wraps.parse_eq_ok_iff written).mpr ⟨d, inside, rfl⟩
    left
    rw [Job.ofJson_of_parse read', RuleSet.ofJson, RuleSet.parse, read]
    rfl
  | error fault =>
    refine .inr ⟨⟨fault, ?_⟩, ?_⟩
    · rw [RuleSet.ofJson, RuleSet.parse, read]
      rfl
    · cases read' : JobDef.parse config with
      | error fault' =>
        refine ⟨fault', ?_⟩
        rw [Job.ofJson, Job.parse, read']
        rfl
      | ok job =>
        obtain ⟨d, inside, -⟩ := (wraps.parse_eq_ok_iff written).mp read'
        have deep := RuleSetDef.ofForm?_of_nesting_le inside (Nat.le_succ_of_le shallow)
        exact absurd (read.symm.trans ((RuleSetDef.parse_eq_ok_iff written).mpr deep)) error_ne_ok

/-- Rules that nest no deeper than they may inside a job define the same there, and are refused for
the same mistakes. -/
theorem ofJsonCached_of_wraps (written : f.WrittenIn text) (shallow : RuleSetDef.nesting f ≤ 126)
    (wraps : Wraps url text config) {cache cache' : Css.Cache} (sound : cache.Sound)
    (sound' : cache'.Sound) :
    let alone := ((RuleSet.ofJsonCached text).run cache).1
    let job := ((Job.ofJsonCached config).run cache').1
    (∀ rules, alone = .ok rules ↔
      job = .ok ⟨if Text.trim url = "" then none else some (Text.trim url), rules⟩) ∧
      ∀ mistake, (∀ fault, mistake ≠ .json fault) →
        (alone = .error mistake ↔ job = .error mistake) := by
  intro alone job
  have plain : alone = RuleSet.ofJson text := (RuleSet.answers_ofJsonCached text cache sound).1
  have plain' : job = Job.ofJson config := (Job.answers_ofJsonCached config cache' sound').1
  have trimmed : Text.trimmed? (some url) =
      if Text.trim url = "" then none else some (Text.trim url) := by
    simp only [Text.trimmed?, Option.map_some, String.isEmpty_iff]
  rw [plain, plain', ← trimmed]
  rcases wraps.ofJson written shallow with same | ⟨⟨fault, refused⟩, ⟨fault', refused'⟩⟩
  · rw [same]
    cases RuleSet.ofJson text with
    | ok rules => simp [Except.map]
    | error mistake => simp [Except.map]
  · rw [refused, refused']
    refine ⟨fun _ => iff_of_false error_ne_ok error_ne_ok, fun mistake read => ?_⟩
    refine iff_of_false ?_ ?_
    · exact fun same => read fault (Except.error.inj same).symm
    · exact fun same => read fault' (Except.error.inj same).symm

/-- A rule set with a rule for paragraphs, in a job with another member before it and the URL after
it. -/
theorem ofJsonCached_of_wraps_paragraph :
    let text := " \x7b\"a\":\x7b\"kind\":\"text\",\"selector\":\"p\"\x7d\x7d\n"
    let config := "\x7b\"x\":[true] ,\"rules\":" ++ text ++ ",\"url\":\" u\\n\"\x7d"
    Css.Cache.empty.Sound ∧
      ((Job.ofJsonCached config).run .empty).1 = .ok ⟨some "u", ⟨[("a", .text "p")]⟩⟩ := by
  intro text config
  let kind : Option String × Form := (some "kind", .string (some "text"))
  let selector : Option String × Form := (some "selector", .string (some "p"))
  let f : Form := .object [(some "a", .object [kind, selector])]
  have written : f.WrittenIn text := by
    have rule (rest : List Char) : Written (.object [kind, selector]) _ rest :=
      .object (.part (.first .stop) (.quoteChars "kind" (.quoteChars "text" _))
        (.part (.later .stop .stop) (.quoteChars "selector" (.quoteChars "p" _)) (.done .stop)))
    have form : Written f _ ['\n'] :=
      .object (.part (.first .stop) (.quoteChars "a" (rule _)) (.done .stop))
    have writtenIn {cs : List Char} (form : Written f cs ['\n'])
        (same : text.toList.dropWhile isSpace = cs) : f.WrittenIn text :=
      ⟨cs, _, same ▸ .dropWhile _, form, .pass rfl .stop⟩
    exact writtenIn form (by decide)
  have wraps : Wraps " u\n" text config := by
    let spelled := "\" u\\n\""
    have object : IsObjectOf [("x", "[true]"), ("rules", text), ("url", spelled)] config := by
      have blank (rest : List Char) : Space (' ' :: rest) rest := .pass rfl .stop
      have member (name value : String) (rest : List Char) :
          Named Verbatim (some name, value) _ rest := .quoteChars name rfl
      have parts := Parts.part (.first .stop) (member "x" "[true]" _)
        (.part (.later (blank _) .stop) (member "rules" text _)
        (.part (.later .stop .stop) (member "url" spelled ['}']) (.done .stop)))
      have whole {cs : List Char} (parts : Parts (Named Verbatim) true
            [(some "x", "[true]"), (some "rules", text), (some "url", spelled)] cs ['}'])
          (same : config.toList = '{' :: cs) :
          IsObjectOf [("x", "[true]"), ("rules", text), ("url", spelled)] config :=
        ⟨cs, [], same ▸ .stop, parts, .stop⟩
      exact whole parts (by decide)
    have string : (Form.string (some " u\n")).WrittenIn spelled :=
      (Written.quoteChars " u\n" []).writtenIn (by decide)
    have order : List.Perm [("x", "[true]"), ("rules", text), ("url", spelled)]
        [("url", spelled), ("rules", text), ("x", "[true]")] := by decide
    have list : (Form.list [.boolean true]).WrittenIn "[true]" :=
      (Written.list (.part (.first .stop) .yes (.done .stop))).writtenIn rfl
    exact .mk object string order
      (List.forall_mem_singleton.mpr ⟨by decide, by decide, _, list⟩)
  have read : RuleSetDef.ofForm? maxLevels f = some (.mk [("a", .mk (some "text") "p" none none)]) :=
    rfl
  have valid : (RuleSetDef.mk [("a", .mk (some "text") "p" none none)]).Valid :=
    .mk (by decide) (List.forall_mem_singleton.mpr
      (.text (by decide +kernel) ⟨by decide, by decide +kernel⟩))
  have fresh := Css.Cache.sound_empty
  have alone := RuleSet.ofJsonCached_eq_ok written read valid fresh
  have job := ((ofJsonCached_of_wraps written (by decide +kernel) wraps fresh fresh).1 _).mp alone
  refine ⟨fresh, job.trans ?_⟩
  decide +kernel

end Job

end PageExtract
