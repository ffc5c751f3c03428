import PageExtract.Proofs.CommandLine.Course
import PageExtract.Proofs.Folder

/-!
# What a run sends and delivers

A run sends a request only when all that can fail without one has gone well
(`run_delivers`).  A run that fails has delivered nothing and touched no file.  It goes
well exactly if the text that it extracts has been delivered, and that text is the same
wherever it is to go.

That a file holds the text after a run that went well is a matter of folders: what was
written can be read.  The converse is one too: a file that holds the text already can be
written, so a run does not fail over it.
-/

namespace PageExtract.CommandLine

variable {args : Arguments} {world : World}

/-! ## When something is asked -/

theorem Arguments.Asks.spelled_out {client : Client} {url : String} {rules : RuleSet}
    (asks : args.Asks world client url rules) :
    ∃ text d, world.readText args.config = .ok text ∧ JobDef.parse text = .ok d ∧
      d.rules.Valid ∧ args.html = none ∧
      (args.url = some url ∨ args.url = none ∧
        ∃ written, d.url = some written ∧ Text.trim written = url ∧ url ≠ "") := by
  obtain ⟨job, ⟨text, found, defined⟩, somewhere, -⟩ := asks.loads
  obtain ⟨d, written, valid, rfl⟩ := Job.ofJson_eq_ok_iff.mp defined
  refine ⟨text, d, found, written, valid, asks.unnamed, ?_⟩
  cases given : args.url with
  | some other =>
    rw [given] at somewhere
    exact .inl somewhere
  | none =>
    rw [given] at somewhere
    exact .inr ⟨rfl, Text.trimmed?_eq_some_iff.mp somewhere⟩

/-- A run that has sent something was to fetch a document. -/
theorem Arguments.Extracts.asks {extracted : Except RunFault Record} {requests : List Request}
    (h : args.Extracts world (extracted, requests)) (sent : requests ≠ []) :
    ∃ client url rules, args.Asks world client url rules ∧
      requests = (world.fetch client url).requests := by
  cases h with
  | unready => exact absurd rfl sent
  | read => exact absurd rfl sent
  | fetched asks => exact ⟨_, _, _, asks, rfl⟩
  | refused asks => exact ⟨_, _, _, asks, rfl⟩
  | absorbed asks => exact ⟨_, _, _, asks, rfl⟩

/-! ## What is delivered -/

/-- Whether a run extracts a text. -/
def Arguments.Serves (args : Arguments) (world : World) (text : String) : Prop :=
  ∃ record requests, args.Extracts world (.ok record, requests) ∧ args.write record = text

/-- Whether a text has been delivered, to a file or to the output with a line end after it. -/
def Result.Delivered (result : Result) (text : String) : Option String → Prop
  | none => result.output = text ++ "\n"
  | some path =>
    result.output = "" ∧ result.files.read path = .ok (Charset.Utf8.encode text.toList)

theorem Arguments.Serves.unique {text text' : String} (h : args.Serves world text)
    (h' : args.Serves world text') : text = text' := by
  obtain ⟨record, requests, extracts, rfl⟩ := h
  obtain ⟨record', requests', extracts', rfl⟩ := h'
  obtain ⟨same, -⟩ := Prod.mk.inj (extracts.unique extracts')
  rw [Except.ok.inj same]

theorem Arguments.Serves.with_output {text : String} (h : args.Serves world text)
    (output : Option String) : { args with output }.Serves world text := by
  obtain ⟨record, requests, extracts, written⟩ := h
  exact ⟨record, requests, extracts.with_output output, written⟩

variable {files : Folder} {network : Network} {resolve : Resolver} {detect : Charset.Detector}
  {line : List String}

/-- A run either serves a text and delivers it, or reports why there is none and does nothing
else. -/
theorem run_serves_or_fails (files : Folder) (network : Network) (resolve : Resolver)
    (detect : Charset.Detector) (accepted : Arguments.parse line = .ok args) :
    (∃ text requests, args.Serves ⟨files.readText, network, resolve, detect⟩ text ∧
      run files network resolve line detect = args.deliver files requests (.ok text)) ∨
    ∃ fault requests, (∀ text, ¬ args.Serves ⟨files.readText, network, resolve, detect⟩ text) ∧
      run files network resolve line detect =
        ⟨1, "", ["error: " ++ RunFault.message fault], args.timing, files, requests⟩ := by
  obtain ⟨⟨extracted, requests⟩, extracts⟩ :=
    args.exists_extracts ⟨files.readText, network, resolve, detect⟩
  have ran := extracts.run accepted
  cases extracted with
  | ok record => exact .inl ⟨_, requests, ⟨record, requests, extracts, rfl⟩, ran⟩
  | error fault =>
    refine .inr ⟨fault, requests, ?_, ran⟩
    rintro text ⟨record, requests', extracts', -⟩
    exact nomatch (Prod.mk.inj (extracts.unique extracts')).1

/-- Delivering goes well exactly if the text has been delivered. -/
theorem exitCode_deliver_eq_zero_iff (args : Arguments) (files : Folder)
    (requests : List Request) (text : String) :
    (args.deliver files requests (.ok text)).exitCode = 0 ↔
      (args.deliver files requests (.ok text)).Delivered text args.output := by
  cases named : args.output with
  | none =>
    rw [Arguments.deliver_printed named]
    exact iff_of_true rfl rfl
  | some path =>
    cases h : files.write path (Charset.Utf8.encode text.toList) with
    | ok written =>
      rw [Arguments.deliver_written named h]
      exact iff_of_true rfl ⟨rfl, Folder.read_of_write h⟩
    | error fault =>
      rw [Arguments.deliver_unwritten named h]
      refine iff_of_false nofun ?_
      rintro ⟨-, held⟩
      obtain ⟨written, h'⟩ := Folder.exists_write_of_read held (Charset.Utf8.encode text.toList)
      exact nomatch h.symm.trans h'

theorem exitCode_run_eq_zero_iff (accepted : Arguments.parse line = .ok args) :
    (run files network resolve line detect).exitCode = 0 ↔
      ∃ text, args.Serves ⟨files.readText, network, resolve, detect⟩ text ∧
        (run files network resolve line detect).Delivered text args.output := by
  obtain ⟨text, requests, serves, ran⟩ | ⟨fault, requests, none, ran⟩ :=
    run_serves_or_fails files network resolve detect accepted
  · rw [ran, exitCode_deliver_eq_zero_iff]
    constructor
    · exact fun delivered => ⟨text, serves, delivered⟩
    · rintro ⟨text', serves', delivered⟩
      obtain rfl := serves.unique serves'
      exact delivered
  · rw [ran]
    exact iff_of_false nofun fun ⟨text, serves, _⟩ => none text serves

/-- For each accepted line: a request is sent only if the job was loaded with valid rules, no
document was given and a URL was.  If the job, the document, the URL or the client cannot be had, or
if the document cannot be fetched and that matters, the exit code is one, nothing is put out and no
file is touched.  The same goes for a run that fails otherwise.  The exit code is zero exactly if
the text that is served has been delivered, and that text does not depend on where it goes. -/
theorem run_delivers (files : Folder) (network : Network) (resolve : Resolver)
    (detect : Charset.Detector) {line : List String} {args : Arguments}
    (accepted : Arguments.parse line = .ok args) :
    let world : World := ⟨files.readText, network, resolve, detect⟩
    let result := run files network resolve line detect
    (result.requests ≠ [] → ∃ text d client url,
      files.readText args.config = .ok text ∧ JobDef.parse text = .ok d ∧ d.rules.Valid ∧
      args.html = none ∧
      (args.url = some url ∨ args.url = none ∧
        ∃ written, d.url = some written ∧ Text.trim written = url ∧ url ≠ "") ∧
      Client.build args.clientOptions = .ok client ∧
      result.requests = (world.fetch client url).requests) ∧
    (∀ fault, args.Unready world fault →
      result = ⟨1, "", ["error: " ++ fault.message], args.timing, files, []⟩) ∧
    (∀ client url rules f, args.Asks world client url rules →
      (world.fetch client url).result = .error f → args.strict = true →
      result = ⟨1, "", ["error: " ++ f.chain], args.timing, files,
        (world.fetch client url).requests⟩) ∧
    (result.exitCode ≠ 0 →
      result.exitCode = 1 ∧ result.output = "" ∧ result.files = files) ∧
    (∀ text text', args.Serves world text → args.Serves world text' → text = text') ∧
    ∀ output line', Arguments.parse line' = .ok { args with output } →
      ((run files network resolve line' detect).exitCode = 0 ↔ ∃ text, args.Serves world text ∧
        (run files network resolve line' detect).Delivered text output) := by
  intro world result
  refine ⟨?_, fun fault => run_of_unready accepted, ?_, ?_,
    fun text text' serves serves' => serves.unique serves', ?_⟩
  · intro sent
    obtain ⟨⟨extracted, requests⟩, extracts⟩ := args.exists_extracts world
    have same : result.requests = requests := by
      show (run files network resolve line detect).requests = requests
      rw [extracts.run accepted]
      exact Arguments.requests_deliver _ _ _ _
    obtain ⟨client, url, rules, asks, fetched⟩ := extracts.asks (same ▸ sent)
    obtain ⟨text, d, found, written, valid, unnamed, somewhere⟩ := asks.spelled_out
    exact ⟨text, d, client, url, found, written, valid, unnamed, somewhere, asks.built,
      same.trans fetched⟩
  · intro client url rules f asks failed strict
    exact run_of_refused accepted strict asks failed
  · intro bad
    obtain ⟨text, requests, -, ran⟩ | ⟨fault, requests, -, ran⟩ :=
      run_serves_or_fails files network resolve detect accepted
    · obtain well | ⟨path, fault, named, h⟩ := args.exitCode_deliver files requests text
      · exact absurd ((congrArg Result.exitCode ran).trans well) bad
      · rw [Arguments.deliver_unwritten named h] at ran
        exact ⟨congrArg Result.exitCode ran, congrArg Result.output ran,
          congrArg Result.files ran⟩
    · exact ⟨congrArg Result.exitCode ran, congrArg Result.output ran,
        congrArg Result.files ran⟩
  · intro output line' accepted'
    rw [exitCode_run_eq_zero_iff accepted']
    constructor
    · rintro ⟨text, serves, delivered⟩
      exact ⟨text, serves.with_output args.output, delivered⟩
    · rintro ⟨text, serves, delivered⟩
      exact ⟨text, serves.with_output output, delivered⟩

/-- A document from a file, delivered to another file, and one that is not there. -/
theorem run_delivers_document :
    let job := "\x7b\"rules\":\x7b\"t\":\x7b\"kind\":\"text\",\"selector\":\"h1\"\x7d\x7d\x7d"
    let files : Folder := ⟨[(["c"], .file (Charset.Utf8.encode job.toList)),
      (["p"], .file (Charset.Utf8.encode "<h1>x".toList))]⟩
    let network : Network := ⟨fun _ _ => .failed⟩
    let result := run files network .alone ["-cc", "--html=p", "-oo"]
    result.requests = [] ∧ result.output = "" ∧ result.files.read "o" =
      .ok (Charset.Utf8.encode "\x7b\n  \"t\": \"x\"\n\x7d".toList) ∧
      run files network .alone ["-cc", "--html=q"] =
        ⟨1, "", ["error: reading q: No such file or directory (os error 2)"], false, files, []⟩ := by
  intro job files network result
  let world : World := ⟨files.readText, network, .alone, .plain⟩
  let args : Arguments := { config := "c", html := some "p", output := some "o" }
  let missing : Arguments := { config := "c", html := some "q" }
  let rules : RuleSet := ⟨[("t", .text "h1")]⟩
  have accepted : Arguments.parse ["-cc", "--html=p", "-oo"] = .ok args :=
    toOption_eq_some_iff.mp (by decide +kernel)
  have accepted' : Arguments.parse ["-cc", "--html=q"] = .ok missing :=
    toOption_eq_some_iff.mp (by decide +kernel)
  have defined : ∃ text, files.readText "c" = .ok text ∧ Job.ofJson text = .ok ⟨none, rules⟩ :=
    ⟨job, toOption_eq_some_iff.mp (by decide +kernel),
      toOption_eq_some_iff.mp (by decide +kernel)⟩
  have loads : args.Loads world ⟨none, rules⟩ := defined
  have loads' : missing.Loads world ⟨none, rules⟩ := defined
  have document : files.readText "p" = .ok "<h1>x" := toOption_eq_some_iff.mp (by decide +kernel)
  have nothing : files.readText "q" = .error .missing := rfl
  have served : args.Serves world "\x7b\n  \"t\": \"x\"\n\x7d" :=
    ⟨_, [], .read loads rfl document, by decide +kernel⟩
  have well : result.exitCode = 0 := by decide +kernel
  obtain ⟨asked, -, -, -, same, delivers⟩ := run_delivers files network .alone .plain accepted
  obtain ⟨-, unready, -⟩ := run_delivers files network .alone .plain accepted'
  obtain ⟨text, serves, printed, written⟩ := (delivers (some "o") _ accepted).mp well
  obtain rfl := same _ _ serves served
  refine ⟨?_, printed, written, unready _ (.noDocument loads' rfl nothing)⟩
  refine Decidable.of_not_not fun sent => ?_
  obtain ⟨_, _, _, _, -, -, -, unnamed, -⟩ := asked sent
  exact nomatch unnamed

end PageExtract.CommandLine
