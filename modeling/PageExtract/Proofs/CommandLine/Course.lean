import PageExtract.CommandLine.Run
import PageExtract.Proofs.Client
import PageExtract.Proofs.Extraction.Plain
import PageExtract.Proofs.Job.Reading

/-!
# The course of a run

Before it delivers anything, a run of the program loads a job, gets a document and
extracts a record.  `Arguments.Extracts` tells how this may go, with one rule for each
way.  The first five ways end before anything is asked of the network, and they are told
apart by `Arguments.Unready`.

A rule knows nothing of caches: the cache of a run is empty at first and stays sound, so
it makes no difference.  Each run takes one of these ways (`Arguments.exists_extracts`) and no
other (`Arguments.Extracts.unique`), and then it delivers what it has extracted
(`Arguments.Extracts.run`).
-/

namespace PageExtract

open Css.Cache

/-! ## Loading -/

namespace Job

variable {readText : TextReader} {path : String}

theorem answers_load_of_error {fault : FileFault} (lacks : readText path = .error fault) :
    Answers (Job.load readText path) (.error (.ofFile path "Load" fault)) := by
  rw [Job.load, lacks]
  exact answers_pure _

theorem answers_load_of_ok {text : String} (found : readText path = .ok text) :
    Answers (Job.load readText path) ((ofJson text).mapError (.ofRules path "Load")) := by
  rw [Job.load, found]
  exact answers_bind (answers_ofJsonCached text) (answers_pure _)

end Job

namespace CommandLine

/-! ## How a run may go -/

/-- What a client gets from the network. -/
def World.fetch (world : World) (client : Client) (url : String) : Outcome Fetched :=
  PageExtract.fetch world.network world.resolve client.http client.fetchOptions url

namespace Arguments

/-- Whether a job is in the file that is named for it. -/
def Loads (args : Arguments) (world : World) (job : Job) : Prop :=
  ∃ text, world.readText args.config = .ok text ∧ Job.ofJson text = .ok job

/-- Whether a client is to fetch the document at a URL and some rules are for it. -/
structure Asks (args : Arguments) (world : World) (client : Client) (url : String)
    (rules : RuleSet) : Prop where
  loads : ∃ job, args.Loads world job ∧ args.url.or job.url = some url ∧ job.rules = rules
  unnamed : args.html = none
  built : Client.build args.clientOptions = .ok client

/-- Whether a run ends with a fault before it asks anything of the network. -/
inductive Unready (args : Arguments) (world : World) : RunFault → Prop where
  | unreadable {fault : FileFault} (lacks : world.readText args.config = .error fault) :
      args.Unready world (.failed (.ofFile args.config "Load" fault))
  | undefined {text : String} {e : RuleError} (found : world.readText args.config = .ok text)
      (wrong : Job.ofJson text = .error e) :
      args.Unready world (.failed (.ofRules args.config "Load" e))
  | noDocument {job : Job} {path : String} {fault : FileFault} (loads : args.Loads world job)
      (named : args.html = some path) (lacks : world.readText path = .error fault) :
      args.Unready world (.noDocument path fault)
  | noUrl {job : Job} (loads : args.Loads world job) (unnamed : args.html = none)
      (nowhere : args.url.or job.url = none) :
      args.Unready world .noUrl
  | noClient {job : Job} {url : String} {f : Failure} (loads : args.Loads world job)
      (unnamed : args.html = none) (somewhere : args.url.or job.url = some url)
      (refused : Client.build args.clientOptions = .error f) :
      args.Unready world (.failed f)

/-- What a run extracts, and the requests that it sends for it. -/
inductive Extracts (args : Arguments) (world : World) : Extracted → Prop where
  | unready {fault : RunFault} (h : args.Unready world fault) :
      args.Extracts world (.error fault, [])
  | read {job : Job} {path html : String} (loads : args.Loads world job)
      (named : args.html = some path) (found : world.readText path = .ok html) :
      args.Extracts world (.ok (PageExtract.extract html job.rules), [])
  | fetched {client : Client} {url : String} {rules : RuleSet} {page : Fetched}
      (asks : args.Asks world client url rules)
      (found : (world.fetch client url).result = .ok page) :
      args.Extracts world
        (.ok (PageExtract.extract (page.text world.detect) rules),
          (world.fetch client url).requests)
  | refused {client : Client} {url : String} {rules : RuleSet} {f : Failure}
      (asks : args.Asks world client url rules)
      (failed : (world.fetch client url).result = .error f) (strict : args.strict = true) :
      args.Extracts world (.error (.failed f), (world.fetch client url).requests)
  | absorbed {client : Client} {url : String} {rules : RuleSet} {f : Failure}
      (asks : args.Asks world client url rules)
      (failed : (world.fetch client url).result = .error f) (lenient : args.strict = false) :
      args.Extracts world (.ok (PageExtract.extract "" rules), (world.fetch client url).requests)

variable {args : Arguments} {world : World}

/-! ## What does not matter -/

theorem Asks.change {client : Client} {url : String} {rules : RuleSet}
    (h : args.Asks world client url rules) (strict : Bool) (output : Option String) :
    { args with strict, output }.Asks world client url rules :=
  ⟨h.loads, h.unnamed, h.built⟩

theorem Unready.change {fault : RunFault} (h : args.Unready world fault) (strict : Bool)
    (output : Option String) : { args with strict, output }.Unready world fault := by
  cases h with
  | unreadable lacks => exact .unreadable lacks
  | undefined found wrong => exact .undefined found wrong
  | noDocument loads named lacks => exact .noDocument loads named lacks
  | noUrl loads unnamed nowhere => exact .noUrl loads unnamed nowhere
  | noClient loads unnamed somewhere refused => exact .noClient loads unnamed somewhere refused

/-- What is extracted does not depend on where it is to go. -/
theorem Extracts.with_output {e : Extracted} (h : args.Extracts world e)
    (output : Option String) : { args with output }.Extracts world e := by
  cases h with
  | unready h => exact .unready (h.change args.strict output)
  | read loads named found => exact .read loads named found
  | fetched asks found => exact .fetched (asks.change args.strict output) found
  | refused asks failed strict => exact .refused (asks.change args.strict output) failed strict
  | absorbed asks failed lenient =>
    exact .absorbed (asks.change args.strict output) failed lenient

/-! ## Each run goes one of these ways -/

theorem Loads.answers {job : Job} (h : args.Loads world job) :
    Answers (Job.load world.readText args.config) (.ok job) := by
  obtain ⟨text, found, defined⟩ := h
  have answers := Job.answers_load_of_ok found
  rw [defined] at answers
  exact answers

/-- With a job and without a document, all depends on what a client does. -/
theorem Asks.answers {client : Client} {url : String} {rules : RuleSet} {e : Extracted}
    (asks : args.Asks world client url rules)
    (h : Answers (args.extractFrom world rules url) e) : Answers (args.extract world) e := by
  obtain ⟨job, loads, somewhere, rfl⟩ := asks.loads
  rw [Arguments.extract]
  refine answers_bind loads.answers ?_
  simp only [asks.unnamed, somewhere]
  exact h

theorem Unready.answers {fault : RunFault} (h : args.Unready world fault) :
    Answers (args.extract world) (.error fault, []) := by
  rw [Arguments.extract]
  cases h with
  | unreadable lacks => exact answers_bind (Job.answers_load_of_error lacks) (answers_pure _)
  | undefined found wrong =>
    have answers := Job.answers_load_of_ok found
    rw [wrong] at answers
    exact answers_bind answers (answers_pure _)
  | noDocument loads named lacks =>
    refine answers_bind loads.answers ?_
    simp only [named, lacks]
    exact answers_pure _
  | noUrl loads unnamed nowhere =>
    refine answers_bind loads.answers ?_
    simp only [unnamed, nowhere]
    exact answers_pure _
  | noClient loads unnamed somewhere refused =>
    refine answers_bind loads.answers ?_
    simp only [unnamed, somewhere, Arguments.extractFrom, refused]
    exact answers_pure _

theorem Extracts.answers {e : Extracted} (h : args.Extracts world e) :
    Answers (args.extract world) e := by
  cases h with
  | unready h => exact h.answers
  | read loads named found =>
    rw [Arguments.extract]
    refine answers_bind loads.answers ?_
    simp only [named, found]
    exact answers_bind (answers_extractCached _ _) (answers_pure _)
  | fetched asks found =>
    refine asks.answers ?_
    simp only [Arguments.extractFrom, asks.built]
    split
    next =>
      rw [Client.tryExtract_of_ok _ _ found]
      exact answers_bind (answers_map _ (answers_extractCached _ _)) (answers_pure _)
    next =>
      rw [Client.extract_of_ok _ _ found]
      exact answers_bind (answers_map _ (answers_extractCached _ _)) (answers_pure _)
  | refused asks failed strict =>
    refine asks.answers ?_
    simp only [Arguments.extractFrom, asks.built, strict, if_true]
    rw [Client.tryExtract_of_error _ _ failed]
    exact answers_bind (answers_pure _) (answers_pure _)
  | absorbed asks failed lenient =>
    refine asks.answers ?_
    simp only [Arguments.extractFrom, asks.built, lenient]
    rw [Client.extract_of_error _ _ failed]
    exact answers_bind (answers_map _ (answers_extractCached _ _)) (answers_pure _)

/-- With a job and without a document, something is fetched or there is no client. -/
theorem exists_extracts_of_url {job : Job} {url : String} (loads : args.Loads world job)
    (unnamed : args.html = none) (somewhere : args.url.or job.url = some url) :
    ∃ e, args.Extracts world e := by
  cases built : Client.build args.clientOptions with
  | error f => exact ⟨_, .unready (.noClient loads unnamed somewhere built)⟩
  | ok client =>
    have asks : args.Asks world client url job.rules :=
      ⟨⟨job, loads, somewhere, rfl⟩, unnamed, built⟩
    cases result : (world.fetch client url).result with
    | ok page => exact ⟨_, .fetched asks result⟩
    | error f =>
      cases strict : args.strict with
      | true => exact ⟨_, .refused asks result strict⟩
      | false => exact ⟨_, .absorbed asks result strict⟩

variable (args world) in
theorem exists_extracts : ∃ e, args.Extracts world e := by
  cases found : world.readText args.config with
  | error fault => exact ⟨_, .unready (.unreadable found)⟩
  | ok text =>
    cases defined : Job.ofJson text with
    | error e => exact ⟨_, .unready (.undefined found defined)⟩
    | ok job =>
      have loads : args.Loads world job := ⟨text, found, defined⟩
      cases html : args.html with
      | some path =>
        cases document : world.readText path with
        | error fault => exact ⟨_, .unready (.noDocument loads html document)⟩
        | ok html' => exact ⟨_, .read loads html document⟩
      | none =>
        cases somewhere : args.url.or job.url with
        | none => exact ⟨_, .unready (.noUrl loads html somewhere)⟩
        | some url => exact exists_extracts_of_url loads html somewhere

theorem Extracts.run_extract {e : Extracted} (h : args.Extracts world e) :
    ((args.extract world).run .empty).1 = e :=
  (h.answers _ sound_empty).1

theorem Extracts.unique {e e' : Extracted} (h : args.Extracts world e)
    (h' : args.Extracts world e') : e = e' :=
  h.run_extract.symm.trans h'.run_extract

theorem Extracts.textFor {extracted : Except RunFault Record} {requests : List Request}
    (h : args.Extracts world (extracted, requests)) :
    args.textFor world = (extracted.map args.write, requests) := by
  have extracts := h.run_extract
  rw [Arguments.textFor]
  generalize (args.extract world).run .empty = ran at extracts ⊢
  obtain ⟨e, cache⟩ := ran
  obtain rfl : e = _ := extracts
  rfl

/-- A run delivers what it has extracted. -/
theorem Extracts.run {line : List String} {files : Folder} {network : Network}
    {resolve : Resolver} {detect : Charset.Detector} {extracted : Except RunFault Record}
    {requests : List Request} (accepted : Arguments.parse line = .ok args)
    (h : args.Extracts ⟨files.readText, network, resolve, detect⟩ (extracted, requests)) :
    CommandLine.run files network resolve line detect =
      args.deliver files requests (extracted.map args.write) := by
  rw [CommandLine.run, accepted]
  dsimp only
  rw [h.textFor]

/-! ## Delivering -/

variable {files : Folder} {text : String}

theorem deliver_printed (unnamed : args.output = none) (requests : List Request) :
    args.deliver files requests (.ok text) =
      ⟨0, text ++ "\n", [], args.timing, files, requests⟩ := by
  simp only [Arguments.deliver, unnamed]

theorem deliver_written {path : String} {written : Folder} (named : args.output = some path)
    (h : files.write path (Charset.Utf8.encode text.toList) = .ok written)
    (requests : List Request) :
    args.deliver files requests (.ok text) = ⟨0, "", [], args.timing, written, requests⟩ := by
  simp only [Arguments.deliver, named, h]

theorem deliver_unwritten {path : String} {fault : FileFault} (named : args.output = some path)
    (h : files.write path (Charset.Utf8.encode text.toList) = .error fault)
    (requests : List Request) :
    args.deliver files requests (.ok text) =
      ⟨1, "", [writeError path fault], args.timing, files, requests⟩ := by
  simp only [Arguments.deliver, named, h]

/-- What can be delivered is delivered, unless there is a file that cannot be written. -/
theorem exitCode_deliver (args : Arguments) (files : Folder) (requests : List Request)
    (text : String) :
    (args.deliver files requests (.ok text)).exitCode = 0 ∨ ∃ path fault,
      args.output = some path ∧
        files.write path (Charset.Utf8.encode text.toList) = .error fault := by
  cases named : args.output with
  | none =>
    rw [deliver_printed named]
    exact .inl rfl
  | some path =>
    cases written : files.write path (Charset.Utf8.encode text.toList) with
    | ok _ =>
      rw [deliver_written named written]
      exact .inl rfl
    | error fault => exact .inr ⟨path, fault, rfl, written⟩

theorem requests_deliver (args : Arguments) (files : Folder) (requests : List Request)
    (result : Except RunFault String) :
    (args.deliver files requests result).requests = requests := by
  cases result with
  | error fault => rfl
  | ok text =>
    cases named : args.output with
    | none => rw [deliver_printed named]
    | some path =>
      cases h : files.write path (Charset.Utf8.encode text.toList) with
      | ok written => rw [deliver_written named h]
      | error fault => rw [deliver_unwritten named h]

end Arguments

/-! ## What is left of a run -/

variable {files : Folder} {network : Network} {resolve : Resolver} {detect : Charset.Detector}
  {line : List String} {args : Arguments}

theorem run_of_rejected {fault : UsageFault} (rejected : Arguments.parse line = .error fault) :
    (run files network resolve line detect).requests = [] ∧
      (run files network resolve line detect).files = files := by
  rw [run, rejected]
  cases fault with
  | helpWanted => exact ⟨rfl, rfl⟩
  | _ => exact ⟨rfl, rfl⟩

theorem exitCode_of_rejected {fault : UsageFault}
    (rejected : Arguments.parse line = .error fault) (other : fault ≠ .helpWanted) :
    (run files network resolve line detect).exitCode = 2 := by
  rw [run, rejected]
  cases fault with
  | helpWanted => exact absurd rfl other
  | _ => rfl

theorem run_of_unready (accepted : Arguments.parse line = .ok args) {fault : RunFault}
    (unready : args.Unready ⟨files.readText, network, resolve, detect⟩ fault) :
    run files network resolve line detect =
      ⟨1, "", ["error: " ++ fault.message], args.timing, files, []⟩ :=
  (Arguments.Extracts.unready unready).run accepted

theorem run_of_refused (accepted : Arguments.parse line = .ok args) (strict : args.strict = true)
    {client : Client} {url : String} {rules : RuleSet} {f : Failure}
    (asks : args.Asks ⟨files.readText, network, resolve, detect⟩ client url rules)
    (failed : (fetch network resolve client.http client.fetchOptions url).result = .error f) :
    run files network resolve line detect =
      ⟨1, "", ["error: " ++ f.chain], args.timing, files,
        (fetch network resolve client.http client.fetchOptions url).requests⟩ :=
  (Arguments.Extracts.refused asks failed strict).run accepted

theorem run_of_absorbed (accepted : Arguments.parse line = .ok args)
    (lenient : args.strict = false) {client : Client} {url : String} {rules : RuleSet} {f : Failure}
    (asks : args.Asks ⟨files.readText, network, resolve, detect⟩ client url rules)
    (failed : (fetch network resolve client.http client.fetchOptions url).result = .error f) :
    run files network resolve line detect =
      args.deliver files (fetch network resolve client.http client.fetchOptions url).requests
        (.ok (args.write (extract "" rules))) :=
  (Arguments.Extracts.absorbed asks failed lenient).run accepted

end CommandLine

end PageExtract
