import PageExtract.Client
import PageExtract.CommandLine.Arguments
import PageExtract.Job.Load
import PageExtract.Record.Printer

/-!
# Running the program

The program loads a job, gets a document, extracts a record from it and delivers
the text of the record: to a file or to its output, with a line end after it.

The document is that in a file, if one is named, and otherwise it is fetched.
The URL is that among the arguments or else that of the job.  Nothing is asked
of the network before all this is known to be there.

If anything fails, the exit code is one and no text is delivered.  It is two if
the arguments themselves are wrong.
-/

namespace PageExtract.CommandLine

/-- Why there is no record. -/
inductive RunFault where
  /-- The job cannot be loaded, or the document cannot be fetched. -/
  | failed (f : Failure)
  /-- The file with the document cannot be read. -/
  | noDocument (path : String) (fault : FileFault)
  /-- Nothing says where the document is. -/
  | noUrl
  deriving DecidableEq, Repr

/-- A fault in words, with all its causes. -/
def RunFault.message : RunFault → String
  | failed f => f.chain
  | noDocument path fault => "reading " ++ path ++ ": " ++ fault.message
  | noUrl => "no URL given: pass --url, --html, or set \"url\" in the config"

/-- What the program has to work with. -/
structure World where
  /-- A way to read files. -/
  readText : TextReader
  /-- The network. -/
  network : Network
  /-- The names of hosts. -/
  resolve : Resolver
  /-- A way to tell the character set of a document. -/
  detect : Charset.Detector

/-- The client that the arguments ask for. -/
def Arguments.clientOptions (args : Arguments) : ClientOptions :=
  { timeoutMs := args.timeout * 1000
    userAgent := args.userAgent.getD ({} : ClientOptions).userAgent
    allowPrivate := args.allowPrivate }

/-- A record, or why there is none, and the requests that were sent for it. -/
abbrev Extracted := Except RunFault Record × List Request

/-- The record from the document at a URL. -/
def Arguments.extractFrom (args : Arguments) (world : World) (rules : RuleSet) (url : String) :
    StateM Css.Cache Extracted := do
  match Client.build args.clientOptions with
  | .error f => return (.error (.failed f), [])
  | .ok client =>
    if args.strict then
      let o ← client.tryExtract world.network world.resolve url rules world.detect
      return (o.result.mapError .failed, o.requests)
    else
      let (record, requests) ←
        client.extract world.network world.resolve url rules world.detect
      return (.ok record, requests)

/-- The record that the arguments ask for. -/
def Arguments.extract (args : Arguments) (world : World) : StateM Css.Cache Extracted := do
  match ← Job.load world.readText args.config with
  | .error f => return (.error (.failed f), [])
  | .ok job =>
    match args.html with
    | some path =>
      match world.readText path with
      | .error fault => return (.error (.noDocument path fault), [])
      | .ok html => return (.ok (← extractCached html job.rules), [])
    | none =>
      match args.url.or job.url with
      | none => return (.error .noUrl, [])
      | some url => args.extractFrom world job.rules url

/-- The text of a record. -/
def Arguments.write (args : Arguments) (r : Record) : String :=
  if args.compact then r.compact else r.pretty

/-- The text that the arguments ask for, and the requests that were sent for it. -/
def Arguments.textFor (args : Arguments) (world : World) :
    Except RunFault String × List Request :=
  let ((result, requests), _) := (args.extract world).run .empty
  (result.map args.write, requests)

/-- What a run of the program leaves behind. -/
structure Result where
  /-- The exit code. -/
  exitCode : Nat
  /-- What was written to the output. -/
  output : String
  /-- What was reported as wrong. -/
  errors : List String
  /-- Whether the time it took was reported. -/
  timed : Bool
  /-- The files. -/
  files : Folder
  /-- The requests that were sent. -/
  requests : List Request

/-- What is reported if the text cannot be written to a file. -/
def writeError (path : String) (fault : FileFault) : String :=
  "error writing to " ++ Text.Quoted.path path ++ ": " ++ fault.message

/-- Delivers a text, or reports why there is none. -/
def Arguments.deliver (args : Arguments) (files : Folder) (requests : List Request) :
    Except RunFault String → Result
  | .error fault => ⟨1, "", ["error: " ++ fault.message], args.timing, files, requests⟩
  | .ok text =>
    match args.output with
    | none => ⟨0, text ++ "\n", [], args.timing, files, requests⟩
    | some path =>
      match files.write path (Charset.Utf8.encode text.toList) with
      | .ok written => ⟨0, "", [], args.timing, written, requests⟩
      | .error fault => ⟨1, "", [writeError path fault], args.timing, files, requests⟩

/-- Runs the program in a folder. -/
def run (files : Folder) (network : Network) (resolve : Resolver) (args : List String)
    (detect : Charset.Detector := .plain) : Result :=
  match Arguments.parse args with
  | .error .helpWanted => ⟨0, usage, [], false, files, []⟩
  | .error fault => ⟨2, "", ["error: " ++ fault.message], false, files, []⟩
  | .ok args =>
    let (text, requests) := args.textFor ⟨files.readText, network, resolve, detect⟩
    args.deliver files requests text

end PageExtract.CommandLine
