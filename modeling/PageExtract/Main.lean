import PageExtract.CommandLine.Run

/-!
# The program

The program reads files, writes to a file or to its output, and reports what went
wrong.  It has no network of its own, so that every document which is not in a
file counts as one that cannot be fetched.
-/

namespace PageExtract.CommandLine

/-- What is wrong with a file, by what the system says. -/
def fileFaultOf : IO.Error → FileFault
  | .noFileOrDirectory .. => .missing
  | .inappropriateType _ code _ => if code = 20 then .notFolder else .isFolder
  | .invalidArgument _ code _ => if code = 36 then .nameTooLong else .missing
  | _ => .missing

/-- The text in a file. -/
def readFile (path : String) : IO (Except FileFault String) := do
  try
    let content ← IO.FS.readBinFile path
    return fileText content.toList
  catch e => return .error (fileFaultOf e)

/-- The texts in the files that the arguments name. -/
def readFiles (args : Arguments) : IO TextReader := do
  let config ← readFile args.config
  match args.html with
  | none => return fun _ => config
  | some path => do
      let html ← readFile path
      return fun p => if p = args.config then config else html

/-- Delivers a text, or reports why there is none.  Gives the exit code. -/
def deliverText (args : Arguments) : Except RunFault String → IO UInt32
  | .error fault => do
      IO.eprintln ("error: " ++ fault.message)
      return 1
  | .ok text =>
    match args.output with
    | none => do
        IO.println text
        return 0
    | some path => do
        try
          IO.FS.writeFile path text
          return 0
        catch e => do
          IO.eprintln (writeError path (fileFaultOf e))
          return 1

/-- Does what the arguments say.  Gives the exit code. -/
def perform (args : Arguments) : IO UInt32 := do
  let start ← IO.monoMsNow
  let readText ← readFiles args
  let (text, _) := args.textFor ⟨readText, .down, .alone, .plain⟩
  let elapsed := (← IO.monoMsNow) - start
  let code ← deliverText args text
  if args.timing then IO.eprintln ("elapsed: " ++ toString elapsed ++ "ms")
  return code

end PageExtract.CommandLine

open PageExtract.CommandLine in
/-- Runs the program. -/
def main (args : List String) : IO UInt32 := do
  match Arguments.parse args with
  | .ok parsed => perform parsed
  | .error .helpWanted => do
      IO.print usage
      return 0
  | .error fault => do
      IO.eprintln ("error: " ++ fault.message)
      return 2
