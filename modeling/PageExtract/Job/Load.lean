import PageExtract.Extraction
import PageExtract.Failure
import PageExtract.Folder
import PageExtract.Job.Basic

/-!
# Loading jobs

A job is loaded from a file.  Loading fails if there is no such file with a text
in it, or if the text does not define a job.  The failure is about the path as
it was given.
-/

namespace PageExtract

namespace Failure

/-- The failure to read a file. -/
def ofFile (path action : String) (fault : FileFault) : Failure :=
  ⟨.io, path, action, some (.text fault.message)⟩

/-- The failure to make sense of a definition. -/
def ofRules (path action : String) (e : RuleError) : Failure :=
  ⟨.config, path, action, some (.rules e)⟩

end Failure

namespace Job

/-- The job that a text defines, with selectors compiled into a cache. -/
def ofJsonCached (text : String) : StateM Css.Cache (Except RuleError Job) :=
  (Job.parse Css.Cache.compiles text).run

/-- The job that a text defines. -/
def ofJson (text : String) : Except RuleError Job :=
  Job.parse (fun selector => (pure (isSelector selector) : Id Bool)) text

/-- Loads the job in the file at a path. -/
def load (readText : TextReader) (path : String) : StateM Css.Cache (Except Failure Job) := do
  match readText path with
  | .error fault => return .error (.ofFile path "Load" fault)
  | .ok text => return (← ofJsonCached text).mapError (.ofRules path "Load")

end Job

end PageExtract
