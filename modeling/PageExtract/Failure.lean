import PageExtract.Rule.Error

/-!
# Failures

A *failure* says what went wrong while a document or the definition of a job was
got hold of.  It has a kind, the place it is about, which is a URL or the path
of a file, the action that failed, and mostly a source that tells more.

The message of a failure ends with its source.  Its *chain* goes on from there:
after the message come the source again and whatever the source was caused by.
-/

namespace PageExtract

/-- The kinds of failure. -/
inductive FailureKind where
  /-- What was asked for is no URL of the web. -/
  | invalidUrl
  /-- A document could not be fetched. -/
  | fetch
  /-- Fetching took too long. -/
  | timeout
  /-- The address is private. -/
  | blocked
  /-- The definition of a job is wrong. -/
  | config
  /-- A file could not be read. -/
  | io
  deriving DecidableEq, Repr

namespace FailureKind

/-- All kinds of failure. -/
def all : List FailureKind := [invalidUrl, fetch, timeout, blocked, config, io]

/-- A kind in words. -/
def message : FailureKind → String
  | invalidUrl => "invalid URL"
  | fetch => "fetch error"
  | timeout => "timeout"
  | blocked => "SSRF blocked"
  | config => "configuration error"
  | io => "I/O error"

/-- Whether a failure of this kind comes from getting a document over the network. -/
def isTransport : FailureKind → Bool
  | invalidUrl => true
  | fetch => true
  | timeout => true
  | blocked => true
  | config => false
  | io => false

end FailureKind

/-- The causes of a mistake in a rule set, outermost first. -/
def RuleError.causes (e : RuleError) : List String :=
  match e with
  | .json fault => [e.message, fault.message]
  | _ => [e.message]

/-- What a failure comes from. -/
inductive FailureSource where
  /-- Something that is known by its words only. -/
  | text (words : String)
  /-- A mistake in a rule set. -/
  | rules (e : RuleError)
  deriving DecidableEq, Repr

namespace FailureSource

/-- A source in words. -/
def message : FailureSource → String
  | text words => words
  | rules e => e.message

/-- A source and what it was caused by, in words. -/
def causes : FailureSource → List String
  | text words => [words]
  | rules e => e.causes

end FailureSource

/-- What went wrong. -/
structure Failure where
  /-- The kind of failure. -/
  kind : FailureKind
  /-- The URL or the path. -/
  place : String
  /-- What was being done. -/
  action : String
  /-- Where it comes from. -/
  source : Option FailureSource
  deriving DecidableEq, Repr

namespace Failure

/-- A failure in words. -/
def message (f : Failure) : String :=
  "gleaner: " ++ f.action ++ " " ++ f.place ++ ": " ++ f.kind.message ++
    match f.source with
    | none => ""
    | some s => ": " ++ s.message

/-- A failure and what it was caused by, outermost first. -/
def causes (f : Failure) : List String :=
  f.message :: match f.source with
    | none => []
    | some s => s.causes

/-- A failure and all its causes in one line. -/
def chain (f : Failure) : String := ": ".intercalate f.causes

end Failure

end PageExtract
