import PageExtract.Extraction
import PageExtract.Fetch.Basic

/-!
# Clients

A *client* fetches documents and extracts records from them, always in the same
way: with the same name, the same headers and the same leave to ask private
hosts.

A document that cannot be fetched is a failure, which `tryExtract` passes on.
`extract` takes the empty document in its place, so that it always gives a
record with a field for each rule.
-/

namespace PageExtract

/-- How a client goes about its work. -/
structure ClientOptions where
  /-- How long a request may take, in thousandths of a second. -/
  timeoutMs : Nat := 30000
  /-- The name that the client gives itself. -/
  userAgent : String := "Gleaner/0.1.0"
  /-- Whether hosts with private addresses may be asked. -/
  allowPrivate : Bool := false
  /-- Who sends the requests, if it is not made from these options. -/
  http : Option HttpClient := none
  /-- The headers to send. -/
  headers : Headers := .empty
  deriving DecidableEq, Repr

/-- A client. -/
structure Client where
  /-- How it goes about its work. -/
  options : ClientOptions
  /-- Who sends its requests. -/
  http : HttpClient
  deriving DecidableEq, Repr

namespace Client

/-- The failure to make a client. -/
def cannotBuild : Failure :=
  ⟨.fetch, "", "BuildClient", some (.text "failed to build HTTP client: builder error")⟩

/-- Makes a client.  Its name must be one that can be sent in a header. -/
def build (options : ClientOptions) : Except Failure Client :=
  match options.http with
  | some http => .ok ⟨options, http⟩
  | none =>
      if isHeaderValue options.userAgent then .ok ⟨options, ⟨options.userAgent⟩⟩
      else .error cannotBuild

/-- How a client fetches. -/
def fetchOptions (c : Client) : FetchOptions :=
  { headers := c.options.headers, allowPrivate := c.options.allowPrivate, anyStatus := false }

variable (network : Network) (resolve : Resolver)

/-- Fetches the text of the document at a URL. -/
def fetchDocument (c : Client) (url : String) (detect : Charset.Detector := .plain) :
    Outcome String :=
  let o := fetch network resolve c.http c.fetchOptions url
  ⟨o.result.map fun page => page.text detect, o.requests⟩

/-- Extracts a record from the document at a URL, if it can be fetched. -/
def tryExtract (c : Client) (url : String) (rules : RuleSet)
    (detect : Charset.Detector := .plain) : StateM Css.Cache (Outcome Record) := do
  let o := c.fetchDocument network resolve url detect
  match o.result with
  | .ok html => return ⟨.ok (← extractCached html rules), o.requests⟩
  | .error f => return ⟨.error f, o.requests⟩

/-- Extracts a record from the document at a URL, or from the empty document if
it cannot be fetched. -/
def extract (c : Client) (url : String) (rules : RuleSet)
    (detect : Charset.Detector := .plain) : StateM Css.Cache (Record × List Request) := do
  let o := c.fetchDocument network resolve url detect
  let html := match o.result with
    | .ok html => html
    | .error _ => ""
  return (← extractCached html rules, o.requests)

end Client

end PageExtract
