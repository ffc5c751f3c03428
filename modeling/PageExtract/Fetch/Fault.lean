import PageExtract.Failure
import PageExtract.Text.Quoted
import PageExtract.Url.Parser

/-!
# Why a document cannot be fetched

Fetching fails for one of these reasons.  Whatever hop it happens at, the
failure is about the URL that was asked for, as it was written.
-/

namespace PageExtract

/-- Which requests an address is guarded for. -/
inductive Hop where
  /-- The first request. -/
  | start
  /-- A request that a redirect asks for. -/
  | redirect
  deriving DecidableEq, Repr

/-- The requests of a hop, in words. -/
def Hop.message : Hop → String
  | .start => "request to"
  | .redirect => "redirect to"

/-- Why a document cannot be fetched. -/
inductive FetchFault where
  /-- There is no URL. -/
  | noUrl
  /-- The text is no URL. -/
  | badUrl (fault : UrlFault)
  /-- The URL is not of the web. -/
  | notWeb
  /-- The host is or resolves to a private address. -/
  | privateHost (hop : Hop)
  /-- The name of the host cannot be resolved. -/
  | lookupFailed (host reason : String)
  /-- A header of the request cannot be sent. -/
  | badHeader
  /-- There was no answer. -/
  | unanswered (url : String)
  /-- There was no answer in time. -/
  | unansweredInTime (url : String)
  /-- A redirect leads to something that is no URL. -/
  | badLocation (location : String) (fault : UrlFault)
  /-- A redirect leads out of the web. -/
  | foreignRedirect (scheme : String)
  /-- There are too many redirects. -/
  | tooManyRedirects
  /-- The body is too large. -/
  | tooLarge
  /-- The body breaks off. -/
  | bodyBroken
  /-- The body did not come in time. -/
  | bodyStalled
  /-- The answer is not the document. -/
  | badStatus (status : Nat)
  deriving DecidableEq, Repr

namespace FetchFault

/-- A failure to send, in words. -/
def sending (url : String) : String := "error sending request for url (" ++ url ++ ")"

/-- A failure to read a body, in words. -/
def reading : String := "error decoding response body"

/-- The refusal of a private address, in words. -/
def refusal (hop : Hop) : String := hop.message ++ " private IP address is not allowed"

/-- A fault in words, unless its kind says it all. -/
def message? : FetchFault → Option String
  | noUrl => none
  | badUrl fault => some ("invalid URL: " ++ fault.message)
  | notWeb => some "scheme must be http or https"
  | privateHost hop => some (refusal hop)
  | lookupFailed host reason => some ("DNS lookup failed for " ++ host ++ ": " ++ reason)
  | badHeader => some "request failed: builder error"
  | unanswered url => some ("request failed: " ++ sending url)
  | unansweredInTime url => some ("request timed out: " ++ sending url)
  | badLocation location fault =>
      some ("invalid redirect location " ++ Text.Quoted.text location ++ ": " ++ fault.message)
  | foreignRedirect scheme => some ("redirect to unsupported scheme " ++ scheme)
  | tooManyRedirects => some "too many redirects"
  | tooLarge => some "content too large"
  | bodyBroken => some ("failed to read body: " ++ reading)
  | bodyStalled => some ("body read timed out: " ++ reading)
  | badStatus status => some ("HTTP status " ++ toString status)

/-- The kind of failure that a fault is. -/
def kind : FetchFault → FailureKind
  | noUrl => .invalidUrl
  | badUrl _ => .invalidUrl
  | notWeb => .invalidUrl
  | privateHost _ => .blocked
  | unansweredInTime _ => .timeout
  | bodyStalled => .timeout
  | _ => .fetch

/-- The failure to fetch the document at a URL. -/
def toFailure (url : String) (fault : FetchFault) : Failure :=
  ⟨fault.kind, url, "Fetch", fault.message?.map .text⟩

end FetchFault

end PageExtract
