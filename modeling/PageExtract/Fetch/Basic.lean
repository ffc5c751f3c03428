import PageExtract.Charset.Declared
import PageExtract.Fetch.Exchange
import PageExtract.Fetch.Guard

/-!
# Fetching documents

To fetch the document at a URL, a request is sent, redirects are followed, and
the body of the last reply is read.  At most ten redirects are followed, each
from where the one before it led, and none leads out of the web.

Unless private networks are allowed, no request is sent to a host before it has
passed the guard.

A body may have ten times 2^20 bytes.  It is given up as soon as it is known to
have more, by what the reply says or by what has come.

The document is what a reply with status 200 holds.  Replies with another status
can be taken for it too, if that is wanted.
-/

namespace PageExtract

/-- The greatest number of bytes in a body. -/
def maxContentLength : Nat := 10 * 1024 * 1024

/-- The greatest number of redirects that are followed. -/
def maxRedirects : Nat := 10

/-- How to fetch a document. -/
structure FetchOptions where
  /-- The headers to send. -/
  headers : Headers := .empty
  /-- Whether hosts with private addresses may be asked. -/
  allowPrivate : Bool := false
  /-- Whether a reply counts as the document whatever its status is. -/
  anyStatus : Bool := false
  deriving DecidableEq, Repr

/-- A document that was fetched. -/
structure Fetched where
  /-- The status of the reply. -/
  status : Nat
  /-- The URL that was asked for, as it was written. -/
  url : String
  /-- The URL that the document was at. -/
  finalUrl : String
  /-- The declared type. -/
  contentType : Option String
  /-- The bytes of the document. -/
  body : List UInt8
  deriving DecidableEq, Repr

/-- The text of a document that was fetched. -/
def Fetched.text (f : Fetched) (detect : Charset.Detector := .plain) : String :=
  Charset.textOf f.contentType f.body detect

/-- A course of requests.  It keeps those that were sent, and may end in a fault. -/
abbrev Course := ExceptT FetchFault (StateM (List Request))

/-! ## Requests and redirects -/

/-- Sends a request for a URL. -/
def send (network : Network) (client : HttpClient) (headers : Headers) (url : Url) :
    Course (Request × Reply) := do
  let some request := Request.make? client headers url | throw .badHeader
  let before ← get
  set (before ++ [request])
  match network.deliver before request with
  | .answered reply => return (request, reply)
  | .failed => throw (.unanswered request.url.text)
  | .timedOut => throw (.unansweredInTime request.url.text)

/-- The URL that a redirect leads to. -/
def redirectTarget (current : Url) (location : String) : Except FetchFault Url :=
  match current.join location with
  | .error fault => .error (.badLocation location fault)
  | .ok (.other scheme) => .error (.foreignRedirect scheme)
  | .ok (.web next) => .ok next

/-- A URL that was found, if the guard lets it pass. -/
def guarded (resolve : Resolver) (options : FetchOptions) (hop : Hop)
    (found : Except FetchFault Url) : Except FetchFault Url := do
  let url ← found
  if !options.allowPrivate then guardHost resolve hop url.host
  return url

/-- The URL that a redirect leads to, if the guard lets it pass. -/
def nextHop (resolve : Resolver) (options : FetchOptions) (current : Url) (location : String) :
    Except FetchFault Url :=
  guarded resolve options .redirect (redirectTarget current location)

/-- Sends requests until a reply is no redirect, that many at most. -/
def follow (network : Network) (resolve : Resolver) (client : HttpClient)
    (options : FetchOptions) : Nat → Url → Course (Request × Reply)
  | 0, _ => throw .tooManyRedirects
  | more + 1, url => do
      let (request, reply) ← send network client options.headers url
      match reply.location? with
      | none => return (request, reply)
      | some location => do
          let next ← nextHop resolve options url location
          follow network resolve client options more next

/-! ## Bodies -/

/-- The bytes of a body that have come, of which no more are kept than a limit. -/
@[ext] structure Buffer (limit : Nat) where
  /-- The bytes. -/
  bytes : List UInt8
  /-- There are no more of them than the limit. -/
  within : bytes.length ≤ limit

namespace Buffer

variable {limit : Nat}

/-- The buffer before anything has come. -/
def empty : Buffer limit := ⟨[], Nat.zero_le limit⟩

/-- Takes in a piece of the body, if there is room for it. -/
def add (b : Buffer limit) (piece : List UInt8) : Except FetchFault (Buffer limit) :=
  if large : limit < b.bytes.length + piece.length then .error .tooLarge
  else .ok ⟨b.bytes ++ piece, List.length_append ▸ Nat.le_of_not_lt large⟩

/-- Takes in pieces of the body, one after another. -/
def fill (b : Buffer limit) (pieces : List (List UInt8)) : Except FetchFault (Buffer limit) :=
  pieces.foldlM add b

end Buffer

/-- What comes of a body of some bytes that ends in some way. -/
def Ending.outcome (body : List UInt8) : Ending → Except FetchFault (List UInt8)
  | .complete => .ok body
  | .broken => .error .bodyBroken
  | .stalled => .error .bodyStalled

/-- Reads the body of a reply. -/
def readBody (limit : Nat) (reply : Reply) : Except FetchFault (List UInt8) := do
  if (reply.declared.any fun length => limit < length) then throw .tooLarge
  let b : Buffer limit ← Buffer.empty.fill reply.chunks
  reply.ending.outcome b.bytes

/-! ## Documents -/

/-- The URL of the web that a text is. -/
def webUrl (text : String) : Except FetchFault Url :=
  if text.isEmpty then .error .noUrl
  else match Url.parse text with
    | .error fault => .error (.badUrl fault)
    | .ok (.other _) => .error .notWeb
    | .ok (.web url) => .ok url

/-- The URL that a course starts from, if the guard lets it pass. -/
def startUrl (resolve : Resolver) (options : FetchOptions) (text : String) :
    Except FetchFault Url :=
  guarded resolve options .start (webUrl text)

/-- The document that the last reply of a course holds. -/
def documentOf (options : FetchOptions) (text : String) (request : Request) (reply : Reply) :
    Except FetchFault Fetched := do
  let body ← readBody maxContentLength reply
  if reply.status ≠ 200 ∧ !options.anyStatus then throw (.badStatus reply.status)
  return {
    status := reply.status
    url := text
    finalUrl := request.url.text
    contentType := reply.contentType?
    body }

/-- The course of requests that fetches the document at a URL. -/
def fetchCourse (network : Network) (resolve : Resolver) (client : HttpClient)
    (options : FetchOptions) (text : String) : Course Fetched := do
  let url ← startUrl resolve options text
  let (request, reply) ← follow network resolve client options (maxRedirects + 1) url
  documentOf options text request reply

/-- What fetching comes to: its result and the requests that were sent for it. -/
structure Outcome (α : Type) where
  /-- The result. -/
  result : Except Failure α
  /-- The requests, in the order they were sent. -/
  requests : List Request

/-- Fetches the document at a URL. -/
def fetch (network : Network) (resolve : Resolver) (client : HttpClient)
    (options : FetchOptions) (url : String) : Outcome Fetched :=
  let (result, requests) := (fetchCourse network resolve client options url).run.run []
  ⟨result.mapError (·.toFailure url), requests⟩

end PageExtract
