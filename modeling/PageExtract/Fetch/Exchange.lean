import PageExtract.Text.Base64
import PageExtract.Text.Blank
import PageExtract.Text.LowerCase
import PageExtract.Url.Parser

/-!
# Requests and replies

A *request* asks for the document at a URL.  It has header lines: those of the
caller, and the two that every request has, unless the caller names them.  A
user name and a password in the URL are not sent as part of it but as a header
line.  The lines are sorted, so that they do not depend on the order in which
the caller's headers were put together.

A *reply* has a status, headers and a body, which comes in pieces and may break
off.  A *network* says what becomes of each request, given those before it.
-/

namespace PageExtract

/-! ## Headers -/

/-- The headers of a caller, by name.  No name occurs twice. -/
structure Headers where
  /-- The names and values. -/
  entries : List (String × String)
  deriving DecidableEq, Repr

namespace Headers

/-- No headers. -/
def empty : Headers := ⟨[]⟩

/-- A list of headers with one of them bound anew, or with a new one at its end. -/
def put (name value : String) : List (String × String) → List (String × String)
  | [] => [(name, value)]
  | (n, v) :: rest => if n = name then (name, value) :: rest else (n, v) :: put name value rest

/-- Binds a header. -/
def insert (h : Headers) (name value : String) : Headers := ⟨put name value h.entries⟩

/-- Binds headers one after another. -/
def ofList (entries : List (String × String)) : Headers :=
  entries.foldl (fun h (name, value) => h.insert name value) empty

end Headers

/-- Whether a character may stand in the name of a header. -/
def isHeaderNameChar (c : Char) : Bool :=
  c.isAlphanum || ("!#$%&'*+-.^_|~".toList ++ ['\x60']).contains c

/-- Whether a text may be the name of a header. -/
def isHeaderName (s : String) : Bool := !s.isEmpty && s.toList.all isHeaderNameChar

/-- Whether a text may be the value of a header. -/
def isHeaderValue (s : String) : Bool :=
  s.toList.all fun c => (0x20 ≤ c.toNat && c.toNat ≠ 0x7F) || c = '\t'

/-- Whether the value of a header can be read as text. -/
def isReadable (s : String) : Bool :=
  s.toList.all fun c => (0x20 ≤ c.toNat && c.toNat < 0x7F) || c = '\t'

/-- The first value of a header, if it can be read. -/
def header? (headers : List (String × String)) (name : String) : Option String :=
  match headers.find? fun (n, _) => Text.asciiLower n == name with
  | some (_, value) => if isReadable value then some value else none
  | none => none

/-! ## Requests -/

/-- Who sends requests. -/
structure HttpClient where
  /-- The name that it gives itself. -/
  userAgent : String
  deriving DecidableEq, Repr

/-- A request for a document. -/
structure Request where
  /-- The URL, without user name and password. -/
  url : Url
  /-- The header lines, sorted. -/
  headers : List String
  deriving DecidableEq, Repr

/-- The user name and the password in a URL, decoded. -/
def Url.credentials? (u : Url) : Option (List Char × Option (List Char)) := do
  let name ← Charset.Utf8.decode? (Url.decodePercent u.username)
  let password := u.password.bind fun p => Charset.Utf8.decode? (Url.decodePercent p)
  if name.isEmpty ∧ password.isNone then none else some (name, password)

/-- The value of the header line that stands for a user name and a password. -/
def authorization (credentials : List Char × Option (List Char)) : String :=
  let (name, password) := credentials
  "Basic " ++ String.ofList
    (Text.base64 (Charset.Utf8.encode (name ++ ':' :: password.getD [])))

/-- A header line. -/
def headerLine (name value : String) : String := name ++ ": " ++ Text.trim value

/-- The header line that says which documents are wanted, or that of the caller. -/
def defaultLine (own : List (String × String)) (name value : String) : List String :=
  if own.any fun (n, _) => n == name then [] else [headerLine name value]

/-- The request for a URL, if its headers can be sent. -/
def Request.make? (client : HttpClient) (headers : Headers) (url : Url) : Option Request :=
  if headers.entries.all fun (name, value) => isHeaderName name && isHeaderValue value then
    let own := headers.entries.map fun (name, value) => (Text.asciiLower name, value)
    let credentials := url.credentials?
    let lines :=
      (credentials.toList.map fun c => headerLine "authorization" (authorization c)) ++
        own.map (fun (name, value) => headerLine name value) ++
        defaultLine own "accept" "*/*" ++ defaultLine own "user-agent" client.userAgent
    some
      { url := if credentials.isSome then url.withoutUserinfo else url
        headers := lines.mergeSort fun a b => decide (a ≤ b) }
  else none

/-! ## Replies -/

/-- How a body ends. -/
inductive Ending where
  /-- All of it has come. -/
  | complete
  /-- It breaks off. -/
  | broken
  /-- Nothing more comes in time. -/
  | stalled
  deriving DecidableEq, Repr

/-- The answer to a request. -/
structure Reply where
  /-- The status. -/
  status : Nat
  /-- The headers, in the order they came. -/
  headers : List (String × String)
  /-- The length that the body is said to have. -/
  declared : Option Nat
  /-- The pieces of the body. -/
  chunks : List (List UInt8)
  /-- How the body ends. -/
  ending : Ending
  deriving DecidableEq, Repr

namespace Reply

/-- Whether the reply says that the document is elsewhere. -/
def isRedirect (r : Reply) : Bool := 300 ≤ r.status && r.status < 400

/-- Where the document is, if the reply says that and it can be read. -/
def location? (r : Reply) : Option String :=
  if r.isRedirect then header? r.headers "location" else none

/-- The type of the document, in lower case. -/
def contentType? (r : Reply) : Option String := (header? r.headers "content-type").map Text.lower

end Reply

/-! ## Networks -/

/-- What becomes of a request. -/
inductive Delivery where
  /-- It is answered. -/
  | answered (r : Reply)
  /-- There is no answer. -/
  | failed
  /-- There is no answer in time. -/
  | timedOut
  deriving DecidableEq, Repr

/-- What becomes of requests. -/
structure Network where
  /-- What becomes of a request after others. -/
  deliver : List Request → Request → Delivery

namespace Network

/-- The network that delivers nothing. -/
def down : Network := ⟨fun _ _ => .failed⟩

/-- The network that answers requests without encryption from a list of replies,
one after another, and no others. -/
def scripted (replies : List Delivery) : Network :=
  ⟨fun before r =>
    if r.url.scheme = .https then .failed
    else (replies[before.countP fun b => b.url.scheme = .http]?).getD .failed⟩

end Network

end PageExtract
