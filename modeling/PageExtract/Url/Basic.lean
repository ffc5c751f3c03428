import PageExtract.Url.Host

/-!
# URLs of the web

A URL of the web says by which scheme, from which host and at which port a
document is to be had, and under which path and query.  It may also hold the name
and the password of a user, and a fragment, which is a place in the document.

All parts are kept as they are written, with what must be percent-encoded
encoded.  A port that the scheme has anyway is left out.
-/

namespace PageExtract

/-- The schemes of the web. -/
inductive Scheme where
  | http
  /-- The same over an encrypted connection. -/
  | https
  deriving DecidableEq, Repr

namespace Scheme

/-- The name of a scheme. -/
def name : Scheme → String
  | http => "http"
  | https => "https"

/-- The port of a scheme. -/
def port : Scheme → Nat
  | http => 80
  | https => 443

end Scheme

/-- A URL of the web. -/
structure Url where
  /-- The scheme. -/
  scheme : Scheme
  /-- The name of the user, empty if there is none. -/
  username : List Char
  /-- The password. -/
  password : Option (List Char)
  /-- The host. -/
  host : Host
  /-- The port, unless it is that of the scheme. -/
  port : Option Nat
  /-- The segments of the path.  There is at least one. -/
  path : List (List Char)
  /-- The query. -/
  query : Option (List Char)
  /-- The fragment. -/
  fragment : Option (List Char)
  deriving DecidableEq, Repr

namespace Url

/-- The port that the URL leads to. -/
def portOrDefault (u : Url) : Nat := u.port.getD u.scheme.port

/-- The user name and the password as they are written before the host. -/
def writeUserinfo (u : Url) : List Char :=
  match u.username, u.password with
  | [], none => []
  | name, none => name ++ ['@']
  | name, some password => name ++ ':' :: password ++ ['@']

/-- The host and the port as they are written. -/
def writeHost (u : Url) : List Char :=
  u.host.chars ++ match u.port with
    | none => []
    | some port => ':' :: Nat.toDigits 10 port

/-- A part that may be missing, with the character it starts with. -/
def writeAfter (start : Char) : Option (List Char) → List Char
  | none => []
  | some cs => start :: cs

/-- A URL as it is written. -/
def chars (u : Url) : List Char :=
  u.scheme.name.toList ++ ':' :: '/' :: '/' :: u.writeUserinfo ++ u.writeHost ++
    u.path.flatMap (fun segment => '/' :: segment) ++
    writeAfter '?' u.query ++ writeAfter '#' u.fragment

/-- A URL as a text. -/
def text (u : Url) : String := String.ofList u.chars

/-- A URL without its user name and password. -/
def withoutUserinfo (u : Url) : Url := { u with username := [], password := none }

/-- A URL without its fragment. -/
def withoutFragment (u : Url) : Url := { u with fragment := none }

end Url

end PageExtract
