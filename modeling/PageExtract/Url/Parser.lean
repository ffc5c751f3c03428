import PageExtract.Url.Basic

/-!
# Reading URLs

A text is read as a URL after controls and spaces around it and tabs and line
ends in it are dropped.  A URL of the web is a scheme, slashes, perhaps a user
name and a password, a host, perhaps a port, and then a path, a query and a
fragment, of which all may be missing.  A backslash counts as a slash.

A text without a scheme is read from where another URL stands: it takes over all
the parts of that URL which come before the first one of its own.

The segments `.` and `..` of a path are carried out while it is read.

A URL with another scheme is read only to see that it is one.
-/

namespace PageExtract

/-- What a text that is a URL leads to. -/
inductive Address where
  /-- A URL of the web. -/
  | web (url : Url)
  /-- A URL with another scheme. -/
  | other (scheme : String)
  deriving DecidableEq, Repr

namespace Url

/-- Whether a character is dropped at the ends of a URL. -/
def isOuterSpace (c : Char) : Bool := c.toNat ≤ 0x20

/-- Whether a character is dropped everywhere in a URL. -/
def isDropped (c : Char) : Bool := c = '\t' || c = '\n' || c = '\r'

/-- A text as it is read. -/
def clean (cs : List Char) : List Char :=
  (((cs.dropWhile isOuterSpace).reverse.dropWhile isOuterSpace).reverse).filter (!isDropped ·)

/-- Whether a character counts as a slash in URLs of the web. -/
def isSlash (c : Char) : Bool := c = '/' || c = '\\'

/-- Whether a character ends the part of a URL that names the host. -/
def endsHost (c : Char) : Bool := isSlash c || c = '?' || c = '#'

/-! ## Schemes -/

/-- Whether a character may stand in a scheme. -/
def isSchemeChar (c : Char) : Bool := c.isAlphanum || c = '+' || c = '-' || c = '.'

/-- The scheme that a text starts with, in lower case, and what follows the colon. -/
def splitScheme? (cs : List Char) : Option (List Char × List Char) :=
  match cs with
  | [] => none
  | c :: _ =>
      if c.isAlpha then
        match cs.dropWhile isSchemeChar with
        | ':' :: rest => some ((cs.takeWhile isSchemeChar).map Char.toLower, rest)
        | _ => none
      else none

/-- The scheme of the web with a name. -/
def scheme? (name : List Char) : Option Scheme :=
  if name = Scheme.http.name.toList then some .http
  else if name = Scheme.https.name.toList then some .https
  else none

/-! ## Path, query and fragment -/

/-- Whether a segment stands for the one it stands in. -/
def isSingleDot (segment : List Char) : Bool :=
  segment = ['.'] || segment.map Char.toLower = ['%', '2', 'e']

/-- Whether a segment stands for the one above. -/
def isDoubleDot (segment : List Char) : Bool :=
  let dot := ['%', '2', 'e']
  [['.', '.'], '.' :: dot, dot ++ ['.'], dot ++ dot].contains (segment.map Char.toLower)

/-- A path with further segments. -/
def addSegments (path : List (List Char)) : List (List Char) → List (List Char)
  | [] => path
  | segment :: rest =>
      let path :=
        if isDoubleDot segment then path.dropLast ++ if rest.isEmpty then [[]] else []
        else if isSingleDot segment then path ++ if rest.isEmpty then [[]] else []
        else path ++ [segment]
      addSegments path rest

/-- The segments of a written path, encoded. -/
def segmentsOf (cs : List Char) : List (List Char) :=
  Text.splitAt '/' (Part.path.write (cs.map fun c => if c = '\\' then '/' else c))

/-- Reads a fragment, or nothing. -/
def readFragment : List Char → Option (List Char)
  | '#' :: rest => some (Part.fragment.write rest)
  | _ => none

/-- The URL with the query and the fragment that a text starts with. -/
def withQuery (u : Url) (cs : List Char) : Url :=
  match cs with
  | '?' :: rest =>
      { u with
        query := some (Part.query.write (rest.takeWhile (· ≠ '#')))
        fragment := readFragment (rest.dropWhile (· ≠ '#')) }
  | _ => { u with query := none, fragment := readFragment cs }

/-- The URL with the segments of a path and what follows them, after some segments. -/
def withPath (u : Url) (before : List (List Char)) (cs : List Char) : Url :=
  let isPath (c : Char) : Bool := c ≠ '?' && c ≠ '#'
  withQuery { u with path := addSegments before (segmentsOf (cs.takeWhile isPath)) }
    (cs.dropWhile isPath)

/-! ## Host and port -/

/-- The host and the port in a text, cut at the first colon that is not in brackets. -/
def splitPort (inBrackets : Bool) : List Char → List Char × Option (List Char)
  | [] => ([], none)
  | c :: rest =>
      if c = ':' ∧ !inBrackets then ([], some rest)
      else
        let (host, port) := splitPort (c = '[' || (inBrackets && c ≠ ']')) rest
        (c :: host, port)

/-- The user name and the password before the last at sign, and what follows it. -/
def splitUserinfo (cs : List Char) : Option (List Char) × List Char :=
  if cs.contains '@' then
    (some ((cs.reverse.dropWhile (· ≠ '@')).drop 1).reverse,
      (cs.reverse.takeWhile (· ≠ '@')).reverse)
  else (none, cs)

/-- Reads a port.  No digits at all mean that of the scheme. -/
def readPort (default : Option Nat) (cs : List Char) : Except UrlFault (Option Nat) :=
  if cs.isEmpty then .ok none
  else match Ip.number? 10 cs with
    | none => .error .badPort
    | some n =>
      if 65535 < n then .error .badPort
      else .ok (if some n = default then none else some n)

/-- The user name and the password in the text before an at sign. -/
def readUserinfo (cs : List Char) : List Char × Option (List Char) :=
  let name := Part.userinfo.write (cs.takeWhile (· ≠ ':'))
  match cs.dropWhile (· ≠ ':') with
  | [] => (name, none)
  | _ :: [] => (name, none)
  | _ :: password => (name, some (Part.userinfo.write password))

/-- Reads a URL of the web from after the slashes. -/
def readAuthority (scheme : Scheme) (cs : List Char) : Except UrlFault Url := do
  let (userinfo, hostPort) := splitUserinfo (cs.takeWhile (!endsHost ·))
  let rest := cs.dropWhile (!endsHost ·)
  let (host, port) := splitPort false hostPort
  if host.isEmpty then throw .emptyHost
  let host ← Host.parse host
  let port ← readPort (some scheme.port) (port.getD [])
  let (username, password) := readUserinfo (userinfo.getD [])
  let u : Url :=
    { scheme, username, password, host, port, path := [[]], query := none, fragment := none }
  match rest with
  | c :: path => return if isSlash c then u.withPath [] path else u.withQuery rest
  | [] => return u

/-! ## URLs of other schemes -/

/-- The schemes whose hosts are domain names or addresses, though they are not of the web. -/
def otherHostSchemes : List (List Char × Nat) :=
  [(['f', 't', 'p'], 21), (['w', 's'], 80), (['w', 's', 's'], 443)]

/-- Checks the host and the port of a URL with a host of either form. -/
def checkAuthority (slashed : Char → Bool) (checkHost : List Char → Except UrlFault Unit)
    (mayBeEmpty : Bool) (cs : List Char) : Except UrlFault Unit := do
  let ends (c : Char) : Bool := slashed c || c = '?' || c = '#'
  let (userinfo, hostPort) := splitUserinfo (cs.takeWhile (!ends ·))
  let (host, port) := splitPort false hostPort
  if userinfo.isSome ∧ hostPort.isEmpty ∧ !(cs.dropWhile (!ends ·)).isEmpty ∧
      userinfo = some [] then
    throw .emptyHost
  if host.isEmpty ∧ !mayBeEmpty then throw .emptyHost
  checkHost host
  if host.isEmpty ∧ port.isSome then throw .emptyHost
  let _ ← readPort none (port.getD [])
  let (username, password) := readUserinfo (userinfo.getD [])
  if host.isEmpty ∧ (!username.isEmpty ∨ password.isSome) then throw .emptyHost

/-- Checks the host of the URL of a file, if it has one. -/
def checkFile (cs : List Char) : Except UrlFault Unit :=
  match cs with
  | a :: b :: rest =>
      if isSlash a ∧ isSlash b then
        let host := rest.takeWhile (!endsHost ·)
        let isDrive := match host with
          | [c, d] => c.isAlpha && (d = ':' || d = '|')
          | _ => false
        if host.isEmpty || isDrive then .ok () else (Host.parse host).map fun _ => ()
      else .ok ()
  | _ => .ok ()

/-- Checks what follows the colon in a URL that is not of the web. -/
def checkOther (scheme rest : List Char) : Except UrlFault Unit :=
  if scheme = ['f', 'i', 'l', 'e'] then checkFile rest
  else if (otherHostSchemes.map Prod.fst).contains scheme then
    checkAuthority isSlash (fun host => (Host.parse host).map fun _ => ()) false
      (rest.dropWhile isSlash)
  else match rest with
    | '/' :: '/' :: rest => checkAuthority (· = '/') Host.parseOpaque true rest
    | _ => .ok ()

/-! ## URLs -/

/-- Reads a text without a scheme from where another URL stands. -/
def readRelative (base : Url) (cs : List Char) : Except UrlFault Url :=
  match cs with
  | [] => .ok base.withoutFragment
  | c :: rest =>
      if isSlash c then
        match rest with
        | d :: _ =>
            if isSlash d then readAuthority base.scheme (cs.dropWhile isSlash)
            else .ok (base.withPath [] rest)
        | [] => .ok (base.withPath [] rest)
      else if c = '?' then .ok (base.withQuery cs)
      else if c = '#' then .ok { base with fragment := readFragment cs }
      else .ok (base.withPath base.path.dropLast cs)

/-- Reads a text as a URL, from where another URL stands if there is one. -/
def read (base : Option Url) (text : String) : Except UrlFault Address := do
  let cs := clean text.toList
  match splitScheme? cs with
  | some (name, rest) =>
    match scheme? name with
    | none => do
      checkOther name rest
      return .other (String.ofList name)
    | some scheme =>
      match base with
      | some b =>
        if b.scheme = scheme ∧ (rest.takeWhile isSlash).length < 2 then
          return .web (← readRelative b rest)
        else return .web (← readAuthority scheme (rest.dropWhile isSlash))
      | none => return .web (← readAuthority scheme (rest.dropWhile isSlash))
  | none =>
    match base with
    | some b => return .web (← readRelative b cs)
    | none => throw .noBase

/-- Reads a text as a URL. -/
def parse (text : String) : Except UrlFault Address := read none text

/-- Reads a text as a URL from where this one stands. -/
def join (base : Url) (text : String) : Except UrlFault Address := read (some base) text

end Url

end PageExtract
