import PageExtract.Url.Domain.Ascii
import PageExtract.Url.Percent

/-!
# Hosts

A URL names its host by an address or by a domain name.  A long address stands
in square brackets.  A name whose last label looks like a number is a short
address, and it must be one then.

Short addresses may be written in many ways: each number in decimal, in octal
after a zero, or in hexadecimal after `0x`, and the last number may stand for
several octets.  A dot at the end changes nothing.
-/

namespace PageExtract

/-- Why a text is no URL. -/
inductive UrlFault where
  /-- There is no scheme and nothing to take it from. -/
  | noBase
  /-- There is no host where one must be. -/
  | emptyHost
  /-- The domain name cannot be brought into ASCII. -/
  | badDomain
  /-- The host has a character that may not stand in it. -/
  | badHostCharacter
  /-- The host looks like a short address but is none. -/
  | badIpv4
  /-- What stands in brackets is no long address. -/
  | badIpv6
  /-- The port is no number or too large. -/
  | badPort
  deriving DecidableEq, Repr

/-- A fault in words. -/
def UrlFault.message : UrlFault → String
  | noBase => "relative URL without a base"
  | emptyHost => "empty host"
  | badDomain => "invalid international domain name"
  | badHostCharacter => "invalid domain character"
  | badIpv4 => "invalid IPv4 address"
  | badIpv6 => "invalid IPv6 address"
  | badPort => "invalid port number"

/-- Whom a URL asks. -/
inductive Host where
  /-- A domain name. -/
  | name (domain : List Char)
  /-- An address. -/
  | address (ip : Ip)
  deriving DecidableEq, Repr

namespace Host

/-- A host as it is written. -/
def chars : Host → List Char
  | name domain => domain
  | address (.v4 a) => a.chars
  | address (.v6 a) => '[' :: a.chars ++ [']']

/-! ## Numbers in hosts -/

/-- The number that a part of a short address stands for. -/
def number? (cs : List Char) : Option Nat :=
  match cs with
  | [] => none
  | '0' :: 'x' :: digits => Ip.number? 16 digits
  | '0' :: 'X' :: digits => Ip.number? 16 digits
  | '0' :: d :: digits => Ip.number? 8 (d :: digits)
  | _ => Ip.number? 10 cs

/-- The parts of a name between its dots, without an empty one at the end. -/
def labels (cs : List Char) : List (List Char) :=
  let parts := Text.splitAt '.' cs
  if parts.getLast? = some [] then parts.dropLast else parts

/-- Whether the last label of a name looks like a number. -/
def endsInNumber (cs : List Char) : Bool :=
  match (labels cs).getLast? with
  | none => false
  | some last => (!last.isEmpty && last.all Ip.isDigit) || (number? last).isSome

/-- The short address that a name which looks like one stands for. -/
def ipv4? (cs : List Char) : Option Ipv4 := do
  let parts := labels cs
  if 4 < parts.length then none
  else
    let numbers ← parts.mapM number?
    let last ← numbers.getLast?
    let before := numbers.dropLast
    if Nat.pow 256 (4 - before.length) ≤ last ∨ before.any (255 < ·) then none
    else
      let head := before.foldl (fun n d => n * 256 + d) 0
      some ⟨BitVec.ofNat 32 (head * Nat.pow 256 (4 - before.length) + last)⟩

/-! ## Reading -/

/-- What stands in brackets at the start and the end of a text. -/
def bracketed? (cs : List Char) : Option (List Char) :=
  match cs with
  | '[' :: rest => if rest.getLast? = some ']' then some rest.dropLast else none
  | _ => none

/-- The address in brackets that a text stands for. -/
def parseBracketed (cs : List Char) : Except UrlFault Host :=
  match (bracketed? cs).bind Ipv6.parse? with
  | some a => .ok (.address (.v6 a))
  | none => .error .badIpv6

/-- Reads the host of a URL of the web. -/
def parse (cs : List Char) : Except UrlFault Host :=
  if cs.head? = some '[' then parseBracketed cs
  else match Url.domain? (Url.decodePercent cs) with
    | none => .error .badDomain
    | some domain =>
      if domain.isEmpty then .error .emptyHost
      else if endsInNumber domain then
        match ipv4? domain with
        | some a => .ok (.address (.v4 a))
        | none => .error .badIpv4
      else .ok (.name domain)

/-- The characters that may not stand in the host of any URL. -/
def refused : List Char := "\x00\t\n\r #/:<>?@[\\]^|".toList

/-- Reads the host of a URL that is not of the web and whose host has no form of its own. -/
def parseOpaque (cs : List Char) : Except UrlFault Unit :=
  if cs.head? = some '[' then (parseBracketed cs).map fun _ => ()
  else if cs.any refused.contains then .error .badHostCharacter
  else .ok ()

end Host

end PageExtract
