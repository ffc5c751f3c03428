import PageExtract.Fetch.Fault
import PageExtract.Url.Private

/-!
# The guard

The *guard* keeps requests from private addresses.  A host that is an address
passes if the address is not private.  A host that is a name passes if the name
can be resolved and none of its addresses is private.

What looking up a name does besides is left open (`guardAsking`).  If it does nothing
else, the addresses may as well be known beforehand (`guardHost`).
-/

namespace PageExtract

/-! ## Names -/

/-- The addresses of a host by its name, or the reason why there are none. -/
abbrev Resolver := List Char → Except String (List Ip)

namespace Resolver

/-- Whether a name can be asked for: its labels have one to 63 characters, and
all in all there are at most 253.  A dot at the end does not count. -/
def canAsk (name : List Char) : Bool :=
  let name := if name.getLast? = some '.' then name.dropLast else name
  name.isEmpty ||
    (name.length ≤ 253 &&
      (Text.splitAt '.' name).all fun label => !label.isEmpty && label.length ≤ 63)

/-- The resolver of a host that knows nobody but itself. -/
def alone : Resolver := fun name =>
  if name = "localhost".toList then
    .ok [.v4 (Ipv4.ofOctets [127, 0, 0, 1]), .v6 Ipv6.loopback]
  else if canAsk name then
    .error "failed to lookup address information: Temporary failure in name resolution"
  else .error "failed to lookup address information: Name or service not known"

end Resolver

/-! ## The guard -/

/-- A host as it is written, without brackets around it. -/
def Host.bare (h : Host) : List Char :=
  ((h.chars.dropWhile (· = '[')).reverse.dropWhile (· = ']')).reverse

/-- Fails unless a host may be asked.  To look up a name is an effect. -/
def guardAsking {m : Type → Type} [Monad m] (ask : List Char → m (Except String (List Ip)))
    (hop : Hop) (host : Host) : m (Except FetchFault Unit) :=
  match Ip.parse? host.bare with
  | some ip => return if ip.isPrivate then .error (.privateHost hop) else .ok ()
  | none => do
    match ← ask host.chars with
    | .error reason => return .error (.lookupFailed (String.ofList host.chars) reason)
    | .ok ips => return if ips.any Ip.isPrivate then .error (.privateHost hop) else .ok ()

/-- Fails unless a host may be asked, if the addresses of names are known. -/
def guardHost (resolve : Resolver) (hop : Hop) (host : Host) : Except FetchFault Unit :=
  (guardAsking (m := Id) (fun name => return resolve name) hop host).run

end PageExtract
