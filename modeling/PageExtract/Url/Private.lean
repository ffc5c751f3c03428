import PageExtract.Url.Ip

/-!
# Private addresses

A *network* is the set of addresses that start with the same bits.  An address is
private if it lies in a network that is not reached over the public internet:
that of this host, of private use, shared by the customers of a provider, of the
link, or the loopback.

A long address that only carries a short one, in its last 32 bits after a run of
ones, is private if that one is.
-/

namespace PageExtract

/-- The addresses of `width` bits that start with the same bits as `base`. -/
structure IpNetwork (width : Nat) where
  /-- An address of the network. -/
  base : BitVec width
  /-- The number of bits that its addresses share. -/
  shared : Nat
  deriving DecidableEq, Repr

/-- Whether an address lies in a network. -/
def IpNetwork.contains {width : Nat} (n : IpNetwork width) (a : BitVec width) : Bool :=
  a >>> (width - n.shared) == n.base >>> (width - n.shared)

namespace Ipv4

/-- The network of the addresses that start with some octets. -/
def network (octets : List Nat) (shared : Nat) : IpNetwork 32 := ⟨(ofOctets octets).value, shared⟩

/-- The networks of private addresses. -/
def privateNetworks : List (IpNetwork 32) :=
  [network [0, 0, 0, 0] 8,
   network [10, 0, 0, 0] 8,
   network [100, 64, 0, 0] 10,
   network [172, 16, 0, 0] 12,
   network [192, 168, 0, 0] 16,
   network [127, 0, 0, 0] 8,
   network [169, 254, 0, 0] 16]

/-- Whether an address is private. -/
def isPrivate (a : Ipv4) : Bool := privateNetworks.any fun n => n.contains a.value

end Ipv4

namespace Ipv6

/-- The network of the addresses that start with some pieces. -/
def network (pieces : List Nat) (shared : Nat) : IpNetwork 128 := ⟨(ofPieces pieces).value, shared⟩

/-- The networks of private addresses. -/
def privateNetworks : List (IpNetwork 128) :=
  [network [0xFC00, 0, 0, 0, 0, 0, 0, 0] 7,
   network [0xFE80, 0, 0, 0, 0, 0, 0, 0] 10]

/-- The network of the addresses that carry a short one. -/
def carriers : IpNetwork 128 := network [0, 0, 0, 0, 0, 0xFFFF, 0, 0] 96

/-- The short address that a long one carries. -/
def carried? (a : Ipv6) : Option Ipv4 :=
  if carriers.contains a.value then some ⟨a.value.setWidth 32⟩ else none

/-- The address of a host to itself. -/
def loopback : Ipv6 := ⟨1⟩

/-- The address that stands for none. -/
def unspecified : Ipv6 := ⟨0⟩

/-- Whether an address is private. -/
def isPrivate (a : Ipv6) : Bool :=
  match a.carried? with
  | some short => short.isPrivate
  | none =>
      a == loopback || a == unspecified || privateNetworks.any fun n => n.contains a.value

end Ipv6

/-- Whether an address is private. -/
def Ip.isPrivate : Ip → Bool
  | v4 a => a.isPrivate
  | v6 a => a.isPrivate

end PageExtract
