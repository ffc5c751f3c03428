import PageExtract.Url.Private

/-!
# Private addresses as ranges

The addresses that start with the same bits as another one follow one another as numbers, from the
one in which all other bits are zero to the one in which they are all one.  So a network is a
*range*, whatever the number of its shared bits (`IpNetwork.contains_iff_mem_range`).

With this the networks of private addresses are looked up once, in a list that names the first and
the last address of each.  A long address that carries a short one is no member of the ranges of the
long ones, so it is judged by the short one alone (`Ip.isPrivate_iff_mem_ranges`).
-/

namespace PageExtract

/-! ## Ranges of addresses -/

/-- The addresses from a first one to a last one. -/
structure IpRange (width : Nat) where
  /-- The first address. -/
  first : BitVec width
  /-- The last address. -/
  last : BitVec width
  deriving DecidableEq

instance {width : Nat} : Membership (BitVec width) (IpRange width) where
  mem r a := r.first.toNat ≤ a.toNat ∧ a.toNat ≤ r.last.toNat

namespace IpNetwork

variable {width : Nat} (n : IpNetwork width)

/-- The number of bits in which the addresses of a network differ. -/
def free : Nat := width - n.shared

/-- What the shared bits of a network are as a number. -/
def start : Nat := n.base.toNat >>> n.free

/-- The range from the address with zeros after the shared bits to the one with ones there. -/
def range : IpRange width where
  first := BitVec.ofNat width (n.start <<< n.free)
  last := BitVec.ofNat width ((n.start + 1) <<< n.free - 1)

/-- The shared bits leave room for the others. -/
theorem succ_start_shiftLeft_le : (n.start + 1) <<< n.free ≤ 1 <<< width := by
  have enough : width - n.free + n.free = width := Nat.sub_add_cancel (Nat.sub_le _ _)
  have below : n.start < 2 ^ (width - n.free) := by
    rw [start, Nat.shiftRight_eq_div_pow]
    refine Nat.div_lt_of_lt_mul ?_
    rw [← Nat.pow_add, Nat.add_comm, enough]
    exact n.base.isLt
  calc (n.start + 1) <<< n.free
    _ = (n.start + 1) * 2 ^ n.free := Nat.shiftLeft_eq _ _
    _ ≤ 2 ^ (width - n.free) * 2 ^ n.free := Nat.mul_le_mul_right _ below
    _ = 2 ^ width := by rw [← Nat.pow_add, enough]
    _ = 1 <<< width := (Nat.one_shiftLeft width).symm

theorem start_shiftLeft_lt : n.start <<< n.free < (n.start + 1) <<< n.free := by
  rw [Nat.shiftLeft_eq, Nat.shiftLeft_eq, Nat.succ_mul]
  exact Nat.lt_add_of_pos_right (Nat.two_pow_pos _)

theorem toNat_range_first : n.range.first.toNat = n.start <<< n.free := by
  refine Nat.mod_eq_of_lt (Nat.lt_of_lt_of_le n.start_shiftLeft_lt ?_)
  rw [← Nat.one_shiftLeft]
  exact n.succ_start_shiftLeft_le

theorem toNat_range_last : n.range.last.toNat = (n.start + 1) <<< n.free - 1 := by
  refine Nat.mod_eq_of_lt (Nat.sub_one_lt_of_le (Nat.zero_lt_of_lt n.start_shiftLeft_lt) ?_)
  rw [← Nat.one_shiftLeft]
  exact n.succ_start_shiftLeft_le

/-- The addresses of a network are those of its range. -/
theorem contains_iff_mem_range (a : BitVec width) : n.contains a = true ↔ a ∈ n.range := by
  have bits : n.contains a = true ↔ a.toNat >>> n.free = n.start := by
    rw [contains, beq_iff_eq, ← BitVec.toNat_inj, BitVec.toNat_ushiftRight,
      BitVec.toNat_ushiftRight, ← free, ← start]
  have between : a.toNat >>> n.free = n.start ↔
      n.start <<< n.free ≤ a.toNat ∧ a.toNat ≤ (n.start + 1) <<< n.free - 1 := by
    rw [Nat.shiftRight_eq_div_pow, Nat.shiftLeft_eq, Nat.shiftLeft_eq, Nat.succ_mul]
    exact Nat.div_eq_iff (Nat.two_pow_pos n.free)
  rw [bits, between, ← toNat_range_first, ← toNat_range_last]
  exact Iff.rfl

/-- An address lies in one of some networks if it lies in one of their ranges. -/
theorem any_contains_iff {networks : List (IpNetwork width)} {ranges : List (IpRange width)}
    (same : (networks.map range).Perm ranges) (a : BitVec width) :
    (networks.any fun n => n.contains a) = true ↔ ∃ r ∈ ranges, a ∈ r := by
  rw [List.any_eq_true]
  constructor
  · rintro ⟨n, mem, inside⟩
    exact ⟨n.range, same.mem_iff.mp (List.mem_map_of_mem mem),
      (n.contains_iff_mem_range a).mp inside⟩
  · rintro ⟨r, mem, inside⟩
    obtain ⟨n, listed, rfl⟩ := List.mem_map.mp (same.mem_iff.mpr mem)
    exact ⟨n, listed, (n.contains_iff_mem_range a).mpr inside⟩

end IpNetwork

/-! ## The ranges of private addresses -/

namespace Ipv4

/-- The range from one address to another, given by their octets. -/
def rangeOf (first last : List Nat) : IpRange 32 := ⟨(ofOctets first).value, (ofOctets last).value⟩

/-- The ranges of private addresses. -/
def privateRanges : List (IpRange 32) :=
  [rangeOf [0, 0, 0, 0] [0, 255, 255, 255],
   rangeOf [10, 0, 0, 0] [10, 255, 255, 255],
   rangeOf [100, 64, 0, 0] [100, 127, 255, 255],
   rangeOf [127, 0, 0, 0] [127, 255, 255, 255],
   rangeOf [169, 254, 0, 0] [169, 254, 255, 255],
   rangeOf [172, 16, 0, 0] [172, 31, 255, 255],
   rangeOf [192, 168, 0, 0] [192, 168, 255, 255]]

theorem range_privateNetworks : (privateNetworks.map IpNetwork.range).Perm privateRanges := by
  decide +kernel

theorem isPrivate_iff (a : Ipv4) : a.isPrivate = true ↔ ∃ r ∈ privateRanges, a.value ∈ r :=
  IpNetwork.any_contains_iff range_privateNetworks a.value

/-- The last address of the shared space and the one after it. -/
example : (ofOctets [100, 127, 255, 255]).isPrivate = true ∧
    (ofOctets [100, 128, 0, 0]).isPrivate = false := by decide +kernel

/-- The long address that carries a short one. -/
def carrier (a : Ipv4) : Ipv6 :=
  Ipv6.ofPieces [0, 0, 0, 0, 0, 0xFFFF, a.value.toNat / 65536, a.value.toNat % 65536]

end Ipv4

namespace Ipv6

/-- The range from one address to another, given by their pieces. -/
def rangeOf (first last : List Nat) : IpRange 128 :=
  ⟨(ofPieces first).value, (ofPieces last).value⟩

/-- The ranges of private addresses. -/
def privateRanges : List (IpRange 128) :=
  [rangeOf [0xFC00, 0, 0, 0, 0, 0, 0, 0]
    [0xFDFF, 0xFFFF, 0xFFFF, 0xFFFF, 0xFFFF, 0xFFFF, 0xFFFF, 0xFFFF],
   rangeOf [0xFE80, 0, 0, 0, 0, 0, 0, 0]
    [0xFEBF, 0xFFFF, 0xFFFF, 0xFFFF, 0xFFFF, 0xFFFF, 0xFFFF, 0xFFFF]]

theorem range_privateNetworks : (privateNetworks.map IpNetwork.range).Perm privateRanges := by
  decide +kernel

theorem toNat_carrier (a : Ipv4) : a.carrier.value.toNat = 0xFFFF00000000 + a.value.toNat := by
  have bound := a.value.isLt
  simp only [Ipv4.carrier, ofPieces, List.foldl_cons, List.foldl_nil, BitVec.toNat_ofNat]
  omega

/-- A short address is carried by its carrier and by no other address. -/
theorem carried?_eq_some_iff (a : Ipv6) (short : Ipv4) :
    a.carried? = some short ↔ a = short.carrier := by
  have carries : carriers.contains a.value = true ↔
      0xFFFF00000000 ≤ a.value.toNat ∧ a.value.toNat ≤ 0xFFFFFFFFFFFF :=
    carriers.contains_iff_mem_range a.value
  have low : (a.value.setWidth 32).toNat = a.value.toNat % 0x100000000 := BitVec.toNat_setWidth ..
  rw [carried?]
  constructor
  · intro h
    split at h
    next inside =>
      have range := carries.mp inside
      obtain rfl := Option.some.inj h
      have bits : a.value = (Ipv4.mk (a.value.setWidth 32)).carrier.value := by
        refine BitVec.eq_of_toNat_eq ?_
        rw [toNat_carrier, low]
        omega
      exact congrArg Ipv6.mk bits
    next => exact nomatch h
  · rintro rfl
    have number := toNat_carrier short
    have bound := short.value.isLt
    rw [if_pos (carries.mpr (by omega))]
    exact congrArg (fun bits => some (Ipv4.mk bits)) (BitVec.eq_of_toNat_eq (by omega))

@[simp] theorem carried?_carrier (short : Ipv4) : short.carrier.carried? = some short :=
  (carried?_eq_some_iff _ short).mpr rfl

/-- An address that carries none is judged by itself. -/
theorem isPrivate_iff_of_carried?_eq_none {a : Ipv6} (none : a.carried? = none) :
    a.isPrivate = true ↔
      a ∈ [loopback, unspecified] ∨ ∃ r ∈ privateRanges, a.value ∈ r := by
  rw [isPrivate, none]
  simp only [Bool.or_eq_true, beq_iff_eq, IpNetwork.any_contains_iff range_privateNetworks,
    List.mem_cons, List.not_mem_nil, or_false]

/-- An address that carries a short one is none of those that are private by themselves. -/
theorem not_mem_privateRanges_carrier (short : Ipv4) :
    short.carrier ∉ [loopback, unspecified] ∧ ∀ r ∈ privateRanges, short.carrier.value ∉ r := by
  have number := toNat_carrier short
  have bound := short.value.isLt
  have above : ∀ r ∈ privateRanges, 0xFFFFFFFFFFFF < r.first.toNat := by decide +kernel
  constructor
  · intro mem
    have small : ∀ a ∈ [loopback, unspecified], a.value.toNat < 0xFFFF00000000 := by decide
    have := small _ mem
    omega
  · intro r mem inside
    have := above r mem
    have := inside.1
    omega

end Ipv6

/-- An address is private exactly if it lies in one of the ranges, or has the number 0 or 1, or
carries a short address that is private. -/
theorem Ip.isPrivate_iff_mem_ranges :
    (∀ a : Ipv4, (Ip.v4 a).isPrivate = true ↔ ∃ r ∈ Ipv4.privateRanges, a.value ∈ r) ∧
    (∀ a : Ipv6, (Ip.v6 a).isPrivate = true ↔
      a ∈ [Ipv6.loopback, Ipv6.unspecified] ∨ (∃ r ∈ Ipv6.privateRanges, a.value ∈ r) ∨
        ∃ short : Ipv4, a = short.carrier ∧ ∃ r ∈ Ipv4.privateRanges, short.value ∈ r) ∧
    ∀ short : Ipv4, (Ip.v6 short.carrier).isPrivate = (Ip.v4 short).isPrivate := by
  have carried (short : Ipv4) : (Ip.v6 short.carrier).isPrivate = (Ip.v4 short).isPrivate := by
    rw [isPrivate, isPrivate, Ipv6.isPrivate, Ipv6.carried?_carrier]
  refine ⟨Ipv4.isPrivate_iff, fun a => ?_, carried⟩
  cases given : a.carried? with
  | none =>
    have alone (short : Ipv4) : a ≠ short.carrier := by
      rintro rfl
      exact nomatch (Ipv6.carried?_carrier short).symm.trans given
    rw [isPrivate, Ipv6.isPrivate_iff_of_carried?_eq_none given]
    simp only [alone, false_and, exists_false, or_false]
  | some short =>
    obtain rfl := (Ipv6.carried?_eq_some_iff a short).mp given
    obtain ⟨special, apart⟩ := Ipv6.not_mem_privateRanges_carrier short
    rw [carried, isPrivate, Ipv4.isPrivate_iff]
    constructor
    · intro inside
      exact .inr (.inr ⟨short, rfl, inside⟩)
    · rintro (mem | ⟨r, mem, inside⟩ | ⟨other, same, inside⟩)
      · exact absurd mem special
      · exact absurd inside (apart r mem)
      · rw [same, Ipv6.carried?_carrier] at given
        rwa [← Option.some.inj given]

end PageExtract
