import Mathlib.Algebra.GroupWithZero.Nat
import Mathlib.Data.Nat.Bitwise

/-!
Owns `crossroads_oracle::ssrf`: which addresses count as globally routable, and which URLs of an
oracle contract may be fetched.

`is_global` looks at octets and segments. `internalV4` and `internalV6` are the same rule as a table
of prefixes, and an address passes exactly if no prefix of its table covers it. IPv4 addresses in
their mapped and compatible IPv6 forms are in the second table once each.

Does not own the parser of URLs and the resolver: what a URL parses to is given, and what a host
resolves to is the outside's answer.
-/

set_option autoImplicit false

namespace CrFaucet.Oracle

/-! ### Addresses -/

structure Ipv4Addr where
  a : UInt8
  b : UInt8
  c : UInt8
  d : UInt8
deriving DecidableEq

structure Ipv6Addr where
  s0 : UInt16
  s1 : UInt16
  s2 : UInt16
  s3 : UInt16
  s4 : UInt16
  s5 : UInt16
  s6 : UInt16
  s7 : UInt16
deriving DecidableEq

inductive IpAddr where
  | v4 (address : Ipv4Addr)
  | v6 (address : Ipv6Addr)
deriving DecidableEq

namespace Ipv4Addr

variable (v4 : Ipv4Addr)

def isPrivate : Bool :=
  v4.a == 10 || (v4.a == 172 && 16 ≤ v4.b && v4.b ≤ 31) || (v4.a == 192 && v4.b == 168)

def isLoopback : Bool := v4.a == 127

def isLinkLocal : Bool := v4.a == 169 && v4.b == 254

def isBroadcast : Bool := v4.a == 255 && v4.b == 255 && v4.c == 255 && v4.d == 255

def isDocumentation : Bool :=
  (v4.a == 192 && v4.b == 0 && v4.c == 2) || (v4.a == 198 && v4.b == 51 && v4.c == 100) ||
    (v4.a == 203 && v4.b == 0 && v4.c == 113)

def isUnspecified : Bool := v4.a == 0 && v4.b == 0 && v4.c == 0 && v4.d == 0

def isMulticast : Bool := 224 ≤ v4.a && v4.a ≤ 239

/-- `is_global_v4`. -/
def isGlobal : Bool :=
  !(v4.isPrivate || v4.isLoopback || v4.isLinkLocal || v4.isBroadcast || v4.isDocumentation ||
    v4.isUnspecified || v4.isMulticast || v4.a == 0 || (v4.a == 100 && (v4.b &&& 0xc0) == 64) ||
    240 ≤ v4.a)

/-- The address as a number. -/
def toNat : Nat := ((v4.a.toNat * 2 ^ 8 + v4.b.toNat) * 2 ^ 8 + v4.c.toNat) * 2 ^ 8 + v4.d.toNat

end Ipv4Addr

namespace Ipv6Addr

variable (v6 : Ipv6Addr)

/-- The IPv4 address behind a mapped or compatible one. -/
def toIpv4 : Option Ipv4Addr :=
  if v6.s0 == 0 && v6.s1 == 0 && v6.s2 == 0 && v6.s3 == 0 && v6.s4 == 0 &&
      (v6.s5 == 0 || v6.s5 == 0xffff) then
    some ⟨(v6.s6 >>> 8).toUInt8, v6.s6.toUInt8, (v6.s7 >>> 8).toUInt8, v6.s7.toUInt8⟩
  else none

def isLoopback : Bool := v6 == ⟨0, 0, 0, 0, 0, 0, 0, 1⟩

def isUnspecified : Bool := v6 == ⟨0, 0, 0, 0, 0, 0, 0, 0⟩

def isMulticast : Bool := (v6.s0 &&& 0xff00) == 0xff00

/-- `is_global_v6`. -/
def isGlobal : Bool :=
  match v6.toIpv4 with
  | some v4 => v4.isGlobal
  | none =>
      !(v6.isLoopback || v6.isUnspecified || v6.isMulticast || (v6.s0 &&& 0xfe00) == 0xfc00 ||
        (v6.s0 &&& 0xffc0) == 0xfe80)

/-- The upper 96 bits. -/
def high : Nat :=
  ((((v6.s0.toNat * 2 ^ 16 + v6.s1.toNat) * 2 ^ 16 + v6.s2.toNat) * 2 ^ 16 + v6.s3.toNat) * 2 ^ 16 +
    v6.s4.toNat) * 2 ^ 16 + v6.s5.toNat

/-- The address as a number. -/
def toNat : Nat := (v6.high * 2 ^ 16 + v6.s6.toNat) * 2 ^ 16 + v6.s7.toNat

end Ipv6Addr

def IpAddr.isGlobal : IpAddr → Bool
  | .v4 address => address.isGlobal
  | .v6 address => address.isGlobal

/-! ### The table -/

/-- The addresses that begin with the `length` bits of `bits`. -/
structure Block where
  bits : Nat
  length : Nat

/-- The prefix covers an address of `width` bits. -/
def Block.Covers (block : Block) (width address : Nat) : Prop :=
  address / 2 ^ (width - block.length) = block.bits

def internalV4 : List Block := [
  ⟨0, 8⟩,             -- 0.0.0.0/8
  ⟨10, 8⟩,            -- 10.0.0.0/8
  ⟨0x191, 10⟩,        -- 100.64.0.0/10
  ⟨127, 8⟩,           -- 127.0.0.0/8
  ⟨0xa9fe, 16⟩,       -- 169.254.0.0/16
  ⟨0xac1, 12⟩,        -- 172.16.0.0/12
  ⟨0xc00002, 24⟩,     -- 192.0.2.0/24
  ⟨0xc0a8, 16⟩,       -- 192.168.0.0/16
  ⟨0xc63364, 24⟩,     -- 198.51.100.0/24
  ⟨0xcb0071, 24⟩,     -- 203.0.113.0/24
  ⟨0xe, 4⟩,           -- 224.0.0.0/4
  ⟨0xf, 4⟩]           -- 240.0.0.0/4

/-- The block of IPv4 addresses under 96 given bits. -/
def Block.under (upper : Nat) (block : Block) : Block :=
  ⟨upper * 2 ^ block.length + block.bits, 96 + block.length⟩

def internalV6 : List Block :=
  [⟨0x7e, 7⟩, ⟨0x3fa, 10⟩, ⟨0xff, 8⟩] ++   -- fc00::/7, fe80::/10, ff00::/8
    internalV4.map (Block.under 0) ++ internalV4.map (Block.under 0xffff)

/-! ### The octets and the table agree -/

namespace Ipv4Addr

variable (v4 : Ipv4Addr)

theorem toNat_and_c0 (octet : UInt8) : (octet &&& 0xc0).toNat = 64 ↔ octet.toNat / 64 = 1 := by
  have all : ∀ n : Fin 256, (UInt8.ofNat n.val &&& 0xc0).toNat = 64 ↔ n.val / 64 = 1 := by
    decide +kernel
  have here := all ⟨octet.toNat, octet.toNat_lt⟩
  rwa [UInt8.ofNat_toNat] at here

theorem leading :
    v4.toNat / 2 ^ 28 = v4.a.toNat / 16 ∧ v4.toNat / 2 ^ 24 = v4.a.toNat ∧
      v4.toNat / 2 ^ 22 = v4.a.toNat * 4 + v4.b.toNat / 64 ∧
      v4.toNat / 2 ^ 20 = v4.a.toNat * 16 + v4.b.toNat / 16 ∧
      v4.toNat / 2 ^ 16 = v4.a.toNat * 256 + v4.b.toNat ∧
      v4.toNat / 2 ^ 8 = (v4.a.toNat * 256 + v4.b.toNat) * 256 + v4.c.toNat := by
  have a := v4.a.toNat_lt
  have b := v4.b.toNat_lt
  have c := v4.c.toNat_lt
  have d := v4.d.toNat_lt
  unfold toNat
  refine ⟨?_, ?_, ?_, ?_, ?_, ?_⟩
  all_goals omega

/-- The block covers the address. -/
abbrev In (bits length : Nat) : Prop := (⟨bits, length⟩ : Block).Covers 32 v4.toNat

theorem isPrivate_iff :
    v4.isPrivate = true ↔ v4.In 10 8 ∨ v4.In 0xac1 12 ∨ v4.In 0xc0a8 16 := by
  obtain ⟨_, octet, _, twelve, two, _⟩ := v4.leading
  have b := v4.b.toNat_lt
  simp only [isPrivate, Bool.or_eq_true, Bool.and_eq_true, beq_iff_eq, decide_eq_true_eq,
    ← UInt8.toNat_inj, UInt8.le_iff_toNat_le, UInt8.reduceToNat, Block.Covers, Nat.reduceSub, octet,
    twelve, two]
  omega

theorem isLoopback_iff : v4.isLoopback = true ↔ v4.In 127 8 := by
  obtain ⟨_, octet, _⟩ := v4.leading
  simp only [isLoopback, beq_iff_eq, ← UInt8.toNat_inj, UInt8.reduceToNat, Block.Covers,
    Nat.reduceSub, octet]

theorem isLinkLocal_iff : v4.isLinkLocal = true ↔ v4.In 0xa9fe 16 := by
  obtain ⟨_, _, _, _, two, _⟩ := v4.leading
  have b := v4.b.toNat_lt
  simp only [isLinkLocal, Bool.and_eq_true, beq_iff_eq, ← UInt8.toNat_inj, UInt8.reduceToNat,
    Block.Covers, Nat.reduceSub, two]
  omega

theorem isDocumentation_iff : v4.isDocumentation = true ↔
    v4.In 0xc00002 24 ∨ v4.In 0xc63364 24 ∨ v4.In 0xcb0071 24 := by
  obtain ⟨_, _, _, _, _, three⟩ := v4.leading
  have b := v4.b.toNat_lt
  have c := v4.c.toNat_lt
  simp only [isDocumentation, Bool.or_eq_true, Bool.and_eq_true, beq_iff_eq, ← UInt8.toNat_inj,
    UInt8.reduceToNat, Block.Covers, Nat.reduceSub, three]
  omega

theorem isMulticast_iff : v4.isMulticast = true ↔ v4.In 0xe 4 := by
  obtain ⟨nibble, _⟩ := v4.leading
  simp only [isMulticast, Bool.and_eq_true, decide_eq_true_eq, UInt8.le_iff_toNat_le,
    UInt8.reduceToNat, Block.Covers, Nat.reduceSub, nibble]
  omega

theorem isZeroNet_iff : (v4.a == 0) = true ↔ v4.In 0 8 := by
  obtain ⟨_, octet, _⟩ := v4.leading
  simp only [beq_iff_eq, ← UInt8.toNat_inj, UInt8.reduceToNat, Block.Covers, Nat.reduceSub, octet]

theorem isCgnat_iff : (v4.a == 100 && (v4.b &&& 0xc0) == 64) = true ↔ v4.In 0x191 10 := by
  obtain ⟨_, _, ten, _⟩ := v4.leading
  have b := v4.b.toNat_lt
  simp only [Bool.and_eq_true, beq_iff_eq, ← UInt8.toNat_inj, toNat_and_c0, UInt8.reduceToNat,
    Block.Covers, Nat.reduceSub, ten]
  omega

theorem isReserved_iff : decide (240 ≤ v4.a) = true ↔ v4.In 0xf 4 := by
  obtain ⟨nibble, _⟩ := v4.leading
  have a := v4.a.toNat_lt
  simp only [decide_eq_true_eq, UInt8.le_iff_toNat_le, UInt8.reduceToNat, Block.Covers,
    Nat.reduceSub, nibble]
  omega

/-- Two of the tests are never the only ones to strike. -/
theorem isBroadcast_imp (broadcast : v4.isBroadcast = true) : v4.In 0xf 4 := by
  rw [← isReserved_iff]
  simp only [isBroadcast, Bool.and_eq_true, beq_iff_eq] at broadcast
  rw [broadcast.1.1.1]
  decide

theorem isUnspecified_imp (unspecified : v4.isUnspecified = true) : v4.In 0 8 := by
  rw [← isZeroNet_iff]
  simp only [isUnspecified, Bool.and_eq_true] at unspecified
  exact unspecified.1.1.1

/-- **`is_global_v4` refuses what the table covers, and nothing else.** -/
theorem isGlobal_iff : v4.isGlobal = true ↔ ∀ block ∈ internalV4, ¬block.Covers 32 v4.toNat := by
  simp only [isGlobal, Bool.not_eq_true', ← Bool.not_eq_true, Bool.or_eq_true, isPrivate_iff,
    isLoopback_iff, isLinkLocal_iff, isDocumentation_iff, isMulticast_iff, isZeroNet_iff,
    isCgnat_iff, isReserved_iff, not_or, internalV4, List.forall_mem_cons, List.not_mem_nil,
    false_imp_iff, implies_true]
  constructor
  · rintro ⟨⟨⟨⟨⟨⟨⟨⟨⟨⟨ten, twelve, sixteen⟩, loop⟩, link⟩, _⟩, net1, net2, net3⟩, _⟩, multi⟩, zero⟩,
      cgnat⟩, reserved⟩
    exact ⟨zero, ten, cgnat, loop, link, twelve, net1, sixteen, net2, net3, multi, reserved,
      trivial⟩
  · rintro ⟨zero, ten, cgnat, loop, link, twelve, net1, sixteen, net2, net3, multi, reserved, _⟩
    exact ⟨⟨⟨⟨⟨⟨⟨⟨⟨⟨ten, twelve, sixteen⟩, loop⟩, link⟩, fun all => reserved (v4.isBroadcast_imp all)⟩,
      net1, net2, net3⟩, fun all => zero (v4.isUnspecified_imp all)⟩, multi⟩, zero⟩, cgnat⟩, reserved⟩

end Ipv4Addr

/-- Masking the upper bits and comparing is comparing the upper bits. -/
theorem and_mask_eq_iff {n low high : Nat} (fits : n < 2 ^ (low + high)) (value : Nat) :
    n &&& ((2 ^ high - 1) * 2 ^ low) = value * 2 ^ low ↔ n / 2 ^ low = value := by
  have masked : n &&& ((2 ^ high - 1) * 2 ^ low) = n / 2 ^ low * 2 ^ low := by
    have upper : n / 2 ^ low < 2 ^ high := by
      rw [Nat.div_lt_iff_lt_mul (Nat.two_pow_pos low), ← Nat.pow_add, Nat.add_comm]
      exact fits
    have quotient : (n &&& ((2 ^ high - 1) * 2 ^ low)) / 2 ^ low = n / 2 ^ low := by
      rw [Nat.and_div_two_pow, Nat.mul_div_cancel _ (Nat.two_pow_pos low),
        Nat.and_two_pow_sub_one_eq_mod, Nat.mod_eq_of_lt upper]
    have remainder : (n &&& ((2 ^ high - 1) * 2 ^ low)) % 2 ^ low = 0 := by
      rw [Nat.and_mod_two_pow, Nat.mul_mod_left, Nat.and_zero]
    rw [← Nat.div_add_mod' (n &&& ((2 ^ high - 1) * 2 ^ low)) (2 ^ low), quotient, remainder,
      Nat.add_zero]
  rw [masked, Nat.mul_left_inj (Nat.two_pow_pos low).ne']

namespace Block

/-- A block of IPv4 addresses under 96 bits covers the addresses that have these bits and end in
one of the block. -/
theorem covers_under {block : Block} (fits : block.bits < 2 ^ block.length)
    (short : block.length ≤ 32) (upper high : Nat) {low : Nat} (small : low < 2 ^ 32) :
    (block.under upper).Covers 128 (high * 2 ^ 32 + low) ↔
      high = upper ∧ block.Covers 32 low := by
  have width : 128 - (96 + block.length) = 32 - block.length := by omega
  have whole : 2 ^ 32 = 2 ^ block.length * 2 ^ (32 - block.length) := by
    rw [← Nat.pow_add, Nat.add_sub_cancel' short]
  have rest : low / 2 ^ (32 - block.length) < 2 ^ block.length := by
    rw [Nat.div_lt_iff_lt_mul (Nat.two_pow_pos _), ← whole]
    exact small
  have split : (high * 2 ^ 32 + low) / 2 ^ (32 - block.length) =
      high * 2 ^ block.length + low / 2 ^ (32 - block.length) := by
    rw [whole, ← Nat.mul_assoc, Nat.mul_comm _ (2 ^ (32 - block.length)),
      Nat.mul_add_div (Nat.two_pow_pos _)]
  rw [Covers, Covers, under, width, split]
  constructor
  · intro same
    have quotient := congrArg (· / 2 ^ block.length) same
    simp only [Nat.mul_comm _ (2 ^ block.length), Nat.mul_add_div (Nat.two_pow_pos _),
      Nat.div_eq_of_lt rest, Nat.div_eq_of_lt fits, Nat.add_zero] at quotient
    subst quotient
    exact ⟨rfl, Nat.add_left_cancel same⟩
  · rintro ⟨rfl, covers⟩
    rw [covers]

end Block

theorem internalV4_wellFormed : ∀ block ∈ internalV4,
    block.bits < 2 ^ block.length ∧ block.length ≤ 32 := by
  decide

namespace Ipv6Addr

variable (v6 : Ipv6Addr)

/-- The lower 32 bits. -/
def low : Nat := v6.s6.toNat * 2 ^ 16 + v6.s7.toNat

theorem low_lt : v6.low < 2 ^ 32 := by
  have s6 := v6.s6.toNat_lt
  have s7 := v6.s7.toNat_lt
  unfold low
  omega

theorem toNat_eq : v6.toNat = v6.high * 2 ^ 32 + v6.low := by
  unfold toNat low
  omega

theorem high_iff : v6.high = 0 ∨ v6.high = 0xffff ↔
    (v6.s0 == 0 && v6.s1 == 0 && v6.s2 == 0 && v6.s3 == 0 && v6.s4 == 0 &&
      (v6.s5 == 0 || v6.s5 == 0xffff)) = true := by
  have s5 := v6.s5.toNat_lt
  simp only [Bool.and_eq_true, Bool.or_eq_true, beq_iff_eq, ← UInt16.toNat_inj,
    UInt16.reduceToNat, high]
  omega

theorem toNat_of_toIpv4 {v4 : Ipv4Addr} (mapped : v6.toIpv4 = some v4) :
    (v6.high = 0 ∨ v6.high = 0xffff) ∧ v4.toNat = v6.low := by
  unfold toIpv4 at mapped
  split at mapped
  · rename_i bits
    cases mapped
    refine ⟨v6.high_iff.2 bits, ?_⟩
    have s6 := v6.s6.toNat_lt
    have s7 := v6.s7.toNat_lt
    simp only [Ipv4Addr.toNat, low, UInt16.toNat_toUInt8, UInt16.toNat_shiftRight,
      UInt16.reduceToNat, Nat.reduceMod, Nat.shiftRight_eq_div_pow]
    omega
  · cases mapped

theorem leading :
    v6.toNat / 2 ^ 121 = v6.s0.toNat / 2 ^ 9 ∧ v6.toNat / 2 ^ 118 = v6.s0.toNat / 2 ^ 6 ∧
      v6.toNat / 2 ^ 120 = v6.s0.toNat / 2 ^ 8 := by
  have s1 := v6.s1.toNat_lt
  have s2 := v6.s2.toNat_lt
  have s3 := v6.s3.toNat_lt
  have s4 := v6.s4.toNat_lt
  have s5 := v6.s5.toNat_lt
  have s6 := v6.s6.toNat_lt
  have s7 := v6.s7.toNat_lt
  unfold toNat high
  refine ⟨?_, ?_, ?_⟩
  all_goals omega

theorem masked_iff (mask expected : UInt16) (low high value : Nat) (width : low + high = 16)
    (isMask : mask.toNat = (2 ^ high - 1) * 2 ^ low) (isExpected : expected.toNat = value * 2 ^ low) :
    ((v6.s0 &&& mask) == expected) = true ↔ v6.s0.toNat / 2 ^ low = value := by
  rw [beq_iff_eq, ← UInt16.toNat_inj, UInt16.toNat_and, isMask, isExpected]
  apply and_mask_eq_iff
  rw [width]
  exact v6.s0.toNat_lt

theorem uncovered_iff : (∀ block ∈ internalV6, ¬block.Covers 128 v6.toNat) ↔
    (v6.s0.toNat / 2 ^ 9 ≠ 0x7e ∧ v6.s0.toNat / 2 ^ 6 ≠ 0x3fa ∧ v6.s0.toNat / 2 ^ 8 ≠ 0xff) ∧
      (v6.high = 0 ∨ v6.high = 0xffff →
        ∀ block ∈ internalV4, ¬block.Covers 32 v6.low) := by
  obtain ⟨unique, link, multi⟩ := v6.leading
  have under : ∀ upper, (∀ block ∈ internalV4.map (Block.under upper),
      ¬block.Covers 128 v6.toNat) ↔
        (v6.high = upper → ∀ block ∈ internalV4, ¬block.Covers 32 v6.low) := by
    intro upper
    rw [List.forall_mem_map, toNat_eq]
    constructor
    · intro uncovered same block member covers
      obtain ⟨fits, short⟩ := internalV4_wellFormed block member
      exact uncovered block member ((Block.covers_under fits short upper _ v6.low_lt).2 ⟨same, covers⟩)
    · intro uncovered block member covers
      obtain ⟨fits, short⟩ := internalV4_wellFormed block member
      obtain ⟨same, inside⟩ := (Block.covers_under fits short upper _ v6.low_lt).1 covers
      exact uncovered same block member inside
  have three : (∀ block ∈ ([⟨0x7e, 7⟩, ⟨0x3fa, 10⟩, ⟨0xff, 8⟩] : List Block),
      ¬block.Covers 128 v6.toNat) ↔ v6.s0.toNat / 2 ^ 9 ≠ 0x7e ∧ v6.s0.toNat / 2 ^ 6 ≠ 0x3fa ∧
        v6.s0.toNat / 2 ^ 8 ≠ 0xff := by
    simp only [List.forall_mem_cons, List.not_mem_nil, false_imp_iff, implies_true, and_true,
      Block.Covers, Nat.reduceSub, unique, link, multi, ne_eq]
  rw [internalV6, List.forall_mem_append, List.forall_mem_append, under, under, three, and_assoc,
    or_imp]

/-- **`is_global_v6` refuses what the table covers, and nothing else.** -/
theorem isGlobal_iff : v6.isGlobal = true ↔ ∀ block ∈ internalV6, ¬block.Covers 128 v6.toNat := by
  rw [uncovered_iff]
  unfold isGlobal
  cases mapped : v6.toIpv4 with
  | some v4 =>
      obtain ⟨high, isLow⟩ := v6.toNat_of_toIpv4 mapped
      have zero : v6.s0.toNat = 0 := by
        have bits := v6.high_iff.1 high
        simp only [Bool.and_eq_true, beq_iff_eq] at bits
        rw [bits.1.1.1.1.1]
        rfl
      rw [v4.isGlobal_iff, isLow, zero]
      constructor
      · intro uncovered
        exact ⟨by decide, fun _ => uncovered⟩
      · intro both
        exact both.2 high
  | none =>
      have other : ¬(v6.high = 0 ∨ v6.high = 0xffff) := by
        intro high
        rw [toIpv4, if_pos (v6.high_iff.1 high)] at mapped
        cases mapped
      have loopback : v6.isLoopback = false := by
        rw [← Bool.not_eq_true, isLoopback, beq_iff_eq]
        intro same
        exact other (Or.inl (by rw [same]; rfl))
      have unspecified : v6.isUnspecified = false := by
        rw [← Bool.not_eq_true, isUnspecified, beq_iff_eq]
        intro same
        exact other (Or.inl (by rw [same]; rfl))
      have multi := v6.masked_iff 0xff00 0xff00 8 8 0xff rfl rfl rfl
      have unique := v6.masked_iff 0xfe00 0xfc00 9 7 0x7e rfl rfl rfl
      have link := v6.masked_iff 0xffc0 0xfe80 6 10 0x3fa rfl rfl rfl
      simp only [isMulticast, loopback, unspecified, Bool.false_or, Bool.not_eq_true',
        ← Bool.not_eq_true, Bool.or_eq_true, multi, unique, link, not_or]
      constructor
      · rintro ⟨⟨notMulti, notUnique⟩, notLink⟩
        exact ⟨⟨notUnique, notLink, notMulti⟩, fun high => absurd high other⟩
      · rintro ⟨⟨notUnique, notLink, notMulti⟩, _⟩
        exact ⟨⟨notMulti, notUnique⟩, notLink⟩

end Ipv6Addr

/-- The address is in none of the blocks of its table. -/
def IpAddr.Routable : IpAddr → Prop
  | .v4 address => ∀ block ∈ internalV4, ¬block.Covers 32 address.toNat
  | .v6 address => ∀ block ∈ internalV6, ¬block.Covers 128 address.toNat

theorem IpAddr.isGlobal_iff (address : IpAddr) : address.isGlobal = true ↔ address.Routable := by
  cases address with
  | v4 address => exact address.isGlobal_iff
  | v6 address => exact address.isGlobal_iff

/-! ### URLs -/

structure ParsedUrl where
  scheme : String
  host : Option String
  /-- `port_or_known_default`. -/
  port : Option Nat

/-- Why a URL is dropped. -/
inductive UrlError where
  /-- "bad url {raw}" -/
  | badUrl (raw : String)
  /-- "disallowed scheme {scheme} in {raw}" -/
  | disallowedScheme (scheme raw : String)
  /-- "no host in {raw}" -/
  | noHost (raw : String)
  | lookupFailed
  /-- "non-global IP {address} for host {host}" -/
  | nonGlobal (address : IpAddr) (host : String)
  /-- "host {host} did not resolve" -/
  | unresolved (host : String)

/-- The part of `assert_public_url` before the lookup: the host and the port to resolve. -/
def urlTarget (parse : String → Option ParsedUrl) (raw : String) :
    Except UrlError (String × Nat) :=
  match parse raw with
  | none => .error (.badUrl raw)
  | some url =>
      if url.scheme = "http" ∨ url.scheme = "https" then
        match url.host with
        | none => .error (.noHost raw)
        | some host => .ok (host, url.port.getD 443)
      else .error (.disallowedScheme url.scheme raw)

/-- The part after it: every address must be global, and there must be one. -/
def vetAddresses (host : String) : Option (List IpAddr) → Except UrlError Unit
  | none => .error .lookupFailed
  | some addresses =>
      match addresses.find? fun address => !address.isGlobal with
      | some address => .error (.nonGlobal address host)
      | none => if addresses.isEmpty then .error (.unresolved host) else .ok ()

theorem vetAddresses_ok {host : String} {looked : Option (List IpAddr)}
    (passed : vetAddresses host looked = .ok ()) :
    ∃ addresses, looked = some addresses ∧ addresses ≠ [] ∧
      ∀ address ∈ addresses, address.Routable := by
  unfold vetAddresses at passed
  split at passed
  · cases passed
  · rename_i addresses
    split at passed
    · cases passed
    · rename_i none
      split at passed
      · cases passed
      · rename_i some
        refine ⟨addresses, rfl, fun empty => some (List.isEmpty_iff.2 empty), ?_⟩
        intro address member
        have global := List.find?_eq_none.1 none address member
        simp only [Bool.not_eq_true', Bool.not_eq_false] at global
        exact address.isGlobal_iff.1 global

end CrFaucet.Oracle
