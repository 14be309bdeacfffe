import Mathlib.Data.Nat.Digits.Defs

/-!
Owns the regrouping of bits with an accumulator: symbols of one width are shifted into a register
from below, and groups of another width are taken out of it as soon as they are complete.

A register is a bit vector and loses what is shifted out of it. `Holds` says what an accumulator
stands for all the same: the groups taken so far are the symbols read so far, as one number,
without the bits that are still pending. It is kept by a shift (`Holds.shift`), and by the taking
of a group while the pending bits fit the register (`Holds.take`).

Does not own when a group is taken, or what the symbols are written as.
-/

set_option autoImplicit false

namespace CrFaucet.BitRegroup

/-! ### Groups of bits as a number -/

/-- The first group is the highest. -/
def value (width : Nat) (groups : List Nat) : Nat := Nat.ofDigits (2 ^ width) groups.reverse

@[simp] theorem value_concat (width : Nat) (groups : List Nat) (last : Nat) :
    value width (groups ++ [last]) = value width groups * 2 ^ width + last := by
  rw [value, List.reverse_append, List.reverse_singleton, List.singleton_append,
    Nat.ofDigits_cons, Nat.mul_comm, Nat.add_comm]
  rfl

theorem value_lt {width : Nat} (positive : 0 < width) {groups : List Nat}
    (small : ∀ group ∈ groups, group < 2 ^ width) :
    value width groups < 2 ^ (width * groups.length) := by
  rw [Nat.pow_mul, ← List.length_reverse]
  exact Nat.ofDigits_lt_base_pow_length (Nat.one_lt_two_pow positive.ne')
    fun group member => small group (List.mem_reverse.1 member)

theorem value_injective {width : Nat} (positive : 0 < width) {first second : List Nat}
    (length : first.length = second.length) (firstSmall : ∀ group ∈ first, group < 2 ^ width)
    (secondSmall : ∀ group ∈ second, group < 2 ^ width)
    (same : value width first = value width second) : first = second := by
  refine List.reverse_inj.1
    (Nat.ofDigits_inj_of_len_eq (Nat.one_lt_two_pow positive.ne') ?_ ?_ ?_ same)
  · rw [List.length_reverse, List.length_reverse, length]
  · exact fun group member => firstSmall group (List.mem_reverse.1 member)
  · exact fun group member => secondSmall group (List.mem_reverse.1 member)

def groupsOf (width : Nat) : Nat → Nat → List Nat
  | 0, _ => []
  | count + 1, number => groupsOf width count (number / 2 ^ width) ++ [number % 2 ^ width]

@[simp] theorem length_groupsOf (width count number : Nat) :
    (groupsOf width count number).length = count := by
  induction count generalizing number with
  | zero => rfl
  | succ count inductionHypothesis =>
      rw [groupsOf, List.length_append, inductionHypothesis, List.length_singleton]

theorem lt_of_mem_groupsOf {width count number group : Nat}
    (member : group ∈ groupsOf width count number) : group < 2 ^ width := by
  induction count generalizing number with
  | zero => cases member
  | succ count inductionHypothesis =>
      rcases List.mem_append.1 member with before | last
      · exact inductionHypothesis before
      · rw [List.mem_singleton.1 last]
        exact Nat.mod_lt _ (Nat.two_pow_pos width)

theorem value_groupsOf {width count number : Nat} (fits : number < 2 ^ (width * count)) :
    value width (groupsOf width count number) = number := by
  induction count generalizing number with
  | zero =>
      rw [Nat.mul_zero, Nat.pow_zero] at fits
      exact (Nat.lt_one_iff.1 fits).symm
  | succ count inductionHypothesis =>
      have rest : number / 2 ^ width < 2 ^ (width * count) := by
        rw [Nat.div_lt_iff_lt_mul (Nat.two_pow_pos width), ← Nat.pow_add]
        exact fits
      rw [groupsOf, value_concat, inductionHypothesis rest]
      exact Nat.div_add_mod' number (2 ^ width)

/-! ### The accumulator -/

/-- What a register with pending bits and the groups taken before say about a number: the register
is its lower end, the groups are all of it but the pending bits. -/
structure Holds (width : Nat) {size : Nat} (number : Nat) (register : BitVec size) (bits : Nat)
    (groups : List Nat) : Prop where
  register : register.toNat = number % 2 ^ size
  groups : value width groups = number / 2 ^ bits

theorem Holds.initial (width size : Nat) : Holds width 0 (0 : BitVec size) 0 [] where
  register := by simp
  groups := rfl

theorem toNat_shiftLeft_or {size width : Nat} (register symbol : BitVec size)
    (small : symbol.toNat < 2 ^ width) (fits : width ≤ size) :
    (register <<< width ||| symbol).toNat =
      (register.toNat * 2 ^ width + symbol.toNat) % 2 ^ size := by
  have split : 2 ^ size = 2 ^ (size - width) * 2 ^ width := by
    rw [← Nat.pow_add, Nat.sub_add_cancel fits]
  have shifted : register.toNat <<< width % 2 ^ size =
      (register.toNat % 2 ^ (size - width)) <<< width := by
    rw [Nat.shiftLeft_eq, Nat.shiftLeft_eq, split, Nat.mul_mod_mul_right]
  have joined : register.toNat % 2 ^ (size - width) * 2 ^ width + symbol.toNat < 2 ^ size := by
    have high := Nat.mod_lt register.toNat (Nat.two_pow_pos (size - width))
    calc register.toNat % 2 ^ (size - width) * 2 ^ width + symbol.toNat
        < register.toNat % 2 ^ (size - width) * 2 ^ width + 2 ^ width :=
          Nat.add_lt_add_left small _
      _ = (register.toNat % 2 ^ (size - width) + 1) * 2 ^ width := (Nat.succ_mul _ _).symm
      _ ≤ 2 ^ (size - width) * 2 ^ width := Nat.mul_le_mul_right _ high
      _ = 2 ^ size := split.symm
  calc (register <<< width ||| symbol).toNat
      = register.toNat % 2 ^ (size - width) * 2 ^ width + symbol.toNat := by
        rw [BitVec.toNat_or, BitVec.toNat_shiftLeft, shifted,
          ← Nat.shiftLeft_add_eq_or_of_lt small, Nat.shiftLeft_eq]
    _ = (register.toNat % 2 ^ (size - width) * 2 ^ width + symbol.toNat) % 2 ^ size :=
        (Nat.mod_eq_of_lt joined).symm
    _ = (register.toNat * 2 ^ width + symbol.toNat) % 2 ^ size := by
        rw [← Nat.mul_mod_mul_right, ← split, Nat.mod_add_mod]

section Steps

variable {width size number bits : Nat} {register : BitVec size} {groups : List Nat}

theorem Holds.shift (before : Holds width number register bits groups) {symbolWidth : Nat}
    {symbol : BitVec size} (small : symbol.toNat < 2 ^ symbolWidth) (fits : symbolWidth ≤ size) :
    Holds width (number * 2 ^ symbolWidth + symbol.toNat) (register <<< symbolWidth ||| symbol)
      (bits + symbolWidth) groups where
  register := by
    rw [toNat_shiftLeft_or register symbol small fits, before.register, ← Nat.mod_add_mod,
      Nat.mod_mul_mod, Nat.mod_add_mod]
  groups := by
    have dropped : (number * 2 ^ symbolWidth + symbol.toNat) / 2 ^ symbolWidth = number := by
      rw [Nat.mul_comm, Nat.mul_add_div (Nat.two_pow_pos symbolWidth), Nat.div_eq_of_lt small,
        Nat.add_zero]
    rw [before.groups, Nat.add_comm bits, Nat.pow_add, ← Nat.div_div_eq_div_mul, dropped]

/-- The group above the last bits of a register is a group of the number, if it was not lost. -/
theorem Holds.group_eq (before : Holds width number register bits groups) {left : Nat}
    (inside : left + width ≤ size) :
    (register >>> left).toNat % 2 ^ width = number / 2 ^ left % 2 ^ width := by
  have split : 2 ^ size = 2 ^ left * 2 ^ (size - left) := by
    rw [← Nat.pow_add, Nat.add_sub_cancel' (Nat.le_of_add_right_le inside)]
  have divides : 2 ^ width ∣ 2 ^ (size - left) :=
    Nat.pow_dvd_pow 2 (Nat.le_sub_of_add_le' inside)
  rw [BitVec.toNat_ushiftRight, Nat.shiftRight_eq_div_pow, before.register, split,
    Nat.mod_mul_right_div_self, Nat.mod_mod_of_dvd _ divides]

theorem Holds.take (before : Holds width number register bits groups) (enough : width ≤ bits)
    (inside : bits ≤ size) :
    Holds width number register (bits - width)
      (groups ++ [(register >>> (bits - width)).toNat % 2 ^ width]) where
  register := before.register
  groups := by
    have pending : bits = bits - width + width := (Nat.sub_add_cancel enough).symm
    have above : number / 2 ^ bits = number / 2 ^ (bits - width) / 2 ^ width := by
      rw [Nat.div_div_eq_div_mul, ← Nat.pow_add, ← pending]
    rw [value_concat, before.groups, before.group_eq (pending ▸ inside), above]
    exact Nat.div_add_mod' _ _

/-- **What was taken are the groups of the number.** -/
theorem Holds.groups_eq (holds : Holds width number register bits groups) (positive : 0 < width)
    {expected : List Nat} (length : groups.length = expected.length)
    (small : ∀ group ∈ groups, group < 2 ^ width)
    (expectedSmall : ∀ group ∈ expected, group < 2 ^ width) {padding : Nat}
    (padded : number = value width expected * 2 ^ bits + padding) (short : padding < 2 ^ bits) :
    groups = expected := by
  refine value_injective positive length small expectedSmall ?_
  rw [holds.groups, padded, Nat.mul_comm, Nat.mul_add_div (Nat.two_pow_pos bits),
    Nat.div_eq_of_lt short, Nat.add_zero]

end Steps

end CrFaucet.BitRegroup
