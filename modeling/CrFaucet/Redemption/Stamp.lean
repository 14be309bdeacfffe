import Mathlib.Algebra.GroupWithZero.Nat
import Mathlib.Data.Nat.Bitwise

/-!
Owns the redemption stamp of `pool_core::redemption`: the low 16 bits of a
payout carry the redemption id, so that a payment can be recognised in the
wallet history after everything else was lost.

Does not own the scan of the wallet history; see `Redemption.Drain`.
-/

set_option autoImplicit false

namespace CrFaucet.Redemption

/-- A redemption id, a `u64`. -/
abbrev RedemptionId := Fin (2 ^ 64)

instance redemptionIdCount_neZero : NeZero (2 ^ 64) := ⟨Nat.ne_of_gt (Nat.two_pow_pos 64)⟩

def stampBits : Nat := 16

def stampMod : Nat := 2 ^ stampBits

def stampTag (id : RedemptionId) : Nat := id.val % stampMod

/-- The amount actually transferred: `payout` rounded down to a 16-bit boundary
with the tag put in, one boundary lower when that overshoots. -/
def stampAmount (payout : Nat) (id : RedemptionId) : Nat :=
  let base := payout / stampMod * stampMod
  let stamped := base ||| stampTag id
  if payout < stamped then stamped - stampMod else stamped

def matchesStamp (amount : Nat) (id : RedemptionId) : Bool :=
  amount % stampMod == stampTag id

theorem stampTag_lt (id : RedemptionId) : stampTag id < stampMod :=
  Nat.mod_lt _ (by decide)

/-- The low bits of the rounded payout are free, so setting the tag adds it. -/
theorem base_lor_stampTag (payout : Nat) (id : RedemptionId) :
    payout / stampMod * stampMod ||| stampTag id =
      payout / stampMod * stampMod + stampTag id := by
  rw [Nat.mul_comm]
  exact (Nat.two_pow_add_eq_or_of_lt (stampTag_lt id) _).symm

theorem stampAmount_eq (payout : Nat) (id : RedemptionId) :
    stampAmount payout id =
      if payout % stampMod < stampTag id then
        payout / stampMod * stampMod + stampTag id - stampMod
      else payout / stampMod * stampMod + stampTag id := by
  have split := Nat.div_add_mod' payout stampMod
  unfold stampAmount
  simp only [base_lor_stampTag]
  by_cases overshoots : payout % stampMod < stampTag id
  · rw [if_pos (by omega), if_pos overshoots]
  · rw [if_neg (by omega), if_neg overshoots]

section Stampable

variable {payout : Nat} (id : RedemptionId) (large : stampMod ≤ payout)

include large

theorem one_le_boundaries : 1 ≤ payout / stampMod :=
  (Nat.one_le_div_iff (by decide)).2 large

theorem stampAmount_le : stampAmount payout id ≤ payout := by
  have split := Nat.div_add_mod' payout stampMod
  have tag := stampTag_lt id
  rw [stampAmount_eq]
  split <;> omega

theorem stampAmount_withholds : payout - stampAmount payout id < stampMod := by
  have split := Nat.div_add_mod' payout stampMod
  have low : payout % stampMod < stampMod := Nat.mod_lt _ (by decide)
  have tag := stampTag_lt id
  have boundary := Nat.mul_le_mul_right stampMod (one_le_boundaries large)
  rw [stampAmount_eq]
  split <;> omega

theorem matchesStamp_stampAmount : matchesStamp (stampAmount payout id) id = true := by
  obtain ⟨boundary, higher⟩ := Nat.exists_eq_add_of_le' (one_le_boundaries large)
  have tag := stampTag_lt id
  rw [matchesStamp, beq_iff_eq, stampAmount_eq]
  split
  · rw [higher, Nat.add_mul, Nat.one_mul, Nat.add_right_comm, Nat.add_sub_cancel,
      Nat.add_comm, Nat.add_mul_mod_self_right, Nat.mod_eq_of_lt tag]
  · rw [Nat.add_comm, Nat.add_mul_mod_self_right, Nat.mod_eq_of_lt tag]

theorem stampAmount_pos : 0 < stampAmount payout id := by
  have boundary := Nat.mul_le_mul_right stampMod (one_le_boundaries large)
  have positive : 0 < stampMod := by decide
  rw [stampAmount_eq]
  split <;> omega

end Stampable

end CrFaucet.Redemption
