import Mathlib.Algebra.GroupWithZero.Nat
import Mathlib.Algebra.Ring.Int.Defs

/-!
Owns the cumulative-voucher math of `pool_core::voucher`: which cumulative amount
to sign, given what was earned, what was signed before and what was claimed.

Integers of the source are `i64`; where it adds without a check the sum wraps.

Does not own where the inputs come from; see `Issuance.Service`.
-/

set_option autoImplicit false

namespace CrFaucet.Issuance

def i64Max : Int := 2 ^ 63 - 1

def IsI64 (n : Int) : Prop := -2 ^ 63 ≤ n ∧ n ≤ i64Max

instance (n : Int) : Decidable (IsI64 n) := inferInstanceAs (Decidable (_ ∧ _))

/-- An `i64` operation without an overflow check. -/
def wrapI64 (n : Int) : Int := (n + 2 ^ 63) % 2 ^ 64 - 2 ^ 63

theorem wrapI64_of_isI64 {n : Int} (fits : IsI64 n) : wrapI64 n = n := by
  obtain ⟨low, high⟩ := fits
  unfold i64Max at high
  unfold wrapI64
  omega

/-- `i64::saturating_sub`. -/
def saturatingSub (a b : Int) : Int := max (-2 ^ 63) (min (a - b) i64Max)

/-- `n as u64`. -/
def asU64 (n : Int) : Nat := (n % 2 ^ 64).toNat

theorem asU64_of_isI64 {n : Int} (fits : IsI64 n) (nonneg : 0 ≤ n) : asU64 n = n.toNat := by
  have high := fits.2
  unfold i64Max at high
  unfold asU64
  omega

/-- `u256_to_i64_or`. -/
def u256ToI64Or (value : Nat) (fallback : Int) : Int :=
  if value < 2 ^ 63 then value else fallback

structure VoucherInputs where
  earnedCumulative : Int
  lastVoucherCumulative : Int
  onChainClaimed : Int
  requestedAmount : Option Int
deriving DecidableEq

structure VoucherDecision where
  newCumulative : Int
  marginal : Int
deriving DecidableEq

inductive VoucherError where
  | nonPositive
  | insufficient (requested available : Int)
  | empty
deriving DecidableEq

def VoucherError.message : VoucherError → String
  | .nonPositive => "amount must be positive"
  | .insufficient requested available =>
      s!"only {available} available beyond prior vouchers/claims; requested {requested}"
  | .empty => "nothing to issue: already covered by prior vouchers or claims"

namespace VoucherInputs

variable (inputs : VoucherInputs)

/-- What is covered already. -/
def base : Int := max (max inputs.lastVoucherCumulative inputs.onChainClaimed) 0

def available : Int := saturatingSub (max inputs.earnedCumulative 0) inputs.base

def decide : Except VoucherError VoucherDecision :=
  let amount := inputs.requestedAmount.getD inputs.available
  if inputs.available ≤ 0 then .error .empty
  else if amount ≤ 0 then .error .nonPositive
  else if inputs.available < amount then .error (.insufficient amount inputs.available)
  else .ok { newCumulative := wrapI64 (inputs.base + amount), marginal := amount }

theorem available_le (inputs : VoucherInputs) :
    inputs.available ≤ max inputs.earnedCumulative 0 - inputs.base ∨ inputs.available ≤ 0 := by
  unfold available saturatingSub
  omega

/-- **What `decide` decides.** The marginal is positive and fits between what is
covered and what was earned, so that nothing wraps. -/
theorem decide_eq_ok {inputs : VoucherInputs} {decision : VoucherDecision}
    (earned : IsI64 inputs.earnedCumulative) (decided : inputs.decide = .ok decision) :
    0 < decision.marginal ∧ decision.newCumulative = inputs.base + decision.marginal ∧
      0 < decision.newCumulative ∧ decision.newCumulative ≤ inputs.earnedCumulative := by
  unfold decide at decided
  simp only at decided
  split at decided
  · cases decided
  · split at decided
    · cases decided
    · split at decided
      · cases decided
      · obtain rfl := Except.ok.inj decided
        have room := available_le inputs
        have high := earned.2
        have nonneg : 0 ≤ inputs.base := Int.le_max_right _ _
        unfold i64Max at high
        dsimp only
        rw [wrapI64_of_isI64 ⟨by omega, by unfold i64Max; omega⟩]
        omega

end VoucherInputs

example : VoucherInputs.decide ⟨1000, 100, 400, some 50⟩ = .ok ⟨450, 50⟩ := by decide

end CrFaucet.Issuance
