import Mathlib.Algebra.BigOperators.Ring.List
import Mathlib.Algebra.Order.BigOperators.Group.List
import Mathlib.Algebra.Order.Field.Rat
import Mathlib.Tactic.NormNum
import Mathlib.Tactic.Positivity
import Mathlib.Tactic.Ring
import CrFaucet.Redemption.PendingCounters

/-!
Owns what a batch of redemptions pays in total, when `drain_once` pays one after
another against the same snapshot.

Each payout takes its share of the balance the snapshot remembers, but divides by
a pending total that the payouts before it have already been debited from. The
exact dues therefore need not add up to the balance: `payBatch` stays within it
when they exceed it by no more than rounding keeps back, and `wholeSupply` is a
batch in which they exceed it by half.
-/

set_option autoImplicit false

namespace CrFaucet.Redemption

/-! ### The debit between two payouts -/

namespace Redis

/-- After `mark_redemption_sent` the consumer reads a pending total that is lower
by the amount of the redemption. -/
theorem readCounter_markSentScript (lua : Lua) {redis : Redis} (balanced : redis.Balanced)
    {id : RedemptionId} (txid : String) {amount : Nat}
    (queued : redis.state id = some .pending ∨ redis.state id = some .inFlight)
    (recorded : redis.amount id = some (amount : Int)) (positive : 0 < amount) :
    readCounter (redis.markSentScript lua id txid).1.pendingAtomic =
      readCounter redis.pendingAtomic - amount := by
  obtain ⟨owed, _⟩ := balanced.covers (live_of_queued queued) recorded
  obtain ⟨after, ran, _, _, atomic, _⟩ :=
    balanced.markSentScript_queued lua txid queued recorded (by omega)
  rw [ran, readCounter, readCounter, atomic, Option.getD_some]
  omega

end Redis

/-! ### A batch -/

section Batch

variable (premiumBp : Nat) (snap : TreasurySnapshot)

/-- What the batch pays in total. Only a payout debits the pending total. -/
def payBatch : (pending : Nat) → (amounts : List Nat) → Nat
  | _, [] => 0
  | pending, amount :: rest =>
      match assess premiumBp snap pending amount with
      | .pay payout => payout + payBatch (pending - amount) rest
      | _ => payBatch pending rest

/-- What a payout is a share of while `denom` is outstanding. -/
def effectiveBalance (denom : Nat) : Nat := min snap.moneroBalanceAtomic (capAtomic premiumBp denom)

/-- A redemption that can be paid: its exact due is worth a stamp, and rounded
down it is no more than what is unlocked. -/
def Payable (pendingNow amount : Nat) : Prop :=
  snap.denom pendingNow ≠ 0 ∧ snap.moneroBalanceAtomic ≠ 0 ∧
    stampMod * snap.denom pendingNow ≤
      amount * effectiveBalance premiumBp snap (snap.denom pendingNow) ∧
    amount * effectiveBalance premiumBp snap (snap.denom pendingNow) <
      (snap.moneroUnlockedAtomic + 1) * snap.denom pendingNow

instance (pendingNow amount : Nat) : Decidable (Payable premiumBp snap pendingNow amount) := by
  unfold Payable
  infer_instance

/-- The redemptions of the batch that can be paid, each with the total that is
outstanding when its turn comes. -/
def batchTurns : (pending : Nat) → (amounts : List Nat) → List (Nat × Nat)
  | _, [] => []
  | pending, amount :: rest =>
      if Payable premiumBp snap pending amount then
        (amount, snap.denom pending) :: batchTurns (pending - amount) rest
      else batchTurns pending rest

def exactDues (pending : Nat) (amounts : List Nat) : ℚ :=
  ((batchTurns premiumBp snap pending amounts).map fun turn =>
    ((turn.1 * effectiveBalance premiumBp snap turn.2 : Nat) : ℚ) / turn.2).sum

/-- What rounding down keeps back of them. -/
def roundedOff (pending : Nat) (amounts : List Nat) : ℚ :=
  ((batchTurns premiumBp snap pending amounts).map fun turn =>
    ((turn.1 * effectiveBalance premiumBp snap turn.2 % turn.2 : Nat) : ℚ) / turn.2).sum

variable {premiumBp snap}

theorem proRata_of_part {pendingNow amount : Nat} (fits : pendingNow < 2 ^ 63)
    (part : amount ≤ pendingNow) :
    proRata premiumBp snap.moneroBalanceAtomic (snap.denom pendingNow) amount =
      some (amount * effectiveBalance premiumBp snap (snap.denom pendingNow) /
        snap.denom pendingNow) := by
  have capped : effectiveBalance premiumBp snap (snap.denom pendingNow) ≤ u128Max :=
    (Nat.min_le_right _ _).trans (Nat.min_le_right _ _)
  have product :
      amount * effectiveBalance premiumBp snap (snap.denom pendingNow) ≤ u256Max :=
    (Nat.mul_le_mul (part.trans fits.le) capped).trans (by decide)
  have outstanding : amount ≤ snap.denom pendingNow := by
    have small : pendingNow ≤ u128Max := fits.le.trans (by decide)
    exact part.trans (Nat.le_min.2 ⟨Nat.le_add_left _ _, small⟩)
  have payout : amount * effectiveBalance premiumBp snap (snap.denom pendingNow) /
      snap.denom pendingNow ≤ u128Max :=
    (Nat.div_le_of_le_mul (Nat.mul_le_mul_right _ outstanding)).trans capped
  simp only [effectiveBalance] at product payout ⊢
  simp only [proRata, Nat.min_eq_left product, if_pos payout]

/-- **When `drain_once` pays a redemption, and how much.** -/
theorem assess_eq_pay_iff {pendingNow amount payout : Nat} (fits : pendingNow < 2 ^ 63)
    (part : amount ≤ pendingNow) :
    assess premiumBp snap pendingNow amount = .pay payout ↔
      Payable premiumBp snap pendingNow amount ∧
        payout = amount * effectiveBalance premiumBp snap (snap.denom pendingNow) /
          snap.denom pendingNow := by
  unfold assess Payable
  simp only [proRata_of_part fits part]
  by_cases empty : snap.denom pendingNow = 0 ∨ snap.moneroBalanceAtomic = 0
  · rw [if_pos empty]
    simp only [reduceCtorEq, false_iff, not_and]
    rintro ⟨outstanding, funded, _⟩
    exact absurd empty (not_or.2 ⟨outstanding, funded⟩)
  · rw [if_neg empty]
    obtain ⟨outstanding, funded⟩ := not_or.1 empty
    have positive := Nat.pos_of_ne_zero outstanding
    rw [← Nat.le_div_iff_mul_le positive, ← Nat.div_lt_iff_lt_mul positive, Nat.lt_succ_iff]
    generalize amount * effectiveBalance premiumBp snap (snap.denom pendingNow) /
      snap.denom pendingNow = due
    split
    · rename_i dust
      simp [Nat.not_le.2 dust]
    · rename_i large
      split
      · rename_i locked
        simp [Nat.not_le.2 locked]
      · rename_i unlocked
        simp [outstanding, funded, Nat.not_lt.1 large, Nat.not_lt.1 unlocked, eq_comm]

theorem payBatch_cons {pending amount : Nat} (rest : List Nat) (fits : pending < 2 ^ 63)
    (part : amount ≤ pending) :
    payBatch premiumBp snap pending (amount :: rest) =
      if Payable premiumBp snap pending amount then
        amount * effectiveBalance premiumBp snap (snap.denom pending) / snap.denom pending +
          payBatch premiumBp snap (pending - amount) rest
      else payBatch premiumBp snap pending rest := by
  split
  · rename_i payable
    simp only [payBatch, (assess_eq_pay_iff fits part).2 ⟨payable, rfl⟩]
  · rename_i unpayable
    simp only [payBatch]
    split
    · rename_i payout paid
      exact absurd ((assess_eq_pay_iff fits part).1 paid).1 unpayable
    · rfl

theorem cast_div_add_rest (due : Nat) {denom : Nat} (nonzero : denom ≠ 0) :
    ((due / denom : Nat) : ℚ) + ((due % denom : Nat) : ℚ) / denom = (due : ℚ) / denom := by
  have split : ((denom * (due / denom) + due % denom : Nat) : ℚ) = due := by
    rw [Nat.div_add_mod]
  have scaled : (denom : ℚ) ≠ 0 := Nat.cast_ne_zero.2 nonzero
  rw [← split, Nat.cast_add, Nat.cast_mul, add_div, mul_div_cancel_left₀ _ scaled]

/-- The batch pays the exact dues, less what is rounded off. -/
theorem payBatch_add_roundedOff {pending : Nat} {amounts : List Nat} (fits : pending < 2 ^ 63)
    (part : amounts.sum ≤ pending) :
    (payBatch premiumBp snap pending amounts : ℚ) + roundedOff premiumBp snap pending amounts =
      exactDues premiumBp snap pending amounts := by
  induction amounts generalizing pending with
  | nil => simp [payBatch, roundedOff, exactDues, batchTurns]
  | cons amount rest inductionHypothesis =>
      rw [List.sum_cons] at part
      rw [payBatch_cons rest fits (by omega)]
      by_cases payable : Payable premiumBp snap pending amount
      · have left : rest.sum ≤ pending - amount := by omega
        have later := inductionHypothesis ((Nat.sub_le _ _).trans_lt fits) left
        simp only [roundedOff, exactDues] at later
        simp only [roundedOff, exactDues, batchTurns, if_pos payable, List.map_cons, List.sum_cons,
          Nat.cast_add]
        rw [← later, ← cast_div_add_rest
          (amount * effectiveBalance premiumBp snap (snap.denom pending)) payable.1]
        ring
      · have later := inductionHypothesis fits (by omega)
        simp only [roundedOff, exactDues, batchTurns, if_neg payable] at later ⊢
        exact later

theorem exactDues_le_shares (pending : Nat) (amounts : List Nat) :
    exactDues premiumBp snap pending amounts ≤
      ((batchTurns premiumBp snap pending amounts).map fun turn => (turn.1 / turn.2 : ℚ)).sum *
        snap.moneroBalanceAtomic := by
  rw [exactDues, ← List.sum_map_mul_right]
  apply List.sum_le_sum
  intro turn _
  have bound : ((turn.1 * effectiveBalance premiumBp snap turn.2 : Nat) : ℚ) ≤
      turn.1 * snap.moneroBalanceAtomic := by
    exact_mod_cast Nat.mul_le_mul_left turn.1 (Nat.min_le_left _ _)
  rw [div_mul_eq_mul_div]
  exact div_le_div_of_nonneg_right bound (Nat.cast_nonneg _)

theorem roundedOff_nonneg (pending : Nat) (amounts : List Nat) :
    0 ≤ roundedOff premiumBp snap pending amounts := by
  apply List.sum_nonneg
  intro kept member
  obtain ⟨turn, _, rfl⟩ := List.mem_map.1 member
  positivity

end Batch

/-- Four tokens are out and two are being redeemed, against 0.6 XMR. -/
def fourAndTwo : TreasurySnapshot where
  moneroBalanceAtomic := 6 * 10 ^ 11
  moneroUnlockedAtomic := 6 * 10 ^ 11
  pendingRedemptionsAtomic := 2 * 10 ^ 12
  pendingRedemptionsCount := 2
  miningPoolTokenTotalSupply := 4 * 10 ^ 12
  asOfUnix := 0

/-- Every token there is has been burned, in two redemptions of one token each. -/
def wholeSupply : TreasurySnapshot where
  moneroBalanceAtomic := 10 ^ 12
  moneroUnlockedAtomic := 10 ^ 12
  pendingRedemptionsAtomic := 2 * 10 ^ 12
  pendingRedemptionsCount := 2
  miningPoolTokenTotalSupply := 0
  asOfUnix := 0

end CrFaucet.Redemption
