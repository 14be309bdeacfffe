import CrFaucet.Redemption.Payout
import Mathlib.Algebra.Order.Floor.Semifield
import Mathlib.Data.Rat.Floor

/-!
Owns `GET /treasury` of the operator API, and how the rate it publishes relates to
what the payout consumer computes.

Rates are exact quotients; the source divides in `f64`.
-/

set_option autoImplicit false

namespace CrFaucet.Treasury

open Redemption

/-- The `u128` fields of a snapshot hold what a `u128` can. -/
structure SnapshotFits (snap : TreasurySnapshot) : Prop where
  balance : snap.moneroBalanceAtomic ≤ u128Max
  unlocked : snap.moneroUnlockedAtomic ≤ u128Max
  pending : snap.pendingRedemptionsAtomic ≤ u128Max
  supply : snap.miningPoolTokenTotalSupply ≤ u128Max

structure TreasuryView where
  moneroBalanceAtomic : String
  moneroUnlockedAtomic : String
  pendingRedemptionsMiningPoolToken : String
  pendingRedemptionsCount : Nat
  miningPoolTokenTotalSupply : String
  perMiningPoolTokenBaseUnitAtomicXmr : Option ℚ
  perTokenAtomicXmr : Option ℚ
  asOfUnix : Option Int
deriving DecidableEq

inductive StatusCode where
  | internalServerError
deriving DecidableEq

/-- `balance / (totalSupply + pending)`. -/
def perBaseUnit (snap : TreasurySnapshot) : Option ℚ :=
  let denom := satAdd snap.miningPoolTokenTotalSupply snap.pendingRedemptionsAtomic
  if 0 < denom then some (snap.moneroBalanceAtomic / denom) else none

/-- `get_treasury`; the outer `none` is a read that fails, the inner one that there is
no snapshot yet. -/
def getTreasury : Option (Option TreasurySnapshot) → Except StatusCode TreasuryView
  | none => .error .internalServerError
  | some (some snap) => .ok {
      moneroBalanceAtomic := toString snap.moneroBalanceAtomic
      moneroUnlockedAtomic := toString snap.moneroUnlockedAtomic
      pendingRedemptionsMiningPoolToken := toString snap.pendingRedemptionsAtomic
      pendingRedemptionsCount := snap.pendingRedemptionsCount
      miningPoolTokenTotalSupply := toString snap.miningPoolTokenTotalSupply
      perMiningPoolTokenBaseUnitAtomicXmr := perBaseUnit snap
      perTokenAtomicXmr := (perBaseUnit snap).map (· * 10 ^ 12)
      asOfUnix := some snap.asOfUnix }
  | some none => .ok {
      moneroBalanceAtomic := "0"
      moneroUnlockedAtomic := "0"
      pendingRedemptionsMiningPoolToken := "0"
      pendingRedemptionsCount := 0
      miningPoolTokenTotalSupply := "0"
      perMiningPoolTokenBaseUnitAtomicXmr := none
      perTokenAtomicXmr := none
      asOfUnix := none }

/-! ### The two sides of a redemption -/

variable {snap : TreasurySnapshot} {premiumBp amount : Nat} {rate : ℚ}

theorem perBaseUnit_eq_some (published : perBaseUnit snap = some rate) :
    0 < snap.denom snap.pendingRedemptionsAtomic ∧
      rate = (snap.moneroBalanceAtomic : ℚ) / snap.denom snap.pendingRedemptionsAtomic := by
  simp only [perBaseUnit, Option.ite_none_right_eq_some, Option.some.injEq] at published
  exact ⟨published.1, published.2.symm⟩

theorem floor_mul_rate (published : perBaseUnit snap = some rate) (amount : Nat) :
    ⌊(amount : ℚ) * rate⌋₊ =
      amount * snap.moneroBalanceAtomic / snap.denom snap.pendingRedemptionsAtomic := by
  rw [(perBaseUnit_eq_some published).2, ← mul_div_assoc, ← Nat.cast_mul,
    Nat.floor_div_natCast, Nat.floor_natCast]

theorem le_denom (fits : SnapshotFits snap) (covered : amount ≤ snap.pendingRedemptionsAtomic) :
    amount ≤ snap.denom snap.pendingRedemptionsAtomic :=
  Nat.le_min.mpr ⟨by omega, covered.trans fits.pending⟩

/-- What the consumer computes: nothing overflows on the way. -/
theorem payoutAtomic_eq (fits : SnapshotFits snap)
    (covered : amount ≤ snap.pendingRedemptionsAtomic)
    (positive : 0 < snap.denom snap.pendingRedemptionsAtomic) :
    payoutAtomic premiumBp snap snap.pendingRedemptionsAtomic amount =
      amount * min snap.moneroBalanceAtomic
          (capAtomic premiumBp (snap.denom snap.pendingRedemptionsAtomic)) /
        snap.denom snap.pendingRedemptionsAtomic := by
  generalize bound : snap.denom snap.pendingRedemptionsAtomic = denom at positive
  have part : amount ≤ denom := bound ▸ le_denom fits covered
  generalize counted : min snap.moneroBalanceAtomic (capAtomic premiumBp denom) = effective
  have small : effective ≤ u128Max := counted ▸ (Nat.min_le_left _ _).trans fits.balance
  have product : amount * effective ≤ u256Max := by
    have amountSmall : amount ≤ u128Max := covered.trans fits.pending
    calc
      amount * effective ≤ u128Max * u128Max := Nat.mul_le_mul amountSmall small
      _ ≤ u256Max := by decide
  have payout : amount * effective / denom ≤ u128Max := by
    calc
      amount * effective / denom ≤ denom * effective / denom :=
        Nat.div_le_div_right (Nat.mul_le_mul_right _ part)
      _ = effective := Nat.mul_div_cancel_left _ positive
      _ ≤ u128Max := small
  unfold payoutAtomic
  rw [bound]
  by_cases empty : snap.moneroBalanceAtomic = 0
  · rw [if_pos (Or.inr empty), ← counted, empty, Nat.zero_min, Nat.mul_zero, Nat.zero_div]
  · rw [if_neg (by omega)]
    simp only [proRata, counted, Nat.min_eq_left product, if_pos payout, Option.getD_some]

theorem add_div_eq_iff {a b d : Nat} (positive : 0 < d) :
    (a + b) / d = a / d ↔ b < d - a % d := by
  have remainder := Nat.mod_lt a positive
  have division := Nat.div_add_mod a d
  rw [Nat.div_eq_iff positive]
  constructor
  · rintro ⟨_, high⟩
    rw [Nat.mul_comm] at high
    omega
  · intro below
    rw [Nat.mul_comm]
    omega

/-- **When the advertised rate is the one paid**: exactly when the balance is within the
premium cap, or the surplus above it is not worth another atomic unit to this burn. -/
theorem advertised_rate_paid_iff {view : TreasuryView} (fits : SnapshotFits snap)
    (covered : amount ≤ snap.pendingRedemptionsAtomic)
    (served : getTreasury (some (some snap)) = .ok view)
    (published : view.perMiningPoolTokenBaseUnitAtomicXmr = some rate) :
    ⌊(amount : ℚ) * rate⌋₊ =
        payoutAtomic premiumBp snap snap.pendingRedemptionsAtomic amount ↔
      let denom := snap.denom snap.pendingRedemptionsAtomic
      let cap := capAtomic premiumBp denom
      snap.moneroBalanceAtomic ≤ cap ∨
        amount * (snap.moneroBalanceAtomic - cap) < denom - amount * cap % denom := by
  cases served
  have positive := (perBaseUnit_eq_some published).1
  rw [floor_mul_rate published, payoutAtomic_eq fits covered positive]
  dsimp only
  generalize snap.denom snap.pendingRedemptionsAtomic = denom at positive ⊢
  generalize capAtomic premiumBp denom = cap
  by_cases within : snap.moneroBalanceAtomic ≤ cap
  · rw [Nat.min_eq_left within]
    exact ⟨fun _ => Or.inl within, fun _ => rfl⟩
  · have surplus : snap.moneroBalanceAtomic = cap + (snap.moneroBalanceAtomic - cap) := by omega
    rw [Nat.min_eq_right (by omega)]
    conv_lhs => rw [surplus, Nat.mul_add, add_div_eq_iff positive]
    exact ⟨Or.inr, fun either => either.resolve_left within⟩

/-- A snapshot with 1 XMR worth of tokens, a tenth of it pending. -/
def oneXmrIssued (balance : Nat) : TreasurySnapshot where
  moneroBalanceAtomic := balance
  moneroUnlockedAtomic := balance
  pendingRedemptionsAtomic := 10 ^ 11
  pendingRedemptionsCount := 1
  miningPoolTokenTotalSupply := 9 * 10 ^ 11
  asOfUnix := 0

theorem oneXmrIssued_fits {balance : Nat} (fits : balance ≤ u128Max) :
    SnapshotFits (oneXmrIssued balance) where
  balance := fits
  unlocked := fits
  pending := by simp only [oneXmrIssued]; decide
  supply := by simp only [oneXmrIssued]; decide

/-- The wallet holds 0.8 XMR: a burn of 0.1 is promised and paid 0.08. -/
theorem advertised_rate_paid_undercollateralised :
    perBaseUnit (oneXmrIssued (8 * 10 ^ 11)) = some (8 / 10) ∧
    ⌊((10 ^ 11 : Nat) : ℚ) * (8 / 10)⌋₊ =
      payoutAtomic 1000 (oneXmrIssued (8 * 10 ^ 11)) (10 ^ 11) (10 ^ 11) := by
  have published : perBaseUnit (oneXmrIssued (8 * 10 ^ 11)) = some (8 / 10) := by
    simp only [perBaseUnit, oneXmrIssued, satAdd, u128Max]
    norm_num
  have fits := oneXmrIssued_fits (show 8 * 10 ^ 11 ≤ u128Max by decide)
  exact ⟨published, (advertised_rate_paid_iff fits le_rfl rfl published).mpr
    (Or.inl (by simp only [oneXmrIssued, TreasurySnapshot.denom]; decide))⟩

/-- The wallet holds 1.2 XMR and the premium is capped at 10 %: a burn of 0.1 is promised
0.12 and paid 0.11. -/
theorem advertised_rate_not_paid :
    perBaseUnit (oneXmrIssued (12 * 10 ^ 11)) = some (12 / 10) ∧
    ⌊((10 ^ 11 : Nat) : ℚ) * (12 / 10)⌋₊ = 12 * 10 ^ 10 ∧
    payoutAtomic 1000 (oneXmrIssued (12 * 10 ^ 11)) (10 ^ 11) (10 ^ 11) = 11 * 10 ^ 10 ∧
    assess 1000 (oneXmrIssued (12 * 10 ^ 11)) (10 ^ 11) (10 ^ 11) = .pay (11 * 10 ^ 10) := by
  refine ⟨?_, ?_, by decide +kernel, by decide +kernel⟩
  · simp only [perBaseUnit, oneXmrIssued, satAdd, u128Max]
    norm_num
  · norm_num

end CrFaucet.Treasury
