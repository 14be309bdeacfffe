import CrFaucet.Redemption.Stamp

/-!
Owns the pro-rata arithmetic of `drain_once`: what one redemption is worth
against a treasury snapshot and the live pending total, and what becomes of it.

All `u128` operations saturate where the source says `saturating_`, and the
product is taken in 256 bits.

Does not own who asks; see `Redemption.Drain` for the consumer,
`Redemption.BatchPayout` and `Treasury.Refresher` for what the amounts mean.
-/

set_option autoImplicit false

namespace CrFaucet.Redemption

def u128Max : Nat := 2 ^ 128 - 1

def u256Max : Nat := 2 ^ 256 - 1

/-- `u128::saturating_add`. -/
def satAdd (a b : Nat) : Nat := min (a + b) u128Max

/-- `u128::saturating_mul`. -/
def satMul (a b : Nat) : Nat := min (a * b) u128Max

structure TreasurySnapshot where
  moneroBalanceAtomic : Nat
  moneroUnlockedAtomic : Nat
  pendingRedemptionsAtomic : Nat
  pendingRedemptionsCount : Nat
  miningPoolTokenTotalSupply : Nat
  asOfUnix : Int
deriving DecidableEq

/-- The fields of `MoneroConfig` the payout consumer reads. -/
structure MoneroConfig where
  perTxCapAtomic : Nat
  maxPayoutPremiumBp : Nat
  confirmWaitSecs : Nat
deriving DecidableEq

namespace TreasurySnapshot

variable (snap : TreasurySnapshot)

/-- `totalSupply + pending`. -/
def denom (pendingNow : Nat) : Nat := satAdd snap.miningPoolTokenTotalSupply pendingNow

end TreasurySnapshot

/-- The most of the balance that is handed out: `denom` plus the premium. -/
def capAtomic (premiumBp denom : Nat) : Nat := satAdd denom (satMul denom premiumBp / 10000)

/-- `amount × effective_balance / denom`. `none` does not fit a `u128`. -/
def proRata (premiumBp balance denom amount : Nat) : Option Nat :=
  let effectiveBalance := min balance (capAtomic premiumBp denom)
  let payout := min (amount * effectiveBalance) u256Max / denom
  if payout ≤ u128Max then some payout else none

/-- What `drain_once` does with a claimed redemption. -/
inductive Verdict where
  | pause
  | dust
  | locked
  | pay (payout : Nat)
deriving DecidableEq

/-- The branches between reading the pending total and the transfer. -/
def assess (premiumBp : Nat) (snap : TreasurySnapshot) (pendingNow amount : Nat) : Verdict :=
  let denom := snap.denom pendingNow
  if denom = 0 ∨ snap.moneroBalanceAtomic = 0 then .pause
  else match proRata premiumBp snap.moneroBalanceAtomic denom amount with
    | none => .pause
    | some payout =>
        if payout < stampMod then .dust
        else if snap.moneroUnlockedAtomic < payout then .locked
        else .pay payout

theorem assess_eq_pay {premiumBp pendingNow amount payout : Nat} {snap : TreasurySnapshot}
    (paid : assess premiumBp snap pendingNow amount = .pay payout) :
    snap.denom pendingNow ≠ 0 ∧ stampMod ≤ payout ∧
      payout ≤ snap.moneroUnlockedAtomic ∧
      proRata premiumBp snap.moneroBalanceAtomic (snap.denom pendingNow) amount = some payout := by
  unfold assess at paid
  simp only at paid
  split at paid
  · cases paid
  · rename_i nonzero
    split at paid
    · cases paid
    · rename_i computed exact'
      split at paid
      · cases paid
      · split at paid
        · cases paid
        · cases paid
          exact ⟨fun zero => nonzero (Or.inl zero), by omega, by omega, exact'⟩

/-- The payout that is computed, before dust and locked funds are looked at; 0
where the redemption is paused instead. -/
def payoutAtomic (premiumBp : Nat) (snap : TreasurySnapshot) (pendingNow amount : Nat) : Nat :=
  if snap.denom pendingNow = 0 ∨ snap.moneroBalanceAtomic = 0 then 0
  else (proRata premiumBp snap.moneroBalanceAtomic (snap.denom pendingNow) amount).getD 0

/-! ### The pro-rata rate -/

theorem denom_le_u128Max (snap : TreasurySnapshot) (pendingNow : Nat) :
    snap.denom pendingNow ≤ u128Max := Nat.min_le_right _ _

theorem le_capAtomic (premiumBp : Nat) {denom : Nat} (fits : denom ≤ u128Max) :
    denom ≤ capAtomic premiumBp denom :=
  Nat.le_min.2 ⟨Nat.le_add_right _ _, fits⟩

theorem capAtomic_zero {denom : Nat} (fits : denom ≤ u128Max) : capAtomic 0 denom = denom := by
  simp [capAtomic, satAdd, satMul, fits]

theorem proRata_mul_le {premiumBp balance denom amount payout : Nat}
    (computed : proRata premiumBp balance denom amount = some payout) :
    payout * denom ≤ amount * balance := by
  simp only [proRata] at computed
  split at computed
  · obtain rfl := Option.some.inj computed
    calc min (amount * min balance (capAtomic premiumBp denom)) u256Max / denom * denom
        ≤ min (amount * min balance (capAtomic premiumBp denom)) u256Max :=
          Nat.div_mul_le_self _ _
      _ ≤ amount * min balance (capAtomic premiumBp denom) := Nat.min_le_left _ _
      _ ≤ amount * balance := Nat.mul_le_mul_left _ (Nat.min_le_left _ _)
  · cases computed

end CrFaucet.Redemption
