import CrFaucet.Redemption.World

/-!
Owns `TreasuryRefresher::tick`: read the wallet balance, the token supply and
the pending counters, and store the combined snapshot.

A failed supply read defaults to 0, a failed `refresh` is ignored, and every
other failure ends the tick without a snapshot.
-/

set_option autoImplicit false

namespace CrFaucet.Treasury

open Redemption

/-- `TreasuryRefresher::tick`; `none` is an error. -/
def tick : Service (Option TreasurySnapshot) := do
  let _ ← send .refresh
  match ← send .getBalance with
  | none => return none
  | some (balance, unlocked) =>
      let supply ← send .totalSupply
      match ← send .getPendingAtomic with
      | none => return none
      | some pendingAtomic =>
          match ← send .getPendingCount with
          | none => return none
          | some pendingCount =>
              let time ← send .now
              let snapshot : TreasurySnapshot := {
                moneroBalanceAtomic := balance
                moneroUnlockedAtomic := unlocked
                pendingRedemptionsAtomic := pendingAtomic
                pendingRedemptionsCount := pendingCount
                miningPoolTokenTotalSupply := (supply : Option Nat).getD 0
                asOfUnix := time }
              match ← send (.setSnapshot snapshot) with
              | none => return none
              | some _ => return some snapshot

theorem tick_quiet : tick.Asks Command.Quiet := by
  apply obeys_call trivial
  intro _
  apply obeys_call trivial
  intro balance
  cases balance with
  | none => trivial
  | some balance =>
      apply obeys_call trivial
      intro supply
      apply obeys_call trivial
      intro pendingAtomic
      cases pendingAtomic with
      | none => trivial
      | some pendingAtomic =>
          apply obeys_call trivial
          intro pendingCount
          cases pendingCount with
          | none => trivial
          | some pendingCount =>
              apply obeys_call trivial
              intro time
              apply obeys_call trivial
              intro stored
              cases stored with
              | none => trivial
              | some _ => trivial

end CrFaucet.Treasury
