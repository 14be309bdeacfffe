import CrFaucet.Issuance.System

/-!
Owns which commands each service of the issuing side can send at all.

A proof about one service meets the others only through this table: whatever they
do, they do it with these commands.
-/

set_option autoImplicit false

namespace CrFaucet.Issuance

open Interaction
open Token (Address)

variable {Signature : Type}

def Role.Sends (feeSwapper : Address) : Role Signature → Command Signature → Prop
  | .state user, .balanceState owner => owner = user
  | .state user, .claimed owner => owner = user
  | .issue user _, .lock owner => owner = user
  | .issue user _, .unlock owner => owner = user
  | .issue user _, .balanceState owner => owner = user
  | .issue user _, .claimed owner => owner = user
  | .issue user _, .setLastVoucher owner _ => owner = user
  | .issue user _, .sign voucher => voucher.user = user
  | .issue _ _, .now => True
  | .restore user _ _ _, .lock owner => owner = user
  | .restore user _ _ _, .unlock owner => owner = user
  | .restore user _ _ _, .balanceState owner => owner = user
  | .restore user _ _ _, .claimed owner => owner = user
  | .restore user cumulativeAmount _ _, .restoreCumulative owner cumulative =>
      owner = user ∧ cumulative = cumulativeAmount
  | .restore user cumulativeAmount signedAt sig, .recover voucher tried =>
      voucher = ⟨user, asU64 cumulativeAmount, signedAt⟩ ∧ tried = sig
  | .credit _ difficulty, .credit of_ => of_ = difficulty
  | .credit _ difficulty, .fee of_ => of_ = difficulty
  | .credit miner _, .addEarned owner _ => owner = miner
  | .credit _ _, .addFeeAccrued _ => True
  | .feeSwap, .reservoirBalance => True
  | .feeSwap, .claimed owner => owner = feeSwapper
  | .feeSwap, .feeAccrued => True
  | .feeSwap, .treasurySnapshot => True
  | .feeSwap, .quoteRoseOut _ => True
  | .feeSwap, .gasPrice => True
  | .feeSwap, .now => True
  | .feeSwap, .sign voucher => voucher.user = feeSwapper
  | .feeSwap, .submitClaim voucher _ => voucher.user = feeSwapper
  | .feeSwap, .swapFeeToRose _ _ _ => True
  | _, _ => False

section Services

variable {feeSwapper : Address}

theorem state_asks {allowed : Command Signature → Prop} (user : Address)
    (reads : allowed (.balanceState user)) (readsClaimed : allowed (.claimed user)) :
    (state user : Service Signature _).Asks allowed := by
  apply obeys_call reads
  intro reply
  cases reply with
  | none => trivial
  | some balance => exact obeys_call readsClaimed fun _ => trivial

theorem issue_asks (user : Address) (amount : Option Int) :
    (issue user amount : Service Signature _).Asks
      (Role.Sends feeSwapper (.issue user amount)) := by
  apply obeys_call rfl
  intro _
  have locked : (issueLocked user amount : Service Signature _).Asks
      (Role.Sends feeSwapper (.issue user amount)) := by
    apply obeys_call rfl
    intro reply
    cases reply with
    | none => trivial
    | some balance =>
        apply obeys_call rfl
        intro claimed
        dsimp only
        split
        · trivial
        · apply obeys_call rfl
          intro reply
          cases reply with
          | none => trivial
          | some _ =>
              apply obeys_call trivial
              intro signedAt
              apply obeys_call rfl
              intro reply
              cases reply with
              | none => trivial
              | some signature => trivial
  apply locked.bind
  intro _ _ _
  exact obeys_call rfl fun _ => trivial

theorem httpRestore_asks (signer user : Address) (cumulativeAmount : Int) (signedAt : Nat)
    (sig : Signature) :
    (httpRestore signer user cumulativeAmount signedAt sig).Asks
      (Role.Sends feeSwapper (.restore user cumulativeAmount signedAt sig)) := by
  have locked : (restoreLocked user cumulativeAmount : Service Signature _).Asks
      (Role.Sends feeSwapper (.restore user cumulativeAmount signedAt sig)) := by
    apply obeys_call (And.intro rfl rfl)
    intro reply
    cases reply with
    | none => trivial
    | some _ => exact state_asks user rfl rfl
  unfold httpRestore restore
  split
  · split
    · trivial
    · apply obeys_call (And.intro rfl rfl)
      intro recovered
      cases recovered with
      | none => trivial
      | some recovered =>
          dsimp only
          split
          · trivial
          · apply obeys_call rfl
            intro _
            apply locked.bind
            intro _ _ _
            exact obeys_call rfl fun _ => trivial
  · trivial

theorem credit_asks (miner : Address) (difficulty : Nat) :
    (credit miner difficulty : Service Signature _).Asks
      (Role.Sends feeSwapper (.credit miner difficulty)) := by
  apply obeys_call rfl
  intro credit
  dsimp only
  split
  · trivial
  · split
    · trivial
    · apply obeys_call rfl
      intro reply
      cases reply with
      | none => trivial
      | some _ =>
          apply obeys_call rfl
          intro fee
          split
          · apply obeys_call trivial
            intro reply
            cases reply with
            | none => trivial
            | some _ => trivial
          · trivial

theorem mintAndSell_asks (task : FeeSwapTask) (prev delta minOut : Nat) :
    (task.mintAndSell prev delta minOut : Service Signature _).Asks
      (Role.Sends task.feeSwapper .feeSwap) := by
  apply obeys_call trivial
  intro signedAt
  apply obeys_call rfl
  intro reply
  cases reply with
  | none => trivial
  | some sig =>
      apply obeys_call trivial
      intro claimedAt
      apply obeys_call rfl
      intro reply
      cases reply with
      | none => trivial
      | some _ =>
          apply obeys_call trivial
          intro time
          apply obeys_call trivial
          intro reply
          cases reply with
          | none => trivial
          | some _ => trivial

theorem feeSwapTick_asks (task : FeeSwapTask) :
    (task.tick : Service Signature _).Asks (Role.Sends task.feeSwapper .feeSwap) := by
  apply (FeeSwapTask.Reads.of_permits ?_).tick trivial
  · intro _ _ prev delta minOut _ _
    exact mintAndSell_asks task prev delta minOut
  · intro _ _ _ read
    cases read with
    | claimed => rfl
    | _ => trivial

end Services

/-- **Every service keeps to the table.** -/
theorem Deployment.asks {Thread : Type} (deployment : Deployment Thread Signature)
    (thread : Thread) :
    (deployment.program thread).Asks
      ((deployment.role thread).Sends deployment.site.feeSwapper) := by
  unfold program
  cases deployment.role thread with
  | state user =>
      have asks : (state user : Service Signature _).Asks
          (Role.Sends deployment.site.feeSwapper (.state user)) := state_asks user rfl rfl
      exact asks.bind fun _ _ _ => trivial
  | issue user amount => exact (issue_asks user amount).bind fun _ _ _ => trivial
  | restore user cumulativeAmount signedAt sig =>
      exact (httpRestore_asks _ user cumulativeAmount signedAt sig).bind fun _ _ _ => trivial
  | credit miner difficulty => exact (credit_asks miner difficulty).bind fun _ _ _ => trivial
  | feeSwap => exact (feeSwapTick_asks deployment.task).bind fun _ _ _ => trivial

end CrFaucet.Issuance
