import CrFaucet.Issuance.System

/-!
Owns what a thread of the issuing side knows to be backed, and that it acts on
nothing else.

A thread knows an amount to be backed when it read it as earned, as claimed or as
accrued, or when it recovered the enclave's signature on it. It signs only backed
amounts, and restores only backed amounts.

Does not own why what it knows stays true; that is the solvency module.
-/

set_option autoImplicit false

namespace CrFaucet.Issuance

open Interaction
open Token (Address Voucher)

/-- The amount of each user a thread knows to be backed. -/
abbrev Stage := Address → Nat

namespace Stage

def raise (stage : Stage) (user : Address) (amount : Nat) : Stage :=
  Function.update stage user (max (stage user) amount)

theorem le_raise_self (stage : Stage) (user : Address) (amount : Nat) :
    amount ≤ stage.raise user amount user := by
  rw [raise, Function.update_self]
  exact Nat.le_max_right _ _

theorem le_raise (stage : Stage) (user other : Address) (amount : Nat) :
    stage other ≤ stage.raise user amount other := by
  by_cases same : other = user
  · subst same
    rw [raise, Function.update_self]
    exact Nat.le_max_left _ _
  · rw [raise, Function.update_of_ne same]

theorem raise_le {stage : Stage} {user : Address} {amount : Nat} {bound : Address → Nat}
    (below : ∀ other, stage other ≤ bound other) (fits : amount ≤ bound user) (other : Address) :
    stage.raise user amount other ≤ bound other := by
  revert other
  apply (Function.forall_update_iff stage fun other amount => amount ≤ bound other).2
  constructor
  · exact Nat.max_le.2 ⟨below user, fits⟩
  · intro other _
    exact below other

end Stage

/-! ### The discipline -/

section Discipline

variable {Signature : Type}

def permits (stage : Stage) : Command Signature → Prop
  | .sign voucher => voucher.cumulativeAmount ≤ stage voucher.user
  | .restoreCumulative user cumulative => 0 < cumulative ∧ cumulative.toNat ≤ stage user
  | .addEarned _ deltaAtomic => 0 < deltaAtomic
  | .addFeeAccrued deltaAtomic => 0 < deltaAtomic
  | _ => True

/-- What a reply tells to be backed. -/
def stageAfter (feeSwapper signer : Address) (stage : Stage) :
    (command : Command Signature) → Reply command → Stage
  | .balanceState user, some balance => stage.raise user balance.earned.toNat
  | .claimed user, some claimed => stage.raise user claimed
  | .feeAccrued, some accrued => stage.raise feeSwapper (asU128 accrued.1)
  | .recover voucher _, some recovered =>
      if recovered = signer then stage.raise voucher.user voucher.cumulativeAmount else stage
  | _, _ => stage

def backedDiscipline (feeSwapper signer : Address) :
    Discipline (Command Signature) Reply Stage where
  start := fun _ => 0
  permits := permits
  after := stageAfter feeSwapper signer

end Discipline

/-! ### Every service signs only backed amounts -/

section Services

variable {Signature : Type} {feeSwapper signer : Address} {stage : Stage}

theorem state_obeys (user : Address) :
    (state user : Service Signature _).Obeys (backedDiscipline feeSwapper signer) stage
      fun _ _ => True := by
  apply obeys_call trivial
  intro reply
  cases reply with
  | none => trivial
  | some balance => exact obeys_call trivial fun _ => trivial

theorem signDecision_obeys (user : Address) (balance : BalanceState) (claimed : Nat)
    (decision : VoucherDecision) (backed : asU64 decision.newCumulative ≤ stage user) :
    (signDecision user balance claimed decision : Service Signature _).Obeys
      (backedDiscipline feeSwapper signer) stage fun _ _ => True := by
  apply obeys_call trivial
  intro reply
  cases reply with
  | none => trivial
  | some _ =>
      apply obeys_call trivial
      intro signedAt
      apply obeys_call backed
      intro reply
      cases reply with
      | none => trivial
      | some signature => trivial

theorem issueLocked_obeys (user : Address) (amount : Option Int) :
    (issueLocked user amount : Service Signature _).Obeys (backedDiscipline feeSwapper signer)
      stage fun _ _ => True := by
  apply obeys_call trivial
  intro reply
  cases reply with
  | none => trivial
  | some balance =>
      apply obeys_call trivial
      intro claimed
      dsimp only
      split
      · trivial
      · rename_i decision decided
        apply signDecision_obeys
        obtain ⟨_, _, positive, covered⟩ :=
          VoucherInputs.decide_eq_ok balance.earned_isI64 decided
        have fits : IsI64 decision.newCumulative :=
          ⟨by omega, covered.trans balance.earned_isI64.2⟩
        rw [asU64_of_isI64 fits positive.le]
        have earned : decision.newCumulative.toNat ≤ balance.earned.toNat :=
          Int.toNat_le_toNat covered
        have known := Stage.le_raise_self stage user balance.earned.toNat
        cases claimed with
        | none => exact earned.trans known
        | some claimed =>
            exact (earned.trans known).trans (Stage.le_raise _ user user claimed)

theorem issue_obeys (user : Address) (amount : Option Int) :
    (issue user amount : Service Signature _).Obeys (backedDiscipline feeSwapper signer) stage
      fun _ _ => True := by
  apply obeys_call trivial
  intro _
  apply (issueLocked_obeys user amount).bind
  intro _ _ _
  exact obeys_call trivial fun _ => trivial

theorem restoreLocked_obeys (user : Address) (cumulativeAmount : Int)
    (backed : 0 < cumulativeAmount ∧ cumulativeAmount.toNat ≤ stage user) :
    (restoreLocked user cumulativeAmount : Service Signature _).Obeys
      (backedDiscipline feeSwapper signer) stage fun _ _ => True := by
  apply obeys_call backed
  intro reply
  cases reply with
  | none => trivial
  | some _ => exact state_obeys user

theorem httpRestore_obeys (user : Address) (cumulativeAmount : Int) (signedAt : Nat)
    (sig : Signature) :
    (httpRestore signer user cumulativeAmount signedAt sig).Obeys
      (backedDiscipline feeSwapper signer) stage fun _ _ => True := by
  unfold httpRestore
  split
  · rename_i fits
    unfold restore
    split
    · trivial
    · rename_i positive
      apply obeys_call trivial
      intro recovered
      cases recovered with
      | none => trivial
      | some recovered =>
          dsimp only
          split
          · trivial
          · rename_i own
            have own : recovered = signer := by simpa using own
            apply obeys_call trivial
            intro _
            have backed : cumulativeAmount.toNat ≤ (if recovered = signer then
                stage.raise user (asU64 cumulativeAmount) else stage) user := by
              rw [if_pos own, asU64_of_isI64 fits (by omega)]
              exact Stage.le_raise_self _ _ _
            refine (restoreLocked_obeys user cumulativeAmount ⟨by omega, backed⟩).bind
              fun _ _ _ => ?_
            exact obeys_call trivial fun _ => trivial
  · trivial

theorem credit_obeys (miner : Address) (difficulty : Nat) :
    (credit miner difficulty : Service Signature _).Obeys (backedDiscipline feeSwapper signer)
      stage fun _ _ => True := by
  apply obeys_call trivial
  intro credit
  dsimp only
  split
  · trivial
  · split
    · trivial
    · apply obeys_call (by change (0 : Int) < _; omega)
      intro reply
      cases reply with
      | none => trivial
      | some _ =>
          apply obeys_call trivial
          intro fee
          split
          · rename_i positive
            apply obeys_call positive
            intro reply
            cases reply with
            | none => trivial
            | some _ => trivial
          · trivial

end Services

section FeeSwap

variable {Signature : Type} {signer : Address} {stage : Stage} (task : FeeSwapTask)

theorem mintAndSell_obeys (prev delta minOut : Nat)
    (backed : prev + delta ≤ stage task.feeSwapper) :
    (task.mintAndSell prev delta minOut : Service Signature _).Obeys
      (backedDiscipline task.feeSwapper signer) stage fun _ _ => True := by
  apply obeys_call trivial
  intro signedAt
  apply obeys_call ((Nat.mod_le _ _).trans backed)
  intro reply
  cases reply with
  | none => trivial
  | some sig =>
      apply obeys_call trivial
      intro claimedAt
      apply obeys_call trivial
      intro reply
      cases reply with
      | none => trivial
      | some _ =>
          apply obeys_call trivial
          intro time
          apply obeys_call trivial
          intro reply
          cases reply with
          | none => trivial
          | some _ => trivial

theorem prev_add_delta_le (accrued prev maxSwap : Nat) (walletCap : Option Nat)
    (fits : accrued < 2 ^ 128) :
    prev + swapDeltaAtomic accrued (u256ToU128 prev) maxSwap walletCap ≤ max prev accrued := by
  have delta := swapDeltaAtomic_le accrued (u256ToU128 prev) maxSwap walletCap
  unfold u256ToU128 Redemption.u128Max at *
  omega

def Told (feeSwapper : Address) (known : TickKnown) (stage : Stage) : Prop :=
  (∀ prev ∈ known.prev, prev ≤ stage feeSwapper) ∧
    ∀ accrued ∈ known.accrued, asU128 accrued.1 ≤ stage feeSwapper

theorem Told.raise {feeSwapper : Address} {known : TickKnown} (told : Told feeSwapper known stage)
    (user : Address) (amount : Nat) : Told feeSwapper known (stage.raise user amount) :=
  ⟨fun prev is => (told.1 prev is).trans (Stage.le_raise _ _ _ _),
    fun accrued is => (told.2 accrued is).trans (Stage.le_raise _ _ _ _)⟩

theorem tick_told :
    task.Reads (backedDiscipline task.feeSwapper signer : Discipline (Command Signature) _ _)
      (Told task.feeSwapper) fun _ _ => True where
  read := by
    intro known stage command read told
    cases read with
    | claimed =>
        refine ⟨trivial, fun reply => ?_⟩
        cases reply with
        | none => exact told
        | some prev =>
            refine ⟨?_, (told.raise _ _).2⟩
            rintro _ ⟨⟩
            exact Stage.le_raise_self _ _ _
    | feeAccrued =>
        refine ⟨trivial, fun reply => ?_⟩
        cases reply with
        | none => exact told
        | some accrued =>
            refine ⟨(told.raise _ _).1, ?_⟩
            rintro _ ⟨⟩
            exact Stage.le_raise_self _ _ _
    | reservoirBalance => exact ⟨trivial, fun _ => told⟩
    | treasurySnapshot => exact ⟨trivial, fun _ => told⟩
    | quoteRoseOut mptIn => exact ⟨trivial, fun _ => told⟩
    | gasPrice => exact ⟨trivial, fun _ => told⟩
  ends := fun _ _ _ _ _ => trivial

theorem feeSwapTick_obeys :
    (task.tick : Service Signature _).Obeys (backedDiscipline task.feeSwapper signer) stage
      fun _ _ => True := by
  apply (tick_told task).tick
  · constructor
    · rintro _ ⟨⟩
    · rintro _ ⟨⟩
  · rintro known stage prev delta minOut told ⟨prevIs, accrued, walletCap, accruedIs, rfl⟩
    apply mintAndSell_obeys
    have fits : asU128 accrued.1 < 2 ^ 128 := by
      unfold asU128
      omega
    exact (prev_add_delta_le _ prev _ _ fits).trans
      (Nat.max_le.2 ⟨told.1 prev prevIs, told.2 accrued accruedIs⟩)

end FeeSwap

namespace Deployment

variable {Thread Signature : Type} [DecidableEq Thread] (deployment : Deployment Thread Signature)

abbrev discipline : Discipline (Command Signature) Reply Stage :=
  backedDiscipline deployment.site.feeSwapper deployment.signer

/-- **Every service obeys the discipline.** -/
theorem obeys (thread : Thread) :
    (deployment.machine.main thread).Obeys deployment.discipline deployment.discipline.start
      fun _ _ => True := by
  change (deployment.program thread).Obeys _ (fun _ => 0) _
  unfold program
  split
  · exact (state_obeys _).bind fun _ _ _ => trivial
  · exact (issue_obeys _ _).bind fun _ _ _ => trivial
  · exact (httpRestore_obeys _ _ _ _).bind fun _ _ _ => trivial
  · exact (credit_obeys _ _).bind fun _ _ _ => trivial
  · exact (feeSwapTick_obeys deployment.task).bind fun _ _ _ => trivial

end Deployment

end CrFaucet.Issuance
