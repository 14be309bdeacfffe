import CrFaucet.Issuance.Commands

/-!
Owns the phases of a voucher request: lock, read the last voucher, read what was
claimed, record the decision, sign, unlock.

The phase of a thread is what its replies have told it so far. A decision is
recorded only above the base that was read, a voucher is signed only for the decision
that was recorded, and what the request answers is the phase it ends in (`issue_issuing`).

Credits and balance queries have no phase. Restores and fee swaps are left out: they
are neither.
-/

set_option autoImplicit false

namespace CrFaucet.Issuance

open Interaction
open Token (Address Voucher)

inductive Phase where
  | idle
  | locked (user : Address)
  | read (user : Address) (last : Int)
  | based (user : Address) (base : Int)
  | recorded (user : Address) (cumulative marginal : Int)
  /-- Recorded, and the signature failed. -/
  | unsigned (user : Address)
  | issued (user : Address) (cumulative marginal : Int)
  /-- Issued, and the lock is free again. -/
  | answered (user : Address) (cumulative marginal : Int)
deriving DecidableEq

namespace Phase

/-- Whose lock the thread has in this phase. -/
def holder : Phase → Option Address
  | .idle => none
  | .locked user => some user
  | .read user _ => some user
  | .based user _ => some user
  | .recorded user _ _ => some user
  | .unsigned user => some user
  | .issued user _ _ => some user
  | .answered _ _ _ => none

/-- Whose decision is recorded and not yet signed. -/
def recording : Phase → Option Address
  | .recorded user _ _ => some user
  | _ => none

/-- The amount the voucher about to be signed adds. -/
def marginal : Phase → Int
  | .recorded _ _ marginal => marginal
  | _ => 0

theorem holder_of_recording {phase : Phase} {user : Address} (records : phase.recording = some user) :
    phase.holder = some user := by
  cases phase with
  | recorded owner cumulative marginal => exact records
  | _ => cases records

end Phase

section Discipline

variable {Signature : Type}

/-- The base of a decision: `decide` on what was read. -/
def baseOf (last : Int) (told : Option Nat) : Int :=
  max (max last (u256ToI64Or (told.getD 0) i64Max)) 0

def phaseAfter (phase : Phase) : (command : Command Signature) → Reply command → Phase
  | .lock user, _ => .locked user
  | .unlock _, _ =>
      match phase with
      | .issued user cumulative marginal => .answered user cumulative marginal
      | _ => .idle
  | .balanceState user, some balance =>
      if phase = .locked user then .read user balance.lastVoucherCumulative else phase
  | .claimed _, told =>
      match phase with
      | .read user last => .based user (baseOf last told)
      | _ => phase
  | .setLastVoucher _ value, some _ =>
      match phase with
      | .based user base => .recorded user value (value - base)
      | _ => phase
  | .sign voucher, none => .unsigned voucher.user
  | .sign _, some _ =>
      match phase with
      | .recorded user cumulative marginal => .issued user cumulative marginal
      | _ => phase
  | _, _ => phase

def phasePermits (phase : Phase) : Command Signature → Prop
  | .lock _ => phase = .idle
  | .setLastVoucher user value =>
      ∃ base, phase = .based user base ∧ base < value ∧ value ≤ i64Max
  | .sign voucher => ∃ cumulative marginal,
      phase = .recorded voucher.user cumulative marginal ∧ cumulative ≤ i64Max ∧
        voucher.cumulativeAmount = cumulative.toNat
  | .unlock user => phase.holder = some user ∧ phase.recording = none
  | .claimed user => ∀ owner last, phase = .read owner last → owner = user
  | .restoreCumulative _ _ => False
  | .submitClaim _ _ => False
  | .swapFeeToRose _ _ _ => False
  | _ => True

def issuing : Discipline (Command Signature) Reply Phase where
  start := .idle
  permits := phasePermits
  after := phaseAfter

end Discipline

/-! ### Requests keep to their phases -/

section Services

variable {Signature : Type}

/-- Credits and balance queries. -/
def Role.Idles : Role Signature → Prop
  | .state _ => True
  | .credit _ _ => True
  | _ => False

theorem idle_issuing {feeSwapper : Address} {role : Role Signature}
    {program : Service Signature Unit} (idles : role.Idles)
    (asks : program.Asks (role.Sends feeSwapper)) :
    program.Obeys issuing .idle fun phase _ => phase = .idle := by
  apply asks.obeys
  · rintro phase command rfl sends
    cases command with
    | claimed user => exact nofun
    | lock | unlock | setLastVoucher | sign | restoreCumulative | submitClaim | swapFeeToRose =>
        cases role with
        | state | credit => cases sends
        | _ => cases idles
    | _ => trivial
  · rintro phase command reply rfl sends
    cases command with
    | lock | sign =>
        cases role with
        | state | credit => cases sends
        | _ => cases idles
    | balanceState user =>
        cases reply with
        | none => rfl
        | some balance =>
            change (if Phase.idle = .locked user then
              Phase.read user balance.lastVoucherCumulative else .idle) = .idle
            rw [if_neg nofun]
    | setLastVoucher user value => cases reply <;> rfl
    | _ => rfl
  · rfl

/-- How a locked request ends: it has the lock and nothing left to sign, and what it
answers is what it issued. -/
def Answers (user : Address) (phase : Phase)
    (result : Except ServiceError (VoucherOut Signature)) : Prop :=
  match result with
  | .error _ => phase.holder = some user ∧ phase.recording = none
  | .ok out => phase = .issued user out.cumulativeAmount out.marginal

theorem signDecision_issuing (user : Address) (balance : BalanceState) (claimed : Nat)
    {base : Int} {decision : VoucherDecision} (nonneg : 0 ≤ base)
    (above : 0 < decision.marginal) (sum : decision.newCumulative = base + decision.marginal)
    (fits : decision.newCumulative ≤ i64Max) :
    (signDecision user balance claimed decision : Service Signature _).Obeys issuing
      (.based user base) (Answers user) := by
  have amount : asU64 decision.newCumulative = decision.newCumulative.toNat :=
    asU64_of_isI64 ⟨by omega, fits⟩ (by omega)
  have marginal : decision.newCumulative - base = decision.marginal := by omega
  have records : phasePermits (.based user base)
      (.setLastVoucher user decision.newCumulative : Command Signature) :=
    ⟨base, rfl, by omega, fits⟩
  have signs : ∀ signedAt, phasePermits
      (.recorded user decision.newCumulative (decision.newCumulative - base))
      (.sign ⟨user, asU64 decision.newCumulative, signedAt⟩ : Command Signature) :=
    fun _ => ⟨_, _, rfl, fits, amount⟩
  apply obeys_call records
  intro reply
  cases reply with
  | none => exact ⟨rfl, rfl⟩
  | some _ =>
      apply obeys_call trivial
      intro signedAt
      apply obeys_call (signs signedAt)
      intro reply
      cases reply with
      | none => exact ⟨rfl, rfl⟩
      | some signature =>
          change Phase.issued user decision.newCumulative (decision.newCumulative - base) = _
          rw [marginal]

theorem issueLocked_issuing (user : Address) (amount : Option Int) :
    (issueLocked user amount : Service Signature _).Obeys issuing (.locked user)
      (Answers user) := by
  apply obeys_call trivial
  intro reply
  cases reply with
  | none => exact ⟨rfl, rfl⟩
  | some balance =>
      have read : (issuing : Discipline (Command Signature) Reply Phase).after (.locked user)
          (.balanceState user) (some balance) = .read user balance.lastVoucherCumulative :=
        if_pos rfl
      have reads : phasePermits (.read user balance.lastVoucherCumulative)
          (.claimed user : Command Signature) := by
        intro owner last same
        cases same
        rfl
      rw [read]
      apply obeys_call reads
      intro told
      dsimp only
      split
      · exact ⟨rfl, rfl⟩
      · rename_i decision decided
        obtain ⟨positive, sum, _, covered⟩ :=
          VoucherInputs.decide_eq_ok balance.earned_isI64 decided
        exact signDecision_issuing user balance _ (Int.le_max_right _ _) positive sum
          (covered.trans balance.earned_isI64.2)

/-- **What a request answers is what it issued.** -/
theorem issue_issuing (user : Address) (amount : Option Int) :
    (issue user amount : Service Signature _).Obeys issuing .idle fun phase result =>
      ∀ out, result = .ok out → phase = .answered user out.cumulativeAmount out.marginal := by
  apply obeys_call rfl
  intro _
  apply (issueLocked_issuing user amount).bind
  intro phase result answers
  cases result with
  | error error =>
      apply obeys_call answers
      intro _ out succeeded
      cases succeeded
  | ok out =>
      have issued : phase = .issued user out.cumulativeAmount out.marginal := answers
      subst issued
      apply obeys_call (And.intro rfl rfl)
      intro _ other succeeded
      cases succeeded
      rfl

end Services

/-! ### Deployments that only issue and credit -/

/-- The role is neither a restore nor a fee swap. -/
def Role.Issues {Signature : Type} : Role Signature → Prop
  | .restore _ _ _ _ => False
  | .feeSwap => False
  | _ => True

theorem Deployment.issues {Thread Signature : Type} [DecidableEq Thread]
    (deployment : Deployment Thread Signature) (roles : ∀ thread, (deployment.role thread).Issues)
    (thread : Thread) :
    (deployment.machine.main thread).Obeys issuing Phase.idle fun _ _ => True := by
  have role := roles thread
  change (deployment.program thread).Obeys _ _ _
  cases named : deployment.role thread with
  | issue user amount =>
      rw [Deployment.program, named]
      exact (issue_issuing user amount).bind fun _ _ _ => trivial
  | state | credit =>
      have idles : (deployment.role thread).Idles := by
        rw [named]
        trivial
      exact (idle_issuing idles (deployment.asks thread)).weaken fun _ _ _ => trivial
  | restore | feeSwap =>
      rw [named] at role
      cases role

end CrFaucet.Issuance
