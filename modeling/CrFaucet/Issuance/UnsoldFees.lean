import CrFaucet.Issuance.Commands
import CrFaucet.Token.Conservation

/-!
Owns what the fee-swap task leaves in the `FeeSwapper` contract.

A tick mints and sells with two transactions and means to sell what it mints. MPT is
stranded when the claim lands and the sale does not: the reply to the claim is lost, the
task is restarted in between, or the sale is refused or reverts. No later tick makes up
for it, since what it sells is what it claims itself.

A call that reverts is answered like any other, so a tick can report a swap although its
claim, its sale or both have reverted.
-/

set_option autoImplicit false

namespace CrFaucet.Issuance

open Interaction
open Redemption (Outcome)
open Token (Address uint256 transact)

variable {Thread Signature : Type}

/-! ### The phases of a tick -/

inductive SwapStage where
  /-- Nothing is known and nothing done. -/
  | start
  /-- `claimed` of the contract was read. -/
  | known (prev : Nat)
  /-- The claim up to `cumulative` was answered. -/
  | minted (prev cumulative : Nat)
  /-- A submission failed, or its reply was lost. -/
  | failed
  | completed
deriving DecidableEq

def swapPermits : SwapStage → Command Signature → Prop
  | .known _, .submitClaim _ _ => True
  | _, .submitClaim _ _ => False
  | .minted prev cumulative, .swapFeeToRose mptIn _ _ =>
      mptIn < uint256 ∧ cumulative = (prev + mptIn) % uint256
  | _, .swapFeeToRose _ _ _ => False
  | _, _ => True

def swapAfter : SwapStage → (command : Command Signature) → Reply command → SwapStage
  | .start, .claimed _, some prev => .known prev
  | .known prev, .submitClaim voucher _, some _ => .minted prev voucher.cumulativeAmount
  | .known _, .submitClaim _ _, none => .failed
  | .minted _ _, .swapFeeToRose _ _ _, some _ => .completed
  | .minted _ _, .swapFeeToRose _ _ _, none => .failed
  | stage, _, _ => stage

def swapDiscipline : Discipline (Command Signature) Reply SwapStage where
  start := .start
  permits := swapPermits
  after := swapAfter

/-- The tick reports a swap exactly when it completed one. -/
def Reports (stage : SwapStage) (result : Option (Option (Nat × Nat))) : Prop :=
  result.join.isSome = decide (stage = .completed)

section Tick

variable (task : FeeSwapTask)

theorem mintAndSell_phases (prev delta minOut : Nat) (small : delta < uint256) :
    (task.mintAndSell prev delta minOut : Service Signature _).Obeys swapDiscipline
      (.known prev) Reports := by
  apply obeys_call trivial
  intro signedAt
  apply obeys_call trivial
  intro reply
  cases reply with
  | none => exact rfl
  | some sig =>
      apply obeys_call trivial
      intro claimedAt
      apply obeys_call trivial
      intro reply
      cases reply with
      | none => exact rfl
      | some _ =>
          apply obeys_call trivial
          intro time
          apply obeys_call (And.intro small rfl)
          intro reply
          cases reply with
          | none => exact rfl
          | some _ => exact rfl

def stageOf (known : TickKnown) : SwapStage :=
  match known.prev with
  | none => .start
  | some prev => .known prev

theorem tick_reads :
    task.Reads (swapDiscipline : Discipline (Command Signature) _ _)
      (fun known stage => stage = stageOf known) Reports where
  read := by
    rintro ⟨prev, accrued⟩ _ command read rfl
    cases prev with
    | none =>
        cases read with
        | claimed | feeAccrued =>
            refine ⟨trivial, fun reply => ?_⟩
            cases reply <;> rfl
        | _ => exact ⟨trivial, fun _ => rfl⟩
    | some prev =>
        cases read with
        | claimed unread => cases unread
        | feeAccrued =>
            refine ⟨trivial, fun reply => ?_⟩
            cases reply <;> rfl
        | _ => exact ⟨trivial, fun _ => rfl⟩
  ends := by
    rintro known _ result rfl nothing
    unfold Reports stageOf
    rw [nothing]
    cases known.prev <;> rfl

theorem tick_phases :
    (task.tick : Service Signature _).Obeys swapDiscipline .start Reports := by
  apply (tick_reads task).tick rfl
  rintro known _ prev delta minOut rfl ⟨prevIs, accrued, walletCap, _, rfl⟩
  rw [stageOf, prevIs]
  apply mintAndSell_phases
  have delta := swapDeltaAtomic_le (asU128 accrued.1) (u256ToU128 prev)
    task.cfg.maxSwapAtomic walletCap
  have fits : asU128 accrued.1 < 2 ^ 128 := by
    unfold asU128
    omega
  unfold uint256
  omega

end Tick

/-- **Every service obeys**: only the fee-swap task claims and swaps. -/
theorem Deployment.phases [DecidableEq Thread] (deployment : Deployment Thread Signature)
    (thread : Thread) :
    (deployment.machine.main thread).Obeys swapDiscipline .start fun _ _ => True := by
  have asks := deployment.asks thread
  change (deployment.program thread).Obeys _ _ _
  cases role : deployment.role thread with
  | feeSwap =>
      rw [Deployment.program, role]
      exact (tick_phases deployment.task).bind fun _ _ _ => trivial
  | _ =>
      rw [role] at asks
      apply asks.obeys
      · intro stage command _ sends
        cases command with
        | submitClaim => cases sends
        | swapFeeToRose => cases sends
        | _ => cases stage <;> trivial
      · intro _ _ _ _ _
        trivial
      · trivial

/-! ### What the commands do to the token -/

section Token

variable {site : Site Signature} {world : World Thread} {answer : Answer Signature}

theorem sale_takes {after : Token.State} {mptIn : Nat}
    (apart : site.pair ≠ site.feeSwapper) (sound : world.token.Sound)
    (sold : world.swapFeeToRose answer site mptIn = some after) :
    after.Sound ∧ mptIn ≤ world.token.erc20.balances site.feeSwapper ∧
      after.erc20.balances site.feeSwapper =
        world.token.erc20.balances site.feeSwapper - mptIn ∧
      after.claimed = world.token.claimed := by
  obtain ⟨erc20, moved, rfl⟩ := World.swapFeeToRose_eq sold
  obtain ⟨backed, supply⟩ := sound.backed.transfer moved
  obtain ⟨covered, rfl⟩ := Token.Erc20.transfer_eq moved
  refine ⟨sound.with_erc20 backed supply, covered, ?_, rfl⟩
  simp only [Function.update_of_ne apart.symm, Function.update_self]

theorem claim_mints {token after : Token.State} {sender user : Address}
    {cumulativeAmount signedAt : Nat} {sig : Signature} (sound : token.Sound)
    (claimed : transact site.ecdsa token sender
      (.claim user cumulativeAmount signedAt sig) = some after) :
    token.claimed user < cumulativeAmount ∧ after.claimed user = cumulativeAmount ∧
      after.erc20.balances user + token.claimed user =
        token.erc20.balances user + cumulativeAmount := by
  obtain ⟨⟨minted, delta⟩, claims, rfl⟩ := Option.map_eq_some_iff.mp claimed
  obtain ⟨fresh, rfl, _, erc20, mints, rfl⟩ := Token.State.claim_eq claims
  obtain ⟨_, _, balance⟩ := sound.backed.mint mints
  refine ⟨fresh, Function.update_self .., ?_⟩
  change erc20.balances user + _ = _
  omega

variable [DecidableEq Thread] {thread : Thread} {command : Command Signature}
  {result : World Thread × Reply command}

theorem exec_token (done : exec site thread world command answer = some result)
    (noClaim : ∀ voucher sig, command ≠ .submitClaim voucher sig)
    (noSwap : ∀ mptIn minOut deadline, command ≠ .swapFeeToRose mptIn minOut deadline) :
    result.1.token = world.token := by
  cases command with
  | lock owner =>
      simp only [exec] at done
      split at done
      · cases done
      · cases done
        rfl
  | sign voucher =>
      cases done
      unfold World.sign
      split <;> rfl
  | submitClaim voucher sig => exact absurd rfl (noClaim voucher sig)
  | swapFeeToRose mptIn minOut deadline => exact absurd rfl (noSwap mptIn minOut deadline)
  | _ =>
      cases done
      rfl

end Token

/-! ### What a tick strands and what it salvages -/

section Stranding

/-- What the present tick has minted and not yet tried to sell. -/
def fresh (feeSwapper : Address) (token : Token.State) : SwapStage → Nat
  | .minted prev _ => token.claimed feeSwapper - prev
  | _ => 0

variable (site : Site Signature) (world : World Thread) (stage : SwapStage)
  (answer : Answer Signature)

/-- The `claim` a submission makes. -/
def claimAttempt (voucher : Token.Voucher) (sig : Signature) : Option Token.State :=
  transact site.ecdsa world.token site.app
    (.claim voucher.user voucher.cumulativeAmount voucher.signedAt sig)

/-- The submission leaves MPT behind: a claim lands and its reply is lost, or what was
minted is not sold. -/
def StrandsBy : Command Signature → Prop
  | .submitClaim voucher sig =>
      answer.Lands (claimAttempt site world voucher sig) ∧ answer.outcome = .lost
  | .swapFeeToRose mptIn _ _ =>
      0 < fresh site.feeSwapper world.token stage ∧
        ¬ answer.Lands (world.swapFeeToRose answer site mptIn)
  | _ => False

instance : ∀ command, Decidable (StrandsBy site world stage answer command)
  | .submitClaim _ _ => inferInstanceAs (Decidable (_ ∧ _))
  | .swapFeeToRose _ _ _ => inferInstanceAs (Decidable (_ ∧ _))
  | .lock _ | .unlock _ | .balanceState _ | .setLastVoucher _ _ | .restoreCumulative _ _
  | .claimed _ | .sign _ | .recover _ _ | .now | .credit _ | .fee _ | .addEarned _ _
  | .addFeeAccrued _ | .feeAccrued | .treasurySnapshot | .reservoirBalance | .quoteRoseOut _
  | .gasPrice => isFalse id

/-- A sale lands although nothing was minted for it: the claim before it has reverted. -/
def SalvagesBy : Command Signature → Prop
  | .swapFeeToRose mptIn _ _ =>
      fresh site.feeSwapper world.token stage = 0 ∧
        answer.Lands (world.swapFeeToRose answer site mptIn)
  | _ => False

end Stranding

/-- What the task was told is so, except that a claim it takes for a success may have
reverted. -/
def SwapTold (feeSwapper : Address) (token : Token.State) : SwapStage → Prop
  | .known prev => token.claimed feeSwapper = prev
  | .minted prev cumulative => token.claimed feeSwapper = prev ∨
      token.claimed feeSwapper = cumulative ∧ prev < cumulative
  | _ => True

/-- Besides the `fresh` MPT of the present tick the contract holds `left`. -/
structure Holding (feeSwapper : Address) (left : Nat) (token : Token.State)
    (stage : SwapStage) : Prop where
  balance : token.erc20.balances feeSwapper = left + fresh feeSwapper token stage
  told : SwapTold feeSwapper token stage

/-- How `left` moves: a stranding step raises it, and only a salvaging step lowers it. -/
structure Moves (strands salvages : Prop) (left after : Nat) : Prop where
  raised : strands → left < after
  kept : ¬ salvages → left ≤ after
  bounded : ¬ strands → after ≤ left

theorem Moves.same {strands salvages : Prop} {left : Nat} (regular : ¬ strands) :
    Moves strands salvages left left :=
  ⟨fun strands => absurd strands regular, fun _ => Nat.le_refl _, fun _ => Nat.le_refl _⟩

section Holding

variable {feeSwapper : Address} {left : Nat} {token after : Token.State} {stage : SwapStage}

theorem Holding.of_same (holding : Holding feeSwapper left token stage)
    (balance : after.erc20.balances feeSwapper = token.erc20.balances feeSwapper)
    (claimed : after.claimed feeSwapper = token.claimed feeSwapper) :
    Holding feeSwapper left after stage := by
  obtain ⟨held, told⟩ := holding
  cases stage with
  | minted prev cumulative =>
      simp only [fresh] at held
      exact ⟨by simp only [fresh, balance, claimed, held],
        by simpa only [SwapTold, claimed] using told⟩
  | known prev => exact ⟨balance.trans held, claimed.trans told⟩
  | _ => exact ⟨balance.trans held, trivial⟩

theorem Holding.of_balance (balance : token.erc20.balances feeSwapper = left)
    (ended : stage = .start ∨ stage = .failed ∨ stage = .completed) :
    Holding feeSwapper left token stage := by
  rcases ended with rfl | rfl | rfl <;> exact ⟨balance, trivial⟩

/-- What is sold is what was minted: the sum did not wrap, or the claim would have
reverted. -/
theorem sold_is_minted {prev cumulative mptIn : Nat} (grows : prev < cumulative)
    (small : mptIn < uint256) (sum : cumulative = (prev + mptIn) % uint256) :
    cumulative = prev + mptIn := by
  have below : cumulative < uint256 := sum ▸ Nat.mod_lt _ (by decide)
  by_cases wraps : prev + mptIn < uint256
  · rwa [Nat.mod_eq_of_lt wraps] at sum
  · rw [Nat.mod_eq_sub_mod (by omega), Nat.mod_eq_of_lt (by omega)] at sum
    omega

variable {site : Site Signature} {world : World Thread} (answer : Answer Signature)

theorem Holding.submitClaim {prev : Nat} {voucher : Token.Voucher} (sig : Signature)
    (sound : world.token.Sound)
    (holding : Holding site.feeSwapper left world.token (.known prev))
    (own : voucher.user = site.feeSwapper) (salvages : Prop) :
    ∃ after, Holding site.feeSwapper after
        (world.submit answer (claimAttempt site world voucher sig)).1.token
        (match (world.submit answer (claimAttempt site world voucher sig)).2 with
        | some _ => .minted prev voucher.cumulativeAmount
        | none => .failed) ∧
      Moves (answer.Lands (claimAttempt site world voucher sig) ∧ answer.outcome = .lost) salvages
        left after := by
  obtain ⟨balance, known⟩ := holding
  have before : world.token.erc20.balances site.feeSwapper = left := balance
  have claimedBefore : world.token.claimed site.feeSwapper = prev := known
  rcases world.submit_cases answer (claimAttempt site world voucher sig) with
    ⟨nowhere, same⟩ | ⟨lands, token, claimed, left⟩
  · refine ⟨left, ?_, .same fun strands => nowhere strands.1⟩
    rw [same]
    split
    · refine ⟨?_, Or.inl claimedBefore⟩
      rw [fresh, claimedBefore, Nat.sub_self]
      exact before
    · exact .of_balance before (Or.inr (Or.inl rfl))
  · obtain ⟨grows, watermark, minted⟩ := claim_mints sound claimed
    rw [own] at grows watermark minted
    rw [claimedBefore] at grows minted
    rw [left]
    cases answered : (world.submit answer (claimAttempt site world voucher sig)).2 with
    | none =>
        refine ⟨_, .of_balance rfl (Or.inr (Or.inl rfl)), ?_⟩
        have more : world.token.erc20.balances site.feeSwapper <
            token.erc20.balances site.feeSwapper := by omega
        rw [before] at more
        exact ⟨fun _ => more, fun _ => more.le, fun regular =>
          absurd ⟨lands, World.lost_of_lands world answer lands answered⟩ regular⟩
    | some told =>
        have heard := World.not_lost_of_answered world answer answered
        refine ⟨_, ⟨?_, Or.inr ⟨watermark, grows⟩⟩, .same fun strands => heard strands.2⟩
        change token.erc20.balances site.feeSwapper = _ + (token.claimed site.feeSwapper - prev)
        omega

theorem Holding.swap {prev cumulative mptIn : Nat} (apart : site.pair ≠ site.feeSwapper)
    (sound : world.token.Sound)
    (holding : Holding site.feeSwapper left world.token (.minted prev cumulative))
    (small : mptIn < uint256) (sum : cumulative = (prev + mptIn) % uint256) {ended : SwapStage}
    (ends : ended = .failed ∨ ended = .completed) :
    ∃ after, Holding site.feeSwapper after
        (world.submit answer (world.swapFeeToRose answer site mptIn)).1.token ended ∧
      Moves (0 < fresh site.feeSwapper world.token (.minted prev cumulative) ∧
          ¬ answer.Lands (world.swapFeeToRose answer site mptIn))
        (fresh site.feeSwapper world.token (.minted prev cumulative) = 0 ∧
          answer.Lands (world.swapFeeToRose answer site mptIn)) left after := by
  obtain ⟨balance, told⟩ := holding
  -- the task sells what was minted for it, or nothing was
  have own : fresh site.feeSwapper world.token (.minted prev cumulative) = 0 ∨
      fresh site.feeSwapper world.token (.minted prev cumulative) = mptIn := by
    rcases told with reverted | ⟨landed, grows⟩
    · exact Or.inl (by rw [fresh, reverted, Nat.sub_self])
    · have sold := sold_is_minted grows small sum
      exact Or.inr (by rw [fresh, landed]; omega)
  refine ⟨_, .of_balance rfl (Or.inr ends), ?_⟩
  generalize fresh site.feeSwapper world.token (.minted prev cumulative) = minted at balance own ⊢
  rcases world.submit_cases answer (world.swapFeeToRose answer site mptIn) with
    ⟨nowhere, same⟩ | ⟨lands, token, sold, left⟩
  · rw [same]
    exact ⟨by omega, by omega, fun regular => by
      have nothing : ¬ 0 < minted := fun some' => regular ⟨some', nowhere⟩
      omega⟩
  · obtain ⟨_, covered, remains, _⟩ := sale_takes apart sound sold
    rw [left]
    dsimp only
    refine ⟨fun strands => absurd lands strands.2, fun regular => ?_, by omega⟩
    have something : minted ≠ 0 := fun nothing => regular ⟨nothing, lands⟩
    omega

end Holding

/-! ### Every run -/

section Runs

/-- The system, with the phase of every tick. -/
abbrev SwapPool (Thread Signature : Type) :=
  Pool Thread (World Thread) (Command Signature) Reply SwapStage

abbrev SwapAction (Thread Signature : Type) :=
  Action Thread (Answer Signature) (Event Signature)

variable [DecidableEq Thread] (deployment : Deployment Thread Signature) (task : Thread)

abbrev Deployment.swapStart (world : World Thread) : SwapPool Thread Signature :=
  Pool.initial deployment.machine swapDiscipline world

abbrev Deployment.swapMove :
    SwapPool Thread Signature → SwapAction Thread Signature → SwapPool Thread Signature :=
  Pool.move deployment.machine swapDiscipline

/-- The contract receives and gives MPT only through its ticks: what anybody else calls
leaves its balance and its claims alone. -/
def OnlyTicks (pool : SwapPool Thread Signature) :
    SwapAction Thread Signature → Prop
  | .event (.l2 sender call) =>
      let feeSwapper := deployment.site.feeSwapper
      let after := (transact deployment.site.ecdsa pool.world.token sender call).getD
        pool.world.token
      after.erc20.balances feeSwapper = pool.world.token.erc20.balances feeSwapper ∧
        after.claimed feeSwapper = pool.world.token.claimed feeSwapper
  | _ => True

instance (pool : SwapPool Thread Signature) :
    ∀ action, Decidable (OnlyTicks deployment pool action)
  | .event (.l2 _ _) => instDecidableAnd
  | .event (.evictEarned _) => isTrue trivial
  | .event (.evictLastVoucher _) => isTrue trivial
  | .event .wipe => isTrue trivial
  | .step _ _ => isTrue trivial
  | .restart _ => isTrue trivial

/-- A step of the task or its restart leaves MPT behind. -/
def Strands (pool : SwapPool Thread Signature) :
    SwapAction Thread Signature → Prop
  | .step thread answer => thread = task ∧ match pool.next? task with
      | some command => StrandsBy deployment.site pool.world (pool.stage task) answer command
      | none => False
  | .restart thread => thread = task ∧
      0 < fresh deployment.site.feeSwapper pool.world.token (pool.stage task)
  | .event _ => False

instance (pool : SwapPool Thread Signature) :
    ∀ action, Decidable (Strands deployment task pool action)
  | .step thread answer => by
      unfold Strands
      cases pool.next? task <;> exact inferInstanceAs (Decidable (_ ∧ _))
  | .restart _ => inferInstanceAs (Decidable (_ ∧ _))
  | .event _ => isFalse id

/-- A step of the task sells what an earlier tick left behind. -/
def Salvages (pool : SwapPool Thread Signature) :
    SwapAction Thread Signature → Prop
  | .step thread answer => thread = task ∧ match pool.next? task with
      | some command => SalvagesBy deployment.site pool.world (pool.stage task) answer command
      | none => False
  | _ => False

/-- No step of the run does. -/
abbrev Deployment.StrandsNothing :
    SwapPool Thread Signature → List (SwapAction Thread Signature) → Prop :=
  Along deployment.swapMove fun pool action => ¬ Strands deployment task pool action

abbrev Deployment.SalvagesNothing :
    SwapPool Thread Signature → List (SwapAction Thread Signature) → Prop :=
  Along deployment.swapMove fun pool action => ¬ Salvages deployment task pool action

/-- The table of commands, for every thread. -/
abbrev Deployment.Sends (thread : Thread) : Command Signature → Prop :=
  (deployment.role thread).Sends deployment.site.feeSwapper

variable {deployment task}

omit [DecidableEq Thread] in
theorem not_task_command (only : ∀ thread, deployment.role thread = .feeSwap → thread = task)
    {thread : Thread} (other : thread ≠ task) {command : Command Signature}
    (sends : deployment.Sends thread command) :
    (∀ voucher sig, command ≠ .submitClaim voucher sig) ∧
      ∀ mptIn minOut deadline, command ≠ .swapFeeToRose mptIn minOut deadline := by
  cases role : deployment.role thread with
  | feeSwap => exact absurd (only thread role) other
  | _ =>
      rw [Deployment.Sends, role] at sends
      constructor
      · rintro voucher sig rfl
        cases sends
      · rintro mptIn minOut deadline rfl
        cases sends

variable {left : Nat} {pool : SwapPool Thread Signature}

theorem exec_token_sound {thread : Thread} {world : World Thread} {command : Command Signature}
    {answer : Answer Signature} {result : World Thread × Reply command}
    (apart : deployment.site.pair ≠ deployment.site.feeSwapper)
    (done : exec deployment.site thread world command answer = some result)
    (sound : world.token.Sound) : result.1.token.Sound := by
  cases command with
  | submitClaim voucher sig =>
      cases done
      rcases world.submit_cases answer _ with ⟨_, same⟩ | ⟨_, after, claimed, left⟩
      · rw [same]
        exact sound
      · rw [left]
        exact Token.transact_sound sound claimed
  | swapFeeToRose mptIn minOut deadline =>
      cases done
      rcases world.submit_cases answer _ with ⟨_, same⟩ | ⟨_, after, sold, left⟩
      · exact congrArg World.token same ▸ sound
      · exact congrArg World.token left ▸ (sale_takes apart sound sold).1
  | _ =>
      have same := exec_token done (fun _ _ => nofun) (fun _ _ _ => nofun)
      rw [same]
      exact sound

omit [DecidableEq Thread] in
theorem occur_token_sound {world : World Thread} (event : Event Signature)
    (sound : world.token.Sound) : (world.occur deployment.site.ecdsa event).token.Sound := by
  cases event with
  | l2 sender call =>
      change ((transact deployment.site.ecdsa world.token sender call).getD world.token).Sound
      cases returned : transact deployment.site.ecdsa world.token sender call with
      | none => exact sound
      | some after => exact Token.transact_sound sound returned
  | _ => exact sound

theorem task_step (apart : deployment.site.pair ≠ deployment.site.feeSwapper)
    (isTask : deployment.role task = .feeSwap) {world : World Thread} {stage : SwapStage}
    {command : Command Signature} {answer : Answer Signature}
    {result : World Thread × Reply command} (sends : deployment.Sends task command)
    (permitted : swapPermits stage command)
    (done : exec deployment.site task world command answer = some result)
    (sound : world.token.Sound)
    (holding : Holding deployment.site.feeSwapper left world.token stage) :
    ∃ after, Holding deployment.site.feeSwapper after result.1.token
        (swapAfter stage command result.2) ∧
      Moves (StrandsBy deployment.site world stage answer command)
        (SalvagesBy deployment.site world stage answer command) left after := by
  rw [Deployment.Sends, isTask] at sends
  cases command with
  | claimed user =>
      have own : user = deployment.site.feeSwapper := sends
      subst own
      cases done
      refine ⟨left, ?_, .same id⟩
      cases stage with
      | start =>
          cases told : (world.read answer (some (world.token.claimed _))).2 with
          | none => exact holding
          | some prev => exact ⟨holding.balance, Option.some.inj (World.read_eq_some told)⟩
      | known | minted | failed | completed => exact holding
  | submitClaim voucher sig =>
      cases stage with
      | known prev =>
          cases done
          obtain ⟨after, holds, moves⟩ := holding.submitClaim answer sig sound sends
            (SalvagesBy deployment.site world (.known prev) answer (.submitClaim voucher sig))
          refine ⟨after, ?_, moves⟩
          cases replied : (world.submit answer
              (claimAttempt deployment.site world voucher sig)).2 with
          | none =>
              rw [replied] at holds
              rw [claimAttempt] at replied
              rw [replied]
              exact holds
          | some _ =>
              rw [replied] at holds
              rw [claimAttempt] at replied
              rw [replied]
              exact holds
      | start | minted | failed | completed => cases permitted
  | swapFeeToRose mptIn minOut deadline =>
      cases stage with
      | minted prev cumulative =>
          cases done
          have ends : ∀ reply : Option Unit,
              swapAfter (.minted prev cumulative)
                  (.swapFeeToRose mptIn minOut deadline : Command Signature) reply = .failed ∨
                swapAfter (.minted prev cumulative)
                  (.swapFeeToRose mptIn minOut deadline : Command Signature) reply =
                    .completed := by
            intro reply
            cases reply with
            | none => exact Or.inl rfl
            | some _ => exact Or.inr rfl
          exact holding.swap answer apart sound permitted.1 permitted.2 (ends _)
      | start | known | failed | completed => cases permitted
  | _ =>
      have same := exec_token done (fun _ _ => nofun) (fun _ _ _ => nofun)
      rw [same]
      refine ⟨left, ?_, .same id⟩
      cases stage <;> exact holding

/-! ### Every run -/

theorem waits_for_lock {site : Site Signature} {thread : Thread}
    {world : World Thread} {command : Command Signature} {answer : Answer Signature}
    (waits : exec site thread world command answer = none) : ∃ user, command = .lock user := by
  cases command with
  | lock user => exact ⟨user, rfl⟩
  | _ => cases waits

/-- What is known of a state of a run in which `left` is stranded. -/
structure Stranded (deployment : Deployment Thread Signature) (task : Thread) (left : Nat)
    (pool : SwapPool Thread Signature) : Prop where
  disciplined : pool.Disciplined swapDiscipline
  asking : pool.Asking deployment.Sends
  sound : pool.world.token.Sound
  holding : Holding deployment.site.feeSwapper left pool.world.token (pool.stage task)

/-- **One action**: what is stranded grows when MPT is left behind and shrinks only when
some of it is sold. -/
theorem Stranded.move (stranded : Stranded deployment task left pool)
    (apart : deployment.site.pair ≠ deployment.site.feeSwapper)
    (isTask : deployment.role task = .feeSwap)
    (only : ∀ thread, deployment.role thread = .feeSwap → thread = task)
    {action : SwapAction Thread Signature}
    (alone : OnlyTicks deployment pool action) :
    ∃ after, Stranded deployment task after (deployment.swapMove pool action) ∧
      Moves (Strands deployment task pool action) (Salvages deployment task pool action)
        left after := by
  obtain ⟨disciplined, asking, sound, holding⟩ := stranded
  have obeying := disciplined.move deployment.phases action
  have allowed : (deployment.swapMove pool action).Asking deployment.Sends :=
    asking.move deployment.asks action
  suffices moved : (deployment.swapMove pool action).world.token.Sound ∧
      ∃ after, Holding deployment.site.feeSwapper after
          (deployment.swapMove pool action).world.token
          ((deployment.swapMove pool action).stage task) ∧
        Moves (Strands deployment task pool action) (Salvages deployment task pool action)
          left after by
    obtain ⟨soundAfter, after, holds, moves⟩ := moved
    exact ⟨after, ⟨obeying, allowed, soundAfter, holds⟩, moves⟩
  cases action with
  | step thread answer =>
      cases code : pool.code thread with
      | done result =>
          have still : deployment.swapMove pool (.step thread answer) = pool := by
            simp only [Pool.move, code]
          rw [still]
          refine ⟨sound, left, holding, .same ?_⟩
          rintro ⟨rfl, strands⟩
          rw [Pool.next_of_done code] at strands
          exact strands
      | ask command rest =>
          have permitted := disciplined.permits_next (Pool.next_of_code code)
          have sends : deployment.Sends thread command := by
            have asks := asking thread
            rw [code] at asks
            exact asks.1
          cases answered : exec deployment.site thread pool.world command answer with
          | none =>
              have still : deployment.swapMove pool (.step thread answer) = pool := by
                have waits : deployment.machine.exec thread pool.world command answer = none :=
                  answered
                simp only [Pool.move, code, waits]
              rw [still]
              refine ⟨sound, left, holding, .same ?_⟩
              rintro ⟨rfl, strands⟩
              rw [Pool.next_of_code code] at strands
              obtain ⟨user, rfl⟩ := waits_for_lock answered
              exact strands
          | some result =>
              rw [Deployment.swapMove, Pool.move_step_of_code code answered]
              refine ⟨exec_token_sound apart answered sound, ?_⟩
              dsimp only
              by_cases same : thread = task
              · subst same
                rw [Function.update_self]
                obtain ⟨after, holds, moves⟩ :=
                  task_step apart isTask sends permitted answered sound holding
                refine ⟨after, holds, ?_⟩
                simpa only [Strands, Salvages, Pool.next_of_code code, true_and] using moves
              · obtain ⟨noClaim, noSwap⟩ := not_task_command only same sends
                rw [Function.update_of_ne (Ne.symm same), exec_token answered noClaim noSwap]
                exact ⟨left, holding, .same fun strands => same strands.1⟩
  | restart thread =>
      refine ⟨sound, ?_⟩
      by_cases same : thread = task
      · subst same
        refine ⟨_, .of_balance holding.balance (Or.inl (Function.update_self ..)), ?_⟩
        refine ⟨?_, fun _ => Nat.le_add_right _ _, fun regular => ?_⟩
        · rintro ⟨_, minted⟩
          omega
        · have nothing : ¬ 0 < fresh deployment.site.feeSwapper pool.world.token
              (pool.stage thread) := fun minted => regular ⟨rfl, minted⟩
          omega
      · refine ⟨left, ?_, .same fun strands => same strands.1⟩
        have kept : (deployment.swapMove pool (.restart thread)).stage task = pool.stage task :=
          Function.update_of_ne (Ne.symm same) _ _
        rw [kept]
        exact holding
  | event event =>
      refine ⟨occur_token_sound event sound, left, ?_, .same id⟩
      cases event with
      | l2 sender call => exact holding.of_same alone.1 alone.2
      | _ => exact holding

/-- **Every run**: what is stranded stays so. -/
theorem Stranded.run (stranded : Stranded deployment task left pool)
    (apart : deployment.site.pair ≠ deployment.site.feeSwapper)
    (isTask : deployment.role task = .feeSwap)
    (only : ∀ thread, deployment.role thread = .feeSwap → thread = task)
    {actions : List (SwapAction Thread Signature)}
    (along : Along deployment.swapMove (OnlyTicks deployment) pool actions) :
    ∃ after, Stranded deployment task after (Interaction.run deployment.swapMove pool actions) ∧
      (deployment.StrandsNothing task pool actions → after ≤ left) ∧
      (deployment.SalvagesNothing task pool actions →
        left ≤ after ∧ (after = left → deployment.StrandsNothing task pool actions)) := by
  induction actions generalizing pool left with
  | nil =>
      exact ⟨left, stranded, fun _ => Nat.le_refl _, fun _ => ⟨Nat.le_refl _, fun _ => trivial⟩⟩
  | cons action rest inductionHypothesis =>
      obtain ⟨middle, there, moves⟩ := stranded.move apart isTask only along.1
      obtain ⟨after, reached, bounded, kept⟩ := inductionHypothesis there along.2
      refine ⟨after, reached, ?_, ?_⟩
      · rintro ⟨regular, regularLater⟩
        exact (bounded regularLater).trans (moves.bounded regular)
      · rintro ⟨noSale, noSaleLater⟩
        obtain ⟨later, laterOnly⟩ := kept noSaleLater
        have now := moves.kept noSale
        refine ⟨now.trans later, fun unchanged => ⟨fun strands => ?_, laterOnly ?_⟩⟩
        · have grew := moves.raised strands
          omega
        · omega

/-- The balance the contract has in a state. -/
def Deployment.unsold (deployment : Deployment Thread Signature)
    (pool : SwapPool Thread Signature) : Nat :=
  pool.world.token.erc20.balances deployment.site.feeSwapper

/-- **When no fee-MPT is left unsold after a completed tick.** Nothing is as long as no
step strands any; and once a step has, something stays for good, unless a tick whose own
claim had reverted sells it by accident. -/
theorem nothing_unsold_iff (apart : deployment.site.pair ≠ deployment.site.feeSwapper)
    (isTask : deployment.role task = .feeSwap)
    (only : ∀ thread, deployment.role thread = .feeSwap → thread = task) (world : World Thread)
    (sound : world.token.Sound) (empty : world.token.erc20.balances deployment.site.feeSwapper = 0)
    (actions : List (SwapAction Thread Signature))
    (along : Along deployment.swapMove (OnlyTicks deployment) (deployment.swapStart world) actions)
    (completed : (run deployment.swapMove (deployment.swapStart world) actions).stage task =
      .completed) :
    (deployment.StrandsNothing task (deployment.swapStart world) actions →
      deployment.unsold (run deployment.swapMove (deployment.swapStart world) actions) = 0) ∧
    (deployment.SalvagesNothing task (deployment.swapStart world) actions →
      deployment.unsold (run deployment.swapMove (deployment.swapStart world) actions) = 0 →
      deployment.StrandsNothing task (deployment.swapStart world) actions) := by
  have initially : Stranded deployment task 0 (deployment.swapStart world) :=
    ⟨Pool.initial_disciplined world deployment.phases, Pool.initial_asking world deployment.asks,
      sound, .of_balance empty (Or.inl rfl)⟩
  obtain ⟨after, reached, bounded, kept⟩ := initially.run apart isTask only along
  have balance :
      deployment.unsold (run deployment.swapMove (deployment.swapStart world) actions) = after := by
    have held := reached.holding.balance
    rw [completed] at held
    exact held
  rw [balance]
  refine ⟨fun regular => Nat.le_zero.1 (bounded regular), fun noSale nothing => ?_⟩
  exact (kept noSale).2 nothing

end Runs

/-! ### A sale that fails -/

/-- One fee-swap task that mints at most 60 at a time. A signature is its signer. -/
def swapTask : Deployment Unit Address where
  site := {
    lua := .unbounded
    ecdsa := { voucher := fun _ sig => some sig, permit := fun _ sig => some sig }
    feeSwapper := 50
    app := 51
    pair := 52 }
  signer := 9
  feeSwap := {
    rentFloorWei := some 10
    minSwapAtomic := 1
    maxSwapAtomic := 60
    slippageBps := 0
    minSwapGasMultiple := 1 }
  mintableFee := fun _ _ _ => 0
  role := fun _ => .feeSwap

def feesAccrued : World Unit :=
  { World.genesis (Token.deployed 7 9 0) with
    balances := { Balances.empty with feeAccrued := some 100 } }

def market : Answer Address :=
  { signature := some 9, reservoir := some 0, quote := some 100, gasPrice := some 0 }

/-- A tick up to the submission of its swap, and the answer to that. -/
def tickWith (swap : Answer Address) : List (Action Unit (Answer Address) (Event Address)) :=
  List.replicate 11 (.step () market) ++ [.step () swap]

/-- A claim that goes through and a sale that does. -/
theorem nothing_unsold_iff_first :
    swapTask.unsold (run swapTask.swapMove (swapTask.swapStart feesAccrued) (tickWith market)) =
      0 := by
  have sound : feesAccrued.token.Sound := Token.deployed_sound 7 9 0
  have along : Along swapTask.swapMove (OnlyTicks swapTask) (swapTask.swapStart feesAccrued)
      (tickWith market) := by
    decide +kernel
  have completed : (run swapTask.swapMove (swapTask.swapStart feesAccrued)
      (tickWith market)).stage () = .completed := by
    decide +kernel
  have regular : swapTask.StrandsNothing () (swapTask.swapStart feesAccrued)
      (tickWith market) := by
    decide +kernel
  exact (nothing_unsold_iff (by decide) rfl (fun _ _ => rfl) feesAccrued sound (by decide)
    (tickWith market) along completed).1 regular

/-- The first swap is refused after its claim went through; the next tick sells its own
40 and reports success, and the 60 of the first stay. -/
theorem failed_swap_stays_unsold :
    let actions := tickWith { outcome := .refused } ++ .restart () :: tickWith market
    let pool := run swapTask.swapMove (swapTask.swapStart feesAccrued) actions
    Along swapTask.swapMove (OnlyTicks swapTask) (swapTask.swapStart feesAccrued) actions ∧
      pool.stage () = .completed ∧ swapTask.unsold pool = 60 := by
  decide +kernel

end CrFaucet.Issuance
