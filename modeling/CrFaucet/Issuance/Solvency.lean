import CrFaucet.Issuance.Backed
import CrFaucet.Token.Steps

/-!
Owns voucher solvency: no cumulative amount the enclave ever signs for a user
exceeds the credit ever added for that user (for the fee swapper, its credit and
all accrued fees together), and so neither does what the contract mints.

What is backed stays backed, whatever is evicted in between: totals only grow,
and every copy of an amount, in Redis, in the contract or on a voucher, is below
them.
-/

set_option autoImplicit false

namespace CrFaucet.Issuance

open Interaction
open Redemption (Outcome)
open Token (Address Call Ecdsa Voucher)

/-! ### What is backed -/

section Solvent

variable {Thread Signature : Type}

/-- The credit ever added for a user; for the fee swapper, the accrued fees too. -/
def World.backing (feeSwapper : Address) (world : World Thread) (user : Address) : Nat :=
  world.credited user + if user = feeSwapper then world.feeCredited else 0

/-- Every amount in sight is backed. -/
structure Solvent (feeSwapper signer : Address) (world : World Thread) : Prop where
  signer_eq : world.token.authorizedSigner = signer
  earned : ∀ user, (world.balances.earned user).getD 0 ≤ (world.backing feeSwapper user : Int)
  accrued : 0 ≤ world.balances.feeAccrued.getD 0 ∧
    world.balances.feeAccrued.getD 0 ≤ (world.feeCredited : Int)
  signed : ∀ voucher ∈ world.signed,
    voucher.cumulativeAmount ≤ world.backing feeSwapper voucher.user
  claimed : ∀ user, world.token.claimed user ≤ world.backing feeSwapper user

/-- No signature of the enclave on a voucher it has not signed. -/
def Unforged (ecdsa : Ecdsa Signature) (signer : Address) (signed : List Voucher)
    (voucher : Voucher) (sig : Signature) : Prop :=
  ecdsa.voucher voucher sig = some signer → voucher ∈ signed

/-- Calls of the contract that forge nothing and leave the signing key in place. -/
def honestCall (ecdsa : Ecdsa Signature) (signer : Address) (signed : List Voucher) :
    Address → Call Signature → Prop
  | _, .claim user cumulativeAmount signedAt sig =>
      Unforged ecdsa signer signed ⟨user, cumulativeAmount, signedAt⟩ sig
  | _, .setSigner newSigner => newSigner = signer
  | _, _ => True

end Solvent

/-! ### One step -/

section Step

variable {Thread Signature : Type} {site : Site Signature} {signer : Address}
  {world : World Thread}

theorem honest_step {signed : List Voucher} {bound : Address → Nat} {state after : Token.State}
    (backed : ∀ voucher ∈ signed, voucher.cumulativeAmount ≤ bound voucher.user)
    (step : Token.Step site.ecdsa (honestCall site.ecdsa signer signed) state after)
    (now : state.authorizedSigner = signer ∧ ∀ user, state.claimed user ≤ bound user) :
    after.authorizedSigner = signer ∧ ∀ user, after.claimed user ≤ bound user := by
  obtain ⟨own, claimed⟩ := now
  cases step with
  | claim sender user cumulativeAmount signedAt sig unforged minted =>
      obtain ⟨_, _, recovered, erc20, _, rfl⟩ := Token.State.claim_eq minted
      refine ⟨own, (Function.forall_update_iff _ fun other amount => amount ≤ bound other).2 ?_⟩
      constructor
      · exact backed _ (unforged (own ▸ recovered))
      · intro other _
        exact claimed other
  | redeem sender amount xmrAddress value wrote =>
      obtain ⟨_, erc20, _, rfl⟩ := Token.State.redeemWrites_eq wrote
      exact ⟨own, claimed⟩
  | plain sender call flat honest returned =>
      obtain ⟨same, kept | set⟩ := Token.plain_claimed flat returned
      · rw [kept, same]
        exact ⟨own, claimed⟩
      · subst set
        exact ⟨honest, by rw [same]; exact claimed⟩

theorem Solvent.call (solvent : Solvent site.feeSwapper signer world) {sender : Address}
    {call : Call Signature}
    (honest : call.All (honestCall site.ecdsa signer world.signed) sender) :
    let token := (Token.transact site.ecdsa world.token sender call).getD world.token
    token.authorizedSigner = signer ∧
      ∀ user, token.claimed user ≤ world.backing site.feeSwapper user := by
  cases returned : Token.transact site.ecdsa world.token sender call with
  | none => exact ⟨solvent.signer_eq, solvent.claimed⟩
  | some after =>
      exact Token.transact_keeps (fun state => state.authorizedSigner = signer ∧
          ∀ user, state.claimed user ≤ world.backing site.feeSwapper user)
        (honest_step solvent.signed) honest returned ⟨solvent.signer_eq, solvent.claimed⟩

/-- The amounts a restore works on are small enough for Lua. -/
def Balances.Exact (balances : Balances) (user : Address) (cumulative : Int) : Prop :=
  cumulative.natAbs ≤ 2 ^ 53 ∧ ((balances.earned user).getD 0).natAbs ≤ 2 ^ 53 ∧
    ((balances.lastVoucher user).getD 0).natAbs ≤ 2 ^ 53

def assumed (site : Site Signature) (signer : Address) (world : World Thread) :
    Command Signature → Prop
  | .recover voucher sig => Unforged site.ecdsa signer world.signed voucher sig
  | .submitClaim voucher sig => Unforged site.ecdsa signer world.signed voucher sig
  | .restoreCumulative user cumulative => world.balances.Exact user cumulative
  | _ => True

instance (ecdsa : Ecdsa Signature) (signer : Address) (signed : List Voucher)
    (voucher : Voucher) (sig : Signature) : Decidable (Unforged ecdsa signer signed voucher sig) :=
  inferInstanceAs (Decidable (_ → _))

instance (ecdsa : Ecdsa Signature) (signer : Address) (signed : List Voucher) (sender : Address) :
    ∀ call, Decidable (honestCall ecdsa signer signed sender call) := by
  intro call
  cases call with
  | claim => exact inferInstanceAs (Decidable (Unforged _ _ _ _ _))
  | setSigner => exact inferInstanceAs (Decidable (_ = _))
  | _ => exact isTrue trivial

instance (balances : Balances) (user : Address) (cumulative : Int) :
    Decidable (balances.Exact user cumulative) :=
  inferInstanceAs (Decidable (_ ∧ _ ∧ _))

instance (site : Site Signature) (signer : Address) (world : World Thread) :
    ∀ command, Decidable (assumed site signer world command) := by
  intro command
  cases command with
  | recover | submitClaim => exact inferInstanceAs (Decidable (Unforged _ _ _ _ _))
  | restoreCumulative => exact inferInstanceAs (Decidable (Balances.Exact _ _ _))
  | _ => exact isTrue trivial

variable {answer : Answer Signature}

theorem Solvent.with_balances (solvent : Solvent site.feeSwapper signer world)
    {balances : Balances}
    (earned : ∀ user, (balances.earned user).getD 0 ≤
      (world.backing site.feeSwapper user : Int))
    (accrued : 0 ≤ balances.feeAccrued.getD 0 ∧
      balances.feeAccrued.getD 0 ≤ (world.feeCredited : Int)) :
    Solvent site.feeSwapper signer { world with balances := balances } :=
  ⟨solvent.signer_eq, earned, accrued, solvent.signed, solvent.claimed⟩

theorem Solvent.onBalances {Result : Type} (solvent : Solvent site.feeSwapper signer world)
    (command : Balances → Balances × Option Result)
    (carriedOut : Solvent site.feeSwapper signer
      { world with balances := (command world.balances).1 }) :
    Solvent site.feeSwapper signer (world.onBalances answer command).1 := by
  rcases world.onBalances_cases answer command with same | done
  · rw [same]
    exact solvent
  · rw [done]
    exact carriedOut

theorem Solvent.submit (solvent : Solvent site.feeSwapper signer world)
    (attempt : Option Token.State)
    (carriedOut : (attempt.getD world.token).authorizedSigner = signer ∧
      ∀ user, (attempt.getD world.token).claimed user ≤ world.backing site.feeSwapper user) :
    Solvent site.feeSwapper signer (world.submit answer attempt).1 := by
  rcases world.submit_cases answer attempt with ⟨_, same⟩ | ⟨_, after, rfl, done⟩
  · rw [same]
    exact solvent
  · rw [done]
    exact ⟨carriedOut.1, solvent.earned, solvent.accrued, solvent.signed, carriedOut.2⟩

theorem Solvent.update_earned (solvent : Solvent site.feeSwapper signer world)
    {miner : Address} {value : Option Int}
    (backed : value.getD 0 ≤ (world.backing site.feeSwapper miner : Int)) (user : Address) :
    (Function.update world.balances.earned miner value user).getD 0 ≤
      (world.backing site.feeSwapper user : Int) := by
  revert user
  apply (Function.forall_update_iff world.balances.earned fun user earned =>
    earned.getD 0 ≤ (world.backing site.feeSwapper user : Int)).2
  exact ⟨backed, fun user _ => solvent.earned user⟩

theorem Solvent.restore (solvent : Solvent site.feeSwapper signer world) {user : Address}
    {cumulative : Int} (backed : cumulative.toNat ≤ world.backing site.feeSwapper user)
    (exact : world.balances.Exact user cumulative) :
    Solvent site.feeSwapper signer
      { world with balances := (world.balances.restoreScript site.lua user cumulative).1 } := by
  rw [Balances.restoreScript_eq site.lua exact.1 exact.2.1 exact.2.2]
  have earned := solvent.earned user
  have raised : max ((world.balances.earned user).getD 0) cumulative ≤
      (world.backing site.feeSwapper user : Int) := by
    omega
  exact solvent.with_balances (solvent.update_earned raised) solvent.accrued

theorem backing_le_addEarned (feeSwapper : Address) (world : World Thread)
    (answer : Answer Signature) (miner : Address) (deltaAtomic : Int) (user : Address) :
    world.backing feeSwapper user ≤
      (world.addEarned answer miner deltaAtomic).1.backing feeSwapper user := by
  rcases world.addEarned_cases answer miner deltaAtomic with same | ⟨total, sum, added⟩
  · rw [same]
  · rw [added]
    unfold World.backing
    dsimp only
    by_cases same : user = miner
    · subst same
      rw [Function.update_self]
      omega
    · rw [Function.update_of_ne same]

theorem backing_le_addFeeAccrued (feeSwapper : Address) (world : World Thread)
    (answer : Answer Signature) (deltaAtomic : Int) (user : Address) :
    world.backing feeSwapper user ≤
      (world.addFeeAccrued answer deltaAtomic).1.backing feeSwapper user := by
  rcases world.addFeeAccrued_cases answer deltaAtomic with same | ⟨total, sum, added⟩
  · rw [same]
  · rw [added]
    unfold World.backing
    dsimp only
    split <;> omega

theorem Solvent.addEarned (solvent : Solvent site.feeSwapper signer world) {miner : Address}
    {deltaAtomic : Int} (positive : 0 < deltaAtomic) :
    Solvent site.feeSwapper signer (world.addEarned answer miner deltaAtomic).1 := by
  have grows := backing_le_addEarned site.feeSwapper world answer miner deltaAtomic
  rcases world.addEarned_cases answer miner deltaAtomic with same | ⟨total, sum, added⟩
  · rw [same]
    exact solvent
  · rw [added] at grows ⊢
    refine ⟨solvent.signer_eq, fun user => ?_, solvent.accrued,
      fun voucher signed => (solvent.signed voucher signed).trans (grows voucher.user),
      fun user => (solvent.claimed user).trans (grows user)⟩
    have earned := solvent.earned user
    unfold World.backing at earned ⊢
    dsimp only
    by_cases same : user = miner
    · subst same
      rw [Function.update_self, Function.update_self, Option.getD_some]
      omega
    · rw [Function.update_of_ne same, Function.update_of_ne same]
      exact earned

theorem Solvent.addFeeAccrued (solvent : Solvent site.feeSwapper signer world)
    {deltaAtomic : Int} (positive : 0 < deltaAtomic) :
    Solvent site.feeSwapper signer (world.addFeeAccrued answer deltaAtomic).1 := by
  have grows := backing_le_addFeeAccrued site.feeSwapper world answer deltaAtomic
  rcases world.addFeeAccrued_cases answer deltaAtomic with same | ⟨total, sum, added⟩
  · rw [same]
    exact solvent
  · rw [added] at grows ⊢
    refine ⟨solvent.signer_eq, fun user => ?_, ?_,
      fun voucher signed => (solvent.signed voucher signed).trans (grows voucher.user),
      fun user => (solvent.claimed user).trans (grows user)⟩
    · have earned := solvent.earned user
      have grows := grows user
      dsimp only at grows ⊢
      omega
    · have accrued := solvent.accrued
      dsimp only
      rw [Option.getD_some]
      omega

variable [DecidableEq Thread] {thread : Thread} {command : Command Signature}
  {result : World Thread × Reply command}

theorem exec_backing_le (done : exec site thread world command answer = some result)
    (user : Address) :
    world.backing site.feeSwapper user ≤ result.1.backing site.feeSwapper user := by
  cases command with
  | lock owner =>
      simp only [exec] at done
      split at done
      · cases done
      · cases done
        exact le_rfl
  | sign voucher =>
      cases done
      unfold World.sign
      split <;> exact le_rfl
  | addEarned miner deltaAtomic =>
      cases done
      exact backing_le_addEarned site.feeSwapper world answer miner deltaAtomic user
  | addFeeAccrued deltaAtomic =>
      cases done
      exact backing_le_addFeeAccrued site.feeSwapper world answer deltaAtomic user
  | _ =>
      cases done
      exact le_rfl

/-- **A permitted command keeps every amount backed.** -/
theorem Solvent.exec {stage : Stage} (solvent : Solvent site.feeSwapper signer world)
    (known : ∀ user, stage user ≤ world.backing site.feeSwapper user)
    (permitted : permits stage command) (fair : assumed site signer world command)
    (done : exec site thread world command answer = some result) :
    Solvent site.feeSwapper signer result.1 := by
  cases command with
  | lock owner =>
      simp only [Issuance.exec] at done
      split at done
      · cases done
      · cases done
        exact ⟨solvent.signer_eq, solvent.earned, solvent.accrued, solvent.signed,
          solvent.claimed⟩
  | unlock owner =>
      cases done
      exact ⟨solvent.signer_eq, solvent.earned, solvent.accrued, solvent.signed,
        solvent.claimed⟩
  | setLastVoucher user value =>
      cases done
      exact solvent.onBalances _ (solvent.with_balances solvent.earned solvent.accrued)
  | restoreCumulative user cumulative =>
      cases done
      exact solvent.onBalances _ (solvent.restore (permitted.2.trans (known user)) fair)
  | sign voucher =>
      cases done
      unfold World.sign
      split
      · exact solvent
      · refine ⟨solvent.signer_eq, solvent.earned, solvent.accrued, ?_, solvent.claimed⟩
        intro other member
        rcases List.mem_cons.1 member with rfl | earlier
        · exact permitted.trans (known other.user)
        · exact solvent.signed other earlier
  | addEarned miner deltaAtomic =>
      cases done
      exact solvent.addEarned permitted
  | addFeeAccrued deltaAtomic =>
      cases done
      exact solvent.addFeeAccrued permitted
  | submitClaim voucher sig =>
      cases done
      exact solvent.submit _ (solvent.call fair)
  | swapFeeToRose mptIn minOut deadline =>
      cases done
      refine solvent.submit _ ?_
      cases sold : world.swapFeeToRose answer site mptIn with
      | none => exact ⟨solvent.signer_eq, solvent.claimed⟩
      | some after =>
          obtain ⟨erc20, _, rfl⟩ := World.swapFeeToRose_eq sold
          exact ⟨solvent.signer_eq, solvent.claimed⟩
  | _ =>
      cases done
      exact solvent

/-- **What a reply tells to be backed is backed.** -/
theorem stageAfter_le {stage : Stage} (solvent : Solvent site.feeSwapper signer world)
    (known : ∀ user, stage user ≤ world.backing site.feeSwapper user)
    (fair : assumed site signer world command)
    (done : exec site thread world command answer = some result) (user : Address) :
    stageAfter site.feeSwapper signer stage command result.2 user ≤
      result.1.backing site.feeSwapper user := by
  have kept : ∀ other, stage other ≤ result.1.backing site.feeSwapper other :=
    fun other => (known other).trans (exec_backing_le done other)
  have raised : ∀ (owner : Address) (amount : Nat),
      amount ≤ world.backing site.feeSwapper owner →
      stage.raise owner amount user ≤ result.1.backing site.feeSwapper user :=
    fun owner amount backed =>
      Stage.raise_le kept (backed.trans (exec_backing_le done owner)) user
  obtain ⟨after, reply⟩ := result
  cases command with
  | balanceState owner =>
      cases reply with
      | none => exact kept user
      | some balance =>
          have told := Balances.balanceState_earned
            (World.read_eq_some (congrArg Prod.snd (Option.some.inj done)))
          have earned := solvent.earned owner
          apply raised
          omega
  | claimed owner =>
      cases reply with
      | none => exact kept user
      | some claimed =>
          have told := World.read_eq_some (congrArg Prod.snd (Option.some.inj done))
          cases told
          exact raised _ _ (solvent.claimed owner)
  | feeAccrued =>
      cases reply with
      | none => exact kept user
      | some accrued =>
          have told := Balances.decodeI64_eq_some
            (World.read_eq_some (congrArg Prod.snd (Option.some.inj done)))
          have bounds := solvent.accrued
          have fits := accrued.2
          apply raised
          unfold World.backing asU128
          rw [if_pos rfl]
          unfold IsI64 at fits
          omega
  | recover voucher sig =>
      cases reply with
      | none => exact kept user
      | some recovered =>
          have told : site.ecdsa.voucher voucher sig = some recovered :=
            congrArg Prod.snd (Option.some.inj done)
          unfold stageAfter
          dsimp only
          split
          · rename_i own
            exact raised _ _ (solvent.signed voucher (fair (own ▸ told)))
          · exact kept user
  | _ => exact kept user

end Step

/-! ### Whole runs -/

namespace Deployment

variable {Thread Signature : Type} [DecidableEq Thread] (deployment : Deployment Thread Signature)

abbrev start (owner : Address) (subsidy : Nat) :
    Pool Thread (World Thread) (Command Signature) Reply Stage :=
  Pool.initial deployment.machine deployment.discipline
    (World.genesis (Token.deployed owner deployment.signer subsidy))

abbrev move := Pool.move deployment.machine deployment.discipline

/-- Nobody forges a voucher of the enclave, and restores stay exact in Lua. -/
def Assumed (pool : Pool Thread (World Thread) (Command Signature) Reply Stage) :
    Action Thread (Answer Signature) (Event Signature) → Prop
  | .step thread _ =>
      ∀ command ∈ pool.next? thread,
        assumed deployment.site deployment.signer pool.world command
  | .event (.l2 sender call) =>
      call.All (honestCall deployment.site.ecdsa deployment.signer pool.world.signed) sender
  | _ => True

instance (pool : Pool Thread (World Thread) (Command Signature) Reply Stage) :
    ∀ action, Decidable (deployment.Assumed pool action)
  | .step thread _ => inferInstanceAs (Decidable (∀ command ∈ pool.next? thread, _))
  | .restart _ => isTrue trivial
  | .event (.evictEarned _) => isTrue trivial
  | .event (.evictLastVoucher _) => isTrue trivial
  | .event .wipe => isTrue trivial
  | .event (.l2 _ _) => inferInstanceAs (Decidable (Call.All _ _ _))

end Deployment

section Run

variable {Thread Signature : Type} [DecidableEq Thread]

omit [DecidableEq Thread] in
theorem genesis_solvent (feeSwapper signer owner : Address) (subsidy : Nat) :
    Solvent feeSwapper signer
      (World.genesis (Token.deployed owner signer subsidy) : World Thread) where
  signer_eq := rfl
  earned _ := Int.natCast_nonneg _
  accrued := ⟨le_rfl, le_rfl⟩
  signed := nofun
  claimed _ := Nat.zero_le _

omit [DecidableEq Thread] in
theorem Solvent.occur {site : Site Signature} {signer : Address} {world : World Thread}
    {event : Event Signature} (solvent : Solvent site.feeSwapper signer world)
    (honest : ∀ sender call, event = .l2 sender call →
      call.All (honestCall site.ecdsa signer world.signed) sender) :
    Solvent site.feeSwapper signer (world.occur site.ecdsa event) := by
  have gone : ∀ user, (0 : Int) ≤ world.backing site.feeSwapper user :=
    fun user => Int.natCast_nonneg _
  cases event with
  | evictEarned miner =>
      exact solvent.with_balances (solvent.update_earned (gone miner)) solvent.accrued
  | evictLastVoucher miner => exact solvent.with_balances solvent.earned solvent.accrued
  | wipe => exact solvent.with_balances gone ⟨le_rfl, Int.natCast_nonneg _⟩
  | l2 sender call =>
      have called := solvent.call (honest sender call rfl)
      exact ⟨called.1, solvent.earned, solvent.accrued, solvent.signed, called.2⟩

theorem solvent_invariant (deployment : Deployment Thread Signature) :
    Invariant deployment.machine deployment.discipline deployment.Assumed fun world stage =>
      Solvent deployment.site.feeSwapper deployment.signer world ∧
        ∀ thread user, stage thread user ≤ world.backing deployment.site.feeSwapper user where
  step pool thread answer command next world reply code permitted answered meets now := by
    obtain ⟨solvent, known⟩ := now
    have asks : pool.next? thread = some command := by rw [Pool.next?, code]
    have fair : assumed deployment.site deployment.signer pool.world command :=
      meets command asks
    refine ⟨solvent.exec (known thread) permitted fair answered, ?_⟩
    apply (Function.forall_update_iff pool.stage fun _ stage => ∀ user,
      stage user ≤ world.backing deployment.site.feeSwapper user).2
    constructor
    · exact stageAfter_le solvent (known thread) fair answered
    · intro other _ user
      exact (known other user).trans (exec_backing_le answered user)
  restart pool thread _ now := by
    obtain ⟨solvent, known⟩ := now
    refine ⟨⟨solvent.signer_eq, solvent.earned, solvent.accrued, solvent.signed,
      solvent.claimed⟩, ?_⟩
    apply (Function.forall_update_iff pool.stage fun _ stage => ∀ user,
      stage user ≤ pool.world.backing deployment.site.feeSwapper user).2
    constructor
    · intro user
      exact Nat.zero_le _
    · intro other _ user
      exact known other user
  event pool event meets now := by
    obtain ⟨solvent, known⟩ := now
    refine ⟨solvent.occur ?_, fun thread user => ?_⟩
    · rintro sender call rfl
      exact meets
    · cases event <;> exact known thread user

/-- **Voucher solvency.** However requests, ticks, evictions, wipes and calls of
the contract interleave, nobody is signed or minted more than was ever credited. -/
theorem vouchers_backed (deployment : Deployment Thread Signature) (owner : Address)
    (subsidy : Nat) (actions : List (Action Thread (Answer Signature) (Event Signature)))
    (assumed : Along deployment.move deployment.Assumed (deployment.start owner subsidy)
      actions) :
    let world := (run deployment.move (deployment.start owner subsidy) actions).world
    (∀ voucher ∈ world.signed,
      voucher.cumulativeAmount ≤ world.backing deployment.site.feeSwapper voucher.user) ∧
      ∀ user, world.token.claimed user ≤ world.backing deployment.site.feeSwapper user := by
  have solvent := ((solvent_invariant deployment).run deployment.obeys
    (Pool.initial_disciplined _ deployment.obeys) assumed
    ⟨genesis_solvent _ _ owner subsidy, fun _ _ => Nat.zero_le _⟩).1
  exact ⟨solvent.signed, solvent.claimed⟩

end Run

/-! ### A worked deployment -/

inductive SampleThread where
  | credit
  | issue
  | restore
deriving DecidableEq

/-- One share, one request and one restore of the voucher the request gets. A
voucher is its own signature. -/
def sample : Deployment SampleThread Voucher where
  site := {
    lua := .unbounded
    ecdsa := {
      voucher := fun voucher sig => if sig = voucher then some 9 else none
      permit := fun _ _ => none }
    feeSwapper := 3
    app := 4
    pair := 5 }
  signer := 9
  feeSwap := {
    rentFloorWei := some 0
    minSwapAtomic := 1
    maxSwapAtomic := 10 ^ 12
    slippageBps := 100
    minSwapGasMultiple := 2 }
  mintableFee := fun _ _ _ => 0
  role
    | .credit => .credit 1 100
    | .issue => .issue 1 none
    | .restore => .restore 1 50 1000 ⟨1, 50, 1000⟩

/-- The share is credited, vouchered and claimed; both keys are evicted, restored
from the voucher, and the user asks again. -/
def claimThenRestore : List (Action SampleThread (Answer Voucher) (Event Voucher)) :=
  List.replicate 3 (.step .credit { credit := 50 }) ++
    List.replicate 7 (.step .issue { signature := some ⟨1, 50, 1000⟩, time := 1000 }) ++
    [.event (.l2 8 (.claim 1 50 1000 ⟨1, 50, 1000⟩)), .event (.evictEarned 1),
      .event (.evictLastVoucher 1)] ++
    List.replicate 6 (.step .restore {}) ++ [.restart .issue] ++
    List.replicate 4 (.step .issue {})

theorem vouchers_backed_restored :
    let world := (run sample.move (sample.start 7 0) claimThenRestore).world
    (world.signed = [⟨1, 50, 1000⟩] ∧ world.token.claimed 1 = 50 ∧
      world.balances.earned 1 = some 50) ∧
      (∀ voucher ∈ world.signed, voucher.cumulativeAmount ≤ world.backing 3 voucher.user) ∧
      ∀ user, world.token.claimed user ≤ world.backing 3 user :=
  ⟨by decide, vouchers_backed sample 7 0 claimThenRestore (by decide)⟩

end CrFaucet.Issuance
