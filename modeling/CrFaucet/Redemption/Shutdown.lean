import CrFaucet.Redemption.Effects
import CrFaucet.Redemption.Trail

/-!
Owns the shutdown of the payout loop: `run_loop_with_shutdown` looks at its token between two
passes and never in the middle of one, so that no redemption is left `in_flight` behind.

A consumer holds an id from the claim that succeeds to its next write of a state or to
`mark_redemption_sent`. Every branch of a pass ends with empty hands, but for three that leave the
claim as it is: the counter cannot be read, or the reply of the wallet to `transfer` is lost or
cannot be decoded. Beyond these a claim is stranded by a write that does not arrive, by a claim
whose reply is lost, and by a consumer that is stopped in the middle of a pass. A run without these
five is graceful.

Does not own what becomes of a stranded claim.
-/

set_option autoImplicit false

namespace CrFaucet.Redemption

open Interaction
open Token (Address)

/-! ### What a consumer holds -/

/-- What is still held after a state of `id` was written. -/
def release (held : Option RedemptionId) (id : RedemptionId) : Option RedemptionId :=
  if held = some id then none else held

def heldAfter (held : Option RedemptionId) :
    (command : Command) → Reply command → Option RedemptionId
  | .tryMarkInFlight id, some true => some id
  | .hsetState id _, _ => release held id
  | .markSent id _, _ => release held id
  -- The pass ends here and leaves the claim as it is.
  | .getPendingAtomic, none => none
  | .transfer _ _ _, .failed => none
  | .transfer _ _ _, .undecodable => none
  | _, _ => held

/-- One claim at a time, and `in_flight` is written by the claim only. -/
def heldDiscipline : Discipline Command Reply (Option RedemptionId) where
  start := none
  permits := fun held command =>
    match command with
    | .tryMarkInFlight _ => held = none
    | .hsetState _ state => state ≠ .inFlight
    | .hsetnxState _ state => state ≠ .inFlight
    | _ => True
  after := heldAfter

/-- Does not claim. -/
def Command.Unclaiming : Command → Prop
  | .tryMarkInFlight _ => False
  | .hsetState _ state => state ≠ .inFlight
  | .hsetnxState _ state => state ≠ .inFlight
  | _ => True

abbrev EndsEmpty {Result : Type} (held : Option RedemptionId) (program : Service Result) : Prop :=
  program.Obeys heldDiscipline held fun after _ => after = none

section Unclaiming

variable {Result : Type}

theorem unclaiming_permits {command : Command} (unclaiming : command.Unclaiming)
    (held : Option RedemptionId) : heldDiscipline.permits held command := by
  cases command with
  | tryMarkInFlight => cases unclaiming
  | hsetState | hsetnxState => exact unclaiming
  | _ => trivial

theorem unclaiming_after {command : Command} (unclaiming : command.Unclaiming)
    (reply : Reply command) : heldAfter none command reply = none := by
  cases command with
  | tryMarkInFlight => cases unclaiming
  | getPendingAtomic | transfer => cases reply <;> rfl
  | _ => rfl

theorem unclaiming_endsEmpty {program : Service Result} (asks : program.Asks Command.Unclaiming) :
    EndsEmpty none program := by
  refine asks.obeys ?_ ?_ rfl
  · intro held command _ unclaiming
    exact unclaiming_permits unclaiming held
  · rintro held command reply rfl unclaiming
    exact unclaiming_after unclaiming reply

theorem unclaiming_of_quiet {program : Service Result} (asks : program.Asks Command.Quiet) :
    program.Asks Command.Unclaiming := by
  refine asks.obeys ?_ (fun _ _ _ now _ => now) trivial
  intro _ command _ quiet
  cases command with
  | tryMarkInFlight | hsetState | hsetnxState => cases quiet
  | _ => trivial

end Unclaiming

/-! ### The poller claims nothing -/

theorem tick_unclaiming (poller : EventPoller) : poller.tick.Asks Command.Unclaiming := by
  apply tick_asks poller
  intro command polls
  cases command with
  | tryMarkInFlight | hsetState | hsetnxState => cases polls
  | _ => trivial

/-! ### A pass ends with empty hands -/

section Pass

variable {held : Option RedemptionId} (payouts : Payouts) {entry : StreamEntry}

/-- What the thread can hold while it deals with the entry. -/
def AtMost (entry : StreamEntry) (held : Option RedemptionId) : Prop :=
  held = none ∨ held = some entry.id

theorem AtMost.released (atMost : AtMost entry held) : release held entry.id = none := by
  rcases atMost with rfl | rfl
  · rfl
  · exact if_pos rfl

theorem endsEmpty_hsetState {Result : Type} {state : RedemptionState} (atMost : AtMost entry held)
    (other : state ≠ .inFlight) {next : Option Unit → Service Result}
    (continues : ∀ reply, EndsEmpty none (next reply)) :
    EndsEmpty held (send (.hsetState entry.id state) >>= next) := by
  apply obeys_call other
  intro reply
  have empty : heldDiscipline.after held (.hsetState entry.id state) reply = none :=
    atMost.released
  rw [empty]
  exact continues reply

theorem dispose_endsEmpty {state : RedemptionState} (atMost : AtMost entry held)
    (other : state ≠ .inFlight) : EndsEmpty held (dispose entry state) := by
  apply endsEmpty_hsetState atMost other
  intro reply
  cases reply with
  | none => rfl
  | some _ => exact unclaiming_endsEmpty (ack_asks entry trivial)

theorem rollBack_endsEmpty (atMost : AtMost entry held) (flow : Flow) :
    EndsEmpty held (rollBack entry flow) := by
  apply endsEmpty_hsetState atMost (by decide)
  intro reply
  cases reply with
  | none => rfl
  | some _ => rfl

theorem deferLocked_endsEmpty (atMost : AtMost entry held) :
    EndsEmpty held (deferLocked entry) := by
  apply endsEmpty_hsetState atMost (by decide)
  intro reply
  cases reply with
  | none => rfl
  | some _ =>
      apply obeys_call
      · intro same
        cases same
      intro _
      exact rollBack_endsEmpty (Or.inl rfl) .next

theorem mark_keepsHeld (txid : String) (restoreHeight : Nat) :
    (mark payouts entry txid restoreHeight).Obeys heldDiscipline held
      fun after _ => after = held := by
  unfold mark
  split
  · exact obeys_call trivial fun _ => rfl
  · rfl

theorem confirmPayout_endsEmpty (atMost : AtMost entry held) (txHash : String) :
    EndsEmpty held (confirmPayout payouts entry txHash) := by
  apply obeys_call trivial
  intro reply
  have empty : heldDiscipline.after held (.markSent entry.id txHash) reply = none :=
    atMost.released
  rw [empty]
  apply unclaiming_endsEmpty
  cases reply with
  | none => trivial
  | some _ =>
      dsimp only
      split
      · apply (unclaiming_of_quiet (waitConfirmed_quiet txHash _)).bind
        intro _ confirmed _
        split
        · apply (unclaiming_of_quiet oldestUnspentHeight_quiet).bind
          intro _ height _
          exact (mark_asks payouts entry trivial).bind fun _ _ _ => ack_asks entry trivial
        · exact ack_asks entry trivial
      · exact ack_asks entry trivial

theorem rejectPayout_endsEmpty (atMost : AtMost entry held) (code : Option Int)
    (message : Option String) : EndsEmpty held (rejectPayout payouts entry code message) := by
  unfold rejectPayout
  split
  · apply (mark_keepsHeld payouts "FAILED:permanent" 0).bind
    rintro _ _ rfl
    apply endsEmpty_hsetState atMost (by decide)
    intro _
    exact unclaiming_endsEmpty (ack_asks entry trivial)
  · apply endsEmpty_hsetState atMost (by decide)
    intro _
    rfl

theorem transferPayout_endsEmpty (atMost : AtMost entry held) (payout : Nat) :
    EndsEmpty held (transferPayout payouts entry payout) := by
  apply obeys_call trivial
  intro reply
  cases reply with
  | failed => rfl
  | rejected code message => exact rejectPayout_endsEmpty payouts atMost code message
  | undecodable => rfl
  | sent txHash => exact confirmPayout_endsEmpty payouts atMost txHash

theorem payAgainst_endsEmpty (atMost : AtMost entry held) (snap : TreasurySnapshot) :
    EndsEmpty held (payAgainst payouts entry snap) := by
  apply obeys_call trivial
  intro reply
  cases reply with
  | none => rfl
  | some pendingNow =>
      dsimp only
      split
      · exact dispose_endsEmpty atMost (by decide)
      · apply (mark_keepsHeld payouts "dust-skipped" 0).bind
        rintro _ _ rfl
        exact dispose_endsEmpty atMost (by decide)
      · exact deferLocked_endsEmpty atMost
      · exact transferPayout_endsEmpty payouts atMost _

theorem payClaimed_endsEmpty (atMost : AtMost entry held) :
    EndsEmpty held (payClaimed payouts entry) := by
  apply obeys_call trivial
  intro stored
  split
  · exact rollBack_endsEmpty atMost .stop
  · rename_i snap _
    apply obeys_call trivial
    intro time
    split
    · exact rollBack_endsEmpty atMost .stop
    · exact payAgainst_endsEmpty payouts atMost snap

theorem claimAndPay_endsEmpty : EndsEmpty none (claimAndPay payouts entry) := by
  apply obeys_call rfl
  intro reply
  cases reply with
  | none => rfl
  | some claimed =>
      cases claimed with
      | false =>
          apply obeys_call trivial
          intro _
          exact unclaiming_endsEmpty (ack_asks entry trivial)
      | true => exact payClaimed_endsEmpty payouts (Or.inr rfl)

/-- **Whatever becomes of an entry, its turn ends with empty hands.** -/
theorem drainEntry_endsEmpty : EndsEmpty none (drainEntry payouts entry) := by
  unfold drainEntry
  split
  · exact dispose_endsEmpty (Or.inl rfl) (by decide)
  · apply (unclaiming_endsEmpty (checkProcessed_asks payouts entry trivial)).bind
    rintro _ processed rfl
    split
    · rfl
    · exact dispose_endsEmpty (Or.inl rfl) (by decide)
    · apply (unclaiming_endsEmpty (findPaidTx_asks trivial fun _ => trivial)).bind
      rintro _ scan rfl
      cases scan with
      | failed => rfl
      | paid txid confirmed =>
          exact unclaiming_endsEmpty (reconcile_asks payouts entry trivial trivial trivial)
      | clean => exact claimAndPay_endsEmpty payouts

theorem drainEntries_endsEmpty (entries : List StreamEntry) (processed : Nat) :
    EndsEmpty none (drainEntries payouts entries processed) := by
  induction entries generalizing processed with
  | nil => rfl
  | cons entry rest inductionHypothesis =>
      apply (drainEntry_endsEmpty payouts).bind
      rintro _ flow rfl
      cases flow with
      | next => exact inductionHypothesis _
      | stop => rfl
      | fail => rfl

theorem payoutsMain_endsEmpty : EndsEmpty none (payoutsMain payouts) := by
  apply obeys_call trivial
  intro _
  suffices drains : EndsEmpty none (drainOnce payouts) by
    apply drains.bind
    rintro _ _ rfl
    rfl
  apply obeys_call trivial
  intro reclaimed
  apply obeys_call trivial
  intro fresh
  cases fresh with
  | none => rfl
  | some fresh => exact drainEntries_endsEmpty payouts _ 0

end Pass

/-! ### Graceful runs -/

instance : (role : Role) → Decidable (role = .payouts)
  | .payouts => isTrue rfl
  | .poller | .refresher | .enqueue _ _ _ _ | .tryMark _ | .markSent _ _ =>
      isFalse fun same => Role.noConfusion same

/-- The answer strands no claim: a claim is not carried out behind the caller's back, a write of a
state arrives, the counter is read, and the wallet says what became of a transfer. -/
def Command.Completes (answer : Answer) : Command → Prop
  | .tryMarkInFlight _ => answer.outcome ≠ .lost
  | .hsetState _ _ => answer.outcome ≠ .refused
  | .markSent _ _ => answer.outcome ≠ .refused
  | .getPendingAtomic => answer.outcome = .ok
  | .transfer _ _ _ => answer.transfer ≠ .failed ∧ answer.transfer ≠ .undecodable
  | _ => True

instance (answer : Answer) : (command : Command) → Decidable (command.Completes answer)
  | .tryMarkInFlight _ => inferInstanceAs (Decidable (answer.outcome ≠ .lost))
  | .hsetState _ _ | .markSent _ _ => inferInstanceAs (Decidable (answer.outcome ≠ .refused))
  | .getPendingAtomic => inferInstanceAs (Decidable (answer.outcome = .ok))
  | .transfer _ _ _ =>
      inferInstanceAs (Decidable (answer.transfer ≠ .failed ∧ answer.transfer ≠ .undecodable))
  | .xgroupCreate | .xautoclaim | .xreadgroup | .xack _ | .hsetnxState _ _ | .hgetState _
  | .enqueue _ _ | .xadd _ _ _ _ | .getPendingCount | .getSnapshot | .setSnapshot _ | .getCursor
  | .setCursor _ | .refresh | .getBalance | .getHeight | .getTransfers _ _ | .getTransferByTxid _
  | .incomingTransfers | .isProcessed _ | .markProcessed _ _ _ | .nextRedemptionId | .redemption _
  | .totalSupply | .now | .deadlinePassed => isTrue trivial

section Step

variable {lua : Lua} {enclave : Address} {world : World} {command : Command} {answer : Answer}
  {held : Option RedemptionId} {id : RedemptionId}

/-- An id that is still in flight after a command of its holder is still held. -/
theorem held_of_inFlight (permitted : heldDiscipline.permits held command)
    (completes : command.Completes answer) (isHeld : held = some id)
    (still : (exec lua enclave world command answer).1.redis.state id = some .inFlight) :
    heldAfter held command (exec lua enclave world command answer).2 = some id := by
  subst isHeld
  rw [exec_state] at still
  cases command with
  | tryMarkInFlight claimed => cases permitted
  | hsetState written state =>
      rw [if_neg completes, Redis.stateAfter] at still
      have other : id ≠ written := by
        rintro rfl
        rw [Function.update_self] at still
        exact permitted (Option.some.inj still)
      exact if_neg fun same => other (Option.some.inj same)
  | markSent written txid =>
      rw [if_neg completes, Redis.stateAfter] at still
      have other : id ≠ written := by
        rintro rfl
        rw [Function.update_self] at still
        cases still
      exact if_neg fun same => other (Option.some.inj same)
  | getPendingAtomic =>
      have ok : answer.outcome = .ok := completes
      rw [exec, World.onRedis_reply, if_pos ok]
      rfl
  | transfer paid amount address =>
      change heldAfter (some id) (.transfer paid amount address) answer.transfer = some id
      cases reply : answer.transfer with
      | failed => exact absurd reply completes.1
      | undecodable => exact absurd reply completes.2
      | rejected code message => rfl
      | sent txHash => rfl
  | _ => rfl

theorem inFlight_cases (permitted : heldDiscipline.permits held command)
    (now : (exec lua enclave world command answer).1.redis.state id = some .inFlight) :
    world.redis.state id = some .inFlight ∨ answer.outcome ≠ .refused ∧
      command = .tryMarkInFlight id ∧ world.redis.state id = some .pending := by
  rcases exec_state_eq now with before | ⟨arrived, writes⟩
  · exact Or.inl before
  · cases command with
    | tryMarkInFlight =>
        obtain ⟨pending, wrote⟩ := Option.ite_none_right_eq_some.1 writes
        cases wrote
        exact Or.inr ⟨arrived, rfl, pending⟩
    | hsetState =>
        cases writes
        exact absurd rfl permitted
    | hsetnxState =>
        cases (Option.ite_none_right_eq_some.1 writes).2
        exact absurd rfl permitted
    | enqueue => cases (Option.ite_none_right_eq_some.1 writes).2
    | _ => cases writes

/-- An id that a command takes in flight is held from then on. -/
theorem held_of_claimed (permitted : heldDiscipline.permits held command)
    (completes : command.Completes answer) (before : world.redis.state id ≠ some .inFlight)
    (now : (exec lua enclave world command answer).1.redis.state id = some .inFlight) :
    heldAfter held command (exec lua enclave world command answer).2 = some id := by
  obtain ⟨arrived, rfl, pending⟩ := (inFlight_cases permitted now).resolve_left before
  have ok : answer.outcome = .ok := by
    cases outcome : answer.outcome with
    | ok => rfl
    | lost => exact absurd outcome completes
    | refused => exact absurd outcome arrived
  rw [exec, World.onRedis_reply, if_pos ok, Redis.tryMarkScript, if_pos pending]
  rfl

end Step

def InHands {Thread : Type} (world : World) (held : Thread → Option RedemptionId) : Prop :=
  ∀ id, world.redis.state id = some .inFlight → ∃ thread, held thread = some id

namespace Deployment

section Accounts

variable {Thread Signature : Type} (deployment : Deployment Thread Signature)

/-- Nobody claims a redemption past the consumers. -/
def ClaimsByPass : Prop := ∀ thread id, deployment.role thread ≠ .tryMark id

/-- A consumer ends its pass with empty hands; the others never hold anything. -/
def Accounts (thread : Thread) (code : Service Unit) (held : Option RedemptionId) : Prop :=
  EndsEmpty held code ∧
    (deployment.role thread ≠ .payouts → held = none ∧ code.Asks Command.Unclaiming)

theorem program_unclaiming (byPass : deployment.ClaimsByPass) {thread : Thread}
    (other : deployment.role thread ≠ .payouts) :
    (deployment.program thread).Asks Command.Unclaiming := by
  unfold program
  split
  · rename_i payouts
    exact absurd payouts other
  · exact (tick_unclaiming deployment.poller).bind fun _ _ _ => trivial
  · exact (unclaiming_of_quiet Treasury.tick_quiet).bind fun _ _ _ => trivial
  · exact (enqueueRedemption_asks trivial trivial).bind fun _ _ _ => trivial
  · rename_i id claims
    exact absurd claims (byPass thread id)
  · exact obeys_call trivial fun _ => trivial

theorem main_accounts (byPass : deployment.ClaimsByPass) (thread : Thread) :
    deployment.Accounts thread (deployment.machine.main thread) heldDiscipline.start := by
  change deployment.Accounts thread (deployment.program thread) none
  by_cases payouts : deployment.role thread = .payouts
  · refine ⟨?_, fun other => absurd payouts other⟩
    rw [program, payouts]
    exact payoutsMain_endsEmpty deployment.payouts
  · have asks := deployment.program_unclaiming byPass payouts
    exact ⟨unclaiming_endsEmpty asks, fun _ => ⟨rfl, asks⟩⟩

variable {deployment} in
theorem Accounts.answered {thread : Thread} {command : Command}
    {next : Reply command → Service Unit} {held : Option RedemptionId}
    (accounts : deployment.Accounts thread (.ask command next) held) (reply : Reply command) :
    deployment.Accounts thread (next reply) (heldDiscipline.after held command reply) := by
  refine ⟨accounts.1.2 reply, fun other => ?_⟩
  obtain ⟨rfl, asks⟩ := accounts.2 other
  exact ⟨unclaiming_after asks.1 reply, asks.2 reply⟩

variable {deployment} in
theorem Accounts.empty_of_ended {thread : Thread}
    {pool : Pool Thread World Command Reply (Option RedemptionId)}
    (accounts : deployment.Accounts thread (pool.code thread) (pool.stage thread))
    (ended : deployment.role thread = .payouts → pool.next? thread = none) :
    pool.stage thread = none := by
  by_cases payouts : deployment.role thread = .payouts
  · rw [Pool.code_of_next_none (ended payouts)] at accounts
    exact accounts.1
  · exact (accounts.2 payouts).1

end Accounts

section Run

variable {Thread Signature : Type} [DecidableEq Thread] (deployment : Deployment Thread Signature)

/-- A consumer that is started again has ended its pass, and no answer strands a claim. The other
services are stopped at any time. -/
def Graceful (pool : Pool Thread World Command Reply (Option RedemptionId)) :
    Action Thread Answer (Event Signature) → Prop
  | .step thread answer => ∀ command ∈ pool.next? thread, command.Completes answer
  | .restart thread => deployment.role thread = .payouts → pool.next? thread = none
  | .event _ => True

instance (pool : Pool Thread World Command Reply (Option RedemptionId)) :
    (action : Action Thread Answer (Event Signature)) → Decidable (deployment.Graceful pool action)
  | .step thread answer =>
      inferInstanceAs (Decidable (∀ command ∈ pool.next? thread, command.Completes answer))
  | .restart thread =>
      inferInstanceAs (Decidable (deployment.role thread = .payouts → pool.next? thread = none))
  | .event _ => isTrue trivial

/-- Every thread accounts for its claim, and every claim is in somebody's hands. -/
structure Accounted (pool : Pool Thread World Command Reply (Option RedemptionId)) : Prop where
  threads : ∀ thread, deployment.Accounts thread (pool.code thread) (pool.stage thread)
  claims : InHands pool.world pool.stage

variable {deployment} {pool : Pool Thread World Command Reply (Option RedemptionId)}

theorem inHands_step (accounted : deployment.Accounted pool) {thread : Thread} {answer : Answer}
    (graceful : deployment.Graceful pool (.step thread answer)) :
    InHands (pool.move deployment.machine heldDiscipline (.step thread answer)).world
      (pool.move deployment.machine heldDiscipline (.step thread answer)).stage := by
  rcases Pool.move_step_cases deployment.machine heldDiscipline pool thread answer with
    same | ⟨command, next, world, reply, code, answered, moved⟩
  · rw [same]
    exact accounted.claims
  · obtain ⟨rfl, rfl⟩ := deployment.machine_exec answered
    have accounts := accounted.threads thread
    rw [code] at accounts
    have completes : command.Completes answer := graceful command (Pool.next_of_code code)
    rw [moved]
    intro id inFlight
    dsimp only at inFlight ⊢
    by_cases before : pool.world.redis.state id = some .inFlight
    · obtain ⟨holder, holds⟩ := accounted.claims id before
      refine ⟨holder, ?_⟩
      by_cases same : holder = thread
      · subst same
        rw [Function.update_self]
        exact held_of_inFlight accounts.1.1 completes holds inFlight
      · rw [Function.update_of_ne same]
        exact holds
    · refine ⟨thread, ?_⟩
      rw [Function.update_self]
      exact held_of_claimed accounts.1.1 completes before inFlight

theorem inHands_restart (accounted : deployment.Accounted pool) {thread : Thread}
    (graceful : deployment.Graceful pool (.restart thread)) :
    InHands pool.world (Function.update pool.stage thread none) := by
  intro id inFlight
  obtain ⟨holder, holds⟩ := accounted.claims id inFlight
  have empty := (accounted.threads thread).empty_of_ended graceful
  have other : holder ≠ thread := by
    rintro rfl
    rw [empty] at holds
    cases holds
  exact ⟨holder, by rw [Function.update_of_ne other, holds]⟩

omit [DecidableEq Thread] in
theorem inHands_event (claims : InHands pool.world pool.stage) (event : Event Signature) :
    InHands (pool.world.occur deployment.ecdsa event) pool.stage := by
  cases event with
  | wipe =>
      intro id inFlight
      cases inFlight
  | mined position height => exact claims
  | l2 sender call => exact claims

theorem accounted_move (byPass : deployment.ClaimsByPass)
    {action : Action Thread Answer (Event Signature)} (accounted : deployment.Accounted pool)
    (graceful : deployment.Graceful pool action) :
    deployment.Accounted (pool.move deployment.machine heldDiscipline action) := by
  refine ⟨?_, ?_⟩
  · exact Pool.forall_move deployment.Accounts accounted.threads
      (fun _ _ _ _ reply accounts => accounts.answered reply) (deployment.main_accounts byPass)
      action
  · cases action with
    | step thread answer => exact inHands_step accounted graceful
    | restart thread => exact inHands_restart accounted graceful
    | event event => exact inHands_event accounted.claims event

end Run

end Deployment

section Main

variable {Thread Signature : Type} [DecidableEq Thread]

/-- **A redemption is left in flight only while a consumer is in the middle of its pass**: however
any number of services interleave, and whatever becomes of the disk and of the contract. -/
theorem in_flight_within_a_pass (deployment : Deployment Thread Signature)
    (byPass : deployment.ClaimsByPass) (world : World)
    (unclaimed : ∀ id, world.redis.state id ≠ some .inFlight)
    (actions : List (Action Thread Answer (Event Signature)))
    (graceful : Along (Pool.move deployment.machine heldDiscipline) deployment.Graceful
      (Pool.initial deployment.machine heldDiscipline world) actions)
    (id : RedemptionId)
    (inFlight : (run (Pool.move deployment.machine heldDiscipline)
      (Pool.initial deployment.machine heldDiscipline world) actions).world.redis.state id =
        some .inFlight) :
    ∃ thread, deployment.role thread = .payouts ∧
      (run (Pool.move deployment.machine heldDiscipline)
        (Pool.initial deployment.machine heldDiscipline world) actions).next? thread ≠ none := by
  have initially : deployment.Accounted (Pool.initial deployment.machine heldDiscipline world) :=
    ⟨deployment.main_accounts byPass, fun id claimed => absurd claimed (unclaimed id)⟩
  have accounted := graceful.keeps deployment.Accounted
    (fun _ _ accounted admitted => Deployment.accounted_move byPass accounted admitted) initially
  obtain ⟨thread, holds⟩ := accounted.claims id inFlight
  refine ⟨thread, ?_⟩
  by_contra ended
  have empty := (accounted.threads thread).empty_of_ended fun payouts =>
    Classical.not_not.1 fun busy => ended ⟨payouts, busy⟩
  rw [empty] at holds
  cases holds

end Main

/-- Redemption 1 is polled and claimed, and the poller is stopped in between. -/
def claimedOne : List SampleAction :=
  pollOne ++ refreshOne ++ [.restart .poller] ++
    steps .consumer (List.replicate 7 { height := some 10, history := some ⟨[], [], []⟩ })

theorem in_flight_within_a_pass_claimed :
    (run (Pool.move sample.machine heldDiscipline)
      (Pool.initial sample.machine heldDiscipline (World.genesis sampleToken))
      claimedOne).world.redis.state 1 = some .inFlight ∧
    ∃ thread, sample.role thread = .payouts ∧
      (run (Pool.move sample.machine heldDiscipline)
        (Pool.initial sample.machine heldDiscipline (World.genesis sampleToken))
        claimedOne).next? thread ≠ none := by
  have byPass : sample.ClaimsByPass := by
    intro thread id same
    cases thread with
    | consumer | poller | refresher => cases same
  have inFlight : (run (Pool.move sample.machine heldDiscipline)
      (Pool.initial sample.machine heldDiscipline (World.genesis sampleToken))
      claimedOne).world.redis.state 1 = some .inFlight := by decide +kernel
  have graceful : Along (Pool.move sample.machine heldDiscipline) sample.Graceful
      (Pool.initial sample.machine heldDiscipline (World.genesis sampleToken)) claimedOne := by
    decide +kernel
  have unclaimed : ∀ id, (World.genesis sampleToken).redis.state id ≠ some .inFlight := by
    intro id claimed
    cases claimed
  exact ⟨inFlight, in_flight_within_a_pass sample byPass _ unclaimed claimedOne graceful 1 inFlight⟩

end CrFaucet.Redemption
