import CrFaucet.Interaction.Exclusive
import CrFaucet.Redemption.Claim
import CrFaucet.Redemption.Effects

/-!
Owns safety of payouts within one Redis lifetime: however many consumers drain
the stream, and however their commands interleave, fail and are repeated after
crashes, no redemption is paid twice.

The slots of `Interaction.Exclusive` are redemption ids. An id is claimable
while its state is absent or `pending`; its owner is the consumer that moved it
to `in_flight`; spending it is a broadcast of the wallet.
-/

set_option autoImplicit false

namespace CrFaucet.Redemption

open Interaction
open Token (Address)

/-- Someone may still claim `id`, now or once it is enqueued. -/
def World.Claimable (world : World) (id : RedemptionId) : Prop :=
  world.redis.state id = none ∨ world.redis.state id = some .pending

instance (world : World) (id : RedemptionId) : Decidable (world.Claimable id) :=
  inferInstanceAs (Decidable (_ ∨ _))

variable {Thread Signature : Type}

def Owns (stage : Thread → Stage) (thread : Thread) (id : RedemptionId) : Prop :=
  (stage thread).hold = .owner id

abbrev ExclusiveClaims (world : World) (stage : Thread → Stage) : Prop :=
  Exclusive world.Claimable world.broadcasts (Owns stage)

/-! ### What a command opens and grants -/

section Command

variable {lua : Lua} {enclave : Address} {world : World} {command : Command} {answer : Answer}
  {poller : EventPoller}

/-- **Only a rollback makes an id claimable.** -/
theorem exec_claimable_cases {id : RedemptionId}
    (claimable : (exec lua enclave world command answer).1.Claimable id) :
    world.Claimable id ∨ command = .hsetState id .pending := by
  rcases claimable with absent | pending
  · refine Or.inl (Or.inl ?_)
    by_contra present
    exact exec_present present absent
  · rcases exec_state_eq pending with before | ⟨_, writes⟩
    · exact Or.inl (Or.inr before)
    · cases command with
      | hsetState =>
          cases writes
          exact Or.inr rfl
      | hsetnxState | enqueue =>
          obtain ⟨vacant, wrote⟩ := Option.ite_none_right_eq_some.1 writes
          cases wrote
          exact Or.inl (Or.inl vacant)
      | tryMarkInFlight => cases (Option.ite_none_right_eq_some.1 writes).2
      | _ => cases writes

theorem exec_claimable (other : ∀ id, command ≠ .hsetState id .pending) (id : RedemptionId)
    (claimable : (exec lua enclave world command answer).1.Claimable id) :
    world.Claimable id :=
  (exec_claimable_cases claimable).resolve_right (other id)

theorem stageAfter_owner {stage : Stage} {reply : Reply command} {id : RedemptionId}
    (other : ∀ id, command ≠ .tryMarkInFlight id)
    (owner : (stageAfter poller stage command reply).hold = .owner id) :
    stage.hold = .owner id := by
  rcases stageAfter_hold (by simp) owner with kept | gains
  · exact kept
  · cases gains with
    | claimed id checked => exact absurd rfl (other id)

end Command

/-! ### One step -/

section Step

variable [DecidableEq Thread] {world : World} {stage : Thread → Stage} {thread : Thread}
  {command : Command} {answer : Answer}

theorem owns_update {moved : Stage} {other : Thread} {id : RedemptionId}
    (grants : moved.hold = .owner id → (stage thread).hold = .owner id)
    (owns : Owns (Function.update stage thread moved) other id) : Owns stage other id := by
  by_cases same : other = thread
  · subst same
    rw [Owns, Function.update_self] at owns
    exact grants owns
  · rwa [Owns, Function.update_of_ne same] at owns

theorem owns_update_ne {moved : Stage} {other : Thread} {id : RedemptionId}
    (drops : ∀ id, moved.hold ≠ .owner id)
    (owns : Owns (Function.update stage thread moved) other id) :
    other ≠ thread ∧ Owns stage other id := by
  by_cases same : other = thread
  · subst same
    rw [Owns, Function.update_self] at owns
    exact absurd owns (drops id)
  · rw [Owns, Function.update_of_ne same] at owns
    exact ⟨same, owns⟩

variable (lua : Lua) (enclave : Address) (poller : EventPoller) (answer)

/-- The stages after `thread` got its reply. -/
def stagesAfter (stage : Thread → Stage) (thread : Thread) (command : Command)
    (reply : Reply command) : Thread → Stage :=
  Function.update stage thread (stageAfter poller (stage thread) command reply)

theorem exclusive_quiet (exclusive : ExclusiveClaims world stage)
    (noRollback : ∀ id, command ≠ .hsetState id .pending)
    (noClaim : ∀ id, command ≠ .tryMarkInFlight id)
    (noTransfer : ∀ id amount address, command ≠ .transfer id amount address) :
    ExclusiveClaims (exec lua enclave world command answer).1
      (stagesAfter poller stage thread command (exec lua enclave world command answer).2) :=
  exclusive.weaken (exec_claimable noRollback)
    (exec_broadcasts lua enclave world command answer noTransfer)
    fun _ _ owns => owns_update (stageAfter_owner noClaim) owns

theorem exclusive_rollback {id : RedemptionId} (exclusive : ExclusiveClaims world stage)
    (owner : (stage thread).hold = .owner id) :
    ExclusiveClaims (exec lua enclave world (.hsetState id .pending) answer).1
      (stagesAfter poller stage thread (.hsetState id .pending)
        (exec lua enclave world (.hsetState id .pending) answer).2) := by
  have spends := exec_broadcasts lua enclave world (.hsetState id .pending) answer (by simp)
  refine exclusive.release owner (fun other elsewhere claimable => ?_) (spends id ▸ Nat.le_succ _)
    (fun other _ => spends other)
    (fun _ _ owns => owns_update_ne (fun _ => by simp [stageAfter]) owns)
  refine (exec_claimable_cases claimable).resolve_right fun rollback => elsewhere ?_
  exact (Command.hsetState.inj rollback).1.symm

/-- A claim that reports success from `checked` makes an owner; any other outcome
grants nothing. -/
theorem exclusive_claim {id : RedemptionId} (exclusive : ExclusiveClaims world stage)
    (fresh : (stage thread).hold = .checked id → world.redis.state id = some .pending →
      world.broadcasts id = 0) :
    ExclusiveClaims (exec lua enclave world (.tryMarkInFlight id) answer).1
      (stagesAfter poller stage thread (.tryMarkInFlight id)
        (exec lua enclave world (.tryMarkInFlight id) answer).2) := by
  have opens : ∀ other, (exec lua enclave world (.tryMarkInFlight id) answer).1.Claimable other →
      world.Claimable other := exec_claimable (by simp)
  have spends := exec_broadcasts lua enclave world (.tryMarkInFlight id) answer (by simp)
  by_cases granted : (exec lua enclave world (.tryMarkInFlight id) answer).2 = some true ∧
      (stage thread).hold = .checked id
  · obtain ⟨claimed, checked⟩ := granted
    obtain ⟨carriedOut, pending⟩ :=
      exec_tryMarkInFlight_true lua enclave world answer claimed
    refine exclusive.claim thread (Or.inr pending) (fresh checked pending) ?_ opens
      spends (fun other otherId owns => ?_)
    · unfold World.Claimable
      rw [exec_state, if_neg carriedOut, Redis.stateAfter, if_pos pending, Function.update_self]
      simp
    · by_cases same : other = thread
      · subst same
        rw [claimed] at owns
        simp [Owns, stagesAfter, stageAfter, checked] at owns
        exact Or.inr ⟨rfl, owns.symm⟩
      · exact Or.inl (by rwa [Owns, stagesAfter, Function.update_of_ne same] at owns)
  · apply exclusive.weaken opens spends
    intro other otherId owns
    refine (owns_update_ne (fun otherId owner => granted ?_) owns).2
    cases reply : (exec lua enclave world (.tryMarkInFlight id) answer).2 with
    | none => simp [reply, stageAfter] at owner
    | some claimed =>
        cases claimed with
        | false => simp [reply, stageAfter] at owner
        | true =>
            refine ⟨rfl, ?_⟩
            simp only [reply, stageAfter, Stage.withHold_hold] at owner
            split at owner
            · assumption
            · cases owner

/-- The owner pays. A rejected transfer broadcast nothing and keeps the claim;
after any other reply the claim is given up for good. -/
theorem exclusive_transfer {id : RedemptionId} {amount : Nat} {address : String}
    (exclusive : ExclusiveClaims world stage) (owner : (stage thread).hold = .owner id) :
    ExclusiveClaims (exec lua enclave world (.transfer id amount address) answer).1
      (stagesAfter poller stage thread (.transfer id amount address)
        (exec lua enclave world (.transfer id amount address) answer).2) := by
  have opens : ∀ other, (exec lua enclave world (.transfer id amount address) answer).1.Claimable
      other → world.Claimable other := exec_claimable (by simp)
  have counted : ∀ other,
      (exec lua enclave world (.transfer id amount address) answer).1.broadcasts other =
        world.broadcasts other +
          if answer.transfer.wentOut answer.broadcast = true ∧ other = id then 1 else 0 :=
    fun other => world.broadcasts_pay answer id other amount
  have replied : (exec lua enclave world (.transfer id amount address) answer).2 =
    answer.transfer := rfl
  by_cases rejected : ∃ code message, answer.transfer = .rejected code message
  · obtain ⟨code, message, reply⟩ := rejected
    refine exclusive.weaken opens (fun other => ?_) fun other otherId owns => ?_
    · simp [counted, reply, TransferReply.wentOut]
    · rw [replied, reply] at owns
      exact owns_update (fun owner => owner) owns
  · refine exclusive.release owner (fun other _ => opens other) ?_ (fun other elsewhere => ?_)
      fun other otherId owns => ?_
    · rw [counted]
      split <;> omega
    · rw [counted, if_neg fun went => elsewhere went.2]
      rfl
    · refine owns_update_ne (fun otherId => ?_) owns
      rw [replied]
      cases reply : answer.transfer with
      | rejected code message => exact absurd ⟨code, message, reply⟩ rejected
      | _ => simp [stageAfter]

/-- **The step lemma.** Every permitted command keeps claims exclusive, as long as
claims are made only on ids that were never paid. -/
theorem exclusive_step (exclusive : ExclusiveClaims world stage)
    (permitted : permits (stage thread) command)
    (fresh : ∀ id, command = .tryMarkInFlight id → (stage thread).hold = .checked id →
      world.redis.state id = some .pending → world.broadcasts id = 0) :
    ExclusiveClaims (exec lua enclave world command answer).1
      (stagesAfter poller stage thread command (exec lua enclave world command answer).2) := by
  cases command with
  | hsetState id state =>
      cases state with
      | pending => exact exclusive_rollback answer lua enclave poller exclusive permitted
      | _ => exact exclusive_quiet answer lua enclave poller exclusive (by simp) (by simp) (by simp)
  | tryMarkInFlight id =>
      exact exclusive_claim answer lua enclave poller exclusive (fresh id rfl)
  | transfer id amount address =>
      exact exclusive_transfer answer lua enclave poller exclusive permitted.1
  | _ => exact exclusive_quiet answer lua enclave poller exclusive (by simp) (by simp) (by simp)

theorem exclusive_restart (exclusive : ExclusiveClaims world stage) :
    ExclusiveClaims world (Function.update stage thread Stage.free) :=
  exclusive.weaken (fun _ claimable => claimable) (fun _ => rfl)
    fun _ _ owns => (owns_update_ne (fun _ => by simp [Stage.free]) owns).2

end Step

/-! ### One Redis lifetime -/

/-- What holds while Redis is never wiped: an id that can still be claimed was
never paid. -/
structure SinglePayout (world : World) (stage : Thread → Stage) : Prop where
  exclusive : ExclusiveClaims world stage
  unpaid : ∀ id, world.Claimable id → world.broadcasts id = 0

theorem genesis_singlePayout (token : Token.State) :
    SinglePayout (World.genesis token) fun _ : Thread => Stage.free := by
  have unowned : ∀ thread id, ¬ Owns (fun _ : Thread => Stage.free) thread id := by
    intro thread id owns
    cases owns
  exact ⟨.of_unowned (fun _ => Nat.zero_le 1) unowned, fun _ _ => rfl⟩

section Lifetime

variable [DecidableEq Thread] {world : World} {stage : Thread → Stage} {thread : Thread}
  {command : Command} (lua : Lua) (enclave : Address) (poller : EventPoller) (answer : Answer)

omit [DecidableEq Thread] in
/-- What is claimable after a step and was unpaid while claimable before it is
unpaid still. -/
theorem unpaid_step (exclusive : ExclusiveClaims world stage)
    (permitted : permits (stage thread) command) {id : RedemptionId}
    (unpaid : world.Claimable id → world.broadcasts id = 0)
    (claimable : (exec lua enclave world command answer).1.Claimable id) :
    (exec lua enclave world command answer).1.broadcasts id = 0 := by
  rcases exec_claimable_cases claimable with before | rfl
  · by_cases transfer : ∃ paid amount address, command = .transfer paid amount address
    · obtain ⟨paid, amount, address, rfl⟩ := transfer
      -- The id that is paid is owned, so it is not the claimable one.
      have distinct : id ≠ paid := by
        rintro rfl
        exact exclusive.closed thread id permitted.1 before
      have counted := world.broadcasts_pay answer paid id amount
      rw [if_neg fun went => distinct went.2] at counted
      exact counted.trans (unpaid before)
    · rw [exec_broadcasts _ _ _ _ _ fun paid amount address same =>
        transfer ⟨paid, amount, address, same⟩]
      exact unpaid before
  · -- The rollback is the owner's, and an owner has not paid.
    rw [exec_broadcasts _ _ _ _ _ (by simp)]
    exact exclusive.unspent thread id permitted

theorem SinglePayout.step (single : SinglePayout world stage)
    (permitted : permits (stage thread) command) :
    SinglePayout (exec lua enclave world command answer).1
      (stagesAfter poller stage thread command (exec lua enclave world command answer).2) where
  exclusive := exclusive_step answer lua enclave poller single.exclusive permitted
    fun id _ _ pending => single.unpaid id (Or.inr pending)
  unpaid id claimable :=
    unpaid_step lua enclave answer single.exclusive permitted (single.unpaid id) claimable

end Lifetime

def NoWipe (action : Action Thread Answer (Event Signature)) : Prop := action ≠ .event .wipe

theorem singlePayout_invariant [DecidableEq Thread] (deployment : Deployment Thread Signature) :
    Invariant deployment.machine (claimDiscipline deployment.poller) (fun _ => NoWipe)
      SinglePayout where
  step pool thread answer command next world reply _ permitted answered _ single := by
    obtain ⟨rfl, rfl⟩ := deployment.machine_exec answered
    exact single.step deployment.lua deployment.enclave deployment.poller answer permitted
  restart pool thread _ single :=
    ⟨exclusive_restart single.exclusive, single.unpaid⟩
  event pool event noWipe single := by
    have sameRedis : (pool.world.occur deployment.ecdsa event).redis = pool.world.redis := by
      cases event with
      | wipe => exact absurd rfl noWipe
      | mined position height => rfl
      | l2 sender call => rfl
    have claimable : ∀ id, (pool.world.occur deployment.ecdsa event).Claimable id →
        pool.world.Claimable id := by
      intro id
      unfold World.Claimable
      rw [sameRedis]
      exact fun now => now
    refine ⟨single.exclusive.weaken claimable
      (pool.world.broadcasts_occur deployment.ecdsa event) fun _ _ owns => owns, ?_⟩
    intro id now
    exact (pool.world.broadcasts_occur deployment.ecdsa event id).trans
      (single.unpaid id (claimable id now))

/-- **At most one payout per redemption in one Redis lifetime.** Any number of
threads in any roles, any interleaving of their commands, any failures, crashes
and restarts, and anything the outside does but a wipe. -/
theorem at_most_one_broadcast [DecidableEq Thread] (deployment : Deployment Thread Signature)
    (token : Token.State) (actions : List (Action Thread Answer (Event Signature)))
    (noWipe : ∀ action ∈ actions, NoWipe action) (id : RedemptionId) :
    (run deployment.move (deployment.start (World.genesis token)) actions).world.broadcasts
      id ≤ 1 := by
  have single := Deployment.run_keeps (singlePayout_invariant deployment)
    (Along.of_forall_mem (deployment.start (World.genesis token)) noWipe)
    (genesis_singlePayout token)
  exact single.exclusive.once id

/-- The consumer crashes right after the wallet accepted the transfer and drains
again, with the entry redelivered and the payment missing from the history. -/
def crashAfterTransfer : List SampleAction :=
  pollOne ++ refreshOne ++ payOne 100 ⟨[], [], []⟩ (.sent "tx") ++ [.restart .consumer] ++
    steps .consumer (List.replicate 9 { idle := [1], history := some ⟨[], [], []⟩ })

theorem at_most_one_broadcast_crash :
    (∀ action ∈ crashAfterTransfer, NoWipe action) ∧
      (run sample.move (sample.start (World.genesis sampleToken)) crashAfterTransfer).world.broadcasts
        1 = 1 ∧
      (run sample.move (sample.start (World.genesis sampleToken)) crashAfterTransfer).world.broadcasts
        1 ≤ 1 := by
  have noWipe : ∀ action ∈ crashAfterTransfer, NoWipe action := by
    simp [crashAfterTransfer, pollOne, refreshOne, payOne, steps, NoWipe]
  exact ⟨noWipe, by decide, at_most_one_broadcast sample sampleToken _ noWipe 1⟩

end CrFaucet.Redemption
