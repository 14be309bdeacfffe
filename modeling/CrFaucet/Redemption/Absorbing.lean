import Mathlib.Data.Fintype.Option
import CrFaucet.Redemption.Custody
import CrFaucet.Redemption.SinglePayout
import CrFaucet.Redemption.Stream

/-!
Owns the question whether `sent` is final.

A consumer writes `pending`, `paused` and `failed` without looking at what is there.
It does so while it has claimed the id, and for an entry above the cap without any
claim. `sent` is final as long as it is written only to an id nobody is about to
write to; after `markedByHand` a payout made by hand becomes payable again.
-/

set_option autoImplicit false

namespace CrFaucet.Redemption

open Interaction
open Token (Address)

variable {Thread Signature : Type}

instance (redis : Redis) (entry : StreamEntry) : Decidable (redis.Unacknowledged entry) :=
  match found : redis.group with
  | none => decidable_of_iff (entry ∈ redis.stream) (by simp [Redis.Unacknowledged, found])
  | some group =>
      decidable_of_iff (entry ∈ redis.stream ∧
        (group.lastDelivered < entry.entryId ∨ entry.entryId ∈ group.pel))
        (by simp [Redis.Unacknowledged, found])

/-- The thread will not write another state to `id`: it has not claimed it, and it
neither has nor will append an entry of it above the cap. -/
structure Custody.Spares (cap : Nat) (id : RedemptionId) (custody : Custody) : Prop where
  unclaimed : custody.claim ≠ some id
  handed : ¬ custody.Parks cap id
  appended : ∀ insert ∈ custody.inserting, insert.1 = id → ¬ AboveCap cap insert.2

/-- Nobody will: every thread spares `id`, and no entry of it above the cap will be
handed out. -/
structure Undisturbed (cap : Nat) (world : World) (stage : Thread → Custody) (id : RedemptionId) :
    Prop where
  spared : ∀ thread, (stage thread).Spares cap id
  queued : ∀ entry ∈ world.redis.stream, entry.id = id → AboveCap cap entry.amount →
    ¬ world.redis.Unacknowledged entry

instance (cap : Nat) (custody : Custody) (id : RedemptionId) : Decidable (custody.Parks cap id) :=
  inferInstanceAs (Decidable (∃ entry ∈ _, _ ∧ _))

instance (cap : Nat) (id : RedemptionId) (custody : Custody) : Decidable (custody.Spares cap id) :=
  decidable_of_iff (_ ∧ _ ∧ _) ⟨fun parts => ⟨parts.1, parts.2.1, parts.2.2⟩,
    fun spares => ⟨spares.unclaimed, spares.handed, spares.appended⟩⟩

instance [Fintype Thread] (cap : Nat) (world : World) (stage : Thread → Custody)
    (id : RedemptionId) : Decidable (Undisturbed cap world stage id) :=
  decidable_of_iff (_ ∧ _) ⟨fun parts => ⟨parts.1, parts.2⟩,
    fun undisturbed => ⟨undisturbed.spared, undisturbed.queued⟩⟩

/-! ### What a step adds to a custody -/

section Gains

variable {lua : Lua} {enclave : Address} {world : World} {command : Command} {answer : Answer}
  {custody : Custody} {id : RedemptionId}

theorem claimAfter_eq_some {claim : Option RedemptionId}
    (claims : claimAfter claim command (exec lua enclave world command answer).2 = some id) :
    claim = some id ∨
      command = .tryMarkInFlight id ∧ world.redis.state id = some .pending := by
  cases command with
  | tryMarkInFlight claimed =>
      cases reply : (exec lua enclave world (.tryMarkInFlight claimed) answer).2 with
      | none =>
          rw [reply] at claims
          exact Or.inl claims
      | some granted =>
          rw [reply] at claims
          cases granted with
          | false => exact Or.inl claims
          | true =>
              obtain rfl : claimed = id := Option.some.inj claims
              exact Or.inr ⟨rfl, (exec_tryMarkInFlight_true lua enclave world answer reply).2⟩
  | hsetState written state =>
      cases state with
      | pending => cases claims
      | _ => exact Or.inl claims
  | xack entry => cases claims
  | transfer paid amount address =>
      cases reply : (exec lua enclave world (.transfer paid amount address) answer).2 with
      | rejected code message =>
          rw [reply] at claims
          exact Or.inl claims
      | _ =>
          rw [reply] at claims
          cases claims
  | _ => exact Or.inl claims

theorem exec_enqueue_true {amount : Int}
    (inserted : (exec lua enclave world (.enqueue id amount) answer).2 = some true) :
    world.redis.state id = none := by
  rw [exec, World.onRedis_reply] at inserted
  split at inserted
  · cases found : world.redis.state id with
    | none => rfl
    | some state =>
        simp only [Redis.enqueueScript, found] at inserted
        cases inserted
  · cases inserted

theorem insertingAfter_eq_some {inserting : Option (RedemptionId × Int)} {amount : Int}
    (inserts : insertingAfter inserting command (exec lua enclave world command answer).2 =
      some (id, amount)) :
    inserting = some (id, amount) ∨
      command = .enqueue id amount ∧ world.redis.state id = none := by
  cases command with
  | enqueue inserted amount' =>
      cases reply : (exec lua enclave world (.enqueue inserted amount') answer).2 with
      | none =>
          rw [reply] at inserts
          cases inserts
      | some granted =>
          rw [reply] at inserts
          cases granted with
          | false => cases inserts
          | true =>
              obtain ⟨rfl, rfl⟩ := Prod.mk.inj (Option.some.inj inserts)
              exact Or.inr ⟨rfl, exec_enqueue_true reply⟩
  | xadd => cases inserts
  | _ => exact Or.inl inserts

theorem mem_todoAfter {todo : List StreamEntry} {entry : StreamEntry}
    (member : entry ∈ todoAfter todo command (exec lua enclave world command answer).2) :
    entry ∈ todo ∨ world.redis.Unacknowledged entry := by
  have handedOut {reply : Option (List StreamEntry)} (handed : entry ∈ reply.getD []) :
      ∃ entries, reply = some entries ∧ entry ∈ entries := by
    cases reply with
    | none => cases handed
    | some entries => exact ⟨entries, rfl, handed⟩
  cases command with
  | xautoclaim =>
      apply (List.mem_append.1 member).imp_right
      intro handed
      obtain ⟨entries, replied, listed⟩ := handedOut handed
      exact unacknowledged_of_xautoclaim replied listed
  | xreadgroup =>
      apply (List.mem_append.1 member).imp_right
      intro handed
      obtain ⟨entries, replied, listed⟩ := handedOut handed
      exact unacknowledged_of_xreadgroup replied listed
  | xack entry => exact Or.inl (List.mem_of_mem_erase member)
  | _ => exact Or.inl member

end Gains

/-! ### One step -/

section Step

variable [DecidableEq Thread] {cap : Nat} {operators : Prop} {lua : Lua} {enclave : Address}
  {world : World} {stage : Thread → Custody} {thread : Thread} {command : Command}
  {answer : Answer} {id : RedemptionId}

omit [DecidableEq Thread] in
/-- An id that is `sent`, or becomes it, is spared by the thread that moves. -/
theorem Undisturbed.spares (undisturbed : Undisturbed cap world stage id)
    (settled : world.redis.state id = some .sent ∨ command.settles = some id) :
    ((stage thread).after command (exec lua enclave world command answer).2).Spares cap id := by
  have before := undisturbed.spared thread
  constructor
  · intro claims
    rcases claimAfter_eq_some claims with claimed | ⟨rfl, pending⟩
    · exact before.unclaimed claimed
    · rcases settled with sent | writes
      · rw [sent] at pending
        cases pending
      · cases writes
  · rintro ⟨entry, member, named, above⟩
    rcases mem_todoAfter member with had | unacked
    · exact before.handed ⟨entry, had, named, above⟩
    · exact undisturbed.queued entry unacked.1 named above unacked
  · rintro ⟨_, amount⟩ inserts rfl
    rcases insertingAfter_eq_some inserts with had | ⟨rfl, absent⟩
    · exact before.appended _ had rfl
    · rcases settled with sent | writes
      · rw [sent] at absent
        cases absent
      · cases writes

/-- **It is left alone from then on.** -/
theorem Undisturbed.step (undisturbed : Undisturbed cap world stage id)
    (permitted : (stage thread).permits cap operators command)
    (settled : world.redis.state id = some .sent ∨ command.settles = some id) :
    Undisturbed cap (exec lua enclave world command answer).1
      (custodiesAfter stage thread command (exec lua enclave world command answer).2) id where
  spared := by
    apply (Function.forall_update_iff stage fun _ => Custody.Spares cap id).2
    exact ⟨undisturbed.spares settled, fun other _ => undisturbed.spared other⟩
  queued := by
    intro entry _ named above unacked
    rw [exec_redis] at unacked
    split at unacked
    · exact undisturbed.queued entry unacked.1 named above unacked
    · rcases unacked.of_command with before | rfl
      · exact undisturbed.queued entry before.1 named above before
      · exact (undisturbed.spared thread).appended _ permitted named above

omit [DecidableEq Thread] in
/-- **No permitted command overwrites it.** -/
theorem Undisturbed.stays_sent (undisturbed : Undisturbed cap world stage id)
    (permitted : (stage thread).permits cap operators command)
    (sent : world.redis.state id = some .sent) :
    (exec lua enclave world command answer).1.redis.state id = some .sent := by
  rw [exec_state]
  split
  · exact sent
  · have spares := undisturbed.spared thread
    have elsewhere : ∀ written value, written ≠ id →
        Function.update world.redis.state written (some value) id = some .sent := by
      intro written value other
      rw [Function.update_of_ne other.symm]
      exact sent
    -- A write that looks at the state first does not expect `sent`.
    have guarded : ∀ written value expected, expected ≠ some .sent →
        (if world.redis.state written = expected then
          Function.update world.redis.state written (some value)
        else world.redis.state) id = some .sent := by
      intro written value expected distinct
      split
      · rename_i found
        apply elsewhere
        rintro rfl
        exact distinct (found.symm.trans sent)
      · exact sent
    cases command with
    | hsetState written value =>
        by_cases same : written = id
        · subst same
          cases value with
          | pending => exact absurd permitted spares.unclaimed
          | failed => exact absurd permitted spares.unclaimed
          | paused =>
              rcases permitted with claims | parks
              · exact absurd claims spares.unclaimed
              · exact absurd parks spares.handed
          | inFlight => cases permitted
          | sent => exact Function.update_self ..
        · exact elsewhere written value same
    | hsetnxState written value => exact guarded written value none (by decide)
    | enqueue written amount => exact guarded written .pending none (by decide)
    | tryMarkInFlight written => exact guarded written .inFlight (some .pending) (by decide)
    | markSent written txid =>
        by_cases same : written = id
        · subst same
          exact Function.update_self ..
        · exact elsewhere written .sent same
    | _ => exact sent

end Step

/-! ### Runs -/

section Runs

/-- Everything that is `sent` is left alone. -/
def SentUndisturbed (cap : Nat) (world : World) (stage : Thread → Custody) : Prop :=
  ∀ id, world.redis.state id = some .sent → Undisturbed cap world stage id

/-- `sent` is written only to an id nobody is about to write to. -/
def Deployment.SettlesUndisturbed (deployment : Deployment Thread Signature)
    (pool : Pool Thread World Command Reply Custody) :
    Action Thread Answer (Event Signature) → Prop
  | .step thread _ => ∀ id ∈ (pool.next? thread).bind Command.settles,
      Undisturbed deployment.payouts.monero.perTxCapAtomic pool.world pool.stage id
  | _ => True

instance [Fintype Thread] (deployment : Deployment Thread Signature)
    (pool : Pool Thread World Command Reply Custody) :
    ∀ action, Decidable (deployment.SettlesUndisturbed pool action)
  | .step _ _ => Option.decidableForallMem _
  | .restart _ => isTrue trivial
  | .event _ => isTrue trivial

variable [DecidableEq Thread] (deployment : Deployment Thread Signature)

theorem sentUndisturbed_invariant :
    Invariant deployment.machine deployment.custody deployment.SettlesUndisturbed
      (SentUndisturbed deployment.payouts.monero.perTxCapAtomic) where
  step := by
    intro pool thread answer command next world reply code permitted answered settles now id sent
    obtain ⟨rfl, rfl⟩ := deployment.machine_exec answered
    have asks : pool.next? thread = some command := by rw [Pool.next?, code]
    rcases exec_state_sent sent with before | writes
    · exact (now id before).step permitted (Or.inl before)
    · have undisturbed := settles id (by rw [asks]; exact writes)
      exact undisturbed.step permitted (Or.inr writes)
  restart := by
    intro pool thread _ now id sent
    refine ⟨?_, (now id sent).queued⟩
    apply (Function.forall_update_iff pool.stage fun _ => Custody.Spares _ id).2
    refine ⟨⟨nofun, ?_, nofun⟩, fun other _ => (now id sent).spared other⟩
    rintro ⟨entry, member, _⟩
    cases member
  event := by
    intro pool event _ now id sent
    cases event with
    | wipe => cases sent
    | mined position height => exact ⟨(now id sent).spared, (now id sent).queued⟩
    | l2 sender call => exact ⟨(now id sent).spared, (now id sent).queued⟩

theorem sent_invariant (id : RedemptionId) :
    Invariant deployment.machine deployment.custody
      (fun pool action => deployment.SettlesUndisturbed pool action ∧ NoWipe action)
      (fun world stage => SentUndisturbed deployment.payouts.monero.perTxCapAtomic world stage ∧
        world.redis.state id = some .sent) where
  step := by
    intro pool thread answer command next world reply code permitted answered meets now
    refine ⟨(sentUndisturbed_invariant deployment).step pool thread answer command next world reply
      code permitted answered meets.1 now.1, ?_⟩
    obtain ⟨rfl, rfl⟩ := deployment.machine_exec answered
    exact (now.1 id now.2).stays_sent permitted now.2
  restart := by
    intro pool thread meets now
    exact ⟨(sentUndisturbed_invariant deployment).restart pool thread meets.1 now.1, now.2⟩
  event := by
    intro pool event meets now
    refine ⟨(sentUndisturbed_invariant deployment).event pool event meets.1 now.1, ?_⟩
    cases event with
    | wipe => exact absurd rfl meets.2
    | mined position height => exact now.2
    | l2 sender call => exact now.2

/-- **`sent` is final** in every run that writes it only to ids nobody is about to
write to: whatever the consumers, operators and everybody else do from then on, and
until the disk is lost, the state stays. -/
theorem sent_stays_sent (token : Token.State)
    (before after : List (Action Thread Answer (Event Signature))) (id : RedemptionId)
    (undisturbed : Along deployment.handle deployment.SettlesUndisturbed
      (deployment.handsEmpty (World.genesis token)) (before ++ after))
    (noWipe : ∀ action ∈ after, NoWipe action)
    (sent : (run deployment.handle (deployment.handsEmpty (World.genesis token))
      before).world.redis.state id = some .sent) :
    (run deployment.handle (deployment.handsEmpty (World.genesis token))
      (before ++ after)).world.redis.state id = some .sent := by
  obtain ⟨first, second⟩ := Along.append.1 undisturbed
  have disciplined := Pool.initial_disciplined (World.genesis token) deployment.keepsCustody
  have reached := (sentUndisturbed_invariant deployment).run deployment.keepsCustody disciplined
    first fun _ absent => by cases absent
  rw [run_append]
  exact ((sent_invariant deployment id).run deployment.keepsCustody
    (disciplined.run deployment.keepsCustody before)
    (second.and (Along.of_forall_mem _ noWipe)) ⟨reached, sent⟩).2

end Runs

/-! ### A payout made by hand -/

/-- The worked deployment with an operator who records a payout of redemption 1. -/
def withOperator : Deployment (Option SampleThread) Unit where
  lua := sample.lua
  ecdsa := sample.ecdsa
  enclave := sample.enclave
  payouts := sample.payouts
  poller := sample.poller
  role
    | none => .markSent 1 "manual"
    | some thread => sample.role thread

abbrev OperatorAction := Action (Option SampleThread) Answer (Event Unit)

def byServices (actions : List SampleAction) : List OperatorAction :=
  actions.map fun action => match action with
    | .step thread answer => .step (some thread) answer
    | .restart thread => .restart (some thread)
    | .event event => .event event

def paidByConsumer : List OperatorAction :=
  byServices (pollOne ++ refreshOne ++ payOne 100 ⟨[], [], []⟩ (.sent "tx") ++
    steps .consumer [{}])

/-- The operator marks it once more, and the consumer comes back to its entry. -/
def markedAgain : List OperatorAction :=
  .step none {} :: byServices (.restart .consumer ::
    steps .consumer (List.replicate 9 { idle := [1], history := some ⟨[], [], []⟩ }))

theorem sent_stays_sent_marked :
    (run withOperator.handle (withOperator.handsEmpty (World.genesis sampleToken))
        paidByConsumer).world.redis.state 1 = some .sent ∧
      (run withOperator.handle (withOperator.handsEmpty (World.genesis sampleToken))
        (paidByConsumer ++ markedAgain)).world.redis.state 1 = some .sent := by
  have sent : (run withOperator.handle (withOperator.handsEmpty (World.genesis sampleToken))
      paidByConsumer).world.redis.state 1 = some .sent := by decide
  have noWipe : ∀ action ∈ markedAgain, NoWipe action := by
    simp [markedAgain, byServices, steps, NoWipe]
  exact ⟨sent, sent_stays_sent withOperator sampleToken paidByConsumer markedAgain 1
    (by decide) noWipe sent⟩

/-- The payout is found to exceed the unlocked balance. After the consumer wrote
`paused`, the operator, who paid by hand, marks the redemption. -/
def markedByHand : List OperatorAction :=
  byServices (pollOne ++
    steps .refresher (List.replicate 7 { balance := some (10 ^ 12, 0) }) ++
    payOne 100 ⟨[], [], []⟩ .failed) ++ [.step none {}]

/-- The consumer finishes its rollback. -/
def claimReturned : List OperatorAction := byServices (steps .consumer [{}, {}])

/-- The balance unlocks, and the next drain finds the entry once more. -/
def drainedAgain : List OperatorAction :=
  byServices (.restart .refresher :: refreshOne ++ .restart .consumer ::
    steps .consumer (List.replicate 11
      { idle := [1], height := some 100, history := some ⟨[], [], []⟩, transfer := .sent "tx" }))

theorem sent_is_overwritten :
    (∀ action ∈ claimReturned ++ drainedAgain, NoWipe action) ∧
      (run withOperator.handle (withOperator.handsEmpty (World.genesis sampleToken))
        markedByHand).world.redis.state 1 = some .sent ∧
      (run withOperator.handle (withOperator.handsEmpty (World.genesis sampleToken))
        (markedByHand ++ claimReturned)).world.redis.state 1 = some .pending ∧
      (run withOperator.handle (withOperator.handsEmpty (World.genesis sampleToken))
        (markedByHand ++ (claimReturned ++ drainedAgain))).world.broadcasts 1 = 1 := by
  have noWipe : ∀ action ∈ claimReturned ++ drainedAgain, NoWipe action := by
    simp [claimReturned, drainedAgain, refreshOne, byServices, steps, NoWipe]
  exact ⟨noWipe, by decide, by decide, by decide⟩

end CrFaucet.Redemption
