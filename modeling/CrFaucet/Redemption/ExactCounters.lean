import Mathlib.Data.Fintype.Option
import CrFaucet.Redemption.Absorbing
import CrFaucet.Redemption.NoLoss
import CrFaucet.Redemption.PendingCounters
import CrFaucet.Redemption.Verdicts

/-!
Owns exactness of the pending counters over runs: which branches of `drain_once`, and
which callers of the store's functions, keep the books.

The rollbacks, the pauses and the parking of an entry above the cap leave an id owed
that was owed before, as long as nobody marks it sent behind the consumer's back. The
already-processed skip and the two dead-letter branches take an id out of the hash
without a debit. `KeepsBooks` says when none of them does; it looks at what a step
reads and at the state it is taken in. `processedSkip` is a run that does not keep to
it.
-/

set_option autoImplicit false

namespace CrFaucet.Redemption

open Interaction
open Token (Address)

variable {Thread Signature : Type}

/-! ### Redemptions that are over -/

/-- The redemption is over. -/
def Redis.Closed (redis : Redis) (id : RedemptionId) : Prop :=
  redis.state id = some .sent ∨ redis.state id = some .failed

instance (redis : Redis) (id : RedemptionId) : Decidable (redis.Closed id) :=
  inferInstanceAs (Decidable (_ ∨ _))

theorem Redis.Closed.dead {redis : Redis} {id : RedemptionId} (closed : redis.Closed id) :
    redis.live id = false := by
  rcases closed with sent | failed
  · rw [Redis.live, sent]
    rfl
  · rw [Redis.live, failed]
    rfl

theorem Redis.live_of_open {redis : Redis} {id : RedemptionId} (present : redis.state id ≠ none)
    (opened : ¬ redis.Closed id) : redis.live id = true := by
  cases found : redis.state id with
  | none => exact absurd found present
  | some state =>
      cases state with
      | sent => exact absurd (Or.inl found) opened
      | failed => exact absurd (Or.inr found) opened
      | pending | inFlight | paused =>
          rw [Redis.live, found]
          rfl

/-- What a thread has at hand and has read. -/
abbrev Desk := Custody × Verdicts

/-- The thread will not write to `id`: it has not claimed it for an entry at hand, and
it neither has nor will append an entry of it above the cap. -/
structure LeavesAlone (cap : Nat) (id : RedemptionId) (desk : Desk) : Prop where
  unclaimed : desk.1.claim = some id → ¬ desk.2.Handed id
  handed : ¬ desk.1.Parks cap id
  appended : ∀ insert ∈ desk.1.inserting, insert.1 = id → ¬ AboveCap cap insert.2

/-- Nobody will, and no entry of it above the cap will be handed out. -/
structure LeftAlone (cap : Nat) (world : World) (desk : Thread → Desk) (id : RedemptionId) :
    Prop where
  spared : ∀ thread, LeavesAlone cap id (desk thread)
  queued : ∀ entry ∈ world.redis.stream, entry.id = id → AboveCap cap entry.amount →
    ¬ world.redis.Unacknowledged entry

instance (verdicts : Verdicts) (id : RedemptionId) : Decidable (verdicts.Handed id) :=
  inferInstanceAs (Decidable (∃ entry ∈ _, _ = _))

instance (cap : Nat) (id : RedemptionId) (desk : Desk) : Decidable (LeavesAlone cap id desk) :=
  decidable_of_iff (_ ∧ _ ∧ _) ⟨fun parts => ⟨parts.1, parts.2.1, parts.2.2⟩,
    fun leaves => ⟨leaves.unclaimed, leaves.handed, leaves.appended⟩⟩

instance [Fintype Thread] (cap : Nat) (world : World) (desk : Thread → Desk) (id : RedemptionId) :
    Decidable (LeftAlone cap world desk id) :=
  decidable_of_iff (_ ∧ _) ⟨fun parts => ⟨parts.1, parts.2⟩,
    fun leftAlone => ⟨leftAlone.spared, leftAlone.queued⟩⟩

/-! ### When the books are kept -/

/-- The wallet will never make this transfer. -/
def TransferReply.permanent : TransferReply → Bool
  | .rejected code message => isPermanentTransferError code message
  | _ => false

section Conditions

variable (monero : MoneroConfig) (world : World) (desk : Thread → Desk)

/-- What each branch needs of the state before it and of what it is about to read.

* `enqueue_redemption` of a new id: an amount Lua represents and room in the counters.
* `mark_redemption_sent`, by anyone: the id is not paused, owes something if it is owed
  at all, and nobody is about to write to it.
* the already-processed check: the L2 has marked only redemptions that are over.
* the pending total: the claimed redemption does not turn out to be dust.
* the transfer: it is not rejected for good. -/
def KeepsBook (thread : Thread) (answer : Answer) : Command → Prop
  | .enqueue id atomicAmount => answer.outcome ≠ .refused → world.redis.state id = none →
      world.redis.Accepts atomicAmount
  | .markSent id _ => answer.outcome ≠ .refused → world.redis.state id ≠ some .paused ∧
      (world.redis.live id = true → 0 < (world.redis.amount id).getD 0) ∧
      LeftAlone monero.perTxCapAtomic world desk id
  | .isProcessed id => answer.outcome = .ok → world.token.processed id.val = true →
      world.redis.Closed id
  | .getPendingAtomic => answer.outcome = .ok → ∀ id ∈ (desk thread).1.claim,
      id ∉ (desk thread).2.dust monero.maxPayoutPremiumBp
        (Redis.readCounter world.redis.pendingAtomic)
  | .transfer _ _ _ => answer.transfer.permanent = false
  | _ => True

instance [Fintype Thread] (thread : Thread) (answer : Answer) :
    ∀ command, Decidable (KeepsBook monero world desk thread answer command)
  | .enqueue _ _ => inferInstanceAs (Decidable (_ → _ → _))
  | .markSent _ _ => inferInstanceAs (Decidable (_ → _ ∧ _ ∧ _))
  | .isProcessed _ => inferInstanceAs (Decidable (_ → _ → _))
  | .getPendingAtomic => @instDecidableForall _ _ _ (Option.decidableForallMem _)
  | .transfer _ _ _ => inferInstanceAs (Decidable (_ = _))
  | .xgroupCreate | .xautoclaim | .xreadgroup | .xack _ | .hsetState _ _ | .hsetnxState _ _
  | .hgetState _ | .xadd _ _ _ _ | .tryMarkInFlight _ | .getPendingCount | .getSnapshot
  | .setSnapshot _ | .getCursor | .setCursor _ | .refresh | .getBalance | .getHeight
  | .getTransfers _ _ | .getTransferByTxid _ | .incomingTransfers | .markProcessed _ _ _
  | .nextRedemptionId | .redemption _ | .totalSupply | .now | .deadlinePassed => isTrue trivial

end Conditions

/-- Nothing at hand. -/
def Desk.Empty (desk : Desk) : Prop :=
  desk.1.todo = [] ∧ desk.1.claim = none ∧ desk.1.inserting = none ∧ desk.2.processed = none

instance (desk : Desk) : Decidable desk.Empty :=
  inferInstanceAs (Decidable (_ ∧ _))

/-- Every step keeps the books, and the disk is lost only while nobody has anything at
hand. -/
def Deployment.KeepsBooks (deployment : Deployment Thread Signature)
    (pool : Pool Thread World Command Reply Desk) : Action Thread Answer (Event Signature) → Prop
  | .step thread answer => ∀ command ∈ pool.next? thread,
      KeepsBook deployment.payouts.monero pool.world pool.stage thread answer command
  | .event .wipe => ∀ thread, (pool.stage thread).Empty
  | _ => True

instance [Fintype Thread] (deployment : Deployment Thread Signature)
    (pool : Pool Thread World Command Reply Desk) :
    ∀ action, Decidable (deployment.KeepsBooks pool action)
  | .step _ _ => Option.decidableForallMem _
  | .event .wipe => inferInstanceAs (Decidable (∀ _, _))
  | .event (.mined _ _) => isTrue trivial
  | .event (.l2 _ _) => isTrue trivial
  | .restart _ => isTrue trivial

/-! ### What one step does -/

section Step

variable {lua : Lua} {enclave : Address} {world : World} {command : Command} {answer : Answer}
  {id : RedemptionId}

/-- **What closes a redemption**: a mark, or a direct write. -/
theorem closed_of_exec (closed : (exec lua enclave world command answer).1.redis.Closed id) :
    world.redis.Closed id ∨ (answer.outcome ≠ .refused ∧ ∃ txid, command = .markSent id txid) ∨
      ∃ state, (state = .sent ∨ state = .failed) ∧
        (command = .hsetState id state ∨ command = .hsetnxState id state) := by
  have wrote : ∃ state, (state = .sent ∨ state = .failed) ∧ (world.redis.state id = some state ∨
      answer.outcome ≠ .refused ∧ world.redis.writes command = some (id, state)) := by
    rcases closed with sent | failed
    · exact ⟨.sent, Or.inl rfl, exec_state_eq sent⟩
    · exact ⟨.failed, Or.inr rfl, exec_state_eq failed⟩
  obtain ⟨state, final, before | ⟨carriedOut, writes⟩⟩ := wrote
  · rcases final with rfl | rfl
    · exact Or.inl (Or.inl before)
    · exact Or.inl (Or.inr before)
  · cases command with
    | hsetState =>
        cases writes
        exact Or.inr (Or.inr ⟨state, final, Or.inl rfl⟩)
    | hsetnxState =>
        cases (Option.ite_none_right_eq_some.1 writes).2
        exact Or.inr (Or.inr ⟨_, final, Or.inr rfl⟩)
    | markSent written txid =>
        cases writes
        exact Or.inr (Or.inl ⟨carriedOut, txid, rfl⟩)
    | enqueue | tryMarkInFlight =>
        cases (Option.ite_none_right_eq_some.1 writes).2
        rcases final with final | final <;> cases final
    | _ => cases writes

end Step

/-! ### A redemption that is over is left alone -/

section LeftAlone

variable [DecidableEq Thread] {cap premiumBp : Nat} {operators : Prop} {lua : Lua}
  {enclave : Address} {world : World} {desk : Thread → Desk} {thread : Thread}
  {command : Command} {answer : Answer} {id : RedemptionId}

/-- The desks after `thread` got its reply. -/
def desksAfter (premiumBp : Nat) (desk : Thread → Desk) (thread : Thread) (command : Command)
    (reply : Reply command) : Thread → Desk :=
  Function.update desk thread
    ((desk thread).1.after command reply, (desk thread).2.after premiumBp command reply)

omit [DecidableEq Thread] in
theorem LeftAlone.leaves (leftAlone : LeftAlone cap world desk id)
    (permitted : (desk thread).2.permits command)
    (idle : (desk thread).2.tried = false → (desk thread).1.claim = none)
    (closed : world.redis.Closed id ∨ ∃ txid, command = .markSent id txid) :
    LeavesAlone cap id ((desk thread).1.after command (exec lua enclave world command answer).2,
      (desk thread).2.after premiumBp command (exec lua enclave world command answer).2) := by
  have before := leftAlone.spared thread
  constructor
  · intro claims handed
    rcases claimAfter_eq_some claims with claimed | ⟨rfl, pending⟩
    · -- The stream hands out before the first claim only.
      have other : command ≠ .xautoclaim ∧ command ≠ .xreadgroup := by
        constructor <;> rintro rfl <;> rw [idle permitted] at claimed <;> cases claimed
      unfold Verdicts.Handed at handed
      rw [after_handed _ other] at handed
      exact before.unclaimed claimed handed
    · rcases closed with (sent | failed) | ⟨txid, marks⟩
      · rw [sent] at pending
        cases pending
      · rw [failed] at pending
        cases pending
      · cases marks
  · rintro ⟨entry, member, named, above⟩
    rcases mem_todoAfter member with had | unacked
    · exact before.handed ⟨entry, had, named, above⟩
    · exact leftAlone.queued entry unacked.1 named above unacked
  · rintro ⟨_, amount⟩ inserts rfl
    rcases insertingAfter_eq_some inserts with had | ⟨rfl, absent⟩
    · exact before.appended _ had rfl
    · rcases closed with (sent | failed) | ⟨txid, marks⟩
      · rw [sent] at absent
        cases absent
      · rw [failed] at absent
        cases absent
      · cases marks

/-- **It is left alone from then on.** -/
theorem LeftAlone.step (leftAlone : LeftAlone cap world desk id)
    (permitted : (desk thread).1.permits cap operators command ∧ (desk thread).2.permits command)
    (idle : (desk thread).2.tried = false → (desk thread).1.claim = none)
    (closed : world.redis.Closed id ∨ ∃ txid, command = .markSent id txid) :
    LeftAlone cap (exec lua enclave world command answer).1
      (desksAfter premiumBp desk thread command (exec lua enclave world command answer).2) id where
  spared := by
    apply (Function.forall_update_iff desk fun _ => LeavesAlone cap id).2
    exact ⟨leftAlone.leaves permitted.2 idle closed, fun other _ => leftAlone.spared other⟩
  queued := by
    intro entry _ named above unacked
    rw [exec_redis] at unacked
    split at unacked
    · exact leftAlone.queued entry unacked.1 named above unacked
    · rcases unacked.of_command with before | rfl
      · exact leftAlone.queued entry before.1 named above before
      · exact (leftAlone.spared thread).appended _ permitted.1 named above

omit [DecidableEq Thread] in
theorem LeftAlone.unwritten (leftAlone : LeftAlone cap world desk id)
    {state : RedemptionState} (owed : state = .pending ∨ state = .paused)
    (permitted : (desk thread).1.permits cap operators (.hsetState id state) ∧
      (desk thread).2.permits (.hsetState id state)) : False := by
  obtain ⟨custody, handed, _⟩ := permitted
  have spared := leftAlone.spared thread
  rcases owed with rfl | rfl
  · exact spared.unclaimed custody handed
  · rcases custody with claims | parks
    · exact spared.unclaimed claims handed
    · exact spared.handed parks

omit [DecidableEq Thread] in
/-- **No permitted command opens it again.** -/
theorem LeftAlone.stays_closed (leftAlone : LeftAlone cap world desk id)
    (permitted : (desk thread).1.permits cap operators command ∧ (desk thread).2.permits command)
    (closed : world.redis.Closed id) :
    (exec lua enclave world command answer).1.redis.Closed id := by
  have present : world.redis.state id ≠ none := by
    rcases closed with sent | failed
    · rw [sent]
      exact Option.some_ne_none _
    · rw [failed]
      exact Option.some_ne_none _
  cases found : (exec lua enclave world command answer).1.redis.state id with
  | none => exact absurd found (exec_present present)
  | some state =>
      unfold Redis.Closed
      rw [found]
      rcases exec_state_eq found with before | ⟨_, writes⟩
      · exact before ▸ closed
      · cases command with
        | hsetState =>
            cases writes
            cases state with
            | sent => exact Or.inl rfl
            | failed => exact Or.inr rfl
            | pending => exact (leftAlone.unwritten (Or.inl rfl) permitted).elim
            | paused => exact (leftAlone.unwritten (Or.inr rfl) permitted).elim
            | inFlight => cases permitted.1
        | markSent written txid =>
            cases writes
            exact Or.inl rfl
        | hsetnxState | enqueue =>
            obtain ⟨absent, wrote⟩ := Option.ite_none_right_eq_some.1 writes
            cases wrote
            exact absurd absent present
        | tryMarkInFlight =>
            obtain ⟨pending, wrote⟩ := Option.ite_none_right_eq_some.1 writes
            cases wrote
            unfold Redis.Closed at closed
            rw [pending] at closed
            rcases closed with closed | closed <;> cases closed
        | _ => cases writes

end LeftAlone

/-! ### The invariant -/

/-- Every id the thread has at hand is in the hash. -/
structure Desk.Known (redis : Redis) (desk : Desk) : Prop where
  claimed : ∀ id, desk.1.claim = some id → redis.state id ≠ none
  handed : ∀ entry ∈ desk.1.todo, redis.state entry.id ≠ none
  inserting : ∀ insert ∈ desk.1.inserting, redis.state insert.1 ≠ none

/-- What the thread has read is so, and its claim need not be given up. -/
structure Desk.Sound (redis : Redis) (desk : Desk) : Prop where
  idle : desk.2.tried = false → desk.1.claim = none
  processed : ∀ id, desk.2.processed = some id → redis.Closed id
  spared : ∀ id, desk.1.claim = some id → id ∉ desk.2.doomed

structure Booked (cap : Nat) (world : World) (desk : Thread → Desk) : Prop where
  balanced : world.redis.Balanced
  closed : ∀ id, world.redis.Closed id → LeftAlone cap world desk id
  streamed : ∀ entry ∈ world.redis.stream, world.redis.state entry.id ≠ none
  known : ∀ thread, (desk thread).Known world.redis
  sound : ∀ thread, (desk thread).Sound world.redis

theorem Desk.known_start (redis : Redis) : Desk.Known redis ({}, {}) where
  claimed id claims := by cases claims
  handed entry member := by cases member
  inserting insert member := by cases member

theorem Desk.sound_start (redis : Redis) : Desk.Sound redis ({}, {}) where
  idle _ := rfl
  processed id told := by cases told
  spared id claims := by cases claims

theorem genesis_booked (cap : Nat) (token : Token.State) :
    Booked cap (World.genesis token) fun _ : Thread => (({}, {}) : Desk) where
  balanced := Redis.empty_balanced 0
  closed id closed := by rcases closed with closed | closed <;> cases closed
  streamed entry member := by cases member
  known _ := Desk.known_start _
  sound _ := Desk.sound_start _

section Invariant

variable {monero : MoneroConfig} {operators : Prop} {lua : Lua} {enclave : Address} {world : World}
  {desk : Thread → Desk} {thread : Thread} {command : Command} {answer : Answer}

theorem Desk.Known.step {desk : Desk} (known : desk.Known world.redis)
    (streamed : ∀ entry ∈ world.redis.stream, world.redis.state entry.id ≠ none)
    (verdicts : Verdicts) :
    Desk.Known (exec lua enclave world command answer).1.redis
      (desk.1.after command (exec lua enclave world command answer).2, verdicts) where
  claimed id claims := by
    rcases claimAfter_eq_some claims with claimed | ⟨rfl, pending⟩
    · exact exec_present (known.claimed id claimed)
    · apply exec_present
      rw [pending]
      exact Option.some_ne_none _
  handed entry member := by
    rcases mem_todoAfter member with had | unacked
    · exact exec_present (known.handed entry had)
    · exact exec_present (streamed entry unacked.1)
  inserting := by
    rintro ⟨id, amount⟩ inserts
    rcases insertingAfter_eq_some inserts with had | ⟨rfl, _⟩
    · exact exec_present (known.inserting _ had)
    · cases replied : (exec lua enclave world (.enqueue id amount) answer).2 with
      | none =>
          have nothing : insertingAfter desk.1.inserting (.enqueue id amount)
              (exec lua enclave world (.enqueue id amount) answer).2 = some (id, amount) := inserts
          rw [replied] at nothing
          cases nothing
      | some inserted => exact exec_enqueue_some replied

theorem after_tried {premiumBp : Nat} {verdicts : Verdicts} {reply : Reply command}
    (untried : (verdicts.after premiumBp command reply).tried = false) :
    verdicts.tried = false ∧ ∀ id, command ≠ .tryMarkInFlight id := by
  have other (id : RedemptionId) : command ≠ .tryMarkInFlight id := by
    rintro rfl
    cases untried
  refine ⟨?_, other⟩
  unfold Verdicts.after at untried
  split at untried
  · exact untried
  · exact untried
  · exact untried
  · exact untried
  · exact absurd rfl (other _)
  · exact untried
  · split at untried <;> exact untried
  · exact untried

theorem after_processed {premiumBp : Nat} {verdicts : Verdicts} {id : RedemptionId}
    (told : (verdicts.after premiumBp command (exec lua enclave world command answer).2).processed =
      some id) :
    verdicts.processed = some id ∨ command = .isProcessed id ∧ answer.outcome = .ok ∧
      world.token.processed id.val = true := by
  generalize replied : (exec lua enclave world command answer).2 = reply at told
  unfold Verdicts.after at told
  split at told
  · exact Or.inl told
  · exact Or.inl told
  · obtain rfl := Option.some.inj told
    simp only [exec, World.readL2, Outcome.perform] at replied
    cases outcome : answer.outcome with
    | ok =>
        rw [outcome] at replied
        exact Or.inr ⟨rfl, rfl, Option.some.inj replied⟩
    | lost | refused =>
        rw [outcome] at replied
        cases replied
  · exact Or.inl told
  · exact Or.inl told
  · exact Or.inl told
  · split at told <;> exact Or.inl told
  · exact Or.inl told

/-- The claim that a thread has need not be given up by what it reads next. -/
theorem after_doomed {id : RedemptionId}
    (claims : claimAfter (desk thread).1.claim command (exec lua enclave world command answer).2 =
      some id)
    (keeps : KeepsBook monero world desk thread answer command)
    (spared : ∀ id, (desk thread).1.claim = some id → id ∉ (desk thread).2.doomed) :
    id ∉ ((desk thread).2.after monero.maxPayoutPremiumBp command
      (exec lua enclave world command answer).2).doomed := by
  rcases claimAfter_eq_some claims with claimed | ⟨rfl, _⟩
  · have before := spared id claimed
    generalize replied : (exec lua enclave world command answer).2 = reply
    unfold Verdicts.after
    split
    · exact before
    · exact before
    · exact before
    · exact before
    · exact List.not_mem_nil
    · rw [exec, World.onRedis_reply] at replied
      split at replied
      · rename_i ok
        cases replied
        exact keeps ok id claimed
      · cases replied
    · rename_i code message
      have kept : answer.transfer.permanent = false := keeps
      have same : answer.transfer = .rejected code message := replied
      rw [same] at kept
      have passing : isPermanentTransferError code message = false := kept
      simp only [passing]
      exact before
    · exact before
  · exact List.not_mem_nil

theorem Desk.Sound.step (sound : (desk thread).Sound world.redis)
    (keeps : KeepsBook monero world desk thread answer command)
    (stays : ∀ id, world.redis.Closed id → (exec lua enclave world command answer).1.redis.Closed id) :
    Desk.Sound (exec lua enclave world command answer).1.redis
      ((desk thread).1.after command (exec lua enclave world command answer).2,
        (desk thread).2.after monero.maxPayoutPremiumBp command
          (exec lua enclave world command answer).2) where
  idle untried := by
    obtain ⟨untried, other⟩ := after_tried untried
    apply Option.eq_none_iff_forall_ne_some.2
    intro id claims
    rcases claimAfter_eq_some claims with claimed | ⟨tries, _⟩
    · rw [sound.idle untried] at claimed
      cases claimed
    · exact other id tries
  processed id told := by
    rcases after_processed told with before | ⟨rfl, ok, marked⟩
    · exact stays id (sound.processed id before)
    · exact stays id (keeps ok marked)
  spared id claims := after_doomed claims keeps sound.spared

/-- **Every command keeps the books.** -/
theorem Booked.keepsCounters (booked : Booked monero.perTxCapAtomic world desk)
    (permitted : (desk thread).1.permits monero.perTxCapAtomic operators command ∧
      (desk thread).2.permits command)
    (carriedOut : answer.outcome ≠ .refused)
    (keeps : KeepsBook monero world desk thread answer command) :
    world.redis.keepsCounters command = true := by
  -- A rollback, a pause or a parking finds the redemption owed.
  have owed : ∀ {id state}, (state = .pending ∨ state = .paused) →
      (desk thread).1.permits monero.perTxCapAtomic operators (.hsetState id state) ∧
        (desk thread).2.permits (.hsetState id state) →
      world.redis.state id ≠ none → world.redis.live id = true := by
    intro id state owed permitted present
    apply Redis.live_of_open present
    intro closed
    exact (booked.closed id closed).unwritten owed permitted
  cases command with
  | hsetState id state =>
      cases state with
      | pending =>
          have present := (booked.known thread).claimed id permitted.1
          simp [Redis.keepsCounters, owed (Or.inl rfl) permitted present, RedemptionState.live]
      | paused =>
          have present : world.redis.state id ≠ none := by
            rcases permitted.1 with claims | ⟨entry, member, rfl, _⟩
            · exact (booked.known thread).claimed id claims
            · exact (booked.known thread).handed entry member
          simp [Redis.keepsCounters, owed (Or.inr rfl) permitted present, RedemptionState.live]
      | sent =>
          have told := permitted.2.2.1 rfl
          have dead := ((booked.sound thread).processed id told).dead
          simp [Redis.keepsCounters, dead, RedemptionState.live]
      | failed =>
          have doomed := permitted.2.2.2 rfl
          exact absurd doomed ((booked.sound thread).spared id permitted.1)
      | inFlight => cases permitted.1
  | hsetnxState id state =>
      have present := (booked.known thread).claimed id permitted.1.1
      simp [Redis.keepsCounters, present]
  | enqueue id amount => exact decide_eq_true (keeps carriedOut)
  | markSent id txid =>
      obtain ⟨unparked, positive, _⟩ := keeps carriedOut
      exact decide_eq_true ⟨unparked, positive⟩
  | _ => rfl

/-- **The step lemma.** -/
theorem Booked.step [DecidableEq Thread] (booked : Booked monero.perTxCapAtomic world desk)
    (permitted : (desk thread).1.permits monero.perTxCapAtomic operators command ∧
      (desk thread).2.permits command)
    (keeps : KeepsBook monero world desk thread answer command) :
    Booked monero.perTxCapAtomic (exec lua enclave world command answer).1
      (desksAfter monero.maxPayoutPremiumBp desk thread command
        (exec lua enclave world command answer).2) := by
  have stays : ∀ id, world.redis.Closed id →
      (exec lua enclave world command answer).1.redis.Closed id := by
    intro id closed
    exact (booked.closed id closed).stays_closed permitted closed
  have idle := (booked.sound thread).idle
  constructor
  · rw [exec_redis]
    split
    · exact booked.balanced
    · rename_i carriedOut
      exact booked.balanced.command lua (booked.keepsCounters permitted carriedOut keeps)
  · intro id closed
    rcases closed_of_exec closed with before | ⟨carriedOut, txid, rfl⟩ | ⟨state, final, writes⟩
    · exact (booked.closed id before).step permitted idle (Or.inl before)
    · exact (keeps carriedOut).2.2.step permitted idle (Or.inr ⟨txid, rfl⟩)
    · rcases writes with rfl | rfl
      · rcases final with rfl | rfl
        · have before := (booked.sound thread).processed id (permitted.2.2.1 rfl)
          exact (booked.closed id before).step permitted idle (Or.inl before)
        · have doomed := permitted.2.2.2 rfl
          exact absurd doomed ((booked.sound thread).spared id permitted.1)
      · obtain ⟨_, rfl⟩ := permitted.1
        rcases final with final | final <;> cases final
  · intro entry member
    apply exec_present
    rw [exec_redis] at member
    split at member
    · exact booked.streamed entry member
    · rcases Redis.mem_after_stream member with old | rfl
      · exact booked.streamed entry old
      · exact (booked.known thread).inserting _ permitted.1
  · apply (Function.forall_update_iff desk fun _ => Desk.Known _).2
    refine ⟨(booked.known thread).step booked.streamed _, ?_⟩
    intro other _
    have known := booked.known other
    exact ⟨fun id claims => exec_present (known.claimed id claims),
      fun entry member => exec_present (known.handed entry member),
      fun insert member => exec_present (known.inserting insert member)⟩
  · apply (Function.forall_update_iff desk fun _ => Desk.Sound _).2
    refine ⟨(booked.sound thread).step keeps stays, ?_⟩
    intro other _
    have sound := booked.sound other
    exact ⟨sound.idle, fun id told => stays id (sound.processed id told), sound.spared⟩

theorem Booked.restart [DecidableEq Thread] {cap : Nat} (booked : Booked cap world desk)
    (thread : Thread) : Booked cap world (Function.update desk thread ({}, {})) where
  balanced := booked.balanced
  closed id closed := by
    refine ⟨?_, (booked.closed id closed).queued⟩
    apply (Function.forall_update_iff desk fun _ => LeavesAlone cap id).2
    refine ⟨⟨nofun, ?_, nofun⟩, fun other _ => (booked.closed id closed).spared other⟩
    rintro ⟨entry, member, _⟩
    cases member
  streamed := booked.streamed
  known := by
    apply (Function.forall_update_iff desk fun _ => Desk.Known _).2
    exact ⟨Desk.known_start _, fun other _ => booked.known other⟩
  sound := by
    apply (Function.forall_update_iff desk fun _ => Desk.Sound _).2
    exact ⟨Desk.sound_start _, fun other _ => booked.sound other⟩

theorem Booked.of_redis {cap : Nat} {after : World} (booked : Booked cap world desk)
    (same : after.redis = world.redis) : Booked cap after desk := by
  obtain ⟨redis, payments, token⟩ := after
  obtain rfl : redis = world.redis := same
  refine ⟨booked.balanced, fun id closed => ?_, booked.streamed, booked.known, booked.sound⟩
  exact ⟨(booked.closed id closed).spared, (booked.closed id closed).queued⟩

theorem Booked.wipe {cap : Nat} (world : World) (sound : ∀ thread, (desk thread).Sound world.redis)
    (empty : ∀ thread, (desk thread).Empty) :
    Booked cap { world with redis := world.redis.wipe } desk where
  balanced := Redis.empty_balanced _
  closed id closed := by rcases closed with closed | closed <;> cases closed
  streamed entry member := by cases member
  known thread := by
    obtain ⟨todo, claim, inserting, _⟩ := empty thread
    constructor
    · intro id claims
      rw [claim] at claims
      cases claims
    · intro entry member
      rw [todo] at member
      cases member
    · intro insert member
      rw [inserting] at member
      cases member
  sound thread := by
    refine ⟨(sound thread).idle, ?_, (sound thread).spared⟩
    intro id told
    rw [(empty thread).2.2.2] at told
    cases told

end Invariant

/-! ### Runs -/

namespace Deployment

variable (deployment : Deployment Thread Signature)

/-- What is watched of each thread. -/
def books : Discipline Command Reply Desk := deployment.custody.prod deployment.verdicts

theorem keepsBooksOpen (thread : Thread) :
    (deployment.machine.main thread).Obeys deployment.books deployment.books.start
      fun _ _ => True :=
  ((deployment.keepsCustody thread).prod (deployment.keepsVerdicts thread)).weaken
    fun _ _ _ => trivial

/-- The system before anyone has moved. -/
def booksOpen (world : World) : Pool Thread World Command Reply Desk :=
  Pool.initial deployment.machine deployment.books world

variable [DecidableEq Thread]

/-- One action, with the desk of every thread kept. -/
def book : Pool Thread World Command Reply Desk → Action Thread Answer (Event Signature) →
    Pool Thread World Command Reply Desk :=
  Pool.move deployment.machine deployment.books

end Deployment

section Runs

variable [DecidableEq Thread] (deployment : Deployment Thread Signature)

theorem booked_invariant :
    Invariant deployment.machine deployment.books deployment.KeepsBooks
      (Booked deployment.payouts.monero.perTxCapAtomic) where
  step := by
    intro pool thread answer command next world reply code permitted answered keeps booked
    obtain ⟨rfl, rfl⟩ := deployment.machine_exec answered
    exact booked.step permitted (keeps command (Pool.next_of_code code))
  restart pool thread _ booked := booked.restart thread
  event := by
    intro pool event keeps booked
    cases event with
    | wipe => exact Booked.wipe _ booked.sound keeps
    | mined position height => exact booked.of_redis rfl
    | l2 sender call => exact booked.of_redis rfl

/-- **The pending counters are exact** in every state of every run, of any number of
services and direct callers, whose steps keep the books. -/
theorem pending_counters_exact (token : Token.State)
    (actions : List (Action Thread Answer (Event Signature)))
    (keeps : Along deployment.book deployment.KeepsBooks
      (deployment.booksOpen (World.genesis token)) actions) :
    (run deployment.book (deployment.booksOpen (World.genesis token)) actions).world.redis.Exact := by
  have booked := (booked_invariant deployment).run deployment.keepsBooksOpen
    (Pool.initial_disciplined _ deployment.keepsBooksOpen) keeps
    (genesis_booked deployment.payouts.monero.perTxCapAtomic token)
  exact booked.balanced.exact

end Runs

/-- Redemption 1 is enqueued, claimed, paid and marked sent. -/
def paidRun : List SampleAction :=
  pollOne ++ refreshOne ++ payOne 100 ⟨[], [], []⟩ (.sent "tx") ++ steps .consumer [{}]

theorem pending_counters_exact_paid :
    (run sample.book (sample.booksOpen (World.genesis sampleToken)) paidRun).world.redis.state 1 =
        some .sent ∧
      (run sample.book (sample.booksOpen (World.genesis sampleToken)) paidRun).world.redis.Exact :=
  ⟨by decide, pending_counters_exact sample sampleToken paidRun (by decide)⟩

/-! ### A step out of balance -/

/-- The L2 already records redemption 1 as processed. -/
def processedToken : Token.State := { sampleToken with processed := fun _ => true }

/-- The already-processed skip, up to its write of the state. -/
def processedSkip : List SampleAction := pollOne ++ steps .consumer (List.replicate 5 {})

theorem processedSkip_not_exact :
    ¬ (run sample.book (sample.booksOpen (World.genesis processedToken))
      processedSkip).world.redis.Exact := by
  generalize reached : (run sample.book (sample.booksOpen (World.genesis processedToken))
    processedSkip).world.redis = redis
  have state : redis.state =
      Function.update (Function.update (fun _ => none) 1 (some .pending)) 1 (some .sent) := by
    rw [← reached]
    rfl
  have count : redis.pendingCount = some 1 := by
    rw [← reached]
    decide
  intro exact
  have nobody : ∀ id, redis.counted id = 0 := by
    intro id
    apply Redis.counted_of_dead
    rw [Redis.live, state]
    by_cases same : id = 1
    · rw [same, Function.update_self]
      rfl
    · rw [Function.update_of_ne same, Function.update_of_ne same]
      rfl
  have total := exact.count
  rw [count, Finset.sum_congr rfl fun id _ => nobody id, Finset.sum_const_zero] at total
  cases total

end CrFaucet.Redemption
