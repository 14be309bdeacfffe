import Mathlib.Data.Fintype.Defs
import CrFaucet.Redemption.SinglePayout
import CrFaucet.Redemption.Stream

/-!
Owns the promise that no redemption is silently lost: every id the cursor has
passed has been enqueued, and a drain to come will see every id that is
`pending`.

Two records have to agree, the state hash and the stream. An id is `Served` while
one of its entries is unacknowledged or a producer is about to append one, and
`Retired` once nobody can claim it or roll it back any more. Acknowledging is
harmless for retired ids only; `Delivers` says which steps respect that.
`insertCrash` is a run that loses a redemption.
-/

set_option autoImplicit false

namespace CrFaucet.Redemption

open Interaction
open Token (Address)

variable {Thread Signature : Type}

/-- The thread was handed an entry of `id`. -/
def Stage.Handed (stage : Stage) (id : RedemptionId) : Prop :=
  ∃ entry ∈ stage.known, entry.id = id

def Unowned (stage : Thread → Stage) (id : RedemptionId) : Prop :=
  ∀ thread, ¬ Owns stage thread id

/-- Nobody will claim `id` or roll it back any more. -/
structure Retired (world : World) (stage : Thread → Stage) (id : RedemptionId) : Prop where
  closed : ¬ world.Claimable id
  unowned : Unowned stage id

/-- A drain to come will see an entry of `id`. -/
def Served (redis : Redis) (stage : Thread → Stage) (id : RedemptionId) : Prop :=
  (∃ entry, entry.id = id ∧ redis.Unacknowledged entry) ∨
    ∃ thread, (stage thread).hold = .inserting id

/-- Every id past `first` up to `last` has been enqueued. -/
def Redis.Covered (redis : Redis) (first last : Nat) : Prop :=
  ∀ id : RedemptionId, first < id.val → id.val ≤ last → redis.state id ≠ none

/-! ### Ids, once known, stay known -/

section Present

variable {lua : Lua} {enclave : Address} {world : World} {command : Command} {answer : Answer}
  {id : RedemptionId}

theorem exec_enqueue_some {amount : Int} {inserted : Bool}
    (replied : (exec lua enclave world (.enqueue id amount) answer).2 = some inserted) :
    (exec lua enclave world (.enqueue id amount) answer).1.redis.state id ≠ none := by
  rw [exec, World.onRedis_reply] at replied
  split at replied
  · rename_i ok
    rw [exec_state, if_neg (by rw [ok]; decide), Redis.stateAfter]
    split
    · rw [Function.update_self]
      exact Option.some_ne_none _
    · assumption
  · cases replied

theorem Redis.Covered.exec {first last : Nat} (covered : world.redis.Covered first last) :
    (Redemption.exec lua enclave world command answer).1.redis.Covered first last :=
  fun id past upTo => exec_present (covered id past upTo)

theorem mem_stream_exec {entry : StreamEntry} (member : entry ∈ world.redis.stream) :
    entry ∈ (exec lua enclave world command answer).1.redis.stream := by
  rw [exec_redis]
  split
  · exact member
  · exact Redis.stream_subset_after lua command member

end Present

/-! ### How the stage of a thread moves -/

section Moves

variable {poller : EventPoller} {lua : Lua} {enclave : Address} {world : World} {stage : Stage}
  {command : Command} {answer : Answer} {id : RedemptionId}

theorem exec_tryMarkInFlight_false
    (taken : (exec lua enclave world (.tryMarkInFlight id) answer).2 = some false) :
    answer.outcome = .ok ∧ world.redis.state id ≠ some .pending := by
  rw [exec, World.onRedis_reply] at taken
  split at taken
  · rename_i ok
    refine ⟨ok, ?_⟩
    rw [Redis.tryMarkScript] at taken
    split at taken
    · cases taken
    · assumption
  · cases taken

theorem exec_hsetState_some {state : RedemptionState}
    (replied : (exec lua enclave world (.hsetState id state) answer).2 = some ()) :
    answer.outcome = .ok := by
  rw [exec, World.onRedis_reply] at replied
  split at replied
  · assumption
  · cases replied

/-- A producer that owes an entry does nothing but append it. -/
theorem inserting_kept {reply : Reply command} (permitted : permits stage command)
    (inserting : stage.hold = .inserting id) :
    (stageAfter poller stage command reply).hold = .inserting id ∨
      ∃ sender amount xmrAddr, command = .xadd id sender amount xmrAddr := by
  cases command with
  | xadd added sender amount xmrAddr =>
      have same : stage.hold = .inserting added := permitted
      rw [inserting] at same
      obtain rfl := Hold.inserting.inj same
      exact Or.inr ⟨sender, amount, xmrAddr, rfl⟩
  | hsetState written state =>
      cases state with
      | pending => exact absurd (inserting.symm.trans permitted) (by simp)
      | _ => exact absurd inserting (permitted id)
  | enqueue | tryMarkInFlight | markSent | getTransfers =>
      exact absurd inserting (permitted id)
  | transfer => exact absurd (inserting.symm.trans permitted.1) (by simp)
  | xack entry =>
      rcases permitted.1 with owner | settled
      · exact absurd (inserting.symm.trans owner) (by simp)
      · exact absurd (inserting.symm.trans settled) (by simp)
  | xautoclaim | xreadgroup | hsetnxState =>
      exact absurd (inserting.symm.trans permitted) (by simp)
  | getCursor => cases reply <;> exact Or.inl inserting
  | _ => exact Or.inl inserting

theorem stageAfter_known {reply : Reply command} (claim : command ≠ .xautoclaim)
    (read : command ≠ .xreadgroup) :
    (stageAfter poller stage command reply).known = stage.known := by
  cases command with
  | xautoclaim => exact absurd rfl claim
  | xreadgroup => exact absurd rfl read
  | hsetState written state => cases state <;> rfl
  | enqueue written amount =>
      cases reply with
      | none => rfl
      | some inserted => cases inserted <;> rfl
  | tryMarkInFlight claimed =>
      cases reply with
      | none => rfl
      | some granted => cases granted <;> rfl
  | transfer => cases reply <;> rfl
  | getCursor => cases reply <;> rfl
  | _ => rfl

theorem known_of_hold {reply : Reply command} {hold : Hold} (permitted : permits stage command)
    (bound : hold ≠ .free) (holds : (stageAfter poller stage command reply).hold = hold) :
    (stageAfter poller stage command reply).known = stage.known := by
  rcases stageAfter_hold bound holds with kept | gains
  · refine stageAfter_known ?_ ?_ <;>
    · rintro rfl
      exact bound (kept.symm.trans permitted)
  · refine stageAfter_known ?_ ?_ <;>
    · rintro rfl
      cases gains

theorem known_cases {entry : StreamEntry}
    (known : entry ∈ (stageAfter poller stage command
      (exec lua enclave world command answer).2).known) :
    entry ∈ stage.known ∨ entry ∈ world.redis.stream := by
  by_cases claim : command = .xautoclaim
  · subst claim
    apply (List.mem_append.1 known).imp_right
    intro handed
    cases replied : (exec lua enclave world .xautoclaim answer).2 with
    | none =>
        rw [replied] at handed
        cases handed
    | some entries =>
        rw [replied] at handed
        exact (unacknowledged_of_xautoclaim replied handed).1
  · by_cases read : command = .xreadgroup
    · subst read
      apply (List.mem_append.1 known).imp_right
      intro handed
      cases replied : (exec lua enclave world .xreadgroup answer).2 with
      | none =>
          rw [replied] at handed
          cases handed
      | some entries =>
          rw [replied] at handed
          exact (unacknowledged_of_xreadgroup replied handed).1
    · rw [stageAfter_known claim read] at known
      exact Or.inl known

theorem covered_succ {redis : Redis} {first last : Nat} (covered : redis.Covered first last)
    (following : id.val = last + 1) (present : redis.state id ≠ none) :
    redis.Covered first id.val := by
  intro other past upTo
  by_cases same : other = id
  · rw [same]
    exact present
  · have distinct : other.val ≠ id.val := fun equal => same (Fin.ext equal)
    exact covered other past (by omega)

theorem covered_of_reached {last : Nat}
    (before : ∀ last, stage.reached = some last →
      world.redis.Covered poller.startCursor last)
    (cursor : ∀ id, world.redis.cursor = some id →
      world.redis.Covered poller.startCursor id.val)
    (reached : (stageAfter poller stage command
      (exec lua enclave world command answer).2).reached = some last) :
    (exec lua enclave world command answer).1.redis.Covered poller.startCursor last := by
  generalize replied : (exec lua enclave world command answer).2 = reply at reached
  cases command with
  | enqueue id amount =>
      have advanced : ∀ inserted : Bool, reply = some inserted →
          (stage.advance id).reached = some last →
          (exec lua enclave world (.enqueue id amount) answer).1.redis.Covered
            poller.startCursor last := by
        intro inserted some advanced
        have present := exec_enqueue_some (replied.trans some)
        obtain ⟨previous, was, next⟩ := Option.map_eq_some_iff.1 advanced
        have covered : (exec lua enclave world (.enqueue id amount) answer).1.redis.Covered
            poller.startCursor previous := (before previous was).exec
        split at next
        · rename_i following
          rw [← next]
          exact covered_succ covered following present
        · rwa [← next]
      cases reply with
      | none => exact (before last reached).exec
      | some inserted => cases inserted <;> exact advanced _ rfl reached
  | getCursor =>
      cases reply with
      | none => exact (before last reached).exec
      | some stored =>
          rw [exec, World.onRedis_reply] at replied
          split at replied
          · obtain rfl := Option.some.inj replied
            obtain rfl := Option.some.inj reached
            refine Redis.Covered.exec ?_
            cases found : world.redis.cursor with
            | none =>
                intro id past upTo
                exact absurd upTo (Nat.not_le_of_lt past)
            | some id => exact cursor id found
          · cases replied
  | hsetState written state => cases state <;> exact (before last reached).exec
  | tryMarkInFlight claimed =>
      cases reply with
      | none => exact (before last reached).exec
      | some granted => cases granted <;> exact (before last reached).exec
  | transfer => cases reply <;> exact (before last reached).exec
  | _ => exact (before last reached).exec

end Moves

/-! ### Steps that lose nothing -/

/-- The script goes through on a new id: Lua represents the amount and neither
counter overflows. -/
def Redis.Inserts (redis : Redis) (amount : Int) : Prop :=
  amount.natAbs ≤ 2 ^ 53 ∧ (incrBy redis.pendingAtomic amount).isSome = true ∧
    (incrBy redis.pendingCount 1).isSome = true

instance (redis : Redis) (amount : Int) : Decidable (redis.Inserts amount) :=
  inferInstanceAs (Decidable (_ ∧ _))

/-- What the answer to a command must be like for nothing to get lost. -/
def delivers (world : World) (stage : Thread → Stage) (thread : Thread) (outcome : Outcome) :
    Command → Prop
  | .enqueue id amount => world.redis.state id = none → outcome ≠ .refused →
      outcome = .ok ∧ world.redis.Inserts amount
  | .xadd _ _ _ _ => outcome ≠ .refused
  | .hsetState id state => outcome = .ok → state ≠ .pending → (stage thread).Handed id →
      (stage thread).hold ≠ .owner id → Unowned stage id
  | .tryMarkInFlight id => outcome = .ok → world.redis.state id ≠ some .pending →
      (stage thread).Handed id → Unowned stage id
  | .markSent id _ => (stage thread).Handed id →
      Unowned stage id ∧ (outcome = .refused → world.redis.state id ≠ some .pending)
  | _ => True

/-- The step loses nothing: a slot that is claimed gets its entry, and an entry is
given up only when no other thread still owns its id. -/
def Delivers (pool : Pool Thread World Command Reply Stage) :
    Action Thread Answer (Event Signature) → Prop
  | .step thread answer => ∀ command ∈ pool.next? thread,
      delivers pool.world pool.stage thread answer.outcome command
  | .restart thread => (pool.stage thread).hold.Settles
  | .event event => event ≠ .wipe

section Decide

instance (stage : Stage) (id : RedemptionId) : Decidable (stage.Handed id) :=
  inferInstanceAs (Decidable (∃ entry ∈ stage.known, entry.id = id))

instance [Fintype Thread] (stage : Thread → Stage) (id : RedemptionId) :
    Decidable (Unowned stage id) :=
  inferInstanceAs (Decidable (∀ thread, ¬ (stage thread).hold = .owner id))

instance [Fintype Thread] (world : World) (stage : Thread → Stage) (thread : Thread)
    (outcome : Outcome) (command : Command) :
    Decidable (delivers world stage thread outcome command) := by
  cases command with
  | enqueue => exact inferInstanceAs (Decidable (_ → _ → _))
  | xadd => exact inferInstanceAs (Decidable (_ ≠ _))
  | hsetState => exact inferInstanceAs (Decidable (_ → _ → _ → _ → _))
  | tryMarkInFlight => exact inferInstanceAs (Decidable (_ → _ → _ → _))
  | markSent => exact inferInstanceAs (Decidable (_ → _))
  | _ => exact isTrue trivial

instance [Fintype Thread] (pool : Pool Thread World Command Reply Stage) :
    ∀ action : Action Thread Answer (Event Signature), Decidable (Delivers pool action)
  | .step _ _ => inferInstanceAs (Decidable (∀ command ∈ _, _))
  | .restart _ => inferInstanceAs (Decidable (Hold.Settles _))
  | .event .wipe => isFalse fun noWipe => noWipe rfl
  | .event (.mined _ _) => isTrue nofun
  | .event (.l2 _ _) => isTrue nofun

end Decide

/-! ### One step -/

section Step

variable [DecidableEq Thread] {lua : Lua} {enclave : Address} {poller : EventPoller}
  {world : World} {stage : Thread → Stage} {thread : Thread} {command : Command}
  {answer : Answer} {id : RedemptionId}

theorem owns_step_cases {other : Thread}
    (owns : Owns (stagesAfter poller stage thread command
      (exec lua enclave world command answer).2) other id) :
    Owns stage other id ∨
      command = .tryMarkInFlight id ∧ world.redis.state id = some .pending := by
  by_cases same : other = thread
  · subst same
    rw [Owns, stagesAfter, Function.update_self] at owns
    generalize replied : (exec lua enclave world command answer).2 = reply at owns
    rcases stageAfter_hold (by simp) owns with kept | gains
    · exact Or.inl kept
    · cases gains with
      | claimed id checked =>
          exact Or.inr ⟨rfl, (exec_tryMarkInFlight_true lua enclave world answer replied).2⟩
  · rw [Owns, stagesAfter, Function.update_of_ne same] at owns
    exact Or.inl owns

/-- **What is retired stays retired.** -/
theorem Retired.step (retired : Retired world stage id) (permitted : permits (stage thread) command) :
    Retired (exec lua enclave world command answer).1
      (stagesAfter poller stage thread command (exec lua enclave world command answer).2) id where
  closed claimable := by
    rcases exec_claimable_cases claimable with before | rfl
    · exact retired.closed before
    · exact retired.unowned thread permitted
  unowned other owns := by
    rcases owns_step_cases owns with before | ⟨rfl, pending⟩
    · exact retired.unowned other before
    · exact retired.closed (Or.inr pending)

/-- Nobody else owns the id, and the state says it cannot be claimed. -/
theorem retired_of_settled {reply : Reply command} {after : World}
    (settled : (stageAfter poller (stage thread) command reply).hold = .settled id)
    (others : ∀ other, other ≠ thread → ¬ Owns stage other id) (closed : ¬ after.Claimable id) :
    Retired after (stagesAfter poller stage thread command reply) id where
  closed := closed
  unowned other owns := by
    by_cases same : other = thread
    · subst same
      rw [Owns, stagesAfter, Function.update_self, settled] at owns
      cases owns
    · rw [Owns, stagesAfter, Function.update_of_ne same] at owns
      exact others other same owns

theorem not_claimable_of_state {after : World} {state : Option RedemptionState}
    (found : after.redis.state id = state) (present : state ≠ none)
    (other : state ≠ some .pending) : ¬ after.Claimable id := by
  rintro (absent | pending)
  · exact present (found.symm.trans absent)
  · exact other (found.symm.trans pending)

theorem retired_of_gains (exclusive : ExclusiveClaims world stage)
    (permitted : permits (stage thread) command)
    (present : world.redis.state id ≠ none) (handed : (stage thread).Handed id)
    (keeps : delivers world stage thread answer.outcome command)
    (settled : (stageAfter poller (stage thread) command
      (exec lua enclave world command answer).2).hold = .settled id)
    (gains : Gains (stage thread).hold command (exec lua enclave world command answer).2
      (.settled id)) :
    Retired (exec lua enclave world command answer).1
      (stagesAfter poller stage thread command (exec lua enclave world command answer).2) id := by
  have states := exec_state lua enclave world command answer
  generalize replied : (exec lua enclave world command answer).2 = reply at settled gains ⊢
  cases gains with
  | wrote id state other notOwner =>
      have ok := exec_hsetState_some replied
      have unowned := keeps ok other handed notOwner
      have carriedOut : answer.outcome ≠ .refused := by rw [ok]; decide
      rw [if_neg carriedOut] at states
      refine retired_of_settled settled (fun other _ => unowned other) ?_
      refine not_claimable_of_state (congrFun states id) ?_ ?_
      · rw [Redis.stateAfter, Function.update_self]
        exact Option.some_ne_none _
      · rw [Redis.stateAfter, Function.update_self]
        exact fun pending => other (Option.some.inj pending)
  | taken id =>
      obtain ⟨ok, taken⟩ := exec_tryMarkInFlight_false replied
      have unowned := keeps ok taken handed
      have carriedOut : answer.outcome ≠ .refused := by rw [ok]; decide
      rw [if_neg carriedOut, Redis.stateAfter, if_neg taken] at states
      refine retired_of_settled settled (fun other _ => unowned other) ?_
      exact not_claimable_of_state (congrFun states id) present taken
  | paid id amount address reply =>
      have owner : Owns stage thread id := permitted.1
      rw [show world.redis.stateAfter (.transfer id amount address) = world.redis.state from rfl,
        ite_self] at states
      refine retired_of_settled settled
        (fun other distinct owns => distinct (exclusive.unique other thread id owns owner)) ?_
      have closed := exclusive.closed thread id owner
      unfold World.Claimable at closed ⊢
      rwa [states]
  | sent id txid reply =>
      obtain ⟨unowned, written⟩ := keeps handed
      refine retired_of_settled settled (fun other _ => unowned other) ?_
      by_cases refused : answer.outcome = .refused
      · rw [if_pos refused] at states
        exact not_claimable_of_state (congrFun states id) present (written refused)
      · rw [if_neg refused] at states
        refine not_claimable_of_state (congrFun states id) ?_ ?_ <;>
          simp [Redis.stateAfter]

/-- Someone may come to need an entry of `id`. -/
def Needed (world : World) (stage : Thread → Stage) (id : RedemptionId) : Prop :=
  world.redis.state id = some .pending ∨ ∃ thread, Owns stage thread id

omit [DecidableEq Thread] in
theorem Retired.not_needed (retired : Retired world stage id) : ¬ Needed world stage id := by
  rintro (pending | ⟨thread, owns⟩)
  · exact retired.closed (Or.inr pending)
  · exact retired.unowned thread owns

theorem exec_absent_cases (absent : world.redis.state id = none)
    (pending : (exec lua enclave world command answer).1.redis.state id = some .pending) :
    answer.outcome ≠ .refused ∧ ((∃ amount, command = .enqueue id amount) ∨
      (∃ state, command = .hsetnxState id state) ∨ command = .hsetState id .pending) := by
  rcases exec_state_eq pending with before | ⟨carriedOut, writes⟩
  · cases absent.symm.trans before
  · refine ⟨carriedOut, ?_⟩
    cases command with
    | hsetState =>
        cases writes
        exact Or.inr (Or.inr rfl)
    | hsetnxState written state =>
        cases (Option.ite_none_right_eq_some.1 writes).2
        exact Or.inr (Or.inl ⟨_, rfl⟩)
    | enqueue written amount =>
        cases (Option.ite_none_right_eq_some.1 writes).2
        exact Or.inl ⟨amount, rfl⟩
    | tryMarkInFlight => cases (Option.ite_none_right_eq_some.1 writes).2
    | _ => cases writes

theorem needed_cases (exclusive : ExclusiveClaims world stage)
    (permitted : permits (stage thread) command)
    (needed : Needed (exec lua enclave world command answer).1
      (stagesAfter poller stage thread command (exec lua enclave world command answer).2) id) :
    Needed world stage id ∨ ∃ amount, command = .enqueue id amount ∧
      world.redis.state id = none ∧ answer.outcome ≠ .refused := by
  rcases needed with pending | ⟨other, owns⟩
  · rcases exec_claimable_cases (Or.inr pending) with (absent | before) | rfl
    · obtain ⟨carriedOut, ⟨amount, rfl⟩ | ⟨state, rfl⟩ | rfl⟩ := exec_absent_cases absent pending
      · exact Or.inr ⟨amount, rfl, absent, carriedOut⟩
      · exact absurd (Or.inl absent) (exclusive.closed thread id permitted)
      · exact absurd (Or.inl absent) (exclusive.closed thread id permitted)
    · exact Or.inl (Or.inl before)
    · exact Or.inl (Or.inr ⟨thread, permitted⟩)
  · rcases owns_step_cases owns with before | ⟨_, pending⟩
    · exact Or.inl (Or.inr ⟨other, before⟩)
    · exact Or.inl (Or.inl pending)

theorem exec_enqueue_inserts {amount : Int} (ok : answer.outcome = .ok)
    (absent : world.redis.state id = none) (inserts : world.redis.Inserts amount) :
    (exec lua enclave world (.enqueue id amount) answer).2 = some true := by
  obtain ⟨exact, atomic, count⟩ := inserts
  obtain ⟨total, atomic⟩ := Option.isSome_iff_exists.1 atomic
  obtain ⟨number, count⟩ := Option.isSome_iff_exists.1 count
  rw [exec, World.onRedis_reply, if_pos ok]
  simp only [Redis.enqueueScript, absent, Redis.setState, lua.exact amount exact,
    Option.bind_some, atomic, count]

theorem not_needed_of_xack {entry : StreamEntry} (exclusive : ExclusiveClaims world stage)
    (retired : (stage thread).hold = .settled entry.id → (stage thread).Handed entry.id →
      Retired world stage entry.id)
    (permitted : permits (stage thread) (.xack entry)) :
    ¬ Needed (exec lua enclave world (.xack entry) answer).1
      (stagesAfter poller stage thread (.xack entry)
        (exec lua enclave world (.xack entry) answer).2) entry.id := by
  rcases permitted.1 with owner | settled
  · have closed := exclusive.closed thread entry.id owner
    rintro (pending | ⟨other, owns⟩)
    · exact closed ((exec_claimable_cases (Or.inr pending)).resolve_right (by simp))
    · obtain ⟨distinct, owned⟩ := owns_update_ne (fun _ => by simp [stageAfter]) owns
      exact distinct (exclusive.unique other thread entry.id owned owner)
  · exact ((retired settled ⟨entry, permitted.2, rfl⟩).step permitted).not_needed

/-- What makes deliveries reliable: the stream and the state hash describe the
same ids, and whoever may acknowledge an entry has retired its id. -/
structure Delivery (poller : EventPoller) (world : World) (stage : Thread → Stage) : Prop where
  ordered : world.redis.Ordered
  enqueued : ∀ entry ∈ world.redis.stream, world.redis.state entry.id ≠ none
  known : ∀ thread, ∀ entry ∈ (stage thread).known, entry ∈ world.redis.stream
  inserting : ∀ thread id, (stage thread).hold = .inserting id → world.redis.state id ≠ none
  cursor : ∀ id, world.redis.cursor = some id → world.redis.Covered poller.startCursor id.val
  reached : ∀ thread last, (stage thread).reached = some last →
    world.redis.Covered poller.startCursor last
  retired : ∀ thread id, (stage thread).hold = .settled id → (stage thread).Handed id →
    Retired world stage id
  served : ∀ id, Needed world stage id → Served world.redis stage id

omit [DecidableEq Thread] in
theorem Delivery.present (delivery : Delivery poller world stage)
    (handed : (stage thread).Handed id) : world.redis.state id ≠ none := by
  obtain ⟨entry, known, rfl⟩ := handed
  exact delivery.enqueued entry (delivery.known thread entry known)

theorem stagesAfter_self {reply : Reply command} :
    stagesAfter poller stage thread command reply thread =
      stageAfter poller (stage thread) command reply :=
  Function.update_self ..

theorem stagesAfter_of_ne {reply : Reply command} {other : Thread} (distinct : other ≠ thread) :
    stagesAfter poller stage thread command reply other = stage other :=
  Function.update_of_ne distinct ..

/-- An unacknowledged entry of an id that is needed stays unacknowledged. -/
theorem served_by_entry (delivery : Delivery poller world stage)
    (exclusive : ExclusiveClaims world stage) (permitted : permits (stage thread) command)
    (needed : Needed (exec lua enclave world command answer).1
      (stagesAfter poller stage thread command (exec lua enclave world command answer).2) id)
    {entry : StreamEntry} (same : entry.id = id) (unacked : world.redis.Unacknowledged entry) :
    (exec lua enclave world command answer).1.redis.Unacknowledged entry := by
  rw [exec_redis]
  split
  · exact unacked
  · apply unacked.command delivery.ordered lua
    intro acked isAck number
    subst isAck
    have member := delivery.known thread acked permitted.2
    obtain rfl := delivery.ordered.entry_eq member unacked.1 number
    subst same
    exact not_needed_of_xack exclusive (delivery.retired thread acked.id) permitted needed

theorem served_step (delivery : Delivery poller world stage)
    (exclusive : ExclusiveClaims world stage) (permitted : permits (stage thread) command)
    (keeps : delivers world stage thread answer.outcome command)
    (needed : Needed (exec lua enclave world command answer).1
      (stagesAfter poller stage thread command (exec lua enclave world command answer).2) id) :
    Served (exec lua enclave world command answer).1.redis
      (stagesAfter poller stage thread command (exec lua enclave world command answer).2) id := by
  rcases needed_cases exclusive permitted needed with before | ⟨amount, rfl, absent, carriedOut⟩
  · rcases delivery.served id before with ⟨entry, same, unacked⟩ | ⟨other, inserting⟩
    · exact Or.inl ⟨entry, same,
        served_by_entry delivery exclusive permitted needed same unacked⟩
    · by_cases self : other = thread
      · subst self
        rcases inserting_kept permitted inserting with kept | ⟨sender, amount, xmrAddr, rfl⟩
        · exact Or.inr ⟨other, by rw [stagesAfter_self]; exact kept⟩
        · -- The entry it owed is appended.
          have appended :=
            Redis.xadd_unacknowledged delivery.ordered id sender amount xmrAddr
          refine Or.inl ⟨_, ?_, by rw [exec_redis, if_neg keeps]; exact appended⟩
          rfl
      · exact Or.inr ⟨other, by rw [stagesAfter_of_ne self]; exact inserting⟩
  · obtain ⟨ok, inserts⟩ := keeps absent carriedOut
    refine Or.inr ⟨thread, ?_⟩
    rw [stagesAfter_self, exec_enqueue_inserts ok absent inserts]
    rfl

/-- **The step lemma.** -/
theorem Delivery.step (delivery : Delivery poller world stage)
    (exclusive : ExclusiveClaims world stage) (permitted : permits (stage thread) command)
    (keeps : delivers world stage thread answer.outcome command) :
    Delivery poller (exec lua enclave world command answer).1
      (stagesAfter poller stage thread command (exec lua enclave world command answer).2) where
  ordered := by
    rw [exec_redis]
    split
    · exact delivery.ordered
    · exact delivery.ordered.command lua command
  enqueued entry member := by
    refine exec_present ?_
    rw [exec_redis] at member
    split at member
    · exact delivery.enqueued entry member
    · rcases Redis.mem_after_stream member with before | rfl
      · exact delivery.enqueued entry before
      · exact delivery.inserting thread entry.id permitted
  known other entry member := by
    by_cases self : other = thread
    · subst self
      rw [stagesAfter_self] at member
      rcases known_cases member with before | inStream
      · exact mem_stream_exec (delivery.known other entry before)
      · exact mem_stream_exec inStream
    · rw [stagesAfter_of_ne self] at member
      exact mem_stream_exec (delivery.known other entry member)
  inserting other id inserting := by
    by_cases self : other = thread
    · subst self
      rw [stagesAfter_self] at inserting
      generalize replied : (exec lua enclave world command answer).2 = reply at inserting
      rcases stageAfter_hold (by simp) inserting with kept | gains
      · exact exec_present (delivery.inserting other id kept)
      · cases gains with
        | inserted id amount => exact exec_enqueue_some replied
    · rw [stagesAfter_of_ne self] at inserting
      exact exec_present (delivery.inserting other id inserting)
  cursor id found := by
    refine Redis.Covered.exec ?_
    rw [exec_redis] at found
    split at found
    · exact delivery.cursor id found
    · rcases Redis.after_cursor_cases found with before | rfl
      · exact delivery.cursor id before
      · exact delivery.reached thread id.val permitted
  reached other last reached := by
    by_cases self : other = thread
    · subst self
      rw [stagesAfter_self] at reached
      exact covered_of_reached (delivery.reached other) delivery.cursor reached
    · rw [stagesAfter_of_ne self] at reached
      exact (delivery.reached other last reached).exec
  retired other id settled handed := by
    by_cases self : other = thread
    · subst self
      rw [stagesAfter_self] at settled handed
      rw [Stage.Handed, known_of_hold permitted (by simp) settled] at handed
      rcases stageAfter_hold (by simp) settled with kept | gains
      · exact (delivery.retired other id kept handed).step permitted
      · exact retired_of_gains exclusive permitted (delivery.present handed) handed keeps settled
          gains
    · rw [stagesAfter_of_ne self] at settled handed
      exact (delivery.retired other id settled handed).step permitted
  served id needed := served_step delivery exclusive permitted keeps needed

end Step

/-! ### Runs -/

section Runs

variable [DecidableEq Thread] {poller : EventPoller} {world : World} {stage : Thread → Stage}
  {thread : Thread} {id : RedemptionId}

omit [DecidableEq Thread] in
theorem genesis_delivery (poller : EventPoller) (token : Token.State) :
    Delivery poller (World.genesis token) fun _ : Thread => Stage.free where
  ordered := Redis.empty_ordered 0
  enqueued _ := nofun
  known _ _ := nofun
  inserting _ _ := nofun
  cursor _ := nofun
  reached _ _ := nofun
  retired _ _ := nofun
  served id needed := by
    rcases needed with pending | ⟨thread, owns⟩
    · cases pending
    · cases owns

theorem restart_of_hold {hold : Hold} {other : Thread} (bound : hold ≠ .free)
    (holds : (Function.update stage thread Stage.free other).hold = hold) :
    other ≠ thread ∧ (stage other).hold = hold := by
  by_cases self : other = thread
  · subst self
    rw [Function.update_self] at holds
    exact absurd holds.symm bound
  · rw [Function.update_of_ne self] at holds
    exact ⟨self, holds⟩

theorem Delivery.restart (delivery : Delivery poller world stage)
    (settles : (stage thread).hold.Settles) :
    Delivery poller world (Function.update stage thread Stage.free) where
  ordered := delivery.ordered
  enqueued := delivery.enqueued
  known other entry member := by
    by_cases self : other = thread
    · subst self
      rw [Function.update_self] at member
      cases member
    · rw [Function.update_of_ne self] at member
      exact delivery.known other entry member
  inserting other id inserting :=
    delivery.inserting other id (restart_of_hold (by simp) inserting).2
  cursor := delivery.cursor
  reached other last reached := by
    by_cases self : other = thread
    · subst self
      rw [Function.update_self] at reached
      cases reached
    · rw [Function.update_of_ne self] at reached
      exact delivery.reached other last reached
  retired other id settled handed := by
    obtain ⟨distinct, settled⟩ := restart_of_hold (by simp) settled
    rw [Function.update_of_ne distinct] at handed
    have retired := delivery.retired other id settled handed
    exact ⟨retired.closed, fun owner owns =>
      retired.unowned owner (restart_of_hold (by simp) owns).2⟩
  served id needed := by
    have before : Needed world stage id :=
      needed.imp_right fun ⟨owner, owns⟩ => ⟨owner, (restart_of_hold (by simp) owns).2⟩
    refine (delivery.served id before).imp_right fun ⟨producer, inserting⟩ => ⟨producer, ?_⟩
    have distinct : producer ≠ thread := by
      rintro rfl
      exact settles id inserting
    rw [Function.update_of_ne distinct]
    exact inserting

omit [DecidableEq Thread] in
theorem Delivery.of_redis {after : World} (delivery : Delivery poller world stage)
    (same : after.redis = world.redis) : Delivery poller after stage := by
  have retired : ∀ id, Retired world stage id → Retired after stage id := by
    intro id retired
    refine ⟨?_, retired.unowned⟩
    unfold World.Claimable
    rw [same]
    exact retired.closed
  obtain ⟨ordered, enqueued, known, inserting, cursor, reached, settled, served⟩ := delivery
  unfold Needed at served
  rw [← same] at ordered enqueued known inserting cursor reached served
  exact ⟨ordered, enqueued, known, inserting, cursor, reached,
    fun thread id holds handed => retired id (settled thread id holds handed), served⟩

omit [DecidableEq Thread] in
theorem Delivers.noWipe {pool : Pool Thread World Command Reply Stage}
    {action : Action Thread Answer (Event Signature)} (delivers : Delivers pool action) :
    NoWipe action := by
  rintro rfl
  exact delivers rfl

theorem delivery_invariant (deployment : Deployment Thread Signature) :
    Invariant deployment.machine (claimDiscipline deployment.poller) Delivers
      fun world stage => SinglePayout world stage ∧ Delivery deployment.poller world stage where
  step pool thread answer command next world reply code permitted answered keeps now := by
    refine ⟨(singlePayout_invariant deployment).step pool thread answer command next world reply
      code permitted answered keeps.noWipe now.1, ?_⟩
    obtain ⟨rfl, rfl⟩ := deployment.machine_exec answered
    have asks : command ∈ pool.next? thread := by rw [Pool.next?, code]; rfl
    exact now.2.step now.1.exclusive permitted (keeps command asks)
  restart pool thread settles now :=
    ⟨(singlePayout_invariant deployment).restart pool thread (Delivers.noWipe settles) now.1,
      now.2.restart settles⟩
  event pool event noWipe now := by
    refine ⟨(singlePayout_invariant deployment).event pool event (Delivers.noWipe noWipe) now.1,
      now.2.of_redis ?_⟩
    cases event with
    | wipe => exact absurd rfl noWipe
    | mined position height => rfl
    | l2 sender call => rfl

/-- **No redemption is lost** in any run whose steps lose nothing: the ids the
cursor has passed are enqueued, and an id that is `pending` has an unacknowledged
entry, unless a producer is about to append it. -/
theorem no_redemption_lost (deployment : Deployment Thread Signature) (token : Token.State)
    (actions : List (Action Thread Answer (Event Signature)))
    (delivers : Along deployment.move Delivers (deployment.start (World.genesis token)) actions) :
    let pool := run deployment.move (deployment.start (World.genesis token)) actions
    (∀ cursor, pool.world.redis.cursor = some cursor →
      ∀ id : RedemptionId, max 1 deployment.poller.startBlock ≤ id.val → id ≤ cursor →
        pool.world.redis.state id ≠ none) ∧
    (∀ id, pool.world.redis.state id = some .pending →
      (∀ thread, (pool.stage thread).hold ≠ .inserting id) →
        ∃ entry, entry.id = id ∧ pool.world.redis.Unacknowledged entry) := by
  intro pool
  have delivery := (Deployment.run_keeps (delivery_invariant deployment) delivers
    ⟨genesis_singlePayout token, genesis_delivery deployment.poller token⟩).2
  refine ⟨fun cursor found id first upTo => ?_, fun id pending settled => ?_⟩
  · refine delivery.cursor cursor found id ?_ upTo
    rw [EventPoller.startCursor]
    omega
  · rcases delivery.served id (Or.inl pending) with entry | ⟨thread, inserting⟩
    · exact entry
    · exact absurd inserting (settled thread)

end Runs

/-- Redemption 1 is enqueued, claimed and rolled back, as there is no snapshot. -/
def rolledBack : List SampleAction :=
  pollOne ++ steps .consumer
    (List.replicate 10 { height := some 100, history := some ⟨[], [], []⟩ })

theorem no_redemption_lost_rolledBack :
    let pool := run sample.move (sample.start (World.genesis sampleToken)) rolledBack
    pool.world.redis.cursor = some 1 ∧ pool.world.redis.state 1 = some .pending ∧
      ∃ entry, entry.id = 1 ∧ pool.world.redis.Unacknowledged entry := by
  intro pool
  have pending : pool.world.redis.state 1 = some .pending := by decide
  have settled : ∀ thread, (pool.stage thread).hold ≠ .inserting 1 := by decide
  exact ⟨by decide, pending,
    (no_redemption_lost sample sampleToken rolledBack (by decide)).2 1 pending settled⟩

/-- The poller dies between the script that claims the slot of redemption 1 and
the `XADD`. Its next tick finds the slot taken and moves the cursor past it. -/
def insertCrash : List SampleAction :=
  steps .poller (List.replicate 4 {}) ++ [.restart .poller] ++
    steps .poller (List.replicate 5 {})

theorem insertCrash_loses :
    let pool := run sample.move (sample.start (World.genesis sampleToken)) insertCrash
    pool.world.redis.cursor = some 1 ∧ pool.world.redis.state 1 = some .pending ∧
      (∀ thread, (pool.stage thread).hold ≠ .inserting 1) ∧
      ¬ ∃ entry, entry.id = 1 ∧ pool.world.redis.Unacknowledged entry := by
  intro pool
  have empty : pool.world.redis.stream = [] := by decide
  refine ⟨by decide, by decide, by decide, ?_⟩
  rintro ⟨entry, _, member, _⟩
  rw [empty] at member
  cases member

end CrFaucet.Redemption
