import CrFaucet.Redemption.System

/-!
Owns the claim discipline every redemption service follows, and the proof that
each of them does.

The stage of a thread says what it may rely on:

* `checked id`: it has just scanned the wallet history and found no payment;
* `owner id`: it moved `id` from `pending` to `in_flight` itself;
* `settled id`: it may acknowledge entries of `id`;
* `inserting id`: it claimed the slot of `id` and has yet to append the entry.

Only an owner writes `pending` back or asks the wallet to pay, and the amount it
asks for carries the stamp. Only an owner or a settled thread acknowledges, and
only entries it was handed. The cursor moves only to ids that were reached one
by one from where it stood.

Does not own what these stages imply for the world; see `Redemption.SinglePayout`,
`Redemption.WipeSafety` and `Redemption.NoLoss`.
-/

set_option autoImplicit false

namespace CrFaucet.Redemption

open Interaction

inductive Hold where
  | free
  | checked (id : RedemptionId)
  | owner (id : RedemptionId)
  | settled (id : RedemptionId)
  | inserting (id : RedemptionId)
deriving DecidableEq

/-- The stage of a thread: its hold, the entries it was handed, and the last id
it knows to be enqueued along with all before it. -/
structure Stage where
  hold : Hold
  known : List StreamEntry
  reached : Option Nat

namespace Stage

def free : Stage where
  hold := .free
  known := []
  reached := none

def withHold (stage : Stage) (hold : Hold) : Stage := { stage with hold := hold }

@[simp] theorem withHold_hold (stage : Stage) (hold : Hold) :
    (stage.withHold hold).hold = hold := rfl

def learn (stage : Stage) (entries : Option (List StreamEntry)) : Stage :=
  { stage with known := stage.known ++ entries.getD [] }

/-- `enqueue id` came back without an error. -/
def advance (stage : Stage) (id : RedemptionId) : Stage :=
  { stage with reached := stage.reached.map fun last => if id.val = last + 1 then id.val else last }

end Stage

/-- The thread does not owe the stream an entry. -/
def Hold.Settles (hold : Hold) : Prop := ∀ id, hold ≠ .inserting id

instance : (hold : Hold) → Decidable hold.Settles
  | .free => isTrue nofun
  | .checked _ => isTrue nofun
  | .owner _ => isTrue nofun
  | .settled _ => isTrue nofun
  | .inserting id => isFalse fun settles => settles id rfl

def permits (stage : Stage) : Command → Prop
  | .xautoclaim => stage.hold = .free
  | .xreadgroup => stage.hold = .free
  | .hsetState id .pending => stage.hold = .owner id
  | .hsetState _ _ => stage.hold.Settles
  | .hsetnxState id _ => stage.hold = .owner id
  | .enqueue _ _ => stage.hold.Settles
  | .tryMarkInFlight _ => stage.hold.Settles
  | .markSent _ _ => stage.hold.Settles
  | .getTransfers _ _ => stage.hold.Settles
  | .transfer id amount _ =>
      stage.hold = .owner id ∧ 0 < amount ∧ matchesStamp amount id = true
  | .xack entry =>
      (stage.hold = .owner entry.id ∨ stage.hold = .settled entry.id) ∧ entry ∈ stage.known
  | .xadd id _ _ _ => stage.hold = .inserting id
  | .setCursor id => stage.reached = some id.val
  | _ => True

/-- The hold after a write of `state` that is not a rollback. -/
def holdAfterWrite (hold : Hold) (id : RedemptionId) (reply : Option Unit) : Hold :=
  if hold = .owner id then hold
  else if reply.isSome then .settled id else .free

def stageAfter (poller : EventPoller) (stage : Stage) :
    (command : Command) → Reply command → Stage
  | .xautoclaim, entries => stage.learn entries
  | .xreadgroup, entries => stage.learn entries
  | .xack _, _ => stage.withHold .free
  | .hsetState _ .pending, _ => stage.withHold .free
  | .hsetState id _, reply => stage.withHold (holdAfterWrite stage.hold id reply)
  | .enqueue _ _, none => stage.withHold .free
  | .enqueue id _, some true => (stage.advance id).withHold (.inserting id)
  | .enqueue id _, some false => (stage.advance id).withHold .free
  | .xadd _ _ _ _, _ => stage.withHold .free
  | .tryMarkInFlight id, some true =>
      stage.withHold (if stage.hold = .checked id then .owner id else .free)
  | .tryMarkInFlight id, some false => stage.withHold (.settled id)
  | .tryMarkInFlight _, none => stage.withHold .free
  | .markSent id _, _ => stage.withHold (.settled id)
  | .getTransfers id minHeight, history =>
      stage.withHold (if scanResult history id minHeight = .clean then .checked id else .free)
  | .transfer _ _ _, .rejected _ _ => stage
  | .transfer id _ _, _ => stage.withHold (.settled id)
  | .getCursor, none => stage
  | .getCursor, some stored =>
      { stage with reached := some ((stored.map Fin.val).getD poller.startCursor) }
  | _, _ => stage

/-- The replies that give a thread a new hold. -/
inductive Gains (hold : Hold) : (command : Command) → Reply command → Hold → Prop
  | wrote (id : RedemptionId) (state : RedemptionState) (other : state ≠ .pending)
      (notOwner : hold ≠ .owner id) : Gains hold (.hsetState id state) (some ()) (.settled id)
  | scanned (id : RedemptionId) (minHeight : Nat) (history : Option WalletHistory)
      (clean : scanResult history id minHeight = .clean) :
      Gains hold (.getTransfers id minHeight) history (.checked id)
  | claimed (id : RedemptionId) (checked : hold = .checked id) :
      Gains hold (.tryMarkInFlight id) (some true) (.owner id)
  | taken (id : RedemptionId) : Gains hold (.tryMarkInFlight id) (some false) (.settled id)
  | paid (id : RedemptionId) (amount : Nat) (address : String) (reply : TransferReply) :
      Gains hold (.transfer id amount address) reply (.settled id)
  | sent (id : RedemptionId) (txid : String) (reply : Option Unit) :
      Gains hold (.markSent id txid) reply (.settled id)
  | inserted (id : RedemptionId) (amount : Int) :
      Gains hold (.enqueue id amount) (some true) (.inserting id)

/-- **Inversion for the hold**: kept, dropped or gained. -/
theorem stageAfter_hold_cases (poller : EventPoller) (stage : Stage) (command : Command)
    (reply : Reply command) :
    (stageAfter poller stage command reply).hold = stage.hold ∨
      (stageAfter poller stage command reply).hold = .free ∨
      Gains stage.hold command reply (stageAfter poller stage command reply).hold := by
  cases command with
  | xack | xadd => exact Or.inr (Or.inl rfl)
  | hsetState id state =>
      cases state with
      | pending => exact Or.inr (Or.inl rfl)
      | _ =>
          simp only [stageAfter, Stage.withHold_hold, holdAfterWrite]
          split
          · exact Or.inl rfl
          · cases reply with
            | none => exact Or.inr (Or.inl rfl)
            | some _ => exact Or.inr (Or.inr (.wrote id _ (by decide) ‹_›))
  | enqueue id amount =>
      cases reply with
      | none => exact Or.inr (Or.inl rfl)
      | some inserted =>
          cases inserted with
          | false => exact Or.inr (Or.inl rfl)
          | true => exact Or.inr (Or.inr (.inserted id amount))
  | tryMarkInFlight id =>
      cases reply with
      | none => exact Or.inr (Or.inl rfl)
      | some granted =>
          cases granted with
          | false => exact Or.inr (Or.inr (.taken id))
          | true =>
              simp only [stageAfter, Stage.withHold_hold]
              split
              · exact Or.inr (Or.inr (.claimed id ‹_›))
              · exact Or.inr (Or.inl rfl)
  | markSent id txid => exact Or.inr (Or.inr (.sent id txid reply))
  | getTransfers id minHeight =>
      simp only [stageAfter, Stage.withHold_hold]
      split
      · exact Or.inr (Or.inr (.scanned id minHeight reply ‹_›))
      · exact Or.inr (Or.inl rfl)
  | transfer id amount address =>
      cases reply with
      | rejected code message => exact Or.inl rfl
      | _ => exact Or.inr (Or.inr (.paid id amount address _))
  | getCursor => cases reply <;> exact Or.inl rfl
  | _ => exact Or.inl rfl

theorem stageAfter_hold {poller : EventPoller} {stage : Stage} {command : Command}
    {reply : Reply command} {hold : Hold} (bound : hold ≠ .free)
    (holds : (stageAfter poller stage command reply).hold = hold) :
    stage.hold = hold ∨ Gains stage.hold command reply hold := by
  rcases stageAfter_hold_cases poller stage command reply with kept | dropped | gains
  · exact Or.inl (kept.symm.trans holds)
  · exact absurd (holds.symm.trans dropped) bound
  · exact Or.inr (holds ▸ gains)

/-- The discipline of a deployment whose pollers are configured as `poller`. -/
def claimDiscipline (poller : EventPoller) : Discipline Command Reply Stage where
  start := Stage.free
  permits := permits
  after := stageAfter poller

theorem quiet_obeys {Result : Type} {program : Service Result}
    (asks : program.Asks Command.Quiet) (poller : EventPoller) (stage : Stage) :
    program.Obeys (claimDiscipline poller) stage fun after _ => after = stage := by
  refine asks.obeys ?_ ?_ rfl
  · intro stage command _ quiet
    cases command <;> trivial
  · intro stage command reply unchanged quiet
    cases command <;> first | exact unchanged | cases quiet

/-! ### The consumer obeys -/

section Consumer

variable {poller : EventPoller} {stage : Stage} {known : List StreamEntry} (payouts : Payouts)
  {entry : StreamEntry}

/-- How the body of the loop leaves the stage: a `continue` holds nothing. -/
def Leaves (known : List StreamEntry) (stage : Stage) (flow : Flow) : Prop :=
  stage.known = known ∧ (flow = .next → stage.hold = .free)

/-- The thread has been handed `entry` and holds `hold`. -/
structure InHand (known : List StreamEntry) (entry : StreamEntry) (hold : Hold) (stage : Stage) :
    Prop where
  hold_eq : stage.hold = hold
  known_eq : stage.known = known
  member : entry ∈ known

theorem InHand.settles {hold : Hold} (inHand : InHand known entry hold stage)
    (settles : hold.Settles) : stage.hold.Settles :=
  inHand.hold_eq ▸ settles

theorem InHand.withHold {hold : Hold} (inHand : InHand known entry hold stage) (other : Hold) :
    InHand known entry other (stage.withHold other) :=
  ⟨rfl, inHand.known_eq, inHand.member⟩

theorem ack_obeys {hold : Hold} (inHand : InHand known entry hold stage)
    (can : hold = .owner entry.id ∨ hold = .settled entry.id) :
    (ack entry).Obeys (claimDiscipline poller) stage (Leaves known) := by
  have permitted : permits stage (.xack entry) :=
    ⟨inHand.hold_eq ▸ can, inHand.known_eq ▸ inHand.member⟩
  apply obeys_call permitted
  intro reply
  cases reply with
  | none => exact ⟨inHand.known_eq, fun next => by cases next⟩
  | some _ => exact ⟨inHand.known_eq, fun _ => rfl⟩

theorem mark_obeys (txid : String) (restoreHeight : Nat) :
    (mark payouts entry txid restoreHeight).Obeys (claimDiscipline poller) stage
      fun after _ => after = stage := by
  unfold mark
  split
  · exact obeys_call trivial fun _ => rfl
  · rfl

theorem permits_write {state : RedemptionState} (settles : stage.hold.Settles)
    (other : state ≠ .pending) (id : RedemptionId) : permits stage (.hsetState id state) := by
  cases state with
  | pending => exact absurd rfl other
  | _ => exact settles

theorem stageAfter_write {state : RedemptionState} (other : state ≠ .pending) (id : RedemptionId)
    (reply : Option Unit) :
    (claimDiscipline poller).after stage (.hsetState id state) reply =
      stage.withHold (holdAfterWrite stage.hold id reply) := by
  cases state with
  | pending => exact absurd rfl other
  | _ => rfl

theorem holdAfterWrite_canAck (hold : Hold) (id : RedemptionId) :
    holdAfterWrite hold id (some ()) = .owner id ∨
      holdAfterWrite hold id (some ()) = .settled id := by
  unfold holdAfterWrite
  by_cases own : hold = .owner id
  · rw [if_pos own]
    exact Or.inl own
  · rw [if_neg own]
    exact Or.inr rfl

theorem dispose_obeys {hold : Hold} {state : RedemptionState}
    (inHand : InHand known entry hold stage) (settles : hold.Settles)
    (other : state ≠ .pending) :
    (dispose entry state).Obeys (claimDiscipline poller) stage (Leaves known) := by
  apply obeys_call (permits_write (inHand.settles settles) other _)
  intro reply
  rw [stageAfter_write other]
  cases reply with
  | none => exact ⟨inHand.known_eq, fun next => by cases next⟩
  | some _ => exact ack_obeys (inHand.withHold _) (holdAfterWrite_canAck _ _)

theorem rollBack_obeys (inHand : InHand known entry (.owner entry.id) stage) (flow : Flow) :
    (rollBack entry flow).Obeys (claimDiscipline poller) stage (Leaves known) := by
  apply obeys_call inHand.hold_eq
  intro reply
  cases reply with
  | none => exact ⟨inHand.known_eq, fun _ => rfl⟩
  | some _ => exact ⟨inHand.known_eq, fun _ => rfl⟩

theorem reconcile_obeys (inHand : InHand known entry .free stage) (txid : String)
    (confirmed : Bool) :
    (reconcile payouts entry txid confirmed).Obeys (claimDiscipline poller) stage
      (Leaves known) := by
  apply obeys_call (inHand.settles nofun)
  intro reply
  have settled := inHand.withHold (.settled entry.id)
  cases confirmed with
  | false => exact ack_obeys settled (Or.inr rfl)
  | true =>
      refine (mark_obeys payouts txid 0).bind ?_
      rintro _ _ rfl
      exact ack_obeys settled (Or.inr rfl)

theorem deferLocked_obeys (inHand : InHand known entry (.owner entry.id) stage) :
    (deferLocked entry).Obeys (claimDiscipline poller) stage (Leaves known) := by
  apply obeys_call (inHand.settles nofun)
  intro reply
  rw [stageAfter_write (by decide), holdAfterWrite, if_pos inHand.hold_eq]
  cases reply with
  | none => exact ⟨inHand.known_eq, fun next => by cases next⟩
  | some _ => exact ⟨inHand.hold_eq, fun _ => rollBack_obeys inHand .next⟩

theorem confirmPayout_obeys (inHand : InHand known entry (.settled entry.id) stage)
    (txHash : String) :
    (confirmPayout payouts entry txHash).Obeys (claimDiscipline poller) stage
      (Leaves known) := by
  apply obeys_call (inHand.settles nofun)
  intro reply
  have settled := inHand.withHold (.settled entry.id)
  cases reply with
  | none => exact ⟨inHand.known_eq, fun next => by cases next⟩
  | some _ =>
      dsimp only
      split
      · refine (quiet_obeys (waitConfirmed_quiet txHash _) _ _).bind ?_
        rintro _ result rfl
        split
        · refine (quiet_obeys oldestUnspentHeight_quiet _ _).bind ?_
          rintro _ height rfl
          refine (mark_obeys payouts txHash _).bind ?_
          rintro _ _ rfl
          exact ack_obeys settled (Or.inr rfl)
        · exact ack_obeys settled (Or.inr rfl)
      · exact ack_obeys settled (Or.inr rfl)

theorem rejectPayout_obeys (inHand : InHand known entry (.owner entry.id) stage)
    (code : Option Int) (message : Option String) :
    (rejectPayout payouts entry code message).Obeys (claimDiscipline poller) stage
      (Leaves known) := by
  unfold rejectPayout
  split
  · refine (mark_obeys payouts _ 0).bind ?_
    rintro _ _ rfl
    apply obeys_call (inHand.settles nofun)
    intro reply
    rw [stageAfter_write (by decide), holdAfterWrite, if_pos inHand.hold_eq]
    exact ack_obeys inHand (Or.inl rfl)
  · exact obeys_call inHand.hold_eq fun _ => ⟨inHand.known_eq, fun _ => rfl⟩

theorem transferPayout_obeys (inHand : InHand known entry (.owner entry.id) stage) {payout : Nat}
    (large : stampMod ≤ payout) :
    (transferPayout payouts entry payout).Obeys (claimDiscipline poller) stage
      (Leaves known) := by
  have permitted : permits stage
      (.transfer entry.id (stampAmount payout entry.id) entry.xmrAddr) :=
    ⟨inHand.hold_eq, stampAmount_pos _ large, matchesStamp_stampAmount _ large⟩
  apply obeys_call permitted
  intro reply
  cases reply with
  | failed => exact ⟨inHand.known_eq, fun next => by cases next⟩
  | rejected code message => exact rejectPayout_obeys payouts inHand code message
  | undecodable => exact ⟨inHand.known_eq, fun next => by cases next⟩
  | sent txHash => exact confirmPayout_obeys payouts (inHand.withHold _) txHash

theorem payAgainst_obeys (inHand : InHand known entry (.owner entry.id) stage)
    (snap : TreasurySnapshot) :
    (payAgainst payouts entry snap).Obeys (claimDiscipline poller) stage (Leaves known) := by
  apply obeys_call trivial
  intro reply
  cases reply with
  | none => exact ⟨inHand.known_eq, fun next => by cases next⟩
  | some pendingNow =>
      dsimp only
      split
      · exact dispose_obeys inHand nofun (by decide)
      · refine (mark_obeys payouts _ 0).bind ?_
        rintro _ _ rfl
        exact dispose_obeys inHand nofun (by decide)
      · exact deferLocked_obeys inHand
      · rename_i payout verdict
        exact transferPayout_obeys payouts inHand (assess_eq_pay verdict).2.1

theorem payClaimed_obeys (inHand : InHand known entry (.owner entry.id) stage) :
    (payClaimed payouts entry).Obeys (claimDiscipline poller) stage (Leaves known) := by
  apply obeys_call trivial
  intro stored
  split
  · exact rollBack_obeys inHand .stop
  · rename_i snap _
    apply obeys_call trivial
    intro time
    split
    · exact rollBack_obeys inHand .stop
    · exact payAgainst_obeys payouts inHand snap

theorem claimAndPay_obeys (inHand : InHand known entry (.checked entry.id) stage) :
    (claimAndPay payouts entry).Obeys (claimDiscipline poller) stage (Leaves known) := by
  apply obeys_call (inHand.settles nofun)
  intro reply
  cases reply with
  | none => exact ⟨inHand.known_eq, fun next => by cases next⟩
  | some claimed =>
      cases claimed with
      | false =>
          have settled := inHand.withHold (.settled entry.id)
          exact obeys_call trivial fun _ => ack_obeys settled (Or.inr rfl)
      | true =>
          have owner : (claimDiscipline poller).after stage (.tryMarkInFlight entry.id)
              (some true) = stage.withHold (.owner entry.id) :=
            congrArg stage.withHold (if_pos inHand.hold_eq)
          rw [owner]
          exact payClaimed_obeys payouts (inHand.withHold _)

/-- A clean scan leaves the thread `checked`, any other one `free`. -/
theorem findPaidTx_obeys (inHand : InHand known entry .free stage) :
    (findPaidTx entry.id).Obeys (claimDiscipline poller) stage fun stage scan =>
      InHand known entry (if scan = .clean then .checked entry.id else .free) stage := by
  apply obeys_call trivial
  intro height
  apply obeys_call (inHand.settles nofun)
  intro history
  exact inHand.withHold _

theorem checkProcessed_obeys :
    (checkProcessed payouts entry).Obeys (claimDiscipline poller) stage
      fun after _ => after = stage := by
  unfold checkProcessed
  split
  · exact ⟨trivial, fun _ => rfl⟩
  · rfl

theorem drainEntry_obeys (inHand : InHand known entry .free stage) :
    (drainEntry payouts entry).Obeys (claimDiscipline poller) stage (Leaves known) := by
  unfold drainEntry
  split
  · exact dispose_obeys inHand nofun (by decide)
  · refine (checkProcessed_obeys payouts).bind ?_
    rintro _ processed rfl
    split
    · exact ⟨inHand.known_eq, fun next => by cases next⟩
    · exact dispose_obeys inHand nofun (by decide)
    · apply (findPaidTx_obeys inHand).bind
      intro stage scan inHand
      cases scan with
      | failed => exact ⟨inHand.known_eq, fun next => by cases next⟩
      | paid txid confirmed => exact reconcile_obeys payouts inHand txid confirmed
      | clean => exact claimAndPay_obeys payouts inHand

theorem payoutsMain_obeys :
    (payoutsMain payouts).Obeys (claimDiscipline poller) Stage.free fun _ _ => True := by
  apply obeys_call trivial
  intro _
  -- What is left to drain was handed out, and nothing is held.
  refine (drainOnce_rule (fun stage entries => stage.hold = .free ∧ entries ⊆ stage.known) ?_ rfl
    (fun _ => rfl) fun _ _ => ⟨rfl, List.Subset.refl _⟩).bind fun _ _ _ => trivial
  rintro stage entry rest ⟨free, handed⟩
  apply (drainEntry_obeys payouts ⟨free, rfl, handed List.mem_cons_self⟩).weaken
  intro after flow leaves next
  rw [leaves.1]
  exact ⟨leaves.2 next, List.Subset.trans (List.subset_cons_self entry rest) handed⟩

end Consumer

/-! ### The producer obeys -/

section Producer

variable (poller : EventPoller) {stage : Stage}

theorem enqueueRedemption_obeys (id : RedemptionId) (evmFrom : Token.Address) (atomicAmount : Int)
    (xmrAddr : String) (free : stage.hold = .free) :
    (enqueueRedemption id evmFrom atomicAmount xmrAddr).Obeys (claimDiscipline poller) stage
      fun after result => result ≠ none →
        after.hold = .free ∧ after.reached = (stage.advance id).reached := by
  have settles : stage.hold.Settles := free ▸ nofun
  apply obeys_call settles
  intro reply
  cases reply with
  | none => exact fun failed => absurd rfl failed
  | some inserted =>
      cases inserted with
      | false => exact fun _ => ⟨rfl, rfl⟩
      | true =>
          apply obeys_call rfl
          intro reply
          cases reply with
          | none => exact fun failed => absurd rfl failed
          | some _ => exact fun _ => ⟨rfl, rfl⟩

theorem pollId_obeys {last : Nat} (free : stage.hold = .free)
    (reached : stage.reached = some last) (id : RedemptionId) (following : id.val = last + 1) :
    (pollId id).Obeys (claimDiscipline poller) stage fun after result =>
      result ≠ none → after.hold = .free ∧ after.reached = some id.val := by
  apply obeys_call trivial
  intro reply
  cases reply with
  | none => exact fun failed => absurd rfl failed
  | some row =>
      dsimp only
      split
      · exact fun failed => absurd rfl failed
      · apply (enqueueRedemption_obeys poller id _ _ _ free).bind
        intro after result enqueued
        cases result with
        | none => exact fun failed => absurd rfl failed
        | some inserted =>
            obtain ⟨released, advanced⟩ := enqueued (by simp)
            have advanced : after.reached = some id.val := by
              rw [advanced]
              change (stage.reached.map fun last => if id.val = last + 1 then id.val else last) = _
              rw [reached, Option.map_some, if_pos following]
            apply obeys_call advanced
            intro reply
            cases reply with
            | none => exact fun failed => absurd rfl failed
            | some _ => exact fun _ => ⟨released, advanced⟩

theorem pollIds_obeys (count : Nat) {last : Nat} (free : stage.hold = .free)
    (reached : stage.reached = some last) (fits : last + count < 2 ^ 64) (enqueued : Nat) :
    (pollIds ((List.range' (last + 1) count).map (Fin.ofNat (2 ^ 64))) enqueued).Obeys
      (claimDiscipline poller) stage fun _ _ => True := by
  induction count generalizing stage last enqueued with
  | zero => trivial
  | succ count inductionHypothesis =>
      rw [List.range'_succ, List.map_cons]
      have value : (Fin.ofNat (2 ^ 64) (last + 1)).val = last + 1 := Nat.mod_eq_of_lt (by omega)
      apply (pollId_obeys poller free reached _ value).bind
      intro after result polled
      cases result with
      | none => trivial
      | some inserted =>
          obtain ⟨released, further⟩ := polled (by simp)
          rw [value] at further
          exact inductionHypothesis released further (by omega) _

theorem tick_obeys :
    poller.tick.Obeys (claimDiscipline poller) Stage.free fun _ _ => True := by
  apply obeys_call trivial
  intro stored
  cases stored with
  | none => trivial
  | some stored =>
      apply obeys_call trivial
      intro nextId
      cases nextId with
      | none => trivial
      | some nextId =>
          dsimp only
          split
          · trivial
          · rename_i past
            have bound := nextId.isLt
            exact pollIds_obeys poller _ rfl rfl (by omega) 0

end Producer

/-! ### Runs of a deployment -/

namespace Deployment

variable {Thread Signature : Type} (deployment : Deployment Thread Signature)

/-- **Every service obeys the discipline.** -/
theorem obeys (thread : Thread) :
    (deployment.machine.main thread).Obeys (claimDiscipline deployment.poller)
      (claimDiscipline deployment.poller).start fun _ _ => True := by
  change (deployment.program thread).Obeys _ Stage.free _
  unfold program
  split
  · exact payoutsMain_obeys deployment.payouts
  · exact (tick_obeys deployment.poller).bind fun _ _ _ => trivial
  · exact (quiet_obeys Treasury.tick_quiet _ _).bind fun _ _ _ => trivial
  · exact (enqueueRedemption_obeys deployment.poller _ _ _ _ rfl).bind fun _ _ _ => trivial
  · exact obeys_call (nofun : Hold.free.Settles) fun _ => trivial
  · exact obeys_call (nofun : Hold.free.Settles) fun _ => trivial

/-- The system before anyone has moved. -/
def start (world : World) : Pool Thread World Command Reply Stage :=
  Pool.initial deployment.machine (claimDiscipline deployment.poller) world

variable [DecidableEq Thread]

def move : Pool Thread World Command Reply Stage → Action Thread Answer (Event Signature) →
    Pool Thread World Command Reply Stage :=
  Pool.move deployment.machine (claimDiscipline deployment.poller)

variable {deployment}

theorem run_keeps {meets : Pool Thread World Command Reply Stage →
      Action Thread Answer (Event Signature) → Prop} {holds : World → (Thread → Stage) → Prop}
    (invariant : Invariant deployment.machine (claimDiscipline deployment.poller) meets holds)
    {world : World} {actions : List (Action Thread Answer (Event Signature))}
    (along : Along deployment.move meets (deployment.start world) actions)
    (initially : holds world fun _ => Stage.free) :
    holds (run deployment.move (deployment.start world) actions).world
      (run deployment.move (deployment.start world) actions).stage :=
  invariant.run deployment.obeys (Pool.initial_disciplined world deployment.obeys) along initially

end Deployment

end CrFaucet.Redemption
