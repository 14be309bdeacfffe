import CrFaucet.Redemption.System

/-!
Owns who writes which redemption state: what a thread has to have in its custody
before it writes the state hash or the mark on the L2, and the proof that every
service keeps to it.

* A claim, from the script that granted it up to the rollback, the acknowledgement
  or the transfer, lets a thread write `pending`, `paused` and `failed`.
* An entry above the cap that was handed out and not acknowledged lets it write
  `paused`; no claim is needed.
* Evidence of a payment is a transfer that came back, a transfer found in the wallet
  history, or the mark on the L2. It lets a thread write `sent` and the mark; without
  it the mark carries one of the two dead-letter texts.

Does not own what this means for the store; see `Redemption.Absorbing` and
`Redemption.SentMeansPaid`.
-/

set_option autoImplicit false

namespace CrFaucet.Redemption

open Interaction

/-- What one thread has at hand. -/
structure Custody where
  /-- Handed out and not acknowledged. -/
  todo : List StreamEntry := []
  claim : Option RedemptionId := none
  evidence : Option RedemptionId := none
  /-- A claimed slot whose entry is yet to be appended. -/
  inserting : Option (RedemptionId × Int) := none

/-- The texts that stand for a payment that never happened. -/
def deadLetters : List String := ["dust-skipped", "FAILED:permanent"]

/-- The amount text of an entry, or of one to be appended, is above the cap. -/
def AboveCap (cap : Nat) (amount : Int) : Prop := cap < amount.toNat

instance (cap : Nat) (amount : Int) : Decidable (AboveCap cap amount) :=
  inferInstanceAs (Decidable (_ < _))

/-- The thread has an entry of `id` above the cap. -/
def Custody.Parks (cap : Nat) (custody : Custody) (id : RedemptionId) : Prop :=
  ∃ entry ∈ custody.todo, entry.id = id ∧ AboveCap cap entry.amount

/-- Which writes a custody permits. `operators` says whether others than the consumers
call `mark_redemption_sent`. -/
def Custody.permits (cap : Nat) (operators : Prop) (custody : Custody) : Command → Prop
  | .hsetState id .pending => custody.claim = some id
  | .hsetState id .failed => custody.claim = some id
  | .hsetState id .paused => custody.claim = some id ∨ custody.Parks cap id
  | .hsetState id .sent => custody.evidence = some id
  | .hsetState _ .inFlight => False
  | .hsetnxState id state => custody.claim = some id ∧ state = .pending
  | .markSent id _ => operators ∨ custody.evidence = some id
  | .markProcessed id txid _ => custody.evidence = some id ∨ txid ∈ deadLetters
  | .xadd id _ amount _ => custody.inserting = some (id, amount)
  | _ => True

/-! How a reply moves each part. -/

def todoAfter (todo : List StreamEntry) : (command : Command) → Reply command → List StreamEntry
  | .xautoclaim, entries => todo ++ (entries : Option (List StreamEntry)).getD []
  | .xreadgroup, entries => todo ++ (entries : Option (List StreamEntry)).getD []
  | .xack entry, _ => todo.erase entry
  | _, _ => todo

def claimAfter (claim : Option RedemptionId) :
    (command : Command) → Reply command → Option RedemptionId
  | .tryMarkInFlight id, some true => some id
  | .hsetState _ .pending, _ => none
  | .xack _, _ => none
  | .transfer _ _ _, .rejected _ _ => claim
  | .transfer _ _ _, _ => none
  | _, _ => claim

def evidenceAfter (evidence : Option RedemptionId) :
    (command : Command) → Reply command → Option RedemptionId
  | .transfer id _ _, .sent _ => some id
  | .isProcessed id, some true => some id
  | .getTransfers id minHeight, history =>
      match scanResult history id minHeight with
      | .paid _ _ => some id
      | _ => evidence
  | _, _ => evidence

def insertingAfter (inserting : Option (RedemptionId × Int)) :
    (command : Command) → Reply command → Option (RedemptionId × Int)
  | .enqueue id amount, some true => some (id, amount)
  | .enqueue _ _, _ => none
  | .xadd _ _ _ _, _ => none
  | _, _ => inserting

def Custody.after (custody : Custody) (command : Command) (reply : Reply command) : Custody where
  todo := todoAfter custody.todo command reply
  claim := claimAfter custody.claim command reply
  evidence := evidenceAfter custody.evidence command reply
  inserting := insertingAfter custody.inserting command reply

def custodyDiscipline (cap : Nat) (operators : Prop) : Discipline Command Reply Custody where
  start := {}
  permits := Custody.permits cap operators
  after := Custody.after

section Quiet

variable {cap : Nat} {operators : Prop} {Result : Type}

theorem quiet_permits {command : Command} (quiet : command.Quiet) (custody : Custody) :
    custody.permits cap operators command := by
  cases command with
  | hsetState | hsetnxState | markSent | markProcessed | xadd => cases quiet
  | _ => trivial

theorem quiet_after {command : Command} (quiet : command.Quiet) (custody : Custody)
    (reply : Reply command) : custody.after command reply = custody := by
  cases command with
  | xautoclaim | xreadgroup | xack | hsetState | enqueue | xadd | tryMarkInFlight
  | getTransfers | transfer | isProcessed => cases quiet
  | _ => rfl

theorem quiet_custody {program : Service Result} (asks : program.Asks Command.Quiet)
    (custody : Custody) :
    program.Obeys (custodyDiscipline cap operators) custody fun after _ => after = custody := by
  refine asks.obeys ?_ ?_ rfl
  · intro stage command _ quiet
    exact quiet_permits quiet stage
  · intro stage command reply unchanged quiet
    exact (quiet_after quiet stage reply).trans unchanged

end Quiet

/-! ### The consumer keeps to it -/

section Consumer

variable {cap : Nat} {operators : Prop} {stage : Custody} (payouts : Payouts) {entry : StreamEntry}
  {rest : List StreamEntry}

/-- What is left of the batch is still at hand. -/
def LeavesRest (rest : List StreamEntry) (stage : Custody) (_ : Flow) : Prop :=
  rest.Sublist stage.todo

/-- The entry is at hand, and so is what is left of the batch. -/
def AtHand (entry : StreamEntry) (rest : List StreamEntry) (stage : Custody) : Prop :=
  (entry :: rest).Sublist stage.todo

theorem AtHand.left (atHand : AtHand entry rest stage) : rest.Sublist stage.todo :=
  (List.sublist_cons_self entry rest).trans atHand

theorem AtHand.of_todo {after : Custody} (atHand : AtHand entry rest stage)
    (same : after.todo = stage.todo) : AtHand entry rest after := by
  unfold AtHand
  rw [same]
  exact atHand

theorem ack_custody (atHand : AtHand entry rest stage) :
    (ack entry).Obeys (custodyDiscipline cap operators) stage (LeavesRest rest) := by
  apply obeys_call trivial
  intro reply
  have left : rest.Sublist (stage.todo.erase entry) := by
    have erased := List.Sublist.erase entry atHand
    rwa [List.erase_cons_head] at erased
  cases reply with
  | none => exact left
  | some _ => exact left

theorem mark_custody {txid : String} (restoreHeight : Nat)
    (may : stage.evidence = some entry.id ∨ txid ∈ deadLetters) :
    (mark payouts entry txid restoreHeight).Obeys (custodyDiscipline cap operators) stage
      fun after _ => after = stage := by
  unfold mark
  split
  · exact obeys_call may fun _ => rfl
  · rfl

theorem dispose_custody {state : RedemptionState} (atHand : AtHand entry rest stage)
    (may : stage.permits cap operators (.hsetState entry.id state)) (other : state ≠ .pending) :
    (dispose entry state).Obeys (custodyDiscipline cap operators) stage (LeavesRest rest) := by
  apply obeys_call may
  intro reply
  have same : (custodyDiscipline cap operators).after stage (.hsetState entry.id state) reply =
      stage := by
    cases state with
    | pending => exact absurd rfl other
    | _ => rfl
  rw [same]
  cases reply with
  | none => exact atHand.left
  | some _ => exact ack_custody atHand

theorem rollBack_custody (atHand : AtHand entry rest stage) (claim : stage.claim = some entry.id)
    (flow : Flow) :
    (rollBack entry flow).Obeys (custodyDiscipline cap operators) stage (LeavesRest rest) := by
  apply obeys_call claim
  intro reply
  cases reply with
  | none => exact atHand.left
  | some _ => exact atHand.left

theorem reconcile_custody (atHand : AtHand entry rest stage)
    (evidence : stage.evidence = some entry.id) (txid : String) (confirmed : Bool) :
    (reconcile payouts entry txid confirmed).Obeys (custodyDiscipline cap operators) stage
      (LeavesRest rest) := by
  apply obeys_call (Or.inr evidence)
  intro reply
  cases confirmed with
  | false => exact ack_custody atHand
  | true =>
      refine (mark_custody payouts 0 (Or.inl evidence)).bind ?_
      rintro _ _ rfl
      exact ack_custody atHand

theorem deferLocked_custody (atHand : AtHand entry rest stage)
    (claim : stage.claim = some entry.id) :
    (deferLocked entry).Obeys (custodyDiscipline cap operators) stage (LeavesRest rest) := by
  apply obeys_call (Or.inl claim)
  intro reply
  cases reply with
  | none => exact atHand.left
  | some _ =>
      apply obeys_call (And.intro claim rfl)
      intro _
      exact rollBack_custody atHand claim .next

theorem confirmPayout_custody (atHand : AtHand entry rest stage)
    (evidence : stage.evidence = some entry.id) (txHash : String) :
    (confirmPayout payouts entry txHash).Obeys (custodyDiscipline cap operators) stage
      (LeavesRest rest) := by
  apply obeys_call (Or.inr evidence)
  intro reply
  cases reply with
  | none => exact atHand.left
  | some _ =>
      dsimp only
      split
      · refine (quiet_custody (waitConfirmed_quiet txHash _) stage).bind ?_
        rintro _ result rfl
        split
        · refine (quiet_custody oldestUnspentHeight_quiet _).bind ?_
          rintro _ height rfl
          refine (mark_custody payouts _ (Or.inl evidence)).bind ?_
          rintro _ _ rfl
          exact ack_custody atHand
        · exact ack_custody atHand
      · exact ack_custody atHand

theorem rejectPayout_custody (atHand : AtHand entry rest stage)
    (claim : stage.claim = some entry.id) (code : Option Int) (message : Option String) :
    (rejectPayout payouts entry code message).Obeys (custodyDiscipline cap operators) stage
      (LeavesRest rest) := by
  unfold rejectPayout
  split
  · refine (mark_custody payouts 0 (Or.inr (by decide))).bind ?_
    rintro _ _ rfl
    apply obeys_call claim
    intro _
    exact ack_custody atHand
  · apply obeys_call claim
    intro _
    exact atHand.left

theorem transferPayout_custody (atHand : AtHand entry rest stage)
    (claim : stage.claim = some entry.id) (payout : Nat) :
    (transferPayout payouts entry payout).Obeys (custodyDiscipline cap operators) stage
      (LeavesRest rest) := by
  apply obeys_call trivial
  intro reply
  cases reply with
  | failed => exact atHand.left
  | rejected code message => exact rejectPayout_custody payouts atHand claim code message
  | undecodable => exact atHand.left
  | sent txHash =>
      -- The reply is the evidence.
      apply confirmPayout_custody payouts _ rfl
      exact atHand

theorem payAgainst_custody (atHand : AtHand entry rest stage)
    (claim : stage.claim = some entry.id) (snap : TreasurySnapshot) :
    (payAgainst payouts entry snap).Obeys (custodyDiscipline cap operators) stage
      (LeavesRest rest) := by
  apply obeys_call trivial
  intro reply
  cases reply with
  | none => exact atHand.left
  | some pendingNow =>
      dsimp only
      split
      · exact dispose_custody atHand (Or.inl claim) (by decide)
      · refine (mark_custody payouts 0 (Or.inr (by decide))).bind ?_
        rintro _ _ rfl
        exact dispose_custody atHand claim (by decide)
      · exact deferLocked_custody atHand claim
      · exact transferPayout_custody payouts atHand claim _

theorem payClaimed_custody (atHand : AtHand entry rest stage)
    (claim : stage.claim = some entry.id) :
    (payClaimed payouts entry).Obeys (custodyDiscipline cap operators) stage
      (LeavesRest rest) := by
  apply obeys_call trivial
  intro stored
  split
  · exact rollBack_custody atHand claim .stop
  · rename_i snap _
    apply obeys_call trivial
    intro time
    split
    · exact rollBack_custody atHand claim .stop
    · exact payAgainst_custody payouts atHand claim snap

theorem claimAndPay_custody (atHand : AtHand entry rest stage) :
    (claimAndPay payouts entry).Obeys (custodyDiscipline cap operators) stage
      (LeavesRest rest) := by
  apply obeys_call trivial
  intro reply
  cases reply with
  | none => exact atHand.left
  | some claimed =>
      cases claimed with
      | false =>
          apply obeys_call trivial
          intro _
          exact ack_custody atHand
      | true =>
          apply payClaimed_custody payouts _ rfl
          exact atHand

theorem findPaidTx_custody (id : RedemptionId) :
    (findPaidTx id).Obeys (custodyDiscipline cap operators) stage fun after scan =>
      after.todo = stage.todo ∧
        ∀ txid confirmed, scan = .paid txid confirmed → after.evidence = some id := by
  apply obeys_call trivial
  intro height
  apply obeys_call trivial
  intro history
  refine ⟨rfl, fun txid confirmed paid => ?_⟩
  change evidenceAfter _ (.getTransfers id _) history = some id
  simp only [evidenceAfter, paid]

theorem checkProcessed_custody (id : StreamEntry) :
    (checkProcessed payouts id).Obeys (custodyDiscipline cap operators) stage fun after result =>
      after.todo = stage.todo ∧ (result = some true → after.evidence = some id.id) := by
  unfold checkProcessed
  split
  · refine ⟨trivial, fun reply => ?_⟩
    cases reply with
    | none => exact ⟨rfl, nofun⟩
    | some processed =>
        cases processed with
        | false => exact ⟨rfl, nofun⟩
        | true => exact ⟨rfl, fun _ => rfl⟩
  · exact ⟨rfl, nofun⟩

theorem drainEntry_custody (atHand : AtHand entry rest stage) :
    (drainEntry payouts entry).Obeys (custodyDiscipline payouts.monero.perTxCapAtomic operators)
      stage (LeavesRest rest) := by
  unfold drainEntry
  split
  · rename_i above
    have member : entry ∈ stage.todo := List.Sublist.subset atHand List.mem_cons_self
    exact dispose_custody atHand (Or.inr ⟨entry, member, rfl, above⟩) (by decide)
  · apply (checkProcessed_custody payouts entry).bind
    intro checked processed known
    have atHand : AtHand entry rest checked := atHand.of_todo known.1
    split
    · exact atHand.left
    · exact dispose_custody atHand (known.2 rfl) (by decide)
    · apply (findPaidTx_custody entry.id).bind
      intro scanned scan found
      have atHand : AtHand entry rest scanned := atHand.of_todo found.1
      cases scan with
      | failed => exact atHand.left
      | paid txid confirmed =>
          exact reconcile_custody payouts atHand (found.2 txid confirmed rfl) txid confirmed
      | clean => exact claimAndPay_custody payouts atHand

theorem payoutsMain_custody :
    (payoutsMain payouts).Obeys (custodyDiscipline payouts.monero.perTxCapAtomic operators)
      {} fun _ _ => True := by
  apply obeys_call trivial
  intro _
  refine (drainOnce_rule (fun stage entries => entries.Sublist stage.todo) ?_ trivial
    (fun _ => trivial) fun _ _ => List.Sublist.refl _).bind fun _ _ _ => trivial
  intro stage entry rest handed
  exact (drainEntry_custody payouts handed).weaken fun _ _ left _ => left

end Consumer

/-! ### The producer keeps to it -/

section Producer

variable {cap : Nat} {operators : Prop} (stage : Custody)

theorem enqueueRedemption_custody (id : RedemptionId) (evmFrom : Token.Address)
    (atomicAmount : Int) (xmrAddr : String) :
    (enqueueRedemption id evmFrom atomicAmount xmrAddr).Obeys (custodyDiscipline cap operators)
      stage fun _ _ => True := by
  apply obeys_call trivial
  intro reply
  cases reply with
  | none => trivial
  | some inserted =>
      cases inserted with
      | false => trivial
      | true =>
          apply obeys_call rfl
          intro reply
          cases reply with
          | none => trivial
          | some _ => trivial

theorem pollId_custody (id : RedemptionId) :
    (pollId id).Obeys (custodyDiscipline cap operators) stage fun _ _ => True := by
  apply obeys_call trivial
  intro reply
  cases reply with
  | none => trivial
  | some row =>
      dsimp only
      split
      · trivial
      · apply (enqueueRedemption_custody stage id _ _ _).bind
        intro after result _
        cases result with
        | none => trivial
        | some inserted =>
            apply obeys_call trivial
            intro reply
            cases reply with
            | none => trivial
            | some _ => trivial

theorem pollIds_custody (ids : List RedemptionId) (enqueued : Nat) :
    (pollIds ids enqueued).Obeys (custodyDiscipline cap operators) stage fun _ _ => True := by
  induction ids generalizing stage enqueued with
  | nil => trivial
  | cons id rest inductionHypothesis =>
      apply (pollId_custody stage id).bind
      intro after result _
      cases result with
      | none => trivial
      | some inserted => exact inductionHypothesis after _

theorem tick_custody (poller : EventPoller) :
    poller.tick.Obeys (custodyDiscipline cap operators) stage fun _ _ => True := by
  apply obeys_call trivial
  intro stored
  cases stored with
  | none => trivial
  | some stored =>
      apply obeys_call trivial
      intro nextId
      cases nextId with
      | none => trivial
      | some nextId =>
          dsimp only
          split
          · trivial
          · exact pollIds_custody stage _ 0

end Producer

/-! ### Runs of a deployment -/

/-- The custodies after `thread` got its reply. -/
def custodiesAfter {Thread : Type} [DecidableEq Thread] (stage : Thread → Custody)
    (thread : Thread) (command : Command) (reply : Reply command) : Thread → Custody :=
  Function.update stage thread ((stage thread).after command reply)

namespace Deployment

variable {Thread Signature : Type} (deployment : Deployment Thread Signature)

/-- The custody of a deployment: its cap, and whether anybody marks by hand. -/
def custody : Discipline Command Reply Custody :=
  custodyDiscipline deployment.payouts.monero.perTxCapAtomic
    (∃ thread id txid, deployment.role thread = .markSent id txid)

/-- **Every service keeps to its custody.** -/
theorem keepsCustody (thread : Thread) :
    (deployment.machine.main thread).Obeys deployment.custody deployment.custody.start
      fun _ _ => True := by
  change (deployment.program thread).Obeys deployment.custody {} _
  unfold program
  split
  · exact payoutsMain_custody deployment.payouts
  · exact (tick_custody {} deployment.poller).bind fun _ _ _ => trivial
  · exact (quiet_custody Treasury.tick_quiet {}).bind fun _ _ _ => trivial
  · exact (enqueueRedemption_custody {} _ _ _ _).bind fun _ _ _ => trivial
  · exact obeys_call trivial fun _ => trivial
  · rename_i id txid byHand
    exact obeys_call (Or.inl ⟨thread, id, txid, byHand⟩) fun _ => trivial

/-- The system before anyone has moved. -/
def handsEmpty (world : World) : Pool Thread World Command Reply Custody :=
  Pool.initial deployment.machine deployment.custody world

variable [DecidableEq Thread]

/-- One action, with the custody of every thread kept. -/
def handle : Pool Thread World Command Reply Custody → Action Thread Answer (Event Signature) →
    Pool Thread World Command Reply Custody :=
  Pool.move deployment.machine deployment.custody

end Deployment

end CrFaucet.Redemption
