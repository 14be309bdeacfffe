import CrFaucet.Redemption.Spending
import CrFaucet.Redemption.System

/-!
Owns the trail of a thread: what it has read and relies on later, and the proof that every service
appends, pays and marks only what is on its trail.

The poller reads the counter of redemptions, then a record among those it counts, and appends it to
the stream; a consumer is handed the entry and asks the wallet to pay it, and when the payment is
confirmed it marks the redemption with the height of the oldest output it was shown. The trail holds
how many redemptions the contract told the thread of, the last record it read among those, the
entries it was handed and that height. An append needs the record, a transfer needs the entry, and a
mark goes no higher than the height.

Does not own whether what was read is so; see `Redemption.Provenance` and `Redemption.RestorePoint`.
-/

set_option autoImplicit false

namespace CrFaucet.Redemption

open Interaction
open Token (Address StoredRedemption)

/-! ### The trail of a thread -/

structure Trail where
  /-- The counter of redemptions, as last read. -/
  told : Nat := 0
  /-- The record last read, of an id the thread was told of. -/
  row : Option (RedemptionId × StoredRedemption) := none
  handed : List StreamEntry := []
  /-- The height of the oldest unspent output, as last computed. -/
  oldest : Nat := 0

/-- What may be paid for a burn. -/
structure PayableFor (monero : MoneroConfig) (burned amount : Nat) : Prop where
  withinCap : burned ≤ monero.perTxCapAtomic
  withinPremium : amount ≤ withPremium monero.maxPayoutPremiumBp burned

/-- The lowest height among the outputs that are shown as unspent; 0 if there is none. -/
def oldestOf (transfers : List (Option Bool × Option Nat)) : Nat :=
  (transfers.filterMap fun (spent, height) =>
    if spent = some false then height else none).min?.getD 0

/-- What a trail permits. `direct` says whether others than the poller call
`enqueue_redemption`. -/
def Trail.permits (monero : MoneroConfig) (direct : Prop) (trail : Trail) : Command → Prop
  | .xadd id sender amount xmrAddr => direct ∨ ∃ row : StoredRedemption,
      trail.row = some (id, row) ∧ sender = row.user ∧ amount = row.amount ∧
        xmrAddr = row.xmrAddress
  | .transfer id amount address => ∃ entry ∈ trail.handed, entry.id = id ∧
      entry.xmrAddr = address ∧ PayableFor monero entry.atomicAmount amount
  | .markProcessed _ _ restoreHeight => restoreHeight ≤ trail.oldest
  | _ => True

def Trail.after (trail : Trail) : (command : Command) → Reply command → Trail
  | .nextRedemptionId, some next => { trail with told := next.val }
  | .redemption id, some row =>
      { trail with row := if 1 ≤ id.val ∧ id.val ≤ trail.told then some (id, row) else none }
  | .xautoclaim, some entries => { trail with handed := trail.handed ++ entries }
  | .xreadgroup, some entries => { trail with handed := trail.handed ++ entries }
  | .incomingTransfers, some transfers => { trail with oldest := oldestOf transfers }
  | _, _ => trail

def trailDiscipline (monero : MoneroConfig) (direct : Prop) :
    Discipline Command Reply Trail where
  start := {}
  permits := Trail.permits monero direct
  after := Trail.after

/-! ### What the parts of a service ask -/

def Command.Polls : Command → Prop
  | .getCursor | .nextRedemptionId | .redemption _ | .enqueue _ _ | .xadd _ _ _ _
  | .setCursor _ => True
  | _ => False

section Parts

variable {allowed : Command → Prop} (payouts : Payouts) (entry : StreamEntry)

theorem ack_asks (acks : allowed (.xack entry)) : (ack entry).Asks allowed := by
  apply obeys_call acks
  intro reply
  cases reply with
  | none => trivial
  | some _ => trivial

theorem mark_asks {txid : String} {restoreHeight : Nat}
    (marks : allowed (.markProcessed entry.id txid restoreHeight)) :
    (mark payouts entry txid restoreHeight).Asks allowed := by
  unfold mark
  split
  · exact obeys_call marks fun _ => trivial
  · trivial

theorem reconcile_asks {txid : String} {confirmed : Bool}
    (records : allowed (.markSent entry.id txid)) (marks : allowed (.markProcessed entry.id txid 0))
    (acks : allowed (.xack entry)) : (reconcile payouts entry txid confirmed).Asks allowed := by
  apply obeys_call records
  intro _
  cases confirmed with
  | false => exact ack_asks entry acks
  | true => exact (mark_asks payouts entry marks).bind fun _ _ _ => ack_asks entry acks

theorem checkProcessed_asks (reads : allowed (.isProcessed entry.id)) :
    (checkProcessed payouts entry).Asks allowed := by
  unfold checkProcessed
  split
  · exact ⟨reads, fun _ => trivial⟩
  · trivial

theorem findPaidTx_asks {id : RedemptionId} (height : allowed .getHeight)
    (transfers : ∀ minHeight, allowed (.getTransfers id minHeight)) :
    (findPaidTx id).Asks allowed := by
  apply obeys_call height
  intro _
  exact obeys_call (transfers _) fun _ => trivial

theorem enqueueRedemption_asks {id : RedemptionId} {evmFrom : Address} {atomicAmount : Int}
    {xmrAddr : String} (inserts : allowed (.enqueue id atomicAmount))
    (appends : allowed (.xadd id evmFrom atomicAmount xmrAddr)) :
    (enqueueRedemption id evmFrom atomicAmount xmrAddr).Asks allowed := by
  apply obeys_call inserts
  intro reply
  cases reply with
  | none => trivial
  | some inserted =>
      cases inserted with
      | false => trivial
      | true =>
          apply obeys_call appends
          intro reply
          cases reply with
          | none => trivial
          | some _ => trivial

theorem pollId_asks (id : RedemptionId)
    (polls : ∀ command : Command, command.Polls → allowed command) :
    (pollId id).Asks allowed := by
  apply obeys_call (polls (.redemption id) trivial)
  intro reply
  cases reply with
  | none => trivial
  | some row =>
      dsimp only
      split
      · trivial
      · apply (enqueueRedemption_asks (polls _ trivial) (polls _ trivial)).bind
        intro _ result _
        cases result with
        | none => trivial
        | some inserted =>
            apply obeys_call (polls (.setCursor id) trivial)
            intro reply
            cases reply with
            | none => trivial
            | some _ => trivial

theorem pollIds_asks (ids : List RedemptionId) (enqueued : Nat)
    (polls : ∀ command : Command, command.Polls → allowed command) :
    (pollIds ids enqueued).Asks allowed := by
  induction ids generalizing enqueued with
  | nil => trivial
  | cons id rest inductionHypothesis =>
      apply (pollId_asks id polls).bind
      intro _ result _
      cases result with
      | none => trivial
      | some inserted => exact inductionHypothesis _

theorem tick_asks (poller : EventPoller)
    (polls : ∀ command : Command, command.Polls → allowed command) :
    poller.tick.Asks allowed := by
  apply obeys_call (polls .getCursor trivial)
  intro stored
  cases stored with
  | none => trivial
  | some stored =>
      apply obeys_call (polls .nextRedemptionId trivial)
      intro nextId
      cases nextId with
      | none => trivial
      | some nextId =>
          dsimp only
          split
          · trivial
          · exact pollIds_asks _ 0 polls

end Parts

/-! ### Commands that need nothing from the trail -/

/-- Neither hands out, appends nor pays, and moves no restore height. -/
def Command.Idle : Command → Prop
  | .xautoclaim | .xreadgroup | .xadd _ _ _ _ | .transfer _ _ _ => False
  | .markProcessed _ _ restoreHeight => restoreHeight = 0
  | _ => True

section Idle

variable {monero : MoneroConfig} {direct : Prop} {Result : Type}

theorem Command.Idle.of_quiet {command : Command} (quiet : command.Quiet) : command.Idle := by
  cases command with
  | xautoclaim | xreadgroup | xadd | transfer | markProcessed => cases quiet
  | _ => trivial

theorem idle_permits {command : Command} (idle : command.Idle) (trail : Trail) :
    trail.permits monero direct command := by
  cases command with
  | xadd | transfer => cases idle
  | markProcessed id txid restoreHeight =>
      obtain rfl : restoreHeight = 0 := idle
      exact Nat.zero_le _
  | _ => trivial

theorem idle_handed {command : Command} (idle : command.Idle) (trail : Trail)
    (reply : Reply command) : (trail.after command reply).handed = trail.handed := by
  cases command with
  | xautoclaim | xreadgroup => cases idle
  | nextRedemptionId | redemption | incomingTransfers => cases reply <;> rfl
  | _ => rfl

theorem idle_obeys {program : Service Result} (asks : program.Asks Command.Idle) (trail : Trail) :
    program.Obeys (trailDiscipline monero direct) trail fun after _ =>
      after.handed = trail.handed := by
  refine asks.obeys ?_ ?_ rfl
  · intro stage command _ idle
    exact idle_permits idle stage
  · intro stage command reply same idle
    exact (idle_handed idle stage reply).trans same

theorem idle_of_quiet {program : Service Result} (asks : program.Asks Command.Quiet) :
    program.Asks Command.Idle :=
  asks.obeys (fun _ _ _ quiet => Command.Idle.of_quiet quiet) (fun _ _ _ now _ => now) trivial

variable (payouts : Payouts) (entry : StreamEntry)

theorem dispose_idle (state : RedemptionState) : (dispose entry state).Asks Command.Idle := by
  apply obeys_call trivial
  intro reply
  cases reply with
  | none => trivial
  | some _ => exact ack_asks entry trivial

theorem rollBack_idle (flow : Flow) : (rollBack entry flow).Asks Command.Idle := by
  apply obeys_call trivial
  intro reply
  cases reply with
  | none => trivial
  | some _ => trivial

theorem mark_idle (txid : String) : (mark payouts entry txid 0).Asks Command.Idle :=
  mark_asks payouts entry (show (0 : Nat) = 0 from rfl)

theorem deferLocked_idle : (deferLocked entry).Asks Command.Idle := by
  apply obeys_call trivial
  intro reply
  cases reply with
  | none => trivial
  | some _ =>
      apply obeys_call trivial
      intro _
      exact rollBack_idle entry .next

theorem rejectPayout_idle (code : Option Int) (message : Option String) :
    (rejectPayout payouts entry code message).Asks Command.Idle := by
  unfold rejectPayout
  split
  · refine (mark_idle payouts entry "FAILED:permanent").bind ?_
    intro _ _ _
    apply obeys_call trivial
    intro _
    exact ack_asks entry trivial
  · exact obeys_call trivial fun _ => trivial

end Idle

/-! ### The consumer pays what it was handed -/

section Consumer

variable {direct : Prop} {trail : Trail} (payouts : Payouts) {entry : StreamEntry}

/-- What every part of a turn leaves. -/
abbrev KeepsHanded {Result : Type} (direct : Prop) (trail : Trail) (program : Service Result) :
    Prop :=
  program.Obeys (trailDiscipline payouts.monero direct) trail
    fun after _ => after.handed = trail.handed

theorem assess_payable {snap : TreasurySnapshot} {pendingNow burned payout : Nat}
    (id : RedemptionId) (withinCap : burned ≤ payouts.monero.perTxCapAtomic)
    (assessed : assess payouts.monero.maxPayoutPremiumBp snap pendingNow burned = .pay payout) :
    PayableFor payouts.monero burned (stampAmount payout id) := by
  obtain ⟨nonzero, stampable, _, computed⟩ := assess_eq_pay assessed
  have premium := proRata_le_withPremium (Nat.pos_of_ne_zero nonzero) computed
  exact ⟨withinCap, Nat.le_trans (stampAmount_le id stampable) premium⟩

theorem oldestUnspentHeight_trail :
    oldestUnspentHeight.Obeys (trailDiscipline payouts.monero direct) trail fun after height =>
      after.handed = trail.handed ∧ height.getD 0 ≤ after.oldest := by
  apply obeys_call trivial
  intro reply
  cases reply with
  | none => exact ⟨rfl, Nat.zero_le _⟩
  | some transfers => exact ⟨rfl, Nat.le_refl _⟩

theorem mark_trail {restoreHeight : Nat} (computed : restoreHeight ≤ trail.oldest)
    (txid : String) :
    KeepsHanded payouts direct trail (mark payouts entry txid restoreHeight) := by
  unfold mark
  split
  · exact obeys_call computed fun _ => rfl
  · rfl

theorem confirmPayout_trail (txHash : String) :
    KeepsHanded payouts direct trail (confirmPayout payouts entry txHash) := by
  apply obeys_call trivial
  intro reply
  cases reply with
  | none => rfl
  | some _ =>
      dsimp only
      split
      · apply (idle_obeys (idle_of_quiet (waitConfirmed_quiet txHash _)) trail).bind
        intro waited confirmed sameWaited
        split
        · apply (oldestUnspentHeight_trail payouts).bind
          intro shown height ⟨sameShown, computed⟩
          apply (mark_trail payouts computed txHash).bind
          intro marked _ sameMarked
          exact (idle_obeys (ack_asks entry trivial) marked).weaken fun _ _ same =>
            same.trans (sameMarked.trans (sameShown.trans sameWaited))
        · exact (idle_obeys (ack_asks entry trivial) waited).weaken fun _ _ same =>
            same.trans sameWaited
      · exact idle_obeys (ack_asks entry trivial) trail

theorem transferPayout_trail (handed : entry ∈ trail.handed) {payout : Nat}
    (payable : PayableFor payouts.monero entry.atomicAmount (stampAmount payout entry.id)) :
    KeepsHanded payouts direct trail (transferPayout payouts entry payout) := by
  apply obeys_call
  · exact ⟨entry, handed, rfl, rfl, payable⟩
  intro reply
  cases reply with
  | failed => rfl
  | rejected code message => exact idle_obeys (rejectPayout_idle payouts entry code message) trail
  | undecodable => rfl
  | sent txHash => exact confirmPayout_trail payouts txHash

section Claimed

variable (handed : entry ∈ trail.handed)
  (withinCap : entry.atomicAmount ≤ payouts.monero.perTxCapAtomic)

include handed withinCap

theorem payAgainst_trail (snap : TreasurySnapshot) :
    KeepsHanded payouts direct trail (payAgainst payouts entry snap) := by
  apply obeys_call trivial
  intro reply
  cases reply with
  | none => rfl
  | some pendingNow =>
      dsimp only
      split
      · exact idle_obeys (dispose_idle entry .paused) trail
      · refine idle_obeys ?_ trail
        exact (mark_idle payouts entry "dust-skipped").bind fun _ _ _ => dispose_idle entry .failed
      · exact idle_obeys (deferLocked_idle entry) trail
      · rename_i payout assessed
        exact transferPayout_trail payouts handed (assess_payable payouts _ withinCap assessed)

theorem payClaimed_trail : KeepsHanded payouts direct trail (payClaimed payouts entry) := by
  apply obeys_call trivial
  intro stored
  split
  · exact idle_obeys (rollBack_idle entry .stop) trail
  · rename_i snap _
    apply obeys_call trivial
    intro time
    split
    · exact idle_obeys (rollBack_idle entry .stop) trail
    · exact payAgainst_trail payouts handed withinCap snap

theorem claimAndPay_trail : KeepsHanded payouts direct trail (claimAndPay payouts entry) := by
  apply obeys_call trivial
  intro reply
  cases reply with
  | none => rfl
  | some claimed =>
      cases claimed with
      | false =>
          apply obeys_call trivial
          intro _
          exact idle_obeys (ack_asks entry trivial) trail
      | true => exact payClaimed_trail payouts handed withinCap

end Claimed

/-- **A turn pays the entry it was handed, within the cap and the premium.** -/
theorem drainEntry_trail (handed : entry ∈ trail.handed) :
    KeepsHanded payouts direct trail (drainEntry payouts entry) := by
  unfold drainEntry
  split
  · exact idle_obeys (dispose_idle entry .paused) trail
  · rename_i withinCap
    apply (idle_obeys (checkProcessed_asks payouts entry trivial) trail).bind
    intro checked processed sameChecked
    split
    · exact sameChecked
    · exact (idle_obeys (dispose_idle entry .sent) checked).weaken
        fun _ _ same => same.trans sameChecked
    · apply (idle_obeys (findPaidTx_asks trivial fun _ => trivial) checked).bind
      intro scanned scan sameScanned
      have same : scanned.handed = trail.handed := sameScanned.trans sameChecked
      cases scan with
      | failed => exact same
      | paid txid confirmed =>
          exact (idle_obeys (reconcile_asks payouts entry trivial rfl trivial) scanned).weaken
            fun _ _ after => after.trans same
      | clean =>
          have here : entry ∈ scanned.handed := same ▸ handed
          exact (claimAndPay_trail payouts here (Nat.le_of_not_lt withinCap)).weaken
            fun _ _ after => after.trans same

theorem payoutsMain_trail :
    (payoutsMain payouts).Obeys (trailDiscipline payouts.monero direct) {} fun _ _ => True := by
  apply obeys_call trivial
  intro _
  refine (drainOnce_rule (fun trail entries => entries ⊆ trail.handed) ?_ trivial
    (fun _ => trivial) fun reclaimed _ => ?_).bind fun _ _ _ => trivial
  · intro trail entry rest handed
    apply (drainEntry_trail payouts (handed List.mem_cons_self)).weaken
    intro after flow same _
    rw [same]
    exact List.Subset.trans (List.subset_cons_self entry rest) handed
  · cases reclaimed <;> exact List.Subset.refl _

end Consumer

/-! ### The poller appends what it read -/

section Producer

variable {monero : MoneroConfig} {direct : Prop} {trail : Trail}

/-- The parts of a tick after the counter was read. -/
abbrev KeepsTold {Result : Type} (monero : MoneroConfig) (direct : Prop) (trail : Trail)
    (program : Service Result) : Prop :=
  program.Obeys (trailDiscipline monero direct) trail fun after _ => after.told = trail.told

theorem u256ToI64_eq {value : Nat} {atomic : Int} (converted : u256ToI64 value = some atomic) :
    atomic = value := by
  unfold u256ToI64 at converted
  split at converted
  · exact (Option.some.inj converted).symm
  · cases converted

theorem enqueue_keeps {id : RedemptionId} {evmFrom : Address} {atomicAmount : Int}
    {xmrAddr : String}
    (permitted : trail.permits monero direct (.xadd id evmFrom atomicAmount xmrAddr)) :
    (enqueueRedemption id evmFrom atomicAmount xmrAddr).Obeys (trailDiscipline monero direct) trail
      fun after _ => after = trail := by
  have asks : (enqueueRedemption id evmFrom atomicAmount xmrAddr).Asks fun command =>
      command = .enqueue id atomicAmount ∨ command = .xadd id evmFrom atomicAmount xmrAddr :=
    enqueueRedemption_asks (Or.inl rfl) (Or.inr rfl)
  refine asks.obeys ?_ ?_ rfl
  · rintro _ command rfl (rfl | rfl)
    · trivial
    · exact permitted
  · rintro _ command reply rfl (rfl | rfl)
    · rfl
    · rfl

theorem pollId_trail {id : RedemptionId} (issued : 1 ≤ id.val ∧ id.val ≤ trail.told) :
    KeepsTold monero direct trail (pollId id) := by
  apply obeys_call trivial
  intro reply
  cases reply with
  | none => rfl
  | some row =>
      dsimp only
      split
      · rfl
      · rename_i atomic converted
        have read : ((trailDiscipline monero direct).after trail (.redemption id) (some row)).row =
            some (id, row) := if_pos issued
        apply (enqueue_keeps (Or.inr ⟨row, read, rfl, u256ToI64_eq converted, rfl⟩)).bind
        rintro _ result rfl
        cases result with
        | none => rfl
        | some inserted =>
            apply obeys_call trivial
            intro reply
            cases reply with
            | none => rfl
            | some _ => rfl

theorem pollIds_trail (ids : List RedemptionId) (enqueued : Nat)
    (issued : ∀ id ∈ ids, 1 ≤ id.val ∧ id.val ≤ trail.told) :
    KeepsTold monero direct trail (pollIds ids enqueued) := by
  induction ids generalizing trail enqueued with
  | nil => rfl
  | cons id rest inductionHypothesis =>
      apply (pollId_trail (issued id List.mem_cons_self)).bind
      intro after result same
      cases result with
      | none => exact same
      | some inserted =>
          have later : ∀ other ∈ rest, 1 ≤ other.val ∧ other.val ≤ after.told := by
            intro other member
            rw [same]
            exact issued other (List.mem_cons_of_mem _ member)
          exact (inductionHypothesis _ later).weaken fun _ _ kept => kept.trans same

theorem mem_batch {poller : EventPoller} {cursor : Nat} {nextId id : RedemptionId}
    (member : id ∈ poller.batch cursor nextId) : 1 ≤ id.val ∧ id.val ≤ nextId.val := by
  obtain ⟨index, within, rfl⟩ := List.mem_map.1 member
  rw [List.mem_range'_1] at within
  have bound := nextId.isLt
  have small : index < 2 ^ 64 := by omega
  rw [Fin.val_ofNat, Nat.mod_eq_of_lt small]
  omega

theorem tick_trail (poller : EventPoller) :
    poller.tick.Obeys (trailDiscipline monero direct) {} fun _ _ => True := by
  apply obeys_call trivial
  intro stored
  cases stored with
  | none => trivial
  | some stored =>
      apply obeys_call trivial
      intro nextId
      cases nextId with
      | none => trivial
      | some nextId =>
          dsimp only
          split
          · trivial
          · exact (pollIds_trail _ 0 fun _ member => mem_batch member).weaken fun _ _ _ => trivial

end Producer

/-! ### The services of a deployment -/

namespace Deployment

variable {Thread Signature : Type} (deployment : Deployment Thread Signature)

def EnqueuesDirectly : Prop :=
  ∃ thread id evmFrom atomicAmount xmrAddr,
    deployment.role thread = .enqueue id evmFrom atomicAmount xmrAddr

def trail : Discipline Command Reply Trail :=
  trailDiscipline deployment.payouts.monero deployment.EnqueuesDirectly

/-- **Every service keeps to its trail.** -/
theorem keepsTrail (thread : Thread) :
    (deployment.machine.main thread).Obeys deployment.trail deployment.trail.start
      fun _ _ => True := by
  change (deployment.program thread).Obeys deployment.trail {} _
  unfold program
  split
  · exact payoutsMain_trail deployment.payouts
  · exact (tick_trail deployment.poller).bind fun _ _ _ => trivial
  · exact (idle_obeys (idle_of_quiet Treasury.tick_quiet) _).bind fun _ _ _ => trivial
  · rename_i id evmFrom atomicAmount xmrAddr direct
    have may : deployment.EnqueuesDirectly := ⟨thread, id, evmFrom, atomicAmount, xmrAddr, direct⟩
    exact (enqueue_keeps (Or.inl may)).bind fun _ _ _ => trivial
  · exact obeys_call trivial fun _ => trivial
  · exact obeys_call trivial fun _ => trivial

end Deployment

end CrFaucet.Redemption
