import CrFaucet.Interaction.Transcript
import CrFaucet.Redemption.Drain

/-!
Owns what a drain has asked and been told before it asks the wallet for a
`transfer`: the transcript of every guard, in the order of the source.

Everything here holds for every pattern of replies of Redis, the wallet, the marker
and the clock. `drainEntry_guarded` is the one walk through a turn of the loop; what
other modules say about transfers follows from it and from `transfer_paidOn`.

Does not own the JSON the replies come in; see `Redemption.WalletRpc`.
-/

set_option autoImplicit false

namespace CrFaucet.Redemption

open Interaction

/-! ### Commands that do not pay -/

def Command.Transfers : Command → Prop
  | .transfer _ _ _ => True
  | _ => False

section NotPaying

variable (payouts : Payouts) (entry : StreamEntry)

/-- The program never asks for a transfer. -/
abbrev Unpaid {Result : Type} (program : Service Result) : Prop :=
  program.Asks fun command => ¬ command.Transfers

theorem Unpaid.of_quiet {Result : Type} {program : Service Result}
    (quiet : program.Asks Command.Quiet) : Unpaid program := by
  refine (quiet.obeys ?_ (fun _ _ _ now _ => now) trivial)
  intro _ command _ quiet
  cases command with
  | transfer => cases quiet
  | _ => exact not_false

theorem ack_unpaid : Unpaid (ack entry) := by
  apply obeys_call not_false
  intro reply
  cases reply with
  | none => trivial
  | some _ => trivial

theorem dispose_unpaid (state : RedemptionState) : Unpaid (dispose entry state) := by
  apply obeys_call not_false
  intro reply
  cases reply with
  | none => trivial
  | some _ => exact ack_unpaid entry

theorem rollBack_unpaid (flow : Flow) : Unpaid (rollBack entry flow) := by
  apply obeys_call not_false
  intro reply
  cases reply with
  | none => trivial
  | some _ => trivial

theorem mark_unpaid (txid : String) (restoreHeight : Nat) :
    Unpaid (mark payouts entry txid restoreHeight) := by
  unfold mark
  split
  · exact obeys_call not_false fun _ => trivial
  · trivial

theorem reconcile_unpaid (txid : String) (confirmed : Bool) :
    Unpaid (reconcile payouts entry txid confirmed) := by
  apply obeys_call not_false
  intro _
  cases confirmed with
  | false => exact ack_unpaid entry
  | true => exact (mark_unpaid payouts entry txid 0).bind fun _ _ _ => ack_unpaid entry

theorem deferLocked_unpaid : Unpaid (deferLocked entry) := by
  apply obeys_call not_false
  intro reply
  cases reply with
  | none => trivial
  | some _ =>
      apply obeys_call not_false
      intro _
      exact rollBack_unpaid entry .next

theorem confirmPayout_unpaid (txHash : String) : Unpaid (confirmPayout payouts entry txHash) := by
  apply obeys_call not_false
  intro reply
  cases reply with
  | none => trivial
  | some _ =>
      dsimp only
      split
      · refine (Unpaid.of_quiet (waitConfirmed_quiet txHash _)).bind ?_
        intro _ confirmed _
        split
        · refine (Unpaid.of_quiet oldestUnspentHeight_quiet).bind ?_
          intro _ height _
          exact (mark_unpaid payouts entry txHash _).bind fun _ _ _ => ack_unpaid entry
        · exact ack_unpaid entry
      · exact ack_unpaid entry

theorem rejectPayout_unpaid (code : Option Int) (message : Option String) :
    Unpaid (rejectPayout payouts entry code message) := by
  unfold rejectPayout
  split
  · refine (mark_unpaid payouts entry "FAILED:permanent" 0).bind ?_
    intro _ _ _
    apply obeys_call not_false
    intro _
    exact ack_unpaid entry
  · exact obeys_call not_false fun _ => trivial

end NotPaying

/-! ### What a turn learns before it pays -/

/-- The replies a turn of the loop works with. -/
structure Readings where
  height : Option Nat
  history : WalletHistory
  snap : TreasurySnapshot
  time : Int
  pendingNow : Nat

namespace Readings

/-- Mined transfers below this height are out of scope. -/
def minHeight (readings : Readings) : Nat := readings.height.getD 0 - reconcileWindowBlocks

/-- The exchanges of a turn from the marker to the pending total. -/
def exchanges (payouts : Payouts) (id : RedemptionId) (readings : Readings) :
    List (Exchange Command Reply) :=
  (if payouts.marker then [⟨.isProcessed id, some false⟩] else []) ++
    [⟨.getHeight, readings.height⟩,
      ⟨.getTransfers id readings.minHeight, some readings.history⟩,
      ⟨.tryMarkInFlight id, some true⟩,
      ⟨.getSnapshot, some (some readings.snap)⟩,
      ⟨.now, readings.time⟩,
      ⟨.getPendingAtomic, some readings.pendingNow⟩]

/-- The readings pass every check of the turn, and the payout comes out of them. -/
structure Cleared (payouts : Payouts) (entry : StreamEntry) (payout : Nat)
    (readings : Readings) : Prop where
  withinCap : entry.atomicAmount ≤ payouts.monero.perTxCapAtomic
  clean : stampMatchInResult readings.history entry.id readings.minHeight = .clean
  fresh : (readings.time - readings.snap.asOfUnix).natAbs ≤ 120
  assessed : assess payouts.monero.maxPayoutPremiumBp readings.snap readings.pendingNow
    entry.atomicAmount = .pay payout

end Readings

/-- A transfer pays the entry, right after the readings of its turn, which began
after the exchanges in `base`. -/
def PaysEntry (payouts : Payouts) (entry : StreamEntry) (base before : List (Exchange Command Reply))
    (command : Command) : Prop :=
  ∀ id amount address, command = .transfer id amount address →
    id = entry.id ∧ address = entry.xmrAddr ∧ ∃ readings : Readings, ∃ payout : Nat,
      readings.Cleared payouts entry payout ∧ amount = stampAmount payout id ∧
        before = base ++ readings.exchanges payouts id

section Turn

variable {payouts : Payouts} {entry : StreamEntry} {base : List (Exchange Command Reply)}

theorem PaysEntry.of_other {before : List (Exchange Command Reply)} {command : Command}
    (other : ¬ command.Transfers) : PaysEntry payouts entry base before command := by
  rintro _ _ _ rfl
  exact absurd trivial other

theorem guarded_send {Result : Type} {command : Command} {next : Reply command → Service Result}
    {stage : List (Exchange Command Reply)} (other : ¬ command.Transfers)
    (continues : ∀ reply, (next reply).Obeys
      (Discipline.history (PaysEntry payouts entry base)) (stage ++ [⟨command, reply⟩])
      fun _ _ => True) :
    (send command >>= next).Obeys (Discipline.history (PaysEntry payouts entry base)) stage
      fun _ _ => True :=
  obeys_call (PaysEntry.of_other other) continues

theorem Unpaid.guarded {Result : Type} {program : Service Result} (unpaid : Unpaid program)
    (stage : List (Exchange Command Reply)) :
    program.Obeys (Discipline.history (PaysEntry payouts entry base)) stage fun _ _ => True := by
  refine unpaid.obeys ?_ (fun _ _ _ now _ => now) trivial
  intro _ _ _ other
  exact PaysEntry.of_other other

variable (payouts entry base)

theorem transferPayout_guarded (readings : Readings) (payout : Nat)
    (cleared : readings.Cleared payouts entry payout) :
    (transferPayout payouts entry payout).Obeys
      (Discipline.history (PaysEntry payouts entry base))
      (base ++ readings.exchanges payouts entry.id) fun _ _ => True := by
  apply obeys_call
  · rintro _ _ _ ⟨⟩
    exact ⟨rfl, rfl, readings, payout, cleared, rfl, rfl⟩
  intro reply
  cases reply with
  | failed => trivial
  | rejected code message => exact (rejectPayout_unpaid payouts entry code message).guarded _
  | undecodable => trivial
  | sent txHash => exact (confirmPayout_unpaid payouts entry txHash).guarded _

section Claimed

-- A turn whose amount is within the cap and whose scan is clean, at the exchanges `stage`.
variable (height : Option Nat) (history : WalletHistory) (stage : List (Exchange Command Reply))
  (withinCap : entry.atomicAmount ≤ payouts.monero.perTxCapAtomic)
  (clean : stampMatchInResult history entry.id (height.getD 0 - reconcileWindowBlocks) = .clean)

include withinCap clean

theorem payAgainst_guarded (snap : TreasurySnapshot) (time : Int)
    (fresh : (time - snap.asOfUnix).natAbs ≤ 120)
    (reached : ∀ pendingNow, stage ++ [⟨.getPendingAtomic, some pendingNow⟩] =
      base ++ Readings.exchanges payouts entry.id { height, history, snap, time, pendingNow }) :
    (payAgainst payouts entry snap).Obeys (Discipline.history (PaysEntry payouts entry base))
      stage fun _ _ => True := by
  refine guarded_send not_false ?_
  intro pendingNow
  cases pendingNow with
  | none => trivial
  | some pendingNow =>
      dsimp only
      split
      · exact (dispose_unpaid entry .paused).guarded _
      · apply Unpaid.guarded
        exact (mark_unpaid payouts entry "dust-skipped" 0).bind fun _ _ _ =>
          dispose_unpaid entry .failed
      · exact (deferLocked_unpaid entry).guarded _
      · rename_i payout assessed
        rw [reached pendingNow]
        exact transferPayout_guarded payouts entry base _ payout
          ⟨withinCap, clean, fresh, assessed⟩

theorem payClaimed_guarded
    (reached : ∀ snap time pendingNow, stage ++ [⟨.getSnapshot, some (some snap)⟩] ++
        [⟨.now, time⟩] ++ [⟨.getPendingAtomic, some pendingNow⟩] =
      base ++ Readings.exchanges payouts entry.id { height, history, snap, time, pendingNow }) :
    (payClaimed payouts entry).Obeys (Discipline.history (PaysEntry payouts entry base))
      stage fun _ _ => True := by
  refine guarded_send not_false ?_
  intro stored
  cases stored with
  | none => exact (rollBack_unpaid entry .stop).guarded _
  | some stored =>
      cases stored with
      | none => exact (rollBack_unpaid entry .stop).guarded _
      | some snap =>
          refine guarded_send not_false ?_
          intro time
          split
          · exact (rollBack_unpaid entry .stop).guarded _
          · rename_i fresh
            exact payAgainst_guarded payouts entry base height history _ withinCap clean snap time
              (Nat.le_of_not_lt fresh) (reached snap time)

theorem claimAndPay_guarded
    (reached : ∀ snap time pendingNow, stage ++ [⟨.tryMarkInFlight entry.id, some true⟩] ++
        [⟨.getSnapshot, some (some snap)⟩] ++ [⟨.now, time⟩] ++
        [⟨.getPendingAtomic, some pendingNow⟩] =
      base ++ Readings.exchanges payouts entry.id { height, history, snap, time, pendingNow }) :
    (claimAndPay payouts entry).Obeys (Discipline.history (PaysEntry payouts entry base))
      stage fun _ _ => True := by
  refine guarded_send not_false ?_
  intro claimed
  cases claimed with
  | none => trivial
  | some claimed =>
      cases claimed with
      | false =>
          refine guarded_send not_false ?_
          intro _
          exact (ack_unpaid entry).guarded _
      | true =>
          exact payClaimed_guarded payouts entry base height history _ withinCap clean reached

end Claimed

theorem checkProcessed_guarded :
    (checkProcessed payouts entry).Obeys (Discipline.history (PaysEntry payouts entry base)) base
      fun stage processed => processed = some false →
        stage = base ++ if payouts.marker then [⟨.isProcessed entry.id, some false⟩] else [] := by
  unfold checkProcessed
  split
  · refine ⟨PaysEntry.of_other not_false, fun reply => ?_⟩
    rintro rfl
    rfl
  · exact fun _ => (List.append_nil base).symm

theorem findPaidTx_guarded (id : RedemptionId) (stage : List (Exchange Command Reply)) :
    (findPaidTx id).Obeys (Discipline.history (PaysEntry payouts entry base)) stage
      fun after scan => scan = .clean → ∃ height history,
        stampMatchInResult history id (Option.getD height 0 - reconcileWindowBlocks) = .clean ∧
        after = stage ++ [⟨.getHeight, height⟩] ++
          [⟨.getTransfers id (Option.getD height 0 - reconcileWindowBlocks), some history⟩] := by
  refine ⟨PaysEntry.of_other not_false, fun height => ?_⟩
  refine ⟨PaysEntry.of_other not_false, fun history => ?_⟩
  intro clean
  cases history with
  | none => cases clean
  | some history => exact ⟨height, history, clean, rfl⟩

/-- **A turn pays only behind every guard.** -/
theorem drainEntry_guarded :
    (drainEntry payouts entry).Obeys (Discipline.history (PaysEntry payouts entry base)) base
      fun _ _ => True := by
  unfold drainEntry
  split
  · exact (dispose_unpaid entry .paused).guarded _
  rename_i withinCap
  apply (checkProcessed_guarded payouts entry base).bind
  intro checked processed checkedAt
  split
  · trivial
  · exact (dispose_unpaid entry .sent).guarded _
  · apply (findPaidTx_guarded payouts entry base entry.id checked).bind
    intro scanned scan scannedAt
    cases scan with
    | failed => trivial
    | paid txid confirmed => exact (reconcile_unpaid payouts entry txid confirmed).guarded _
    | clean =>
        obtain ⟨height, history, clean, rfl⟩ := scannedAt rfl
        refine claimAndPay_guarded payouts entry base height history _
          (Nat.le_of_not_lt withinCap) clean ?_
        intro snap time pendingNow
        rw [checkedAt rfl]
        simp [Readings.exchanges, Readings.minHeight]

end Turn

/-! ### The whole drain -/

def handedOut : Exchange Command Reply → List StreamEntry
  | ⟨.xautoclaim, some entries⟩ => entries
  | ⟨.xreadgroup, some entries⟩ => entries
  | _ => []

/-- The entries a drain was handed so far. -/
def delivered (exchanges : List (Exchange Command Reply)) : List StreamEntry :=
  exchanges.flatMap handedOut

/-- The last exchanges made every check for a transfer of `amount`, for an entry of
the same drain. -/
structure PaidOn (payouts : Payouts) (before : List (Exchange Command Reply)) (id : RedemptionId)
    (amount : Nat) (entry : StreamEntry) (readings : Readings) (payout : Nat) : Prop where
  delivered : entry ∈ delivered before
  entry_id : entry.id = id
  exchanged : readings.exchanges payouts id <:+ before
  cleared : readings.Cleared payouts entry payout
  amount_eq : amount = stampAmount payout id

def PaysDelivered (payouts : Payouts) (before : List (Exchange Command Reply))
    (command : Command) : Prop :=
  ∀ id amount address, command = .transfer id amount address →
    ∃ entry readings payout, PaidOn payouts before id amount entry readings payout

section Drain

variable {payouts : Payouts}

theorem mem_delivered_of_prefix {stage before : List (Exchange Command Reply)}
    (extends_ : stage <+: before) {entry : StreamEntry} (handed : entry ∈ delivered stage) :
    entry ∈ delivered before := by
  obtain ⟨later, rfl⟩ := extends_
  rw [delivered, List.flatMap_append]
  exact List.mem_append_left _ handed

theorem drainOnce_guarded :
    (drainOnce payouts).Obeys (Discipline.history (PaysDelivered payouts)) [] fun _ _ => True := by
  refine drainOnce_rule (fun stage entries => entries ⊆ delivered stage) ?_
    (by rintro _ _ _ ⟨⟩) (fun _ => by rintro _ _ _ ⟨⟩) fun reclaimed fresh => ?_
  · intro stage entry rest handed
    have here : entry ∈ delivered stage := handed List.mem_cons_self
    have pays : ∀ before command, stage <+: before → PaysEntry payouts entry stage before command →
        PaysDelivered payouts before command := by
      rintro before _ extends_ pays id amount address rfl
      obtain ⟨rfl, _, readings, payout, cleared, amount_eq, rfl⟩ := pays id amount address rfl
      exact ⟨entry, readings, payout, mem_delivered_of_prefix extends_ here, rfl,
        List.suffix_append _ _, cleared, amount_eq⟩
    apply ((drainEntry_guarded payouts entry stage).of_stronger pays).weaken
    rintro after flow ⟨extends_, _⟩ _ other member
    exact mem_delivered_of_prefix extends_ (handed (List.mem_cons_of_mem _ member))
  · intro entry member
    cases reclaimed with
    | none => exact List.mem_append_left [] member
    | some reclaimed =>
        change entry ∈ reclaimed ++ (fresh ++ [])
        rw [List.append_nil]
        exact member

/-- **A drain pays only behind every guard.** -/
theorem transfer_paidOn {before after : List (Exchange Command Reply)} {id : RedemptionId}
    {amount : Nat} {address : String} {reply : TransferReply}
    (transcript : (drainOnce payouts).Transcript
      (before ++ ⟨.transfer id amount address, reply⟩ :: after)) :
    ∃ entry readings payout, PaidOn payouts before id amount entry readings payout :=
  drainOnce_guarded.of_history transcript id amount address rfl

end Drain

end CrFaucet.Redemption
