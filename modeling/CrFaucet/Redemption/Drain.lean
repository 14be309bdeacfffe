import Mathlib.Data.List.Infix
import CrFaucet.Redemption.World

/-!
Owns the payout consumer, `Payouts::drain_once`: reclaim and read stream
entries, and for each one park it, skip it, reconcile it with the wallet
history, or claim it and pay.

The functions follow the source's control flow. `?` ends the drain with an
error, `break` ends it normally, `continue` goes on to the next entry; these are
the three values of `Flow`. Log lines are left out.
-/

set_option autoImplicit false

namespace CrFaucet.Redemption

open Interaction

def reconcileWindowBlocks : Nat := 4320

/-- A `Payouts` value: its configuration, and whether it has a marker. -/
structure Payouts where
  monero : MoneroConfig
  marker : Bool
deriving DecidableEq

inductive Flow where
  | next
  | stop
  | fail
deriving DecidableEq

/-! ### Looking for a payment already made -/

inductive Scan where
  | clean
  | paid (txid : String) (confirmed : Bool)
  | failed
deriving DecidableEq

/-- The transfer carries the tag of `id`. -/
def HistoryItem.Tagged (id : RedemptionId) (item : HistoryItem) : Prop :=
  0 < item.amount.getD 0 ∧ matchesStamp (item.amount.getD 0) id = true

instance (id : RedemptionId) (item : HistoryItem) : Decidable (item.Tagged id) :=
  inferInstanceAs (Decidable (_ ∧ _))

/-- The transfers of one array that carry the stamp of `id`. -/
def stampMatches (id : RedemptionId) (confirmed : Bool) (items : List HistoryItem) :
    List (String × Bool) :=
  (items.filter fun item =>
      0 < item.amount.getD 0 ∧ matchesStamp (item.amount.getD 0) id = true).map
    fun item => (item.txid.getD "", confirmed)

/-- `stamp_match_in_result`: mined transfers count from `minHeight` on. -/
def stampMatchInResult (history : WalletHistory) (id : RedemptionId) (minHeight : Nat) : Scan :=
  let recent := history.out.filter fun item => minHeight ≤ item.height.getD 0
  let found := stampMatches id true recent ++ stampMatches id false history.pending ++
    stampMatches id false history.pool
  match found with
  | [] => .clean
  | [(txid, confirmed)] => .paid txid confirmed
  | _ => .failed

/-- What a reply to `get_transfers` tells about `id`. -/
def scanResult (history : Option WalletHistory) (id : RedemptionId) (minHeight : Nat) : Scan :=
  match history with
  | none => .failed
  | some history => stampMatchInResult history id minHeight

def findPaidTx (id : RedemptionId) : Service Scan := do
  let height ← send .getHeight
  let minHeight := (height : Option Nat).getD 0 - reconcileWindowBlocks
  let history ← send (.getTransfers id minHeight)
  return scanResult history id minHeight

/-! ### Confirmations -/

/-- One look at the transaction; `again` sleeps ten seconds and looks anew.
`none` is an error. -/
def pollConfirmed (txid : String) (again : Service (Option Bool)) : Service (Option Bool) := do
  match ← send (.getTransferByTxid txid) with
  | none => return none
  | some height =>
      if 0 < height then return some true
      else do
        let expired ← send .deadlinePassed
        if expired then return some false else again

/-- `wait_confirmed`: the deadline has passed after `waits` ten-second sleeps. -/
def waitConfirmed (txid : String) : (waits : Nat) → Service (Option Bool)
  | 0 => pollConfirmed txid (return some false)
  | waits + 1 => pollConfirmed txid (waitConfirmed txid waits)

def oldestUnspentHeight : Service (Option Nat) := do
  match ← send .incomingTransfers with
  | none => return none
  | some transfers =>
      let heights := transfers.filterMap fun (spent, height) =>
        if spent = some false then height else none
      return some (heights.min?.getD 0)

theorem waitConfirmed_quiet (txid : String) (waits : Nat) :
    (waitConfirmed txid waits).Asks Command.Quiet := by
  have poll : ∀ again : Service (Option Bool), again.Asks Command.Quiet →
      (pollConfirmed txid again).Asks Command.Quiet := by
    intro again asks
    apply obeys_call trivial
    intro reply
    cases reply with
    | none => trivial
    | some height =>
        dsimp only
        split
        · trivial
        · apply obeys_call trivial
          intro expired
          cases expired with
          | true => trivial
          | false => exact asks
  induction waits with
  | zero => exact poll _ trivial
  | succ waits inductionHypothesis => exact poll _ inductionHypothesis

theorem oldestUnspentHeight_quiet : oldestUnspentHeight.Asks Command.Quiet := by
  apply obeys_call trivial
  intro reply
  cases reply with
  | none => trivial
  | some _ => trivial

/-! ### Errors of the wallet -/

/-- `is_permanent_transfer_error`. -/
def isPermanentTransferError (code : Option Int) (message : Option String) : Bool :=
  let lower := (message.getD "").toList.map Char.toLower
  code == some (-2) ||
    ["wrong address", "invalid address", "invalid destination", "wrong network",
      "wrong_address"].any fun part => decide (part.toList <:+: lower)

/-! ### One entry -/

section Entry

variable (payouts : Payouts) (entry : StreamEntry)

/-- The amount text read as a `u128`; what does not parse is 0. -/
def StreamEntry.atomicAmount : Nat := entry.amount.toNat

def ack : Service Flow := do
  match ← send (.xack entry) with
  | none => return .fail
  | some _ => return .next

/-- Write a state that takes the entry out of the queue, and acknowledge it. -/
def dispose (state : RedemptionState) : Service Flow := do
  match ← send (.hsetState entry.id state) with
  | none => return .fail
  | some _ => ack entry

def rollBack (then_ : Flow) : Service Flow := do
  match ← send (.hsetState entry.id .pending) with
  | none => return .fail
  | some _ => return then_

/-- `mark_processed` if there is a marker; the callers ignore its errors. -/
def mark (txid : String) (restoreHeight : Nat) : Service Unit :=
  if payouts.marker then do
    let _ ← send (.markProcessed entry.id txid restoreHeight)
    return ()
  else return ()

/-- The durable check; without a marker nothing counts as processed. -/
def checkProcessed : Service (Option Bool) :=
  if payouts.marker then send (.isProcessed entry.id) else return some false

/-- The payment was found in the wallet history. -/
def reconcile (txid : String) (confirmed : Bool) : Service Flow := do
  let _ ← send (.markSent entry.id txid)
  if confirmed then do
    mark payouts entry txid 0
    ack entry
  else ack entry

/-- The payout exceeds the unlocked balance: leave the entry in the PEL. -/
def deferLocked : Service Flow := do
  match ← send (.hsetState entry.id .paused) with
  | none => return .fail
  | some _ =>
      let _ ← send (.hsetnxState entry.id .pending)
      rollBack entry .next

/-- After the wallet accepted the transfer. -/
def confirmPayout (txHash : String) : Service Flow := do
  match ← send (.markSent entry.id txHash) with
  | none => return .fail
  | some _ =>
      if payouts.marker then do
        match ← waitConfirmed txHash (payouts.monero.confirmWaitSecs / 10 + 1) with
        | some true =>
            let height ← oldestUnspentHeight
            mark payouts entry txHash (height.getD 0)
            ack entry
        | _ => ack entry
      else ack entry

/-- The wallet refused the transfer; nothing was broadcast. -/
def rejectPayout (code : Option Int) (message : Option String) : Service Flow :=
  if isPermanentTransferError code message then do
    mark payouts entry "FAILED:permanent" 0
    let _ ← send (.hsetState entry.id .failed)
    ack entry
  else do
    let _ ← send (.hsetState entry.id .pending)
    return .fail

def transferPayout (payout : Nat) : Service Flow := do
  match ← send (.transfer entry.id (stampAmount payout entry.id) entry.xmrAddr) with
  | .failed => return .fail
  | .rejected code message => rejectPayout payouts entry code message
  | .undecodable => return .fail
  | .sent txHash => confirmPayout payouts entry txHash

/-- The branches from a fresh snapshot on. -/
def payAgainst (snap : TreasurySnapshot) : Service Flow := do
  match ← send .getPendingAtomic with
  | none => return .fail
  | some pendingNow =>
      match assess payouts.monero.maxPayoutPremiumBp snap pendingNow entry.atomicAmount with
      | .pause => dispose entry .paused
      | .dust => do
          mark payouts entry "dust-skipped" 0
          dispose entry .failed
      | .locked => deferLocked entry
      | .pay payout => transferPayout payouts entry payout

def payClaimed : Service Flow := do
  let stored ← send .getSnapshot
  match (stored : Option (Option TreasurySnapshot)).join with
  | none => rollBack entry .stop
  | some snap =>
      let time ← send .now
      if 120 < ((time : Int) - snap.asOfUnix).natAbs then rollBack entry .stop
      else payAgainst payouts entry snap

/-- Claim before the side effect. -/
def claimAndPay : Service Flow := do
  match ← send (.tryMarkInFlight entry.id) with
  | none => return .fail
  | some false =>
      let _ ← send (.hgetState entry.id)
      ack entry
  | some true => payClaimed payouts entry

def drainEntry : Service Flow :=
  if payouts.monero.perTxCapAtomic < entry.atomicAmount then dispose entry .paused
  else do
    match ← checkProcessed payouts entry with
    | none => return .stop
    | some true => dispose entry .sent
    | some false =>
        match ← findPaidTx entry.id with
        | .failed => return .stop
        | .paid txid confirmed => reconcile payouts entry txid confirmed
        | .clean => claimAndPay payouts entry

end Entry

/-! ### The drain -/

/-- The loop, with the number of entries processed so far. `none` is an error. -/
def drainEntries (payouts : Payouts) : List StreamEntry → Nat → Service (Option Nat)
  | [], processed => return some processed
  | entry :: rest, processed => do
      match ← drainEntry payouts entry with
      | .next => drainEntries payouts rest (processed + 1)
      | .stop => return some processed
      | .fail => return none

def drainOnce (payouts : Payouts) : Service (Option Nat) := do
  let reclaimed ← send .xautoclaim
  match ← send .xreadgroup with
  | none => return none
  | some fresh =>
      drainEntries payouts ((reclaimed : Option (List StreamEntry)).getD [] ++ fresh) 0

/-- `with_marker` followed by one round of `run_loop`. -/
def payoutsMain (payouts : Payouts) : Service Unit := do
  let _ ← send .xgroupCreate
  let _ ← drainOnce payouts
  return ()

section Rules

variable {Stage : Type} {discipline : Discipline Command Reply Stage} {payouts : Payouts}
  {stage : Stage} (ready : Stage → List StreamEntry → Prop)
  (turn : ∀ stage entry rest, ready stage (entry :: rest) →
    (drainEntry payouts entry).Obeys discipline stage fun after flow =>
      flow = .next → ready after rest)

include turn

/-- **The rule of the loop**, by induction on the entries that are left. -/
theorem drainEntries_rule (entries : List StreamEntry) (processed : Nat)
    (start : ready stage entries) :
    (drainEntries payouts entries processed).Obeys discipline stage fun _ _ => True := by
  induction entries generalizing stage processed with
  | nil => trivial
  | cons entry rest inductionHypothesis =>
      apply (turn stage entry rest start).bind
      intro after flow left
      cases flow with
      | next => exact inductionHypothesis (processed + 1) (left rfl)
      | stop | fail => trivial

/-- **The rule of a drain.** -/
theorem drainOnce_rule (claims : discipline.permits stage .xautoclaim)
    (reads : ∀ reclaimed,
      discipline.permits (discipline.after stage .xautoclaim reclaimed) .xreadgroup)
    (handed : ∀ reclaimed fresh, ready (discipline.after
      (discipline.after stage .xautoclaim reclaimed) .xreadgroup (some fresh))
      (Option.getD reclaimed [] ++ fresh)) :
    (drainOnce payouts).Obeys discipline stage fun _ _ => True := by
  apply obeys_call claims
  intro reclaimed
  apply obeys_call (reads reclaimed)
  intro fresh
  cases fresh with
  | none => trivial
  | some fresh => exact drainEntries_rule ready turn _ 0 (handed reclaimed fresh)

end Rules

end CrFaucet.Redemption
