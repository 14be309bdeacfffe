import CrFaucet.Redemption.Guards
import CrFaucet.Redemption.StampScan

/-!
Owns the JSON that `monero-wallet-rpc` answers a drain with, how the consumer reads
it, and which replies a transfer is guarded by.

A reply is a JSON value, or nothing where the connection failed or the body was not
JSON. A JSON-RPC error object is a value with an `error` and without a `result`.
`transfer` looks for it; the reading methods do not.
-/

set_option autoImplicit false

namespace CrFaucet.Redemption

open Interaction
open SerdeJson (Value)

/-! ### Reading the replies -/

namespace WalletRpc

def height (raw : Value) : Nat := ((raw.pointer ["result", "height"]).bind Value.asU64).getD 0

/-- The value `find_paid_tx` scans. -/
def transfersResult (raw : Value) : Value := (raw.get "result").getD .null

def confirmedAt (raw : Value) : Nat :=
  ((raw.pointer ["result", "transfer", "height"]).bind Value.asU64).getD 0

def unspent (raw : Value) : List (Option Bool × Option Nat) :=
  (((raw.pointer ["result", "transfers"]).bind Value.asArray).getD []).map fun transfer =>
    ((transfer.get "spent").bind Value.asBool, (transfer.get "block_height").bind Value.asU64)

/-- A number that may be absent. -/
def hasAmount (object : Value) (key : String) : Bool :=
  match object.get key with
  | none => true
  | some value => value.asU64.isSome

/-- `Rpc<TransferResp>`, from objects. -/
def transferResp (raw : Value) : TransferReply :=
  match raw.get "result" with
  | none => .undecodable
  | some result =>
      match (result.get "tx_hash").bind Value.asStr with
      | none => .undecodable
      | some txHash =>
          if hasAmount result "fee" && hasAmount result "amount" then .sent txHash
          else .undecodable

/-- The reply to `transfer`: an `error` that is not null refuses it. -/
def transferReply (raw : Value) : TransferReply :=
  match raw.get "error" with
  | none => transferResp raw
  | some error =>
      if error.isNull then transferResp raw
      else .rejected ((error.get "code").bind Value.asI64) ((error.get "message").bind Value.asStr)

end WalletRpc

abbrev WireReply : Command → Type
  | .getHeight => Option Value
  | .getTransfers _ _ => Option Value
  | .transfer _ _ _ => Option Value
  | .getTransferByTxid _ => Option Value
  | .incomingTransfers => Option Value
  | command => Reply command

/-- What the consumer makes of them. -/
def readReply : (command : Command) → WireReply command → Reply command
  | .getHeight, raw => Option.map WalletRpc.height raw
  | .getTransfers _ _, raw =>
      Option.map (fun raw => TransfersJson.history (WalletRpc.transfersResult raw)) raw
  | .transfer _ _ _, raw => (Option.map WalletRpc.transferReply raw).getD .failed
  | .getTransferByTxid _, raw => Option.map WalletRpc.confirmedAt raw
  | .incomingTransfers, raw => Option.map WalletRpc.unspent raw
  | .xgroupCreate, reply | .xautoclaim, reply | .xreadgroup, reply | .xack _, reply
  | .hsetState _ _, reply | .hsetnxState _ _, reply | .hgetState _, reply | .enqueue _ _, reply
  | .xadd _ _ _ _, reply | .tryMarkInFlight _, reply | .markSent _ _, reply
  | .getPendingAtomic, reply | .getPendingCount, reply | .getSnapshot, reply
  | .setSnapshot _, reply | .getCursor, reply | .setCursor _, reply | .refresh, reply
  | .getBalance, reply | .isProcessed _, reply | .markProcessed _ _ _, reply
  | .nextRedemptionId, reply | .redemption _, reply | .totalSupply, reply | .now, reply
  | .deadlinePassed, reply => reply

/-- `drain_once` against replies as they come in. -/
def drainOnceWire (payouts : Payouts) : Program Command WireReply (Option Nat) :=
  (drainOnce payouts).decode readReply

/-! ### What guards a transfer -/

abbrev readExchange : Exchange Command WireReply → Exchange Command Reply :=
  Program.decodeExchange readReply

namespace TransfersJson

def InScope (minHeight : Nat) (result : Value) (item : Value) : Prop :=
  (item ∈ items result "out" ∧ minHeight ≤ height item) ∨ item ∈ items result "pending" ∨
    item ∈ items result "pool"

def Carries (id : RedemptionId) (item : Value) : Prop :=
  0 < (amount? item).getD 0 ∧ matchesStamp ((amount? item).getD 0) id = true

end TransfersJson

/-- The replies of one turn of the loop, as they come in. -/
structure WireReadings where
  height : Option Value
  transfers : Value
  snap : TreasurySnapshot
  time : Int
  pendingNow : Nat

namespace WireReadings

def minHeight (readings : WireReadings) : Nat :=
  (readings.height.map WalletRpc.height).getD 0 - reconcileWindowBlocks

/-- The exchanges of the turn from the marker to the pending total. -/
def exchanges (payouts : Payouts) (id : RedemptionId) (readings : WireReadings) :
    List (Exchange Command WireReply) :=
  (if payouts.marker then [⟨.isProcessed id, some false⟩] else []) ++
    [⟨.getHeight, readings.height⟩,
      ⟨.getTransfers id readings.minHeight, some readings.transfers⟩,
      ⟨.tryMarkInFlight id, some true⟩,
      ⟨.getSnapshot, some (some readings.snap)⟩,
      ⟨.now, readings.time⟩,
      ⟨.getPendingAtomic, some readings.pendingNow⟩]

end WireReadings

/-- Every guard of a transfer of `amount` for `id`, in the turn whose exchanges
`before` ends with. -/
structure GuardedBy (payouts : Payouts) (before : List (Exchange Command WireReply))
    (id : RedemptionId) (amount : Nat) (entry : StreamEntry) (readings : WireReadings)
    (payout : Nat) : Prop where
  delivered : entry ∈ delivered (before.map readExchange)
  entry_id : entry.id = id
  withinCap : entry.atomicAmount ≤ payouts.monero.perTxCapAtomic
  /-- The marker, where there is one, answered `false`; the wallet's history came; the
  claim succeeded; the snapshot, the clock and the pending total came, in this order. -/
  exchanged : readings.exchanges payouts id <:+ before
  /-- The wallet answered with a result, and nothing in scope carries the stamp. -/
  answered : ∃ result, readings.transfers.get "result" = some result ∧
    ∀ item, TransfersJson.InScope readings.minHeight result item →
      ¬ TransfersJson.Carries id item
  fresh : (readings.time - readings.snap.asOfUnix).natAbs ≤ 120
  stampable : 2 ^ 16 ≤ payout
  unlocked : payout ≤ readings.snap.moneroUnlockedAtomic
  amount_eq : amount = stampAmount payout id

/-- The transfer is fully guarded. -/
def FullyGuarded (payouts : Payouts) (before : List (Exchange Command WireReply))
    (id : RedemptionId) (amount : Nat) : Prop :=
  ∃ entry readings payout, GuardedBy payouts before id amount entry readings payout

/-- The reply to `get_transfers` in an exchange. -/
def transfersReply? : Exchange Command WireReply → Option Value
  | ⟨.getTransfers _ _, some raw⟩ => some raw
  | _ => none

/-- The last reply to `get_transfers`. -/
def lastTransfersReply (before : List (Exchange Command WireReply)) : Option Value :=
  before.reverse.findSome? transfersReply?

/-! ### The guards are in the transcript -/

namespace TransfersJson

theorem not_carries_of_clean {result : Value} {id : RedemptionId} {minHeight : Nat}
    (clean : Redemption.stampMatchInResult (history result) id minHeight = .clean) :
    ∀ item, InScope minHeight result item → ¬ Carries id item := by
  have none_found : stampMatches id true ((history result).out.filter fun item =>
        minHeight ≤ item.height.getD 0) ++ stampMatches id false (history result).pending ++
      stampMatches id false (history result).pool = [] := by
    unfold Redemption.stampMatchInResult at clean
    dsimp only at clean
    split at clean
    · assumption
    · cases clean
    · cases clean
  simp only [List.append_eq_nil_iff, stampMatches, List.map_eq_nil_iff, List.filter_eq_nil_iff,
    history, List.mem_filter, List.mem_map, decide_eq_true_eq] at none_found
  obtain ⟨⟨outClean, pendingClean⟩, poolClean⟩ := none_found
  intro value scope carries
  cases scope with
  | inl mined => exact outClean (item value) ⟨⟨value, mined.1, rfl⟩, mined.2⟩ carries
  | inr unmined =>
      cases unmined with
      | inl waiting => exact pendingClean (item value) ⟨value, waiting, rfl⟩ carries
      | inr pooled => exact poolClean (item value) ⟨value, pooled, rfl⟩ carries

end TransfersJson

namespace WireReadings

def read (readings : WireReadings) : Readings where
  height := readings.height.map WalletRpc.height
  history := TransfersJson.history (WalletRpc.transfersResult readings.transfers)
  snap := readings.snap
  time := readings.time
  pendingNow := readings.pendingNow

theorem of_read {payouts : Payouts} {id : RedemptionId} {readings : Readings}
    {turn : List (Exchange Command WireReply)}
    (reads : turn.map readExchange = readings.exchanges payouts id) :
    ∃ wire : WireReadings, wire.read = readings ∧ turn = wire.exchanges payouts id := by
  obtain ⟨height, history, snap, time, pendingNow⟩ := readings
  obtain ⟨marked, rest, rfl, marker, reads⟩ := List.map_eq_append_iff.1 reads
  have marked_eq : marked = if payouts.marker then [⟨.isProcessed id, some false⟩] else [] := by
    cases configured : payouts.marker with
    | false =>
        rw [configured] at marker
        exact List.map_eq_nil_iff.1 marker
    | true =>
        rw [configured] at marker
        obtain ⟨_, _, rfl, rfl, nothing⟩ := Program.map_decodeExchange_eq_cons marker
        rw [List.map_eq_nil_iff.1 nothing]
        rfl
  obtain ⟨rawHeight, fromTransfers, rfl, rfl, reads⟩ := Program.map_decodeExchange_eq_cons reads
  obtain ⟨raw, fromClaim, rfl, answered, reads⟩ := Program.map_decodeExchange_eq_cons reads
  obtain ⟨claim, fromSnapshot, rfl, claimed, reads⟩ := Program.map_decodeExchange_eq_cons reads
  obtain ⟨stored, fromClock, rfl, read, reads⟩ := Program.map_decodeExchange_eq_cons reads
  obtain ⟨clock, fromPending, rfl, told, reads⟩ := Program.map_decodeExchange_eq_cons reads
  obtain ⟨pending, nothing, rfl, counted, reads⟩ := Program.map_decodeExchange_eq_cons reads
  obtain rfl := List.map_eq_nil_iff.1 reads
  cases claimed
  cases read
  cases told
  cases counted
  cases raw with
  | none => cases answered
  | some transfers =>
      cases answered
      refine ⟨{ height := rawHeight, transfers, snap, time, pendingNow }, rfl, ?_⟩
      rw [marked_eq]
      rfl

end WireReadings

theorem lastTransfersReply_of_suffix {payouts : Payouts} {id : RedemptionId}
    {readings : WireReadings} {before : List (Exchange Command WireReply)}
    (exchanged : readings.exchanges payouts id <:+ before) :
    lastTransfersReply before = some readings.transfers := by
  obtain ⟨earlier, rfl⟩ := exchanged
  rw [WireReadings.exchanges, ← List.append_assoc, lastTransfersReply, List.reverse_append]
  rfl

theorem FullyGuarded.answered {payouts : Payouts} {before : List (Exchange Command WireReply)}
    {id : RedemptionId} {amount : Nat} (guarded : FullyGuarded payouts before id amount) :
    ∀ raw ∈ lastTransfersReply before, raw.get "result" ≠ none := by
  obtain ⟨entry, readings, payout, guarded⟩ := guarded
  intro raw last
  rw [lastTransfersReply_of_suffix guarded.exchanged, Option.mem_some_iff] at last
  obtain ⟨result, answered, _⟩ := guarded.answered
  rw [← last, answered]
  exact Option.some_ne_none result

/-- Before a transfer every guard was passed, but for what the wallet's reply is. -/
theorem transfer_readings {payouts : Payouts} {before after : List (Exchange Command WireReply)}
    {id : RedemptionId} {amount : Nat} {address : String} {reply : Option Value}
    (transcript : (drainOnceWire payouts).Transcript
      (before ++ ⟨.transfer id amount address, reply⟩ :: after)) :
    ∃ (entry : StreamEntry) (readings : WireReadings) (payout : Nat),
      PaidOn payouts (before.map readExchange) id amount entry readings.read payout ∧
        readings.exchanges payouts id <:+ before := by
  have decoded := Program.Transcript.of_decode transcript
  rw [List.map_append, List.map_cons] at decoded
  obtain ⟨entry, readings, payout, paid⟩ := transfer_paidOn decoded
  obtain ⟨earlier, split⟩ := paid.exchanged
  obtain ⟨_, turn, rfl, _, reads⟩ := List.map_eq_append_iff.1 split.symm
  obtain ⟨wire, rfl, rfl⟩ := WireReadings.of_read reads
  exact ⟨entry, wire, payout, paid, List.suffix_append _ _⟩

/-! ### Fully guarded transfers -/

/-- **A transfer is fully guarded exactly when the wallet answered `get_transfers` with
a result.** A reply without one, such as a JSON-RPC error object, counts as an empty
history. -/
theorem transfer_fully_guarded_iff {payouts : Payouts}
    {before after : List (Exchange Command WireReply)} {id : RedemptionId} {amount : Nat}
    {address : String} {reply : Option Value}
    (transcript : (drainOnceWire payouts).Transcript
      (before ++ ⟨.transfer id amount address, reply⟩ :: after)) :
    FullyGuarded payouts before id amount ↔
      ∀ raw ∈ lastTransfersReply before, raw.get "result" ≠ none := by
  obtain ⟨entry, readings, payout, paid, exchanged⟩ := transfer_readings transcript
  constructor
  · exact FullyGuarded.answered
  · intro answered
    have result_ne : readings.transfers.get "result" ≠ none :=
      answered _ (lastTransfersReply_of_suffix exchanged)
    obtain ⟨result, result_eq⟩ := Option.ne_none_iff_exists'.1 result_ne
    obtain ⟨_, stampable, unlocked, _⟩ := assess_eq_pay paid.cleared.assessed
    refine ⟨entry, readings, payout, ?_⟩
    exact {
      delivered := paid.delivered
      entry_id := paid.entry_id
      withinCap := paid.cleared.withinCap
      exchanged := exchanged
      answered := by
        have scanned := paid.cleared.clean
        rw [paid.entry_id, WireReadings.read, WalletRpc.transfersResult, result_eq] at scanned
        exact ⟨result, result_eq, TransfersJson.not_carries_of_clean scanned⟩
      fresh := paid.cleared.fresh
      stampable := stampable
      unlocked := unlocked
      amount_eq := paid.amount_eq }

def sampleConfig : Payouts where
  monero := { perTxCapAtomic := 2 ^ 40, maxPayoutPremiumBp := 0, confirmWaitSecs := 0 }
  marker := true

def sampleEntry : StreamEntry where
  entryId := 1
  id := 7
  sender := 9
  amount := 2 ^ 20
  xmrAddr := "4AdUndXHHZ"

/-- What the drain is told in the turn, given the reply to `get_transfers`. -/
def sampleReadings (transfers : Value) : WireReadings where
  height := some (.object [("result", .object [("height", .number (.posInt 5000))])])
  transfers := transfers
  snap := {
    moneroBalanceAtomic := 2 ^ 21, moneroUnlockedAtomic := 2 ^ 21
    pendingRedemptionsAtomic := 2 ^ 20, pendingRedemptionsCount := 1
    miningPoolTokenTotalSupply := 2 ^ 20, asOfUnix := 1000 }
  time := 1010
  pendingNow := 2 ^ 20

def sampleBefore (transfers : Value) : List (Exchange Command WireReply) :=
  [⟨.xautoclaim, some []⟩, ⟨.xreadgroup, some [sampleEntry]⟩] ++
    (sampleReadings transfers).exchanges sampleConfig 7

/-- The transfer the drain then asks for; the connection fails. -/
def sampleTransfer : Exchange Command WireReply :=
  ⟨.transfer 7 (stampAmount (2 ^ 20) 7) "4AdUndXHHZ", none⟩

def emptyHistory : Value := .object [("result", .object [])]

def daemonLost : Value :=
  .object [("error", .object [("code", .number (.negInt (-38))),
    ("message", .string "no connection to daemon")])]

theorem transfer_fully_guarded_answered :
    (drainOnceWire sampleConfig).Transcript (sampleBefore emptyHistory ++ [sampleTransfer]) ∧
      FullyGuarded sampleConfig (sampleBefore emptyHistory) 7 (stampAmount (2 ^ 20) 7) := by
  have transcript : (drainOnceWire sampleConfig).Transcript
      (sampleBefore emptyHistory ++ [sampleTransfer]) :=
    ⟨_, .cons _ (.cons _ (.cons _ (.cons _ (.cons _ (.cons _ (.cons _ (.cons _ (.cons _
      (.cons _ (.nil _))))))))))⟩
  refine ⟨transcript, (transfer_fully_guarded_iff transcript).2 ?_⟩
  rintro _ ⟨⟩
  exact Option.some_ne_none _

/-- The error object is taken for an empty history, and the drain pays. -/
theorem transfer_behind_error_object :
    (drainOnceWire sampleConfig).Transcript (sampleBefore daemonLost ++ [sampleTransfer]) ∧
      ¬ FullyGuarded sampleConfig (sampleBefore daemonLost) 7 (stampAmount (2 ^ 20) 7) := by
  constructor
  · exact ⟨_, .cons _ (.cons _ (.cons _ (.cons _ (.cons _ (.cons _ (.cons _ (.cons _ (.cons _
      (.cons _ (.nil _))))))))))⟩
  · intro guarded
    exact guarded.answered daemonLost rfl rfl

end CrFaucet.Redemption
