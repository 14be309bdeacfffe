import CrFaucet.Interaction.Program
import CrFaucet.Redemption.Store
import CrFaucet.Token.MiningPoolToken

/-!
Owns everything outside the redemption services: the commands they can send to
Redis, to `monero-wallet-rpc`, to the L2 and to the clock, the world these act
on, and how each command can be answered.

A command can succeed, be carried out while its reply is lost, or fail without
effect. What the wallet reports about balances, heights and history is free; a
theorem that needs it to be true says so. A `transfer` answered with a JSON-RPC
error broadcasts nothing, and one whose connection or decoding failed may have.

Ghost arguments: `getTransfers` carries the id and the lowest height its caller
filters the reply by, and `transfer` the id it is made for. Neither is sent.

Does not own the programs; see `Redemption.Drain`, `Redemption.Poller` and
`Treasury.Refresher`.
-/

set_option autoImplicit false

namespace CrFaucet.Redemption

open Interaction
open Token (Address Ecdsa Call StoredRedemption transact)

/-! ### What the wallet says -/

/-- One object of a `get_transfers` array; fields that are absent or of the
wrong type are `none`. -/
structure HistoryItem where
  amount : Option Nat
  txid : Option String
  height : Option Nat
deriving DecidableEq

/-- The `result` of `get_transfers`; an absent array is empty. -/
structure WalletHistory where
  out : List HistoryItem
  pending : List HistoryItem
  pool : List HistoryItem
deriving DecidableEq

/-- The ways a `transfer` request comes back. -/
inductive TransferReply where
  | failed
  | rejected (code : Option Int) (message : Option String)
  | undecodable
  | sent (txHash : String)
deriving DecidableEq

/-- A broadcast payout, with the redemption it was made for and the height it
was mined at. -/
structure Payment where
  id : RedemptionId
  amount : Nat
  height : Option Nat
deriving DecidableEq

/-! ### Commands -/

inductive Command where
  | xgroupCreate
  | xautoclaim
  | xreadgroup
  | xack (entry : StreamEntry)
  | hsetState (id : RedemptionId) (state : RedemptionState)
  | hsetnxState (id : RedemptionId) (state : RedemptionState)
  | hgetState (id : RedemptionId)
  | enqueue (id : RedemptionId) (atomicAmount : Int)
  | xadd (id : RedemptionId) (sender : Address) (atomicAmount : Int) (xmrAddr : String)
  | tryMarkInFlight (id : RedemptionId)
  | markSent (id : RedemptionId) (txid : String)
  | getPendingAtomic
  | getPendingCount
  | getSnapshot
  | setSnapshot (snapshot : TreasurySnapshot)
  | getCursor
  | setCursor (id : RedemptionId)
  | refresh
  | getBalance
  | getHeight
  | getTransfers (id : RedemptionId) (minHeight : Nat)
  | transfer (id : RedemptionId) (amount : Nat) (address : String)
  | getTransferByTxid (txid : String)
  | incomingTransfers
  | isProcessed (id : RedemptionId)
  | markProcessed (id : RedemptionId) (txid : String) (restoreHeight : Nat)
  | nextRedemptionId
  | redemption (id : RedemptionId)
  | totalSupply
  | now
  | deadlinePassed

/-- `none` is an error of the connection, the script or the call. -/
abbrev Reply : Command → Type
  | .xautoclaim => Option (List StreamEntry)
  | .xreadgroup => Option (List StreamEntry)
  | .hgetState _ => Option (Option RedemptionState)
  | .enqueue _ _ => Option Bool
  | .tryMarkInFlight _ => Option Bool
  | .getPendingAtomic => Option Nat
  | .getPendingCount => Option Nat
  | .getSnapshot => Option (Option TreasurySnapshot)
  | .getCursor => Option (Option RedemptionId)
  | .getBalance => Option (Nat × Nat)
  | .getHeight => Option Nat
  | .getTransfers _ _ => Option WalletHistory
  | .transfer _ _ _ => TransferReply
  | .getTransferByTxid _ => Option Nat
  | .incomingTransfers => Option (List (Option Bool × Option Nat))
  | .isProcessed _ => Option Bool
  | .nextRedemptionId => Option RedemptionId
  | .redemption _ => Option StoredRedemption
  | .totalSupply => Option Nat
  | .now => Int
  | .deadlinePassed => Bool
  | _ => Option Unit

/-- Commands that leave alone everything a discipline of the services watches: the
state hash, the stream, the cursor, the payments and the marks on the L2. -/
def Command.Quiet : Command → Prop
  | .xgroupCreate | .hgetState _ | .getPendingAtomic | .getPendingCount | .getSnapshot
  | .setSnapshot _ | .refresh | .getBalance | .getHeight | .getTransferByTxid _
  | .incomingTransfers | .nextRedemptionId | .redemption _ | .totalSupply | .now
  | .deadlinePassed => True
  | _ => False

abbrev Service (Result : Type) := Program Command Reply Result

def send (command : Command) : Service (Reply command) := Program.call command

export Interaction.Program (obeys_call)

/-! ### Answers -/

inductive Outcome where
  | ok
  | lost
  | refused
deriving DecidableEq

/-- Everything the outside decides about one command. -/
structure Answer where
  outcome : Outcome := .ok
  idle : List Nat := []
  balance : Option (Nat × Nat) := none
  height : Option Nat := none
  history : Option WalletHistory := none
  transfer : TransferReply := .failed
  /-- Whether a failed or undecodable `transfer` went out. -/
  broadcast : Bool := false
  minedAt : Option Nat := none
  unspent : Option (List (Option Bool × Option Nat)) := none
  time : Int := 0
  expired : Bool := false

/-- A connection that may drop before or after the command is carried out. -/
def Outcome.perform {State Result : Type} (outcome : Outcome) (state : State)
    (carriedOut : State × Option Result) : State × Option Result :=
  match outcome with
  | .ok => carriedOut
  | .lost => (carriedOut.1, none)
  | .refused => (state, none)

/-- Whether a `transfer` answered so has been broadcast. -/
def TransferReply.wentOut (reply : TransferReply) (broadcast : Bool) : Bool :=
  match reply with
  | .failed => broadcast
  | .rejected _ _ => false
  | .undecodable => broadcast
  | .sent _ => true

/-! ### The world -/

structure World where
  redis : Redis
  payments : List Payment
  token : Token.State

namespace World

/-- Nothing stored and nothing paid yet. -/
def genesis (token : Token.State) : World where
  redis := Redis.empty 0
  payments := []
  token := token

def onRedis {Result : Type} (world : World) (answer : Answer)
    (command : Redis → Redis × Option Result) : World × Option Result :=
  let done := answer.outcome.perform world.redis (command world.redis)
  ({ world with redis := done.1 }, done.2)

def readL2 {Result : Type} (world : World) (answer : Answer) (value : Option Result) :
    World × Option Result :=
  (world, (answer.outcome.perform () ((), value)).2)

/-- A `markProcessed` transaction of the enclave; a revert changes nothing. -/
def markProcessed (world : World) (enclave : Address) (answer : Answer) (id : RedemptionId)
    (txid : String) (restoreHeight : Nat) : World × Option Unit :=
  let attempt := world.token.markProcessed enclave id.val txid restoreHeight
  let done := answer.outcome.perform world.token
    (attempt.getD world.token, attempt.map fun _ => ())
  ({ world with token := done.1 }, done.2)

/-- `transfer`: a payout that goes out is in the wallet's history, unmined. -/
def pay (world : World) (answer : Answer) (id : RedemptionId) (amount : Nat) : World :=
  if answer.transfer.wentOut answer.broadcast then
    { world with payments := world.payments ++ [{ id, amount, height := none }] }
  else world

/-- The L2 counter as a `u64`. -/
def nextId (world : World) : Option RedemptionId :=
  if fits : world.token.nextRedemptionId < 2 ^ 64 then
    some ⟨world.token.nextRedemptionId, fits⟩
  else none

/-- How often a payout for `id` was broadcast. -/
def broadcasts (world : World) (id : RedemptionId) : Nat :=
  world.payments.countP (·.id = id)

end World

/-- One command. -/
def exec (lua : Lua) (enclave : Address) (world : World) :
    (command : Command) → Answer → World × Reply command
  | .xgroupCreate, answer => world.onRedis answer fun redis => (redis.xgroupCreate, some ())
  | .xautoclaim, answer => world.onRedis answer fun redis => (redis, redis.xautoclaim answer.idle)
  | .xreadgroup, answer => world.onRedis answer Redis.xreadgroup
  | .xack entry, answer => world.onRedis answer fun redis => (redis.xack entry.entryId, some ())
  | .hsetState id state, answer =>
      world.onRedis answer fun redis => (redis.setState id state, some ())
  | .hsetnxState id state, answer =>
      world.onRedis answer fun redis => (redis.setStateNx id state, some ())
  | .hgetState id, answer => world.onRedis answer fun redis => (redis, some (redis.state id))
  | .enqueue id atomicAmount, answer =>
      world.onRedis answer fun redis => redis.enqueueScript lua id atomicAmount
  | .xadd id sender atomicAmount xmrAddr, answer =>
      world.onRedis answer fun redis => (redis.xadd id sender atomicAmount xmrAddr, some ())
  | .tryMarkInFlight id, answer => world.onRedis answer fun redis => redis.tryMarkScript id
  | .markSent id txid, answer => world.onRedis answer fun redis => redis.markSentScript lua id txid
  | .getPendingAtomic, answer =>
      world.onRedis answer fun redis => (redis, some (Redis.readCounter redis.pendingAtomic))
  | .getPendingCount, answer =>
      world.onRedis answer fun redis => (redis, some (Redis.readCounter redis.pendingCount))
  | .getSnapshot, answer => world.onRedis answer fun redis => (redis, some redis.snapshot)
  | .setSnapshot snapshot, answer =>
      world.onRedis answer fun redis => ({ redis with snapshot := some snapshot }, some ())
  | .getCursor, answer => world.onRedis answer fun redis => (redis, some redis.cursor)
  | .setCursor id, answer =>
      world.onRedis answer fun redis => ({ redis with cursor := some id }, some ())
  -- The chain the wallet scans is not part of the world, and neither is how far it got.
  | .refresh, _ => (world, some ())
  | .getBalance, answer => (world, answer.balance)
  | .getHeight, answer => (world, answer.height)
  | .getTransfers _ _, answer => (world, answer.history)
  | .transfer id amount _, answer => (world.pay answer id amount, answer.transfer)
  | .getTransferByTxid _, answer => (world, answer.minedAt)
  | .incomingTransfers, answer => (world, answer.unspent)
  | .isProcessed id, answer => world.readL2 answer (some (world.token.processed id.val))
  | .markProcessed id txid restoreHeight, answer =>
      world.markProcessed enclave answer id txid restoreHeight
  | .nextRedemptionId, answer => world.readL2 answer world.nextId
  | .redemption id, answer => world.readL2 answer (some (world.token.redemptions id.val))
  | .totalSupply, answer =>
      -- `u256_to_u128_or_max`
      world.readL2 answer (some (min world.token.erc20.totalSupply u128Max))
  | .now, answer => (world, answer.time)
  | .deadlinePassed, answer => (world, answer.expired)

/-! ### What happens by itself -/

inductive Event (Signature : Type) where
  /-- The Redis disk is lost. -/
  | wipe
  /-- The payment at this position is mined. -/
  | mined (position height : Nat)
  /-- Anyone calls the contract. -/
  | l2 (sender : Address) (call : Call Signature)

def World.occur {Signature : Type} (ecdsa : Ecdsa Signature) (world : World) :
    Event Signature → World
  | .wipe => { world with redis := world.redis.wipe }
  | .mined position height =>
      { world with payments := world.payments.modify position fun payment =>
          { payment with height := some height } }
  | .l2 sender call =>
      { world with token := (transact ecdsa world.token sender call).getD world.token }

end CrFaucet.Redemption
