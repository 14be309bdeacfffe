import CrFaucet.Redemption.Payout
import CrFaucet.Token.Erc20

/-!
Owns the Redis side of redemptions: the keys `pool_core::store` keeps for them,
the single commands the services send, and the three Lua scripts.

A script is atomic but not transactional: when one of its commands raises an
error, what the earlier ones wrote stays. Script replies are therefore
`Option`, next to the store they leave.

Stream entries are numbered by a clock that a wipe does not reset, as entry ids
are derived from the time. An entry is new, in the pending-entries list of the
consumer group, or acknowledged.

Does not own failures of the connection; see `Redemption.World`.
-/

set_option autoImplicit false

namespace CrFaucet.Redemption

open Token (Address)

/-- The values of `redemptions:state`. -/
inductive RedemptionState where
  | pending
  | inFlight
  | sent
  | paused
  | failed
deriving DecidableEq

structure StreamEntry where
  entryId : Nat
  id : RedemptionId
  sender : Address
  amount : Int
  xmrAddr : String
deriving DecidableEq

/-- The consumer group: how far it has read, and what it has not acknowledged. -/
structure Group where
  lastDelivered : Nat
  pel : List Nat
deriving DecidableEq

/-- How Redis runs Lua arithmetic. `value` is `tonumber` of the decimal text of an
integer; doubles hold every integer up to `2 ^ 53`. `plain` tells the numbers that
are written as integers when a script passes them to a command; from `10 ^ 17` on
the text may have an exponent. -/
structure Lua where
  value : Int → Int
  plain : Int → Bool
  value_exact : ∀ n, n.natAbs ≤ 2 ^ 53 → value n = n
  plain_of_lt : ∀ n, n.natAbs < 10 ^ 17 → plain n = true

/-- Numbers that never round, without exponents. -/
def Lua.unbounded : Lua := ⟨id, fun _ => true, fun _ _ => rfl, fun _ _ => rfl⟩

/-- The integer a command receives when a script passes it `tonumber` of a decimal
text, if it is one. -/
def Lua.number (lua : Lua) (n : Int) : Option Int :=
  if lua.plain (lua.value n) then some (lua.value n) else none

theorem Lua.exact (lua : Lua) (n : Int) (small : n.natAbs ≤ 2 ^ 53) : lua.number n = some n := by
  rw [Lua.number, lua.value_exact n small, if_pos (lua.plain_of_lt n (by omega))]

structure Redis where
  state : RedemptionId → Option RedemptionState
  amount : RedemptionId → Option Int
  txid : RedemptionId → Option String
  pendingAtomic : Option Int
  pendingCount : Option Int
  stream : List StreamEntry
  group : Option Group
  entryClock : Nat
  cursor : Option RedemptionId
  snapshot : Option TreasurySnapshot

/-- `INCRBY`, `INCR`, `DECRBY`, `DECR`: an absent key counts as 0, and a result
outside `i64` is an error. -/
def incrBy (current : Option Int) (delta : Int) : Option Int :=
  let sum := current.getD 0 + delta
  if -2 ^ 63 ≤ sum ∧ sum < 2 ^ 63 then some sum else none

namespace Redis

/-- A store that holds nothing. -/
def empty (entryClock : Nat) : Redis where
  state := fun _ => none
  amount := fun _ => none
  txid := fun _ => none
  pendingAtomic := none
  pendingCount := none
  stream := []
  group := none
  entryClock := entryClock
  cursor := none
  snapshot := none

/-- The disk is lost; the time is not. -/
def wipe (redis : Redis) : Redis := empty redis.entryClock

/-- `HSET redemptions:state`. -/
def setState (redis : Redis) (id : RedemptionId) (value : RedemptionState) : Redis :=
  { redis with state := Function.update redis.state id (some value) }

/-- `HSETNX redemptions:state`. -/
def setStateNx (redis : Redis) (id : RedemptionId) (value : RedemptionState) : Redis :=
  match redis.state id with
  | none => redis.setState id value
  | some _ => redis

/-! ### Scripts -/

/-- The script of `enqueue_redemption`. -/
def enqueueScript (lua : Lua) (redis : Redis) (id : RedemptionId) (atomicAmount : Int) :
    Redis × Option Bool :=
  match redis.state id with
  | some _ => (redis, some false)
  | none =>
      let claimed := { redis.setState id .pending with
        amount := Function.update redis.amount id (some atomicAmount) }
      match (lua.number atomicAmount).bind (incrBy claimed.pendingAtomic) with
      | none => (claimed, none)
      | some total =>
          let counted := { claimed with pendingAtomic := some total }
          match incrBy counted.pendingCount 1 with
          | none => (counted, none)
          | some count => ({ counted with pendingCount := some count }, some true)

/-- The script of `try_mark_redemption_in_flight`. -/
def tryMarkScript (redis : Redis) (id : RedemptionId) : Redis × Option Bool :=
  if redis.state id = some .pending then (redis.setState id .inFlight, some true)
  else (redis, some false)

/-- The debit at the end of the script of `mark_redemption_sent`. -/
def debit (lua : Lua) (redis : Redis) (id : RedemptionId) : Redis × Option Unit :=
  let amt := (redis.amount id).getD 0
  if 0 < amt then
    match (lua.number amt).bind fun n => incrBy redis.pendingAtomic (-n) with
    | none => (redis, none)
    | some total =>
        let debited := { redis with pendingAtomic := some total }
        match incrBy debited.pendingCount (-1) with
        | none => (debited, none)
        | some count => ({ debited with pendingCount := some count }, some ())
  else (redis, some ())

/-- The script of `mark_redemption_sent`. -/
def markSentScript (lua : Lua) (redis : Redis) (id : RedemptionId) (txid : String) :
    Redis × Option Unit :=
  if redis.state id = some .sent then (redis, some ())
  else
    let marked := { redis.setState id .sent with
      txid := Function.update redis.txid id (some txid) }
    if redis.state id = some .pending ∨ redis.state id = some .inFlight then marked.debit lua id
    else (marked, some ())

/-! ### The stream -/

/-- `XGROUP CREATE .. 0 MKSTREAM`. -/
def xgroupCreate (redis : Redis) : Redis :=
  match redis.group with
  | none => { redis with group := some { lastDelivered := 0, pel := [] } }
  | some _ => redis

/-- `XADD redemptions:queue *`. -/
def xadd (redis : Redis) (id : RedemptionId) (sender : Address) (amount : Int)
    (xmrAddr : String) : Redis :=
  let entryId := redis.entryClock + 1
  { redis with
    stream := redis.stream ++ [{ entryId, id, sender, amount, xmrAddr }]
    entryClock := entryId }

/-- `XAUTOCLAIM .. COUNT 16` over the entries that have been idle long enough. -/
def xautoclaim (redis : Redis) (idle : List Nat) : Option (List StreamEntry) :=
  redis.group.map fun group =>
    (redis.stream.filter fun entry => entry.entryId ∈ group.pel ∧ entry.entryId ∈ idle).take 16

/-- `XREADGROUP .. COUNT 16 .. >`. -/
def xreadgroup (redis : Redis) : Redis × Option (List StreamEntry) :=
  match redis.group with
  | none => (redis, none)
  | some group =>
      let fresh := (redis.stream.filter fun entry => group.lastDelivered < entry.entryId).take 16
      let delivered := fresh.map StreamEntry.entryId
      ({ redis with group := some {
          lastDelivered := delivered.getLastD group.lastDelivered
          pel := group.pel ++ delivered } }, some fresh)

/-- `XACK`. -/
def xack (redis : Redis) (entryId : Nat) : Redis :=
  { redis with group := redis.group.map fun group =>
      { group with pel := group.pel.filter (· ≠ entryId) } }

/-- Some later read or reclaim will still return the entry. -/
def Unacknowledged (redis : Redis) (entry : StreamEntry) : Prop :=
  entry ∈ redis.stream ∧
    match redis.group with
    | none => True
    | some group => group.lastDelivered < entry.entryId ∨ entry.entryId ∈ group.pel

/-- `pending_atomic` and `pending_count` never report a negative total. -/
def readCounter (counter : Option Int) : Nat := (counter.getD 0).toNat

end Redis

end CrFaucet.Redemption
