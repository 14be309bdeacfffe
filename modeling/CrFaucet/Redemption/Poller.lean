import CrFaucet.Redemption.World

/-!
Owns the producer side: `Store::enqueue_redemption`, which claims the slot of an
id in one script and then appends the stream entry in a second command, and
`EventPoller::tick`, which walks the L2 ids past the cursor.
-/

set_option autoImplicit false

namespace CrFaucet.Redemption

open Interaction
open Token (Address)

/-- `Store::enqueue_redemption`; `none` is an error. -/
def enqueueRedemption (id : RedemptionId) (evmFrom : Address) (atomicAmount : Int)
    (xmrAddr : String) : Service (Option Bool) := do
  match ← send (.enqueue id atomicAmount) with
  | none => return none
  | some false => return some false
  | some true =>
      match ← send (.xadd id evmFrom atomicAmount xmrAddr) with
      | none => return none
      | some _ => return some true

structure EventPoller where
  startBlock : Nat
  chunkSize : Nat
deriving DecidableEq

/-- `u256_to_i64`. -/
def u256ToI64 (value : Nat) : Option Int :=
  if value < 2 ^ 63 then some value else none

/-- The body of the loop over ids. `none` is an error. -/
def pollId (id : RedemptionId) : Service (Option Bool) := do
  match ← send (.redemption id) with
  | none => return none
  | some row =>
      match u256ToI64 row.amount with
      | none => return none
      | some atomic =>
          match ← enqueueRedemption id row.user atomic row.xmrAddress with
          | none => return none
          | some inserted =>
              match ← send (.setCursor id) with
              | none => return none
              | some _ => return some inserted

/-- `for id in from..=to`, as the ids still to come. -/
def pollIds : List RedemptionId → Nat → Service (Option Nat)
  | [], enqueued => return some enqueued
  | id :: rest, enqueued => do
      match ← pollId id with
      | none => return none
      | some inserted => pollIds rest (if inserted then enqueued + 1 else enqueued)

/-- The ids one tick looks at. `from + chunk_size - 1` wraps as `u64`. -/
def EventPoller.batch (poller : EventPoller) (cursor : Nat) (nextId : RedemptionId) :
    List RedemptionId :=
  let first := cursor + 1
  let last := min ((first + poller.chunkSize + (2 ^ 64 - 1)) % 2 ^ 64) nextId.val
  (List.range' first (last + 1 - first)).map (Fin.ofNat (2 ^ 64))

/-- Where polling starts when no cursor is stored. -/
def EventPoller.startCursor (poller : EventPoller) : Nat := poller.startBlock - 1

/-- `EventPoller::tick`. -/
def EventPoller.tick (poller : EventPoller) : Service (Option Nat) := do
  match ← send .getCursor with
  | none => return none
  | some stored =>
      let cursor := (stored.map Fin.val).getD poller.startCursor
      match ← send .nextRedemptionId with
      | none => return none
      | some nextId =>
          if nextId.val ≤ cursor then return some 0
          else pollIds (poller.batch cursor nextId) 0

end CrFaucet.Redemption
