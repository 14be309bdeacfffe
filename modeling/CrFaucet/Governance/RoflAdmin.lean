import CrFaucet.Interaction.Run
import CrFaucet.Token.Erc20

/-!
Owns `RoflAdminGovernance`, the timelocked admin of the pool's ROFL app: its storage,
its entry points, and the one message it can relay to the runtime.

A call that reverts changes nothing, but the subcall it may have made before that was
made: `relayed` is what an observer of the runtime sees. The runtime cannot call back,
since messages that re-enter the EVM are forbidden.

Does not own what an update body means, nor the hash.
-/

set_option autoImplicit false

namespace CrFaucet.Governance.RoflAdmin

open Interaction
open Token (Address uint256)

/-- A CBOR `rofl.Update` body. -/
abbrev Body := List UInt8

structure Site (Hash : Type) where
  delay : Nat
  keccak256 : Body → Hash
  /-- `bytes32(0)`. -/
  zero : Hash

structure State (Hash : Type) where
  governor : Address
  pendingHash : Hash
  /-- The earliest execution time; 0 is none. -/
  eta : Nat
deriving DecidableEq

inductive Event (Hash : Type) where
  | governorTransferred (sender receiver : Address)
  | proposed (bodyHash : Hash) (body : Body) (eta : Nat)
  | executed (bodyHash : Hash)
  | cancelled (bodyHash : Hash)
deriving DecidableEq

inductive Revert where
  | reason (text : String)
  | arithmetic
  | subcallError
  /-- `abi.decode` of what the precompile returned. -/
  | returnData
deriving DecidableEq

/-- What the SUBCALL precompile does. -/
inductive SubcallAnswer where
  | failed
  | malformed
  | status (code : Nat)
deriving DecidableEq

/-- The entry points. The answer of the runtime comes with `execute`. -/
inductive Call where
  | transferGovernor (receiver : Address)
  | propose (updateBody : Body)
  | cancel
  | execute (updateBody : Body) (answer : SubcallAnswer)
deriving DecidableEq

structure Transaction where
  sender : Address
  timestamp : Nat
  call : Call
deriving DecidableEq

/-- How a call ends, and the body of the `rofl.Update` it made on the way. -/
structure Outcome (Hash : Type) where
  result : Except Revert (State Hash × Event Hash)
  relayed : Option Body

variable {Hash : Type}

def require (condition : Prop) [Decidable condition] (revert : Revert) : Except Revert Unit :=
  if condition then .ok () else .error revert

/-- The constructor. -/
def deployed (site : Site Hash) (governor : Address) : Except Revert (State Hash) := do
  require (governor ≠ 0) (.reason "governor=0")
  return { governor, pendingHash := site.zero, eta := 0 }

namespace State

variable [DecidableEq Hash] (site : Site Hash) (state : State Hash) (sender : Address)
  (timestamp : Nat)

/-- The modifier `onlyGovernor`. -/
def onlyGovernor : Except Revert Unit :=
  require (sender = state.governor) (.reason "not governor")

def transferGovernor (receiver : Address) : Except Revert (State Hash × Event Hash) := do
  state.onlyGovernor sender
  require (receiver ≠ 0) (.reason "governor=0")
  return ({ state with governor := receiver }, .governorTransferred state.governor receiver)

def propose (updateBody : Body) : Except Revert (State Hash × Event Hash) := do
  state.onlyGovernor sender
  require (0 < updateBody.length) (.reason "empty body")
  require (timestamp + site.delay < uint256) .arithmetic
  return ({ state with
      pendingHash := site.keccak256 updateBody
      eta := timestamp + site.delay },
    .proposed (site.keccak256 updateBody) updateBody (timestamp + site.delay))

def cancel : Except Revert (State Hash × Event Hash) := do
  state.onlyGovernor sender
  return ({ state with pendingHash := site.zero, eta := 0 }, .cancelled state.pendingHash)

/-- `execute` up to the subcall: the slot is cleared first. -/
def executeWrites (updateBody : Body) : Except Revert (State Hash) := do
  state.onlyGovernor sender
  require (state.eta ≠ 0 ∧ state.eta ≤ timestamp) (.reason "timelock")
  require (site.keccak256 updateBody = state.pendingHash) (.reason "body mismatch")
  return { state with pendingHash := site.zero, eta := 0 }

def execute (updateBody : Body) (answer : SubcallAnswer) : Outcome Hash :=
  match state.executeWrites site sender timestamp updateBody with
  | .error revert => ⟨.error revert, none⟩
  | .ok cleared => {
      relayed := some updateBody
      result := match answer with
        | .failed => .error .subcallError
        | .malformed => .error .returnData
        | .status code =>
            if code = 0 then .ok (cleared, .executed state.pendingHash)
            else .error (.reason "rofl.Update failed") }

end State

section Transactions

variable [DecidableEq Hash] (site : Site Hash) (state : State Hash)

def transact (transaction : Transaction) : Outcome Hash :=
  match transaction.call with
  | .transferGovernor receiver => ⟨state.transferGovernor transaction.sender receiver, none⟩
  | .propose updateBody =>
      ⟨state.propose site transaction.sender transaction.timestamp updateBody, none⟩
  | .cancel => ⟨state.cancel site transaction.sender, none⟩
  | .execute updateBody answer =>
      state.execute site transaction.sender transaction.timestamp updateBody answer

/-- The storage afterwards; a revert restores it. -/
def step (transaction : Transaction) : State Hash :=
  match (transact site state transaction).result with
  | .ok (after, _) => after
  | .error _ => state

def Succeeds (transaction : Transaction) : Prop :=
  (transact site state transaction).result.isOk = true

instance (transaction : Transaction) : Decidable (Succeeds site state transaction) :=
  inferInstanceAs (Decidable (_ = _))

/-- The bodies relayed by the transactions of a run that did not revert. -/
def relays : State Hash → List Transaction → List Body
  | _, [] => []
  | state, transaction :: rest =>
      (if Succeeds site state transaction then (transact site state transaction).relayed.toList
        else []) ++ relays (step site state transaction) rest

end Transactions

/-! ### What a transaction can do -/

section Entries

variable [DecidableEq Hash] {site : Site Hash} {state after : State Hash} {event : Event Hash}
  {sender receiver : Address} {timestamp : Nat} {updateBody : Body}

theorem require_bind_eq_ok {Result : Type} {condition : Prop} [Decidable condition]
    {revert : Revert} {next : Unit → Except Revert Result} {result : Result} :
    (require condition revert >>= next) = .ok result ↔ condition ∧ next () = .ok result := by
  unfold require
  split
  · rename_i holds
    simp only [holds, true_and]
    rfl
  · rename_i fails
    simp only [fails, false_and, iff_false]
    intro wrong
    cases wrong

omit [DecidableEq Hash] in
theorem transferGovernor_ok
    (done : state.transferGovernor sender receiver = .ok (after, event)) :
    after = { state with governor := receiver } := by
  simp only [State.transferGovernor, State.onlyGovernor, require_bind_eq_ok] at done
  obtain ⟨_, _, done⟩ := done
  cases done
  rfl

omit [DecidableEq Hash] in
theorem propose_ok (done : state.propose site sender timestamp updateBody = .ok (after, event)) :
    sender = state.governor ∧ after = { state with
      pendingHash := site.keccak256 updateBody
      eta := timestamp + site.delay } := by
  simp only [State.propose, State.onlyGovernor, require_bind_eq_ok] at done
  obtain ⟨governs, _, _, done⟩ := done
  cases done
  exact ⟨governs, rfl⟩

omit [DecidableEq Hash] in
theorem cancel_ok (done : state.cancel site sender = .ok (after, event)) :
    after = { state with pendingHash := site.zero, eta := 0 } := by
  simp only [State.cancel, State.onlyGovernor, require_bind_eq_ok] at done
  obtain ⟨_, done⟩ := done
  cases done
  rfl

theorem executeWrites_ok
    (done : state.executeWrites site sender timestamp updateBody = .ok after) :
    state.eta ≠ 0 ∧ state.eta ≤ timestamp ∧ site.keccak256 updateBody = state.pendingHash ∧
      after = { state with pendingHash := site.zero, eta := 0 } := by
  simp only [State.executeWrites, State.onlyGovernor, require_bind_eq_ok] at done
  obtain ⟨_, ⟨staged, due⟩, hash, done⟩ := done
  cases done
  exact ⟨staged, due, hash, rfl⟩

end Entries

end CrFaucet.Governance.RoflAdmin
