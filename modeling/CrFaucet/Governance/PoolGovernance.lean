import CrFaucet.Token.Steps

/-!
Owns `PoolGovernance`, the timelocked owner of the pool's contracts, next to one
`MiningPoolToken`: every entry point of the governance contract, calls of the
token by anyone, and what the code of a target does while it holds control.

A call is a tree, as it is for the token alone. `execute` hands control to its
target: to the token, whose code is known, or to foreign code, which may make any
calls in turn. A reverted call is `none` and leaves no trace.

`log` is a ghost: what was queued, cancelled and executed, in this order. No entry
point reads it. Native balances, return data and gas are not modelled; a call that
fails for lack of them is one whose `ok` is false.
-/

set_option autoImplicit false

namespace CrFaucet.Governance

open Token (Address Ecdsa require checkedAdd)

/-- What `queue`, `cancel` and `execute` take. -/
structure Operation (Data : Type) where
  target : Address
  value : Nat
  data : Data
deriving DecidableEq

/-- What does not change: the delay, the addresses of the two contracts, the hash
of an operation and how the token reads calldata. -/
structure Site (Data Id Signature : Type) where
  delay : Nat
  governance : Address
  token : Address
  ecdsa : Ecdsa Signature
  /-- `keccak256(abi.encode(target, value, data))`. -/
  id : Operation Data → Id
  /-- The entry point of the token that calldata names. What a `redeem` does inside
  is not in its calldata. -/
  decode : Data → Option (Token.Call Signature)

/-- What became of an operation. -/
inductive Record (Data : Type) where
  | queued (operation : Operation Data) (time : Nat)
  | cancelled (operation : Operation Data)
  /-- With the caller and the governor of that moment. -/
  | executed (operation : Operation Data) (time : Nat) (sender governor : Address)
deriving DecidableEq

def Record.operation {Data : Type} : Record Data → Operation Data
  | .queued operation _ => operation
  | .cancelled operation => operation
  | .executed operation _ _ _ => operation

structure State (Data Id : Type) where
  governor : Address
  renounced : Bool
  /-- The earliest execution time; 0 is not queued. -/
  queuedAt : Id → Nat
  token : Token.State
  log : List (Record Data)

mutual

/-- The entry points. `execute` and `redeem` carry the calls made while they have
handed over control, and whether that code returned normally. -/
inductive Call (Data Signature : Type) where
  | transferGovernor (receiver : Address)
  | queue (operation : Operation Data)
  | cancel (operation : Operation Data)
  | execute (operation : Operation Data) (inner : Calls Data Signature) (ok : Bool)
  | renounce
  /-- A call of the token that hands control to nobody but callers of the token. -/
  | token (call : Token.Call Signature)
  | redeem (amount : Nat) (xmrAddress : String) (value : Nat) (inner : Calls Data Signature)
      (ok : Bool)

/-- Calls in the order they are made, each with its `msg.sender`. -/
inductive Calls (Data Signature : Type) where
  | nil
  | cons (sender : Address) (call : Call Data Signature) (rest : Calls Data Signature)

end

variable {Data Id Signature : Type}

/-- The storage the constructor leaves, next to a token. -/
def deployed (governor : Address) (token : Token.State) : Option (State Data Id) := do
  require (governor ≠ 0)
  some { governor, renounced := false, queuedAt := fun _ => 0, token, log := [] }

namespace State

variable [DecidableEq Id] (site : Site Data Id Signature) (timestamp : Nat) (state : State Data Id)
  (sender : Address)

def transferGovernor (receiver : Address) : Option (State Data Id) := do
  require (sender = state.governor)
  require (state.renounced = false)
  require (receiver ≠ 0)
  some { state with governor := receiver }

def queue (operation : Operation Data) : Option (State Data Id) := do
  require (sender = state.governor)
  require (state.renounced = false)
  require (state.queuedAt (site.id operation) = 0)
  let eta ← checkedAdd timestamp site.delay
  some { state with
    queuedAt := Function.update state.queuedAt (site.id operation) eta
    log := state.log ++ [.queued operation timestamp] }

/-- Allowed even after `renounce`. -/
def cancel (operation : Operation Data) : Option (State Data Id) := do
  require (sender = state.governor)
  require (state.queuedAt (site.id operation) ≠ 0)
  some { state with
    queuedAt := Function.update state.queuedAt (site.id operation) 0
    log := state.log ++ [.cancelled operation] }

/-- `execute` up to the call of the target. -/
def executeWrites (operation : Operation Data) : Option (State Data Id) := do
  require (sender = state.governor)
  require (state.renounced = false)
  require (state.queuedAt (site.id operation) ≠ 0)
  require (state.queuedAt (site.id operation) ≤ timestamp)
  some { state with
    queuedAt := Function.update state.queuedAt (site.id operation) 0
    log := state.log ++ [.executed operation timestamp sender state.governor] }

def renounce : Option (State Data Id) := do
  require (sender = state.governor)
  some { state with renounced := true }

/-- An entry point of the token that calls nobody; it takes no value. -/
def callToken (value : Nat) (call : Token.Call Signature) : Option (State Data Id) := do
  require (value = 0)
  let token ← Token.transact site.ecdsa state.token sender call
  some { state with token := token }

/-- `redeem` up to the value call. -/
def redeemWrites (amount : Nat) (xmrAddress : String) (value : Nat) : Option (State Data Id) := do
  let token ← state.token.redeemWrites sender amount xmrAddress value
  some { state with token := token }

/-- `execute` up to the point where foreign code gets control, or to its end if none
does: the token's own code runs at once. -/
def executeEnters (operation : Operation Data) : Option (State Data Id) := do
  let written ← state.executeWrites site timestamp sender operation
  if operation.target = site.token then
    match site.decode operation.data with
    | none => none
    | some (.redeem amount xmrAddress _ _ _) =>
        written.redeemWrites site.governance amount xmrAddress operation.value
    | some call => written.callToken site site.governance operation.value call
  else some written

end State

/-- Whether executing the operation hands control to foreign code: every target but
the token does, and the token when `redeem` forwards a positive value. -/
def Site.handsOver (site : Site Data Id Signature) (operation : Operation Data) : Bool :=
  if operation.target = site.token then
    match site.decode operation.data with
    | some (.redeem _ _ _ _ _) => operation.value ≠ 0
    | _ => false
  else true

mutual

/-- One call by `sender` in a block with this timestamp. -/
def transact [DecidableEq Id] (site : Site Data Id Signature) (timestamp : Nat)
    (state : State Data Id) (sender : Address) : Call Data Signature → Option (State Data Id)
  | .transferGovernor receiver => state.transferGovernor sender receiver
  | .queue operation => state.queue site timestamp sender operation
  | .cancel operation => state.cancel site sender operation
  | .renounce => state.renounce sender
  | .execute operation inner ok =>
      match state.executeEnters site timestamp sender operation with
      | none => none
      | some entered =>
          -- The target's call must succeed.
          if ok then
            if site.handsOver operation then some (execAll site timestamp entered inner)
            else some entered
          else none
  | .token call => state.callToken site sender 0 call
  | .redeem amount xmrAddress value inner ok =>
      match state.redeemWrites sender amount xmrAddress value with
      | none => none
      | some redeemed =>
          if value = 0 then some redeemed
          else if ok then some (execAll site timestamp redeemed inner)
          else none

/-- Calls one after the other; a reverted one changes nothing. -/
def execAll [DecidableEq Id] (site : Site Data Id Signature) (timestamp : Nat)
    (state : State Data Id) : Calls Data Signature → State Data Id
  | .nil => state
  | .cons sender call rest =>
      execAll site timestamp ((transact site timestamp state sender call).getD state) rest

end

mutual

/-- Nobody but the governance contract itself calls the token in its name. -/
def Call.Genuine (site : Site Data Id Signature) (sender : Address) :
    Call Data Signature → Prop
  | .execute _ inner _ => inner.Genuine site
  | .token call => call.All (fun sender _ => sender ≠ site.governance) sender
  | .redeem _ _ _ inner _ => inner.Genuine site
  | _ => True

def Calls.Genuine (site : Site Data Id Signature) : Calls Data Signature → Prop
  | .nil => True
  | .cons sender call rest => call.Genuine site sender ∧ rest.Genuine site

end

/-- The states in which a call can start or end: after any sequence of transactions,
and inside `execute` and `redeem` while foreign code has control. -/
inductive Visited [DecidableEq Id] (site : Site Data Id Signature) (start : State Data Id) :
    State Data Id → Prop where
  | start : Visited site start start
  | call {before after : State Data Id} (timestamp : Nat) (sender : Address)
      (call : Call Data Signature) (visited : Visited site start before)
      (genuine : call.Genuine site sender)
      (returned : transact site timestamp before sender call = some after) :
      Visited site start after
  | insideExecute {before entered : State Data Id} (timestamp : Nat) (sender : Address)
      (operation : Operation Data) (visited : Visited site start before)
      (enters : before.executeEnters site timestamp sender operation = some entered) :
      Visited site start entered
  | insideRedeem {before redeemed : State Data Id} (sender : Address) (amount : Nat)
      (xmrAddress : String) (value : Nat) (visited : Visited site start before)
      (wrote : before.redeemWrites sender amount xmrAddress value = some redeemed) :
      Visited site start redeemed

end CrFaucet.Governance
