import CrFaucet.Token.Erc20

/-!
Owns the `MiningPoolToken` contract: its storage, every state-changing entry
point (its own and those it inherits from `ERC20Burnable`, `ERC20Permit` and
`Ownable`), and transactions with the re-entrant calls `redeem` permits.

A call is a tree: `redeem` hands control to `authorizedSigner` after its writes,
and whatever the signer's code does there is a list of further calls by
arbitrary senders. A reverted call is `none` and leaves no trace; the code that
made it may carry on.

Signatures are abstract: `Ecdsa` recovers the account behind a signed voucher
or permit, or reverts. Events and the deployment-time pair are not modelled;
no entry point reads them.
-/

set_option autoImplicit false

namespace CrFaucet.Token

/-- The EIP-712 payload `Voucher(user, cumulativeAmount, signedAt)`. -/
structure Voucher where
  user : Address
  cumulativeAmount : Nat
  signedAt : Nat
deriving DecidableEq

/-- The EIP-712 payload of `permit`. -/
structure PermitMessage where
  owner : Address
  spender : Address
  value : Nat
  nonce : Nat
  deadline : Nat
deriving DecidableEq

/-- `ECDSA.recover` over the typed-data digests of one deployment. `none` is a
malformed signature, on which `recover` reverts. -/
structure Ecdsa (Signature : Type) where
  voucher : Voucher → Signature → Option Address
  permit : PermitMessage → Signature → Option Address

structure StoredRedemption where
  user : Address
  amount : Nat
  xmrAddress : String
deriving DecidableEq

/-- The contract's storage. `made` and `burned` are ghosts: the number of
redemptions recorded so far, not reduced modulo `2 ^ 256`, and the amount taken
out of circulation by `burn` and `burnFrom`. No entry point reads them. -/
structure State where
  erc20 : Erc20
  nonces : Address → Nat
  owner : Address
  authorizedSigner : Address
  claimed : Address → Nat
  redemptions : Nat → StoredRedemption
  nextRedemptionId : Nat
  processed : Nat → Bool
  payoutTxid : Nat → String
  restoreHeight : Nat
  redemptionGasSubsidy : Nat
  made : Nat
  burned : Nat

/-- The storage the constructor leaves. -/
def deployed (owner signer : Address) (subsidy : Nat) : State where
  erc20 := { balances := fun _ => 0, allowances := fun _ _ => 0, totalSupply := 0 }
  nonces := fun _ => 0
  owner := owner
  authorizedSigner := signer
  claimed := fun _ => 0
  redemptions := fun _ => { user := 0, amount := 0, xmrAddress := "" }
  nextRedemptionId := 0
  processed := fun _ => false
  payoutTxid := fun _ => ""
  restoreHeight := 0
  redemptionGasSubsidy := subsidy
  made := 0
  burned := 0

mutual

/-- The entry points. `redeem` carries the attached value, the calls made while
the signer account holds control, and whether its code returned normally. -/
inductive Call (Signature : Type) where
  | claim (user : Address) (cumulativeAmount signedAt : Nat) (sig : Signature)
  | redeem (amount : Nat) (xmrAddress : String) (value : Nat) (inner : Calls Signature)
      (ok : Bool)
  | markProcessed (id : Nat) (moneroTxid : String) (newRestoreHeight : Nat)
  | burn (value : Nat)
  | burnFrom (account : Address) (value : Nat)
  | transfer (receiver : Address) (value : Nat)
  | transferFrom (sender receiver : Address) (value : Nat)
  | approve (spender : Address) (value : Nat)
  | permit (timestamp : Nat) (message : PermitMessage) (sig : Signature)
  | setSigner (signer : Address)
  | setRedemptionGasSubsidy (newSubsidy : Nat)
  | transferOwnership (newOwner : Address)
  | renounceOwnership

/-- Calls in the order they are made, each with its `msg.sender`. -/
inductive Calls (Signature : Type) where
  | nil
  | cons (sender : Address) (call : Call Signature) (rest : Calls Signature)

end

variable {Signature : Type}

namespace State

/-- `claim`, with the minted delta it returns. -/
def claim (ecdsa : Ecdsa Signature) (state : State) (user : Address)
    (cumulativeAmount signedAt : Nat) (sig : Signature) : Option (State × Nat) := do
  require (state.claimed user < cumulativeAmount)
  let recovered ← ecdsa.voucher ⟨user, cumulativeAmount, signedAt⟩ sig
  require (recovered = state.authorizedSigner)
  let delta := cumulativeAmount - state.claimed user
  let erc20 ← state.erc20.mint user delta
  some ({ state with
    claimed := Function.update state.claimed user cumulativeAmount, erc20 := erc20 }, delta)

/-- `redeem` up to the value call: the subsidy check, the burn and the record
under the next id, which is incremented unchecked. -/
def redeemWrites (state : State) (sender : Address) (amount : Nat) (xmrAddress : String)
    (value : Nat) : Option State := do
  require (state.redemptionGasSubsidy ≤ value)
  let erc20 ← state.erc20.burn sender amount
  let id := uncheckedAdd state.nextRedemptionId 1
  some { state with
    erc20 := erc20
    nextRedemptionId := id
    redemptions := Function.update state.redemptions id ⟨sender, amount, xmrAddress⟩
    made := state.made + 1 }

/-- `markProcessed`: the restore pointer moves even when the id was marked
before; the flag and the txid are written once. -/
def markProcessed (state : State) (sender : Address) (id : Nat) (moneroTxid : String)
    (newRestoreHeight : Nat) : Option State := do
  require (sender = state.authorizedSigner)
  require (id ≠ 0 ∧ id ≤ state.nextRedemptionId)
  let advanced : State :=
    if state.restoreHeight < newRestoreHeight then { state with restoreHeight := newRestoreHeight }
    else state
  if advanced.processed id then some advanced
  else some { advanced with
    processed := Function.update advanced.processed id true
    payoutTxid := Function.update advanced.payoutTxid id moneroTxid }

/-- `burn` and the second half of `burnFrom`. -/
def burn (state : State) (account : Address) (value : Nat) : Option State := do
  let erc20 ← state.erc20.burn account value
  some { state with erc20 := erc20, burned := state.burned + value }

/-- `burnFrom`. -/
def burnFrom (state : State) (sender account : Address) (value : Nat) : Option State := do
  let erc20 ← state.erc20.spendAllowance account sender value
  { state with erc20 := erc20 }.burn account value

/-- `transferFrom`. -/
def transferFrom (state : State) (spender sender receiver : Address) (value : Nat) :
    Option State := do
  let spent ← state.erc20.spendAllowance sender spender value
  let erc20 ← spent.transfer sender receiver value
  some { state with erc20 := erc20 }

/-- `permit`: the nonce in the signed message is the owner's current one. -/
def permit (ecdsa : Ecdsa Signature) (state : State) (timestamp : Nat) (message : PermitMessage)
    (sig : Signature) : Option State := do
  require (timestamp ≤ message.deadline)
  require (message.nonce = state.nonces message.owner)
  let signer ← ecdsa.permit message sig
  require (signer = message.owner)
  let erc20 ← state.erc20.approve message.owner message.spender message.value
  some { state with
    nonces := Function.update state.nonces message.owner
      (uncheckedAdd (state.nonces message.owner) 1)
    erc20 := erc20 }

end State

mutual

/-- One call by `sender`. -/
def transact (ecdsa : Ecdsa Signature) (state : State) (sender : Address) :
    Call Signature → Option State
  | .claim user cumulativeAmount signedAt sig =>
      (state.claim ecdsa user cumulativeAmount signedAt sig).map Prod.fst
  | .redeem amount xmrAddress value inner ok =>
      match state.redeemWrites sender amount xmrAddress value with
      | none => none
      | some written =>
          -- The value call is made only for a positive value and must succeed.
          if value = 0 then some written
          else if ok then some (execAll ecdsa written inner)
          else none
  | .markProcessed id moneroTxid newRestoreHeight =>
      state.markProcessed sender id moneroTxid newRestoreHeight
  | .burn value => state.burn sender value
  | .burnFrom account value => state.burnFrom sender account value
  | .transfer receiver value =>
      (state.erc20.transfer sender receiver value).map fun erc20 => { state with erc20 := erc20 }
  | .transferFrom source receiver value => state.transferFrom sender source receiver value
  | .approve spender value =>
      (state.erc20.approve sender spender value).map fun erc20 => { state with erc20 := erc20 }
  | .permit timestamp message sig => state.permit ecdsa timestamp message sig
  | .setSigner signer =>
      if sender = state.owner then some { state with authorizedSigner := signer } else none
  | .setRedemptionGasSubsidy newSubsidy =>
      if sender = state.owner then some { state with redemptionGasSubsidy := newSubsidy } else none
  | .transferOwnership newOwner =>
      if sender = state.owner ∧ newOwner ≠ 0 then some { state with owner := newOwner } else none
  | .renounceOwnership =>
      if sender = state.owner then some { state with owner := 0 } else none

/-- Calls one after the other; a reverted one changes nothing. -/
def execAll (ecdsa : Ecdsa Signature) (state : State) : Calls Signature → State
  | .nil => state
  | .cons sender call rest => execAll ecdsa ((transact ecdsa state sender call).getD state) rest

end

/-- The states in which a call can start or end: after any sequence of
transactions, and inside `redeem` at the moment the signer gets control. -/
inductive Visited (ecdsa : Ecdsa Signature) (start : State) : State → Prop where
  | start : Visited ecdsa start start
  | call {before after : State} (sender : Address) (call : Call Signature)
      (visited : Visited ecdsa start before)
      (returned : transact ecdsa before sender call = some after) : Visited ecdsa start after
  | inside {before written : State} (sender : Address) (amount : Nat) (xmrAddress : String)
      (value : Nat) (visited : Visited ecdsa start before)
      (wrote : before.redeemWrites sender amount xmrAddress value = some written) :
      Visited ecdsa start written

theorem visited_execAll {ecdsa : Ecdsa Signature} {start : State} :
    ∀ {state : State} (calls : Calls Signature), Visited ecdsa start state →
      Visited ecdsa start (execAll ecdsa state calls)
  | state, .nil, visited => by
      rw [execAll]
      exact visited
  | state, .cons sender call rest, visited => by
      rw [execAll]
      cases returned : transact ecdsa state sender call with
      | none => exact visited_execAll rest visited
      | some after => exact visited_execAll rest (.call sender call visited returned)

/-! ### What the entry points do -/

namespace State

variable {ecdsa : Ecdsa Signature} {state after : State}

theorem claim_eq {user : Address} {cumulativeAmount signedAt delta : Nat} {sig : Signature}
    (claimed : state.claim ecdsa user cumulativeAmount signedAt sig = some (after, delta)) :
    state.claimed user < cumulativeAmount ∧ delta = cumulativeAmount - state.claimed user ∧
      ecdsa.voucher ⟨user, cumulativeAmount, signedAt⟩ sig = some state.authorizedSigner ∧
      ∃ erc20, state.erc20.mint user delta = some erc20 ∧
        after = { state with
          claimed := Function.update state.claimed user cumulativeAmount, erc20 := erc20 } := by
  simp only [claim, Option.bind_eq_bind, Option.bind_eq_some_iff, require_eq_some,
    Option.some.injEq, Prod.mk.injEq] at claimed
  obtain ⟨_, fresh, recovered, signed, _, same, erc20, minted, rfl, rfl⟩ := claimed
  exact ⟨fresh, rfl, same ▸ signed, erc20, minted, rfl⟩

theorem claim_succeeds {user : Address} {cumulativeAmount signedAt : Nat} {sig : Signature}
    {erc20 : Erc20} (fresh : state.claimed user < cumulativeAmount)
    (signed : ecdsa.voucher ⟨user, cumulativeAmount, signedAt⟩ sig = some state.authorizedSigner)
    (minted : state.erc20.mint user (cumulativeAmount - state.claimed user) = some erc20) :
    ∃ after delta, state.claim ecdsa user cumulativeAmount signedAt sig = some (after, delta) := by
  simp [claim, require, fresh, signed, minted]

theorem redeemWrites_eq {sender : Address} {amount value : Nat} {xmrAddress : String}
    (wrote : state.redeemWrites sender amount xmrAddress value = some after) :
    state.redemptionGasSubsidy ≤ value ∧
      ∃ erc20, state.erc20.burn sender amount = some erc20 ∧
        after = { state with
          erc20 := erc20
          nextRedemptionId := uncheckedAdd state.nextRedemptionId 1
          redemptions := Function.update state.redemptions
            (uncheckedAdd state.nextRedemptionId 1) ⟨sender, amount, xmrAddress⟩
          made := state.made + 1 } := by
  simp only [redeemWrites, Option.bind_eq_bind, Option.bind_eq_some_iff, require_eq_some,
    Option.some.injEq] at wrote
  obtain ⟨_, paid, erc20, burned, rfl⟩ := wrote
  exact ⟨paid, erc20, burned, rfl⟩

/-- The flag and the txid are written together, and only once. -/
theorem markProcessed_eq {sender : Address} {id newRestoreHeight : Nat} {moneroTxid : String}
    (marked : state.markProcessed sender id moneroTxid newRestoreHeight = some after) :
    sender = state.authorizedSigner ∧ (id ≠ 0 ∧ id ≤ state.nextRedemptionId) ∧
      after = { state with
        restoreHeight := max state.restoreHeight newRestoreHeight
        processed := Function.update state.processed id true
        payoutTxid := if state.processed id = true then state.payoutTxid
          else Function.update state.payoutTxid id moneroTxid } := by
  simp only [markProcessed, Option.bind_eq_bind, Option.bind_eq_some_iff,
    require_eq_some] at marked
  obtain ⟨_, authorized, _, known, written⟩ := marked
  refine ⟨authorized, known, ?_⟩
  have advanced : (if state.restoreHeight < newRestoreHeight then
      { state with restoreHeight := newRestoreHeight } else state) =
      { state with restoreHeight := max state.restoreHeight newRestoreHeight } := by
    split
    · rw [Nat.max_eq_right (Nat.le_of_lt ‹_›)]
    · rw [Nat.max_eq_left (Nat.le_of_not_lt ‹_›)]
  rw [advanced] at written
  by_cases already : state.processed id = true
  · simp only [already, if_true, Option.some.injEq] at written
    rw [← written, if_pos already, Function.update_eq_self_iff.2 already.symm]
  · simp only [already, Bool.false_eq_true, if_false, Option.some.injEq] at written
    rw [← written, if_neg already]

theorem burn_eq {account : Address} {value : Nat} (burned : state.burn account value = some after) :
    ∃ erc20, state.erc20.burn account value = some erc20 ∧
      after = { state with erc20 := erc20, burned := state.burned + value } := by
  simp only [burn, Option.bind_eq_bind, Option.bind_eq_some_iff, Option.some.injEq] at burned
  obtain ⟨erc20, taken, rfl⟩ := burned
  exact ⟨erc20, taken, rfl⟩

end State

end CrFaucet.Token
