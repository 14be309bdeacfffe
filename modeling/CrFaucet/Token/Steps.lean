import Mathlib.Logic.Relation
import CrFaucet.Token.MiningPoolToken

/-!
Owns the flat view of a call tree: whatever is called, and whatever the signer's
code calls inside `redeem`, the storage goes through a sequence of single steps,
each of them one entry point without what happens inside it.

An invariant of the contract is then a fact about one step.
-/

set_option autoImplicit false

namespace CrFaucet.Token

variable {Signature : Type}

mutual

/-- Every call of the tree is one `allowed` says may be made. -/
def Call.All (allowed : Address → Call Signature → Prop) (sender : Address) :
    Call Signature → Prop
  | .redeem amount xmrAddress value inner ok =>
      allowed sender (.redeem amount xmrAddress value inner ok) ∧ Calls.All allowed inner
  | call => allowed sender call

def Calls.All (allowed : Address → Call Signature → Prop) : Calls Signature → Prop
  | .nil => True
  | .cons sender call rest => Call.All allowed sender call ∧ Calls.All allowed rest

end

mutual

instance Call.decidableAll (allowed : Address → Call Signature → Prop)
    [∀ sender call, Decidable (allowed sender call)] (sender : Address) :
    ∀ call : Call Signature, Decidable (call.All allowed sender)
  | .redeem _ _ _ inner _ => @instDecidableAnd _ _ _ (Calls.decidableAll allowed inner)
  | .claim _ _ _ _ => inferInstanceAs (Decidable (allowed sender _))
  | .markProcessed _ _ _ => inferInstanceAs (Decidable (allowed sender _))
  | .burn _ => inferInstanceAs (Decidable (allowed sender _))
  | .burnFrom _ _ => inferInstanceAs (Decidable (allowed sender _))
  | .transfer _ _ => inferInstanceAs (Decidable (allowed sender _))
  | .transferFrom _ _ _ => inferInstanceAs (Decidable (allowed sender _))
  | .approve _ _ => inferInstanceAs (Decidable (allowed sender _))
  | .permit _ _ _ => inferInstanceAs (Decidable (allowed sender _))
  | .setSigner _ => inferInstanceAs (Decidable (allowed sender _))
  | .setRedemptionGasSubsidy _ => inferInstanceAs (Decidable (allowed sender _))
  | .transferOwnership _ => inferInstanceAs (Decidable (allowed sender _))
  | .renounceOwnership => inferInstanceAs (Decidable (allowed sender _))

instance Calls.decidableAll (allowed : Address → Call Signature → Prop)
    [∀ sender call, Decidable (allowed sender call)] :
    ∀ calls : Calls Signature, Decidable (calls.All allowed)
  | .nil => isTrue trivial
  | .cons sender call rest =>
      @instDecidableAnd _ _ (Call.decidableAll allowed sender call)
        (Calls.decidableAll allowed rest)

end

/-- The entry points that are neither `claim` nor `redeem`. -/
def Call.plain : Call Signature → Bool
  | .claim _ _ _ _ => false
  | .redeem _ _ _ _ _ => false
  | _ => true

/-- One entry point of an allowed call. -/
inductive Step (ecdsa : Ecdsa Signature) (allowed : Address → Call Signature → Prop) :
    State → State → Prop where
  | claim {state after : State} {delta : Nat} (sender user : Address)
      (cumulativeAmount signedAt : Nat) (sig : Signature)
      (may : allowed sender (.claim user cumulativeAmount signedAt sig))
      (claimed : state.claim ecdsa user cumulativeAmount signedAt sig = some (after, delta)) :
      Step ecdsa allowed state after
  | redeem {state after : State} (sender : Address) (amount : Nat) (xmrAddress : String)
      (value : Nat) (wrote : state.redeemWrites sender amount xmrAddress value = some after) :
      Step ecdsa allowed state after
  | plain {state after : State} (sender : Address) (call : Call Signature)
      (flat : call.plain = true) (may : allowed sender call)
      (returned : transact ecdsa state sender call = some after) : Step ecdsa allowed state after

variable {ecdsa : Ecdsa Signature} {allowed : Address → Call Signature → Prop}

mutual

/-- **A call that returns is a sequence of steps.** -/
theorem transact_steps {state after : State} (sender : Address) :
    ∀ call : Call Signature, call.All allowed sender →
      transact ecdsa state sender call = some after →
      Relation.ReflTransGen (Step ecdsa allowed) state after
  | .claim user cumulativeAmount signedAt sig, may, returned => by
      simp only [transact, Option.map_eq_some_iff, Prod.exists, exists_and_right,
        exists_eq_right] at returned
      obtain ⟨delta, claimed⟩ := returned
      exact .single (.claim sender user cumulativeAmount signedAt sig may claimed)
  | .redeem amount xmrAddress value inner ok, may, returned => by
      simp only [transact] at returned
      split at returned
      · cases returned
      · rename_i written wrote
        have first : Step ecdsa allowed state written :=
          .redeem sender amount xmrAddress value wrote
        split at returned
        · cases returned
          exact .single first
        · split at returned
          · cases returned
            exact .head first (execAll_steps inner may.2)
          · cases returned
  | .markProcessed id moneroTxid newRestoreHeight, may, returned =>
      .single (.plain sender _ rfl may returned)
  | .burn value, may, returned => .single (.plain sender _ rfl may returned)
  | .burnFrom account value, may, returned => .single (.plain sender _ rfl may returned)
  | .transfer receiver value, may, returned => .single (.plain sender _ rfl may returned)
  | .transferFrom source receiver value, may, returned =>
      .single (.plain sender _ rfl may returned)
  | .approve spender value, may, returned => .single (.plain sender _ rfl may returned)
  | .permit timestamp message sig, may, returned => .single (.plain sender _ rfl may returned)
  | .setSigner signer, may, returned => .single (.plain sender _ rfl may returned)
  | .setRedemptionGasSubsidy newSubsidy, may, returned =>
      .single (.plain sender _ rfl may returned)
  | .transferOwnership newOwner, may, returned => .single (.plain sender _ rfl may returned)
  | .renounceOwnership, may, returned => .single (.plain sender _ rfl may returned)

theorem execAll_steps {state : State} : ∀ calls : Calls Signature, calls.All allowed →
    Relation.ReflTransGen (Step ecdsa allowed) state (execAll ecdsa state calls)
  | .nil, _ => by
      rw [execAll]
  | .cons sender call rest, may => by
      rw [execAll]
      cases returned : transact ecdsa state sender call with
      | none => exact execAll_steps rest may.2
      | some after =>
          exact (transact_steps sender call may.1 returned).trans (execAll_steps rest may.2)

end

/-- What every step keeps, a call keeps. -/
theorem transact_keeps (holds : State → Prop)
    (step : ∀ {state after}, Step ecdsa allowed state after → holds state → holds after)
    {state after : State} {sender : Address} {call : Call Signature}
    (may : call.All allowed sender) (returned : transact ecdsa state sender call = some after)
    (initially : holds state) : holds after := by
  have steps := transact_steps sender call may returned
  clear returned
  induction steps with
  | refl => exact initially
  | tail _ last inductionHypothesis => exact step last inductionHypothesis

mutual

theorem Call.all_of_forall (every : ∀ sender call, allowed sender call) (sender : Address) :
    ∀ call : Call Signature, call.All allowed sender
  | .redeem _ _ _ inner _ => ⟨every sender _, Calls.all_of_forall every inner⟩
  | .claim _ _ _ _ => every sender _
  | .markProcessed _ _ _ => every sender _
  | .burn _ => every sender _
  | .burnFrom _ _ => every sender _
  | .transfer _ _ => every sender _
  | .transferFrom _ _ _ => every sender _
  | .approve _ _ => every sender _
  | .permit _ _ _ => every sender _
  | .setSigner _ => every sender _
  | .setRedemptionGasSubsidy _ => every sender _
  | .transferOwnership _ => every sender _
  | .renounceOwnership => every sender _

theorem Calls.all_of_forall (every : ∀ sender call, allowed sender call) :
    ∀ calls : Calls Signature, calls.All allowed
  | .nil => trivial
  | .cons sender call rest =>
      ⟨Call.all_of_forall every sender call, Calls.all_of_forall every rest⟩

end

/-! ### The log of a run -/

/-- One entry point that was run, with its `msg.sender`, without what is called inside
it. -/
structure Invocation (Signature : Type) where
  before : State
  sender : Address
  call : Call Signature
  after : State

mutual

/-- What a call runs, in order. A call that fails its own checks runs nothing; what was
run before a later revert is listed too. -/
def invocations (ecdsa : Ecdsa Signature) (state : State) (sender : Address) :
    Call Signature → List (Invocation Signature)
  | .redeem amount xmrAddress value inner ok =>
      match state.redeemWrites sender amount xmrAddress value with
      | none => []
      | some written =>
          ⟨state, sender, .redeem amount xmrAddress value inner ok, written⟩ ::
            if value = 0 then [] else invocationsAll ecdsa written inner
  | call =>
      match transact ecdsa state sender call with
      | none => []
      | some after => [⟨state, sender, call, after⟩]

def invocationsAll (ecdsa : Ecdsa Signature) (state : State) :
    Calls Signature → List (Invocation Signature)
  | .nil => []
  | .cons sender call rest =>
      invocations ecdsa state sender call ++
        invocationsAll ecdsa ((transact ecdsa state sender call).getD state) rest

end

/-- The entry point was called by its sender and returned. -/
def Invocation.Made (ecdsa : Ecdsa Signature) (invocation : Invocation Signature) : Prop :=
  match invocation.call with
  | .redeem amount xmrAddress value _ _ =>
      invocation.before.redeemWrites invocation.sender amount xmrAddress value =
        some invocation.after
  | call => transact ecdsa invocation.before invocation.sender call = some invocation.after

mutual

theorem invocations_made {state : State} {sender : Address} :
    ∀ call : Call Signature, ∀ invocation ∈ invocations ecdsa state sender call,
      invocation.Made ecdsa
  | .redeem amount xmrAddress value inner ok, invocation, listed => by
      rw [invocations] at listed
      split at listed
      · cases listed
      · rename_i written wrote
        rw [List.mem_cons] at listed
        rcases listed with rfl | listed
        · exact wrote
        · split at listed
          · cases listed
          · exact invocationsAll_made inner invocation listed
  | .claim .., invocation, listed | .markProcessed .., invocation, listed
  | .burn .., invocation, listed | .burnFrom .., invocation, listed
  | .transfer .., invocation, listed | .transferFrom .., invocation, listed
  | .approve .., invocation, listed | .permit .., invocation, listed
  | .setSigner .., invocation, listed | .setRedemptionGasSubsidy .., invocation, listed
  | .transferOwnership .., invocation, listed | .renounceOwnership, invocation, listed => by
      simp only [invocations] at listed
      split at listed
      · cases listed
      · rename_i returned
        cases List.mem_singleton.1 listed
        exact returned

theorem invocationsAll_made {state : State} :
    ∀ calls : Calls Signature, ∀ invocation ∈ invocationsAll ecdsa state calls,
      invocation.Made ecdsa
  | .nil, invocation, listed => by
      rw [invocationsAll] at listed
      cases listed
  | .cons sender call rest, invocation, listed => by
      rw [invocationsAll, List.mem_append] at listed
      rcases listed with listed | listed
      · exact invocations_made call invocation listed
      · exact invocationsAll_made rest invocation listed

end

/-! ### What a plain entry point can do -/

/-- The moves of the plain entry points: the mark, the three settings of the owner,
and everything that touches balances, allowances and nonces only. -/
inductive PlainMove (state : State) (sender : Address) : Call Signature → State → Prop where
  | marked {after : State} (id : Nat) (moneroTxid : String) (newRestoreHeight : Nat)
      (written : state.markProcessed sender id moneroTxid newRestoreHeight = some after) :
      PlainMove state sender (.markProcessed id moneroTxid newRestoreHeight) after
  | signer (newSigner : Address) (own : sender = state.owner) :
      PlainMove state sender (.setSigner newSigner) { state with authorizedSigner := newSigner }
  | subsidy (call : Call Signature) (newSubsidy : Nat) (own : sender = state.owner) :
      PlainMove state sender call { state with redemptionGasSubsidy := newSubsidy }
  | owner (call : Call Signature) (newOwner : Address) (own : sender = state.owner) :
      PlainMove state sender call { state with owner := newOwner }
  | balances (call : Call Signature) (erc20 : Erc20) (nonces : Address → Nat) (burned : Nat) :
      PlainMove state sender call { state with erc20 := erc20, nonces := nonces, burned := burned }

/-- **Inversion of a plain entry point.** -/
theorem plain_move {state after : State} {sender : Address} {call : Call Signature}
    (flat : call.plain = true) (returned : transact ecdsa state sender call = some after) :
    PlainMove state sender call after := by
  cases call with
  | claim | redeem => cases flat
  | markProcessed id moneroTxid newRestoreHeight =>
      exact .marked id moneroTxid newRestoreHeight returned
  | burn value =>
      obtain ⟨erc20, _, rfl⟩ := State.burn_eq returned
      exact .balances _ _ _ _
  | burnFrom account value =>
      simp only [transact, State.burnFrom, Option.bind_eq_bind, Option.bind_eq_some_iff] at returned
      obtain ⟨spent, _, burned⟩ := returned
      obtain ⟨erc20, _, rfl⟩ := State.burn_eq burned
      exact .balances _ _ _ _
  | transfer | approve =>
      obtain ⟨erc20, _, rfl⟩ := Option.map_eq_some_iff.1 returned
      exact .balances _ _ _ _
  | transferFrom source receiver value =>
      simp only [transact, State.transferFrom, Option.bind_eq_bind, Option.bind_eq_some_iff,
        Option.some.injEq] at returned
      obtain ⟨_, _, erc20, _, rfl⟩ := returned
      exact .balances _ _ _ _
  | permit timestamp message sig =>
      simp only [transact, State.permit, Option.bind_eq_bind, Option.bind_eq_some_iff,
        require_eq_some, Option.some.injEq] at returned
      obtain ⟨_, _, _, _, _, _, _, _, erc20, _, rfl⟩ := returned
      exact .balances _ _ _ _
  | setSigner newSigner =>
      simp only [transact, Option.ite_none_right_eq_some, Option.some.injEq] at returned
      obtain ⟨own, rfl⟩ := returned
      exact .signer newSigner own
  | setRedemptionGasSubsidy newSubsidy =>
      simp only [transact, Option.ite_none_right_eq_some, Option.some.injEq] at returned
      obtain ⟨own, rfl⟩ := returned
      exact .subsidy _ newSubsidy own
  | transferOwnership newOwner =>
      simp only [transact, Option.ite_none_right_eq_some, Option.some.injEq] at returned
      obtain ⟨own, rfl⟩ := returned
      exact .owner _ newOwner own.1
  | renounceOwnership =>
      simp only [transact, Option.ite_none_right_eq_some, Option.some.injEq] at returned
      obtain ⟨own, rfl⟩ := returned
      exact .owner _ 0 own

theorem plain_claimed {state after : State} {sender : Address} {call : Call Signature}
    (flat : call.plain = true) (returned : transact ecdsa state sender call = some after) :
    after.claimed = state.claimed ∧
      (after.authorizedSigner = state.authorizedSigner ∨
        call = .setSigner after.authorizedSigner) := by
  cases plain_move flat returned with
  | marked id moneroTxid newRestoreHeight written =>
      obtain ⟨_, _, rfl⟩ := State.markProcessed_eq written
      exact ⟨rfl, Or.inl rfl⟩
  | signer newSigner own => exact ⟨rfl, Or.inr rfl⟩
  | subsidy | owner | balances => exact ⟨rfl, Or.inl rfl⟩

/-- An entry point nobody calls as the owner leaves the owner's settings alone. -/
theorem Step.settings {state after : State} (step : Step ecdsa allowed state after)
    (outsiders : ∀ sender call, allowed sender call → sender ≠ state.owner) :
    after.owner = state.owner ∧ after.authorizedSigner = state.authorizedSigner ∧
      after.redemptionGasSubsidy = state.redemptionGasSubsidy := by
  cases step with
  | claim sender user cumulativeAmount signedAt sig may claimed =>
      obtain ⟨_, _, _, erc20, _, rfl⟩ := State.claim_eq claimed
      exact ⟨rfl, rfl, rfl⟩
  | redeem sender amount xmrAddress value wrote =>
      obtain ⟨_, erc20, _, rfl⟩ := State.redeemWrites_eq wrote
      exact ⟨rfl, rfl, rfl⟩
  | plain sender call flat may returned =>
      have outsider := outsiders sender call may
      cases plain_move flat returned with
      | marked id moneroTxid newRestoreHeight written =>
          obtain ⟨_, _, rfl⟩ := State.markProcessed_eq written
          exact ⟨rfl, rfl, rfl⟩
      | signer newSigner own => exact absurd own outsider
      | subsidy call newSubsidy own => exact absurd own outsider
      | owner call newOwner own => exact absurd own outsider
      | balances => exact ⟨rfl, rfl, rfl⟩

end CrFaucet.Token
