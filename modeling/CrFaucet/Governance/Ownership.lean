import CrFaucet.Governance.Finalize

/-!
Owns who can change the settings of a token among several governance contracts: its owner, which is
one of them or a plain account, and nobody else.

`Chain.Quiet` says it of everything that happens without the hand of the deployer.
-/

set_option autoImplicit false

namespace CrFaucet.Governance

open Token (Address require_eq_some)

variable {Data Id Signature : Type}

/-! ### Settings of the token -/

theorem SameSettings.refl (token : Token.State) : SameSettings token token := ⟨rfl, rfl, rfl⟩

theorem SameSettings.trans {first second third : Token.State} (before : SameSettings first second)
    (after : SameSettings second third) : SameSettings first third :=
  ⟨after.1.trans before.1, after.2.1.trans before.2.1, after.2.2.trans before.2.2⟩

theorem sameSettings_of_transact {ecdsa : Token.Ecdsa Signature} {token after : Token.State}
    {sender : Address} {call : Token.Call Signature}
    {allowed : Address → Token.Call Signature → Prop} (may : call.All allowed sender)
    (outsiders : ∀ sender call, allowed sender call → sender ≠ token.owner)
    (returned : Token.transact ecdsa token sender call = some after) :
    SameSettings token after := by
  apply Token.transact_keeps (SameSettings token) _ may returned (.refl token)
  intro state next step same
  apply same.trans
  apply step.settings
  rw [same.1]
  exact outsiders

theorem executeEnters_elsewhere [DecidableEq Id] {site : Site Data Id Signature}
    {state after : State Data Id} {timestamp : Nat} {sender : Address} {operation : Operation Data}
    (done : state.executeEnters site timestamp sender operation = some after)
    (elsewhere : operation.target ≠ site.token) : after.token = state.token := by
  simp only [State.executeEnters, State.executeWrites, Option.bind_eq_bind,
    Option.bind_eq_some_iff, require_eq_some, exists_const, Option.some.injEq] at done
  obtain ⟨written, ⟨_, _, _, _, rfl⟩, called⟩ := done
  rw [if_neg elsewhere, Option.some.injEq] at called
  rw [← called]

/-! ### What can happen to the chain -/

/-- No governance contract has executed an operation on the token. -/
abbrev Chain.Untouched (chain : Chain Data Id) (token : Address) : Prop :=
  ∀ operation ∈ chain.executed, operation.target ≠ token

/-- There is a governance contract at the address. -/
abbrev Chain.Has (chain : Chain Data Id) (governance : Address) : Prop :=
  (chain.contracts governance).isSome

/-- Contracts stay, and stay renounced. -/
def Chain.Persists (chain after : Chain Data Id) : Prop :=
  ∀ governance contract, chain.contracts governance = some contract →
    ∃ later, after.contracts governance = some later ∧
      (contract.renounced = true → later.renounced = true)

theorem Chain.Persists.refl (chain : Chain Data Id) : chain.Persists chain :=
  fun _ contract found => ⟨contract, found, id⟩

theorem Chain.Persists.has {chain after : Chain Data Id} (persists : chain.Persists after)
    {governance : Address} (found : chain.Has governance) :
    after.Has governance := by
  obtain ⟨contract, isContract⟩ := Option.isSome_iff_exists.1 found
  obtain ⟨later, isLater, _⟩ := persists governance contract isContract
  exact Option.isSome_of_eq_some isLater

/-- **What happens without the deployer's hand on the token.** Settings change only by what a
governance contract executes. -/
structure Chain.Quiet (chain after : Chain Data Id) (token deployer : Address) : Prop where
  untouched : after.Untouched token → chain.Untouched token
  settings : after.Untouched token →
    chain.token.owner = deployer ∨ chain.Has chain.token.owner →
    SameSettings chain.token after.token
  persists : chain.Persists after
  outsider : chain.contracts deployer = none → after.contracts deployer = none

section Quiet

variable {chain after : Chain Data Id} {token deployer : Address}

theorem Chain.Quiet.of_same (sameToken : after.token = chain.token)
    (sameExecuted : after.executed = chain.executed) (persists : chain.Persists after)
    (outsider : chain.contracts deployer = none → after.contracts deployer = none) :
    chain.Quiet after token deployer where
  untouched := by
    intro untouched
    rw [Chain.Untouched, sameExecuted] at untouched
    exact untouched
  settings := fun _ _ => sameToken ▸ .refl _
  persists := persists
  outsider := outsider

theorem Chain.Quiet.refl : chain.Quiet chain token deployer :=
  .of_same rfl rfl (.refl chain) id

theorem deploy_eq {governor fresh : Address} {delay : Nat}
    (done : chain.deploy deployer governor delay fresh = some after) :
    chain.contracts fresh = none ∧ fresh ≠ deployer ∧ ∃ contract,
      after = { chain with contracts := Function.update chain.contracts fresh (some contract) } := by
  simp only [Chain.deploy, Option.bind_eq_bind, Option.bind_eq_some_iff, require_eq_some,
    exists_const, Option.some.injEq] at done
  obtain ⟨⟨new, other⟩, state, _, rfl⟩ := done
  exact ⟨Option.isNone_iff_eq_none.1 new, other, _, rfl⟩

theorem deploy_quiet {governor fresh : Address} {delay : Nat}
    (done : chain.deploy deployer governor delay fresh = some after) :
    chain.Quiet after token deployer := by
  obtain ⟨new, other, contract, rfl⟩ := deploy_eq done
  refine .of_same rfl rfl ?_ ?_
  · intro governance kept found
    have apart : governance ≠ fresh := by
      intro same
      rw [same, new] at found
      cases found
    exact ⟨kept, (Function.update_of_ne apart _ _).trans found, id⟩
  · intro absent
    exact (Function.update_of_ne other.symm _ _).trans absent

variable {network : Site Data Id Signature}

/-- **Inversion of an entry point of a governance contract.** -/
theorem enter_eq {governance : Address}
    {entry : Site Data Id Signature → State Data Id → Option (State Data Id)}
    (done : chain.enter network governance entry = some after) :
    ∃ contract state, chain.contracts governance = some contract ∧
      entry (network.of governance contract.delay) (contract.beside chain.token) = some state ∧
      after = { chain with
        token := state.token
        contracts := Function.update chain.contracts governance
          (some (state.contract contract.delay)) } := by
  simp only [Chain.enter, Option.bind_eq_bind, Option.bind_eq_some_iff, Option.some.injEq] at done
  obtain ⟨contract, found, state, entered, rfl⟩ := done
  exact ⟨contract, state, found, entered, rfl⟩

theorem callToken_quiet {sender : Address} {call : Token.Call Signature}
    {allowed : Address → Token.Call Signature → Prop} (may : call.All allowed sender)
    (outsiders : ∀ sender call, allowed sender call →
      sender ≠ deployer ∧ (chain.contracts sender).isNone)
    (done : chain.callToken network sender call = some after) :
    chain.Quiet after token deployer := by
  obtain ⟨next, returned, rfl⟩ := Option.map_eq_some_iff.1 done
  refine ⟨id, fun _ held => ?_, .refl chain, id⟩
  apply sameSettings_of_transact may _ returned
  intro caller call outsider owns
  obtain ⟨notDeployer, noContract⟩ := outsiders caller call outsider
  rcases held with own | contract
  · exact notDeployer (owns.trans own)
  · rw [← owns, Chain.Has, Option.isNone_iff_eq_none.1 noContract] at contract
    cases contract

theorem callToken_setSigner {sender signer : Address}
    (done : chain.callToken network sender (.setSigner signer) = some after) :
    sender = chain.token.owner ∧
      after = { chain with token := { chain.token with authorizedSigner := signer } } := by
  obtain ⟨token, returned, rfl⟩ := Option.map_eq_some_iff.1 done
  obtain ⟨own, same⟩ := Option.ite_none_right_eq_some.1 returned
  cases same
  exact ⟨own, rfl⟩

theorem callToken_transferOwnership {sender newOwner : Address}
    (done : chain.callToken network sender (.transferOwnership newOwner) = some after) :
    sender = chain.token.owner ∧
      after = { chain with token := { chain.token with owner := newOwner } } := by
  obtain ⟨token, returned, rfl⟩ := Option.map_eq_some_iff.1 done
  obtain ⟨⟨own, _⟩, same⟩ := Option.ite_none_right_eq_some.1 returned
  cases same
  exact ⟨own, rfl⟩

variable [DecidableEq Id]

theorem entry_of_governing {site : Site Data Id Signature} {state next : State Data Id}
    {timestamp : Nat} {sender : Address} {call : Governing Data}
    (entered : call.entry timestamp sender site state = some next) :
    Entry site state next ∧
      ((∀ operation ∈ call.executes, operation.target ≠ site.token) → next.token = state.token) := by
  cases call with
  | transferGovernor receiver =>
      refine ⟨.transferGovernor sender receiver entered, fun _ => ?_⟩
      rw [(transferGovernor_eq entered).2]
  | queue operation =>
      refine ⟨.queue timestamp sender operation entered, fun _ => ?_⟩
      rw [(queue_eq entered).2]
  | cancel operation =>
      refine ⟨.cancel sender operation entered, fun _ => ?_⟩
      rw [cancel_eq entered]
  | execute operation =>
      refine ⟨.execute timestamp sender operation entered, fun elsewhere => ?_⟩
      exact executeEnters_elsewhere entered (elsewhere operation (List.mem_singleton_self _))
  | renounce =>
      refine ⟨.renounce sender entered, fun _ => ?_⟩
      rw [renounce_eq entered]

theorem govern_quiet {timestamp : Nat} {governance sender : Address} {call : Governing Data}
    (done : chain.govern network timestamp governance sender call = some after) :
    chain.Quiet after network.token deployer := by
  obtain ⟨between, enters, rfl⟩ := Option.map_eq_some_iff.1 done
  obtain ⟨contract, state, found, entered, rfl⟩ := enter_eq enters
  obtain ⟨entry, sameToken⟩ := entry_of_governing entered
  refine ⟨?_, ?_, ?_, ?_⟩
  · intro untouched earlier member
    exact untouched earlier (List.mem_append_left _ member)
  · intro untouched _
    have same : state.token = chain.token :=
      sameToken fun operation member => untouched operation (List.mem_append_right _ member)
    exact same ▸ .refl _
  · intro other kept isKept
    by_cases same : other = governance
    · subst same
      rw [found] at isKept
      cases isKept
      exact ⟨_, Function.update_self .., fun renounced => (entry.frozen renounced).1⟩
    · exact ⟨kept, (Function.update_of_ne same _ _).trans isKept, id⟩
  · intro absent
    refine (Function.update_of_ne ?_ _ _).trans absent
    intro same
    rw [same, found] at absent
    cases absent

end Quiet

end CrFaucet.Governance
