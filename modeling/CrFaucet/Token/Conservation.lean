import Mathlib.Algebra.BigOperators.Intervals
import CrFaucet.Token.Steps

/-!
Owns conservation of the token: what is in circulation, what was redeemed and
what was burned add up to what users claimed, in every state in which a call
can start or end.

The sum over redemption ids is taken over what `redemptions` stores now, so the
unchecked id arithmetic matters: `made` counts the redemptions, and as long as
it stays below `2 ^ 256` every redemption has a slot of its own.
-/

set_option autoImplicit false

namespace CrFaucet.Token

variable {Signature : Type} {ecdsa : Ecdsa Signature}

namespace State

/-- `Σ claimed[user]`. -/
def totalClaimed (state : State) : Nat := ∑ user, state.claimed user

/-- `Σ redemptions[id].amount` for `1 ≤ id ≤ nextRedemptionId`. -/
def totalRedeemed (state : State) : Nat :=
  ∑ id ∈ Finset.Icc 1 state.nextRedemptionId, (state.redemptions id).amount

/-- What every call keeps. -/
structure Sound (state : State) : Prop where
  backed : state.erc20.Backed
  next_eq : state.nextRedemptionId = state.made % uint256
  conserved : state.made < uint256 →
    state.erc20.totalSupply + state.totalRedeemed + state.burned = state.totalClaimed

variable {state after : State}

/-! ### Each move that changes value -/

theorem Sound.claim (sound : state.Sound) {user : Address} {cumulativeAmount signedAt delta : Nat}
    {sig : Signature}
    (claimed : state.claim ecdsa user cumulativeAmount signedAt sig = some (after, delta)) :
    after.Sound := by
  obtain ⟨fresh, rfl, _, erc20, minted, rfl⟩ := claim_eq claimed
  obtain ⟨backed, supply, _⟩ := sound.backed.mint minted
  refine ⟨backed, sound.next_eq, fun few => ?_⟩
  have before := sound.conserved few
  have replaced := sum_replace state.claimed user cumulativeAmount
  simp only [totalClaimed, totalRedeemed] at before ⊢
  omega

theorem Sound.redeemWrites (sound : state.Sound) {sender : Address} {amount value : Nat}
    {xmrAddress : String}
    (wrote : state.redeemWrites sender amount xmrAddress value = some after) : after.Sound := by
  obtain ⟨_, erc20, burned, rfl⟩ := redeemWrites_eq wrote
  obtain ⟨backed, supply⟩ := sound.backed.burn burned
  have next : uncheckedAdd state.nextRedemptionId 1 = (state.made + 1) % uint256 := by
    rw [uncheckedAdd, sound.next_eq, Nat.mod_add_mod]
  refine ⟨backed, next, fun few => ?_⟩
  -- Few redemptions: ids are not reused, so the new record only adds a summand.
  have below : state.made < uint256 := Nat.lt_of_succ_lt few
  have here : state.nextRedemptionId = state.made := by
    rw [sound.next_eq, Nat.mod_eq_of_lt below]
  have there : uncheckedAdd state.made 1 = state.made + 1 := by
    rw [← here, next, Nat.mod_eq_of_lt few, here]
  have before := sound.conserved below
  have others : ∀ id ∈ Finset.Icc 1 state.made,
      (Function.update state.redemptions (state.made + 1) ⟨sender, amount, xmrAddress⟩ id).amount =
        (state.redemptions id).amount := by
    intro id member
    have distinct : id ≠ state.made + 1 := by
      have bound := (Finset.mem_Icc.1 member).2
      omega
    rw [Function.update_of_ne distinct]
  simp only [totalClaimed, totalRedeemed, here, there] at before ⊢
  rw [Finset.sum_Icc_succ_top (by omega), Finset.sum_congr rfl others, Function.update_self]
  dsimp only
  omega

theorem Sound.burn (sound : state.Sound) {account : Address} {value : Nat}
    (taken : state.burn account value = some after) : after.Sound := by
  obtain ⟨erc20, burned, rfl⟩ := burn_eq taken
  obtain ⟨backed, supply⟩ := sound.backed.burn burned
  refine ⟨backed, sound.next_eq, fun few => ?_⟩
  have before := sound.conserved few
  simp only [totalClaimed, totalRedeemed] at before ⊢
  omega

/-! ### Moves that leave the books alone -/

/-- `after` differs from `state` in nothing the books are made of. -/
structure SameBooks (state after : State) : Prop where
  claimed : after.claimed = state.claimed
  redemptions : after.redemptions = state.redemptions
  nextRedemptionId : after.nextRedemptionId = state.nextRedemptionId
  made : after.made = state.made
  burned : after.burned = state.burned

theorem Sound.of_books (sound : state.Sound) (same : SameBooks state after)
    (backed : after.erc20.Backed) (supply : after.erc20.totalSupply = state.erc20.totalSupply) :
    after.Sound := by
  refine ⟨backed, ?_, fun few => ?_⟩
  · rw [same.nextRedemptionId, same.made]
    exact sound.next_eq
  · have before := sound.conserved (same.made ▸ few)
    rwa [supply, totalRedeemed, totalClaimed, same.claimed, same.redemptions,
      same.nextRedemptionId, same.burned]

theorem Sound.with_erc20 (sound : state.Sound) {erc20 : Erc20} (backed : erc20.Backed)
    (supply : erc20.totalSupply = state.erc20.totalSupply) :
    ({ state with erc20 := erc20 } : State).Sound :=
  sound.of_books ⟨rfl, rfl, rfl, rfl, rfl⟩ backed supply

theorem Sound.markProcessed (sound : state.Sound) {sender : Address} {id newRestoreHeight : Nat}
    {moneroTxid : String}
    (marked : state.markProcessed sender id moneroTxid newRestoreHeight = some after) :
    after.Sound := by
  obtain ⟨_, _, rfl⟩ := markProcessed_eq marked
  exact sound.of_books ⟨rfl, rfl, rfl, rfl, rfl⟩ sound.backed rfl

theorem Sound.burnFrom (sound : state.Sound) {sender account : Address} {value : Nat}
    (taken : state.burnFrom sender account value = some after) : after.Sound := by
  simp only [State.burnFrom, Option.bind_eq_bind, Option.bind_eq_some_iff] at taken
  obtain ⟨erc20, spent, burned⟩ := taken
  have frame := Erc20.spendAllowance_frame spent
  exact (sound.with_erc20 (sound.backed.of_frame frame) frame.2).burn burned

theorem Sound.transferFrom (sound : state.Sound) {spender sender receiver : Address} {value : Nat}
    (moved : state.transferFrom spender sender receiver value = some after) : after.Sound := by
  simp only [State.transferFrom, Option.bind_eq_bind, Option.bind_eq_some_iff,
    Option.some.injEq] at moved
  obtain ⟨spent, allowed, erc20, transferred, rfl⟩ := moved
  have frame := Erc20.spendAllowance_frame allowed
  obtain ⟨backed, supply⟩ := (sound.backed.of_frame frame).transfer transferred
  exact sound.with_erc20 backed (supply.trans frame.2)

theorem Sound.permit (sound : state.Sound) {timestamp : Nat} {message : PermitMessage}
    {sig : Signature} (permitted : state.permit ecdsa timestamp message sig = some after) :
    after.Sound := by
  simp only [State.permit, Option.bind_eq_bind, Option.bind_eq_some_iff, require_eq_some,
    Option.some.injEq] at permitted
  obtain ⟨_, _, _, _, _, _, _, _, erc20, approved, rfl⟩ := permitted
  have frame := Erc20.approve_frame approved
  exact sound.of_books ⟨rfl, rfl, rfl, rfl, rfl⟩ (sound.backed.of_frame frame) frame.2

end State

/-! ### Calls and runs -/

theorem Step.sound {allowed : Address → Call Signature → Prop} {state after : State}
    (step : Step ecdsa allowed state after) (sound : state.Sound) : after.Sound := by
  cases step with
  | claim sender user cumulativeAmount signedAt sig may claimed => exact sound.claim claimed
  | redeem sender amount xmrAddress value wrote => exact sound.redeemWrites wrote
  | plain sender call flat may returned =>
      cases call with
      | claim | redeem => cases flat
      | markProcessed id moneroTxid newRestoreHeight => exact sound.markProcessed returned
      | burn value => exact sound.burn returned
      | burnFrom account value => exact sound.burnFrom returned
      | transfer receiver value =>
          obtain ⟨erc20, moved, rfl⟩ := Option.map_eq_some_iff.1 returned
          obtain ⟨backed, supply⟩ := sound.backed.transfer moved
          exact sound.with_erc20 backed supply
      | transferFrom source receiver value => exact sound.transferFrom returned
      | approve spender value =>
          obtain ⟨erc20, approved, rfl⟩ := Option.map_eq_some_iff.1 returned
          have frame := Erc20.approve_frame approved
          exact sound.with_erc20 (sound.backed.of_frame frame) frame.2
      | permit timestamp message sig => exact sound.permit returned
      | setSigner | setRedemptionGasSubsidy | transferOwnership | renounceOwnership =>
          simp only [transact, Option.ite_none_right_eq_some, Option.some.injEq] at returned
          obtain ⟨_, rfl⟩ := returned
          exact sound.of_books ⟨rfl, rfl, rfl, rfl, rfl⟩ sound.backed rfl

/-- One call, whatever the signer's code does inside `redeem`. -/
theorem transact_sound {state after : State} {sender : Address} {call : Call Signature}
    (sound : state.Sound) (returned : transact ecdsa state sender call = some after) :
    after.Sound := by
  have may : call.All (fun _ _ => True) sender :=
    Call.all_of_forall (fun _ _ => trivial) sender call
  exact transact_keeps State.Sound Step.sound may returned sound

theorem deployed_sound (owner signer : Address) (subsidy : Nat) :
    (deployed owner signer subsidy).Sound := by
  refine ⟨⟨?_, ?_⟩, ?_, fun _ => ?_⟩ <;>
    simp [deployed, uint256, State.totalRedeemed, State.totalClaimed]

theorem Visited.sound {start state : State} (visited : Visited ecdsa start state)
    (initially : start.Sound) : state.Sound := by
  induction visited with
  | start => exact initially
  | call sender call _ returned inductionHypothesis =>
      exact transact_sound inductionHypothesis returned
  | inside sender amount xmrAddress value _ wrote inductionHypothesis =>
      exact inductionHypothesis.redeemWrites wrote

/-- **Conservation.** From deployment on, in every state in which a call can
start or end and in which fewer than `2 ^ 256` redemptions were made, the supply
is what was claimed less what was redeemed and burned; and a claim that succeeds
there mints exactly the positive difference to the previous watermark. -/
theorem supply_conserved (ecdsa : Ecdsa Signature) (owner signer : Address) (subsidy : Nat)
    (state : State) (visited : Visited ecdsa (deployed owner signer subsidy) state)
    (few : state.made < uint256) :
    (state.erc20.totalSupply : Int) =
        state.totalClaimed - state.totalRedeemed - state.burned ∧
      ∀ user cumulativeAmount signedAt sig after delta,
        state.claim ecdsa user cumulativeAmount signedAt sig = some (after, delta) →
        state.claimed user < cumulativeAmount ∧
          delta = cumulativeAmount - state.claimed user ∧ 0 < delta ∧
          after.erc20.totalSupply = state.erc20.totalSupply + delta ∧
          after.erc20.balances user = state.erc20.balances user + delta ∧
          after.claimed user = cumulativeAmount := by
  have sound := visited.sound (deployed_sound owner signer subsidy)
  constructor
  · have conserved := sound.conserved few
    omega
  · intro user cumulativeAmount signedAt sig after delta claimed
    obtain ⟨fresh, amount, _, erc20, minted, rfl⟩ := State.claim_eq claimed
    obtain ⟨_, supply, balance⟩ := sound.backed.mint minted
    exact ⟨fresh, amount, by omega, supply, balance, by simp⟩

/-- Account 9 signs. Account 1 claims 5 and redeems 2 of them; while account 9
receives the subsidy, account 1 redeems 1 more and burns 1. -/
def reentrantRun : State :=
  let ecdsa : Ecdsa Address := { voucher := fun _ sig => some sig, permit := fun _ sig => some sig }
  execAll ecdsa (deployed 7 9 1)
    (.cons 1 (.claim 1 5 0 9)
      (.cons 1 (.redeem 2 "outer" 1
        (.cons 1 (.redeem 1 "inner" 1 .nil true) (.cons 1 (.burn 1) .nil)) true) .nil))

theorem supply_conserved_reentrant :
    reentrantRun.nextRedemptionId = 2 ∧ reentrantRun.erc20.totalSupply = 1 ∧
      (1 : Int) = reentrantRun.totalClaimed - reentrantRun.totalRedeemed - 1 :=
  ⟨by decide, by decide,
    (supply_conserved _ 7 9 1 reentrantRun (visited_execAll _ .start) (by decide)).1⟩

end CrFaucet.Token
