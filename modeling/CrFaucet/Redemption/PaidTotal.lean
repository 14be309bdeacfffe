import Mathlib.Algebra.BigOperators.Ring.Finset
import Mathlib.Algebra.Order.BigOperators.Group.Finset
import CrFaucet.Redemption.Provenance
import CrFaucet.Redemption.SinglePayout

/-!
Owns what all payouts of one Redis lifetime add up to. No redemption is paid twice, and each
payment answers a burn; so the total is bounded by the burns the contract records, and through the
conservation of the token by what users claimed and no longer hold.
-/

set_option autoImplicit false

namespace CrFaucet.Redemption

open Interaction
open Token (Address uint256)

/-! ### Distinct payments against a table of bounds -/

theorem nodup_of_broadcasts {world : World} (once : ∀ id, world.broadcasts id ≤ 1) :
    (world.payments.map fun payment => payment.id.val).Nodup := by
  have distinct : (world.payments.map Payment.id).Nodup := by
    rw [List.nodup_iff_count_le_one]
    intro id
    rw [List.count_eq_countP, List.countP_map]
    refine Nat.le_trans (Nat.le_of_eq ?_) (once id)
    refine List.countP_congr fun payment _ => ?_
    simp
  have values := distinct.map Fin.val_injective
  rwa [List.map_map] at values

theorem sum_payments_le {payments : List Payment} {last : Nat} (bound : Nat → Nat)
    (distinct : (payments.map fun payment => payment.id.val).Nodup)
    (within : ∀ payment ∈ payments, (1 ≤ payment.id.val ∧ payment.id.val ≤ last) ∧
      payment.amount ≤ bound payment.id.val) :
    (payments.map Payment.amount).sum ≤ ∑ id ∈ Finset.Icc 1 last, bound id := by
  calc (payments.map Payment.amount).sum
      ≤ (payments.map fun payment => bound payment.id.val).sum :=
        List.sum_le_sum fun payment member => (within payment member).2
    _ = ∑ id ∈ (payments.map fun payment => payment.id.val).toFinset, bound id := by
        rw [List.sum_toFinset bound distinct, List.map_map]
        rfl
    _ ≤ ∑ id ∈ Finset.Icc 1 last, bound id := by
        apply Finset.sum_le_sum_of_subset
        intro id member
        obtain ⟨payment, listed, rfl⟩ := List.mem_map.1 (List.mem_toFinset.1 member)
        exact Finset.mem_Icc.2 (within payment listed).1

/-- The premiums of the parts are at most the premium of the whole: every rounding goes down. -/
theorem sum_withPremium_le (premiumBp : Nat) (ids : Finset Nat) (burned : Nat → Nat) :
    ∑ id ∈ ids, withPremium premiumBp (burned id) ≤ withPremium premiumBp (∑ id ∈ ids, burned id) := by
  unfold withPremium
  rw [Finset.sum_add_distrib]
  apply Nat.add_le_add_left
  rw [Nat.le_div_iff_mul_le (by decide), Finset.sum_mul, Finset.sum_mul]
  exact Finset.sum_le_sum fun id _ => Nat.div_mul_le_self _ _

theorem Deployment.run_paid_within {Thread Signature : Type} [DecidableEq Thread]
    {deployment : Deployment Thread Signature} (polls : ¬deployment.EnqueuesDirectly)
    (owner signer : Address) (subsidy : Nat)
    (actions : List (Action Thread Answer (Event Signature)))
    (noWipe : Along deployment.move (fun _ => NoWipe)
      (deployment.start (World.genesis (Token.deployed owner signer subsidy))) actions)
    (few : (run deployment.move (deployment.start
      (World.genesis (Token.deployed owner signer subsidy))) actions).world.token.made < uint256) :
    let world := (run deployment.move (deployment.start
      (World.genesis (Token.deployed owner signer subsidy))) actions).world
    (world.payments.map Payment.amount).sum ≤
        withPremium deployment.payouts.monero.maxPayoutPremiumBp world.token.totalRedeemed ∧
      world.token.erc20.totalSupply + world.token.totalRedeemed + world.token.burned =
        world.token.totalClaimed := by
  obtain ⟨_, provenance, _⟩ := Deployment.run_provenance polls owner signer subsidy actions few
  have single := Deployment.run_keeps (singlePayout_invariant deployment) noWipe
    (genesis_singlePayout (Token.deployed owner signer subsidy))
  refine ⟨?_, provenance.sound.conserved few⟩
  refine Nat.le_trans ?_ (sum_withPremium_le _ _ _)
  apply sum_payments_le _ (nodup_of_broadcasts single.exclusive.once)
  intro payment listed
  have answers := provenance.payments payment listed
  exact ⟨answers.issued, answers.payable.withinPremium⟩

/-- **What is paid is backed by what was burned.** In one Redis lifetime, whatever the services,
the users and the failures do, the payouts add up to no more than the recorded burns with the
premium; and the recorded burns are what was claimed, less what is still held or was burned
otherwise. -/
theorem paid_within_burned {Thread Signature : Type} [DecidableEq Thread]
    (deployment : Deployment Thread Signature) (polls : ¬deployment.EnqueuesDirectly)
    (owner signer : Address) (subsidy : Nat)
    (actions : List (Action Thread Answer (Event Signature)))
    (noWipe : ∀ action ∈ actions, NoWipe action) (world : World)
    (reached : world = (run deployment.move
      (deployment.start (World.genesis (Token.deployed owner signer subsidy))) actions).world)
    (few : world.token.made < uint256) :
    (world.payments.map Payment.amount).sum ≤
        withPremium deployment.payouts.monero.maxPayoutPremiumBp world.token.totalRedeemed ∧
      world.token.erc20.totalSupply + world.token.totalRedeemed + world.token.burned =
        world.token.totalClaimed := by
  subst reached
  exact Deployment.run_paid_within polls owner signer subsidy actions
    (Along.of_forall_mem _ noWipe) few

/-- One token is claimed, redeemed and paid. -/
theorem paid_within_burned_redeemed :
    ((run redeeming.move (redeeming.start (World.genesis (Token.deployed 7 9 0)))
        paidOne).world.payments.map Payment.amount).sum = 999999995905 ∧
      999999995905 ≤ withPremium 0 (run redeeming.move
        (redeeming.start (World.genesis (Token.deployed 7 9 0))) paidOne).world.token.totalRedeemed := by
  have noWipe : ∀ action ∈ paidOne, NoWipe action := by
    simp [paidOne, redeemOne, pollOne, refreshOne, payOne, steps, NoWipe]
  have total : ((run redeeming.move (redeeming.start (World.genesis (Token.deployed 7 9 0)))
      paidOne).world.payments.map Payment.amount).sum = 999999995905 := by decide +kernel
  refine ⟨total, ?_⟩
  rw [← total]
  exact (paid_within_burned redeeming redeeming_polls 7 9 0 paidOne noWipe _ rfl
    (by decide +kernel)).1

end CrFaucet.Redemption
