import CrFaucet.Interaction.Projection
import CrFaucet.Issuance.Solvency
import CrFaucet.Redemption.PaidTotal

/-!
Owns the pool as `mining_pool::main` runs it: the issuing services and the redemption services side
by side, with one token contract between them. Vouchers are claimed on it, what was claimed is
burned on it, and both sides read and write it.

Neither side sees anything of the other but the contract, so to each of them the other's
transactions are calls that anyone might have made. `issuance_projection` and
`redemption_projection` say so, and carry what was proved of each side alone over to the pool.

Does not own the two sides. The store is one Redis; its keys for balances and for redemptions are
kept apart as on the two sides, and losing the disk is a wipe of both.
-/

set_option autoImplicit false

namespace CrFaucet.MiningPool

open Interaction
open Token (Address Call transact uint256)

/-! ### The pool -/

/-- The two sides of a pool, with one scheme of signatures. -/
structure Deployment (Issuer Redeemer Signature : Type) where
  issuance : Issuance.Deployment Issuer Signature
  redemption : Redemption.Deployment Redeemer Signature
  sameScheme : redemption.ecdsa = issuance.site.ecdsa

/-- Where the threads of both sides are. -/
structure State (Issuer Redeemer Signature : Type) where
  issuance : Pool Issuer (Issuance.World Issuer) (Issuance.Command Signature) Issuance.Reply
    Issuance.Stage
  redemption : Pool Redeemer Redemption.World Redemption.Command Redemption.Reply Redemption.Stage

inductive Move (Issuer Redeemer Signature : Type) where
  | issuance (action : Action Issuer (Issuance.Answer Signature) (Issuance.Event Signature))
  | redemption (action : Action Redeemer Redemption.Answer (Redemption.Event Signature))

variable {Issuer Redeemer Signature : Type}

namespace State

/-- The redemption side finds the contract as the issuing side leaves it. -/
def onRedemption (token : Token.State) (state : State Issuer Redeemer Signature) :
    Pool Redeemer Redemption.World Redemption.Command Redemption.Reply Redemption.Stage :=
  { state.redemption with world := { state.redemption.world with token := token } }

/-- The issuing side finds the contract as the redemption side leaves it. -/
def onIssuance (token : Token.State) (state : State Issuer Redeemer Signature) :
    Pool Issuer (Issuance.World Issuer) (Issuance.Command Signature) Issuance.Reply
      Issuance.Stage :=
  { state.issuance with world := { state.issuance.world with token := token } }

/-- Both sides see one contract. -/
def Agree (state : State Issuer Redeemer Signature) : Prop :=
  state.issuance.world.token = state.redemption.world.token

end State

section Steps

variable [DecidableEq Issuer] [DecidableEq Redeemer]
  (deployment : Deployment Issuer Redeemer Signature)

namespace Deployment

def start (owner : Address) (subsidy : Nat) : State Issuer Redeemer Signature where
  issuance := deployment.issuance.start owner subsidy
  redemption := deployment.redemption.start
    (Redemption.World.genesis (Token.deployed owner deployment.issuance.signer subsidy))

def step (state : State Issuer Redeemer Signature) :
    Move Issuer Redeemer Signature → State Issuer Redeemer Signature
  | .issuance action =>
      let issuance := deployment.issuance.move state.issuance action
      { issuance, redemption := state.onRedemption issuance.world.token }
  | .redemption action =>
      let redemption := deployment.redemption.move state.redemption action
      { redemption, issuance := state.onIssuance redemption.world.token }

/-- Nobody forges a voucher of the enclave, restores stay exact in Lua, and the disk is not
lost. -/
def Assumed (state : State Issuer Redeemer Signature) : Move Issuer Redeemer Signature → Prop
  | .issuance action => deployment.issuance.Assumed state.issuance action
  | .redemption (.event .wipe) => False
  | .redemption (.event (.l2 sender call)) =>
      deployment.issuance.Assumed state.issuance (.event (.l2 sender call))
  | .redemption _ => True

instance (state : State Issuer Redeemer Signature) :
    ∀ move, Decidable (deployment.Assumed state move)
  | .issuance action => inferInstanceAs (Decidable (deployment.issuance.Assumed _ action))
  | .redemption (.step _ _) => isTrue trivial
  | .redemption (.restart _) => isTrue trivial
  | .redemption (.event .wipe) => isFalse id
  | .redemption (.event (.mined _ _)) => isTrue trivial
  | .redemption (.event (.l2 _ _)) =>
      inferInstanceAs (Decidable (deployment.issuance.Assumed _ (.event (.l2 _ _))))

end Deployment

end Steps

/-! ### What each side does to the contract -/

/-- The contract is left alone, or someone's call went through. -/
def Called (ecdsa : Token.Ecdsa Signature) (honest : Address → Call Signature → Prop)
    (before after : Token.State) : Prop :=
  after = before ∨ ∃ sender call, honest sender call ∧
    after = (transact ecdsa before sender call).getD before

theorem Called.of_returned {ecdsa : Token.Ecdsa Signature}
    {honest : Address → Call Signature → Prop} {before after : Token.State} (sender : Address)
    (call : Call Signature) (fair : honest sender call)
    (returned : transact ecdsa before sender call = some after) :
    Called ecdsa honest before after := by
  refine Or.inr ⟨sender, call, fair, ?_⟩
  rw [returned]
  rfl

section Sides

variable [DecidableEq Issuer] [DecidableEq Redeemer]

omit [DecidableEq Issuer] in
theorem submit_called {ecdsa : Token.Ecdsa Signature} {world : Issuance.World Issuer}
    {answer : Issuance.Answer Signature} {attempt : Option Token.State} (sender : Address)
    (call : Call Signature)
    (isCall : ∀ after, attempt = some after → transact ecdsa world.token sender call = some after) :
    Called ecdsa (fun _ _ => True) world.token (world.submit answer attempt).1.token := by
  rcases world.submit_cases answer attempt with ⟨_, same⟩ | ⟨_, after, done, submitted⟩
  · rw [same]
    exact Or.inl rfl
  · rw [submitted]
    exact .of_returned sender call trivial (isCall after done)

/-- The issuing services call `claim` and, through the fee swapper, `transfer`. -/
theorem issuance_exec_called {site : Issuance.Site Signature} {thread : Issuer}
    {world after : Issuance.World Issuer} {command : Issuance.Command Signature}
    {reply : Issuance.Reply command} {answer : Issuance.Answer Signature}
    (answered : Issuance.exec site thread world command answer = some (after, reply)) :
    Called site.ecdsa (fun _ _ => True) world.token after.token := by
  cases command with
  | submitClaim voucher sig =>
      have done : _ = after := congrArg Prod.fst (Option.some.inj answered)
      rw [← done]
      exact submit_called site.app
        (.claim voucher.user voucher.cumulativeAmount voucher.signedAt sig) fun _ returned => returned
  | swapFeeToRose mptIn minOut deadline =>
      have done : _ = after := congrArg Prod.fst (Option.some.inj answered)
      rw [← done]
      apply submit_called site.feeSwapper (.transfer site.pair mptIn)
      intro after returned
      obtain ⟨erc20, moved, rfl⟩ := Issuance.World.swapFeeToRose_eq returned
      exact Option.map_eq_some_iff.mpr ⟨erc20, moved, rfl⟩
  | lock user =>
      simp only [Issuance.exec] at answered
      split at answered
      · cases answered
      · cases answered
        exact Or.inl rfl
  | addEarned miner delta =>
      have done : _ = after := congrArg Prod.fst (Option.some.inj answered)
      rw [← done]
      rcases world.addEarned_cases answer miner delta with same | ⟨_, _, added⟩
      · rw [same]
        exact Or.inl rfl
      · rw [added]
        exact Or.inl rfl
  | addFeeAccrued delta =>
      have done : _ = after := congrArg Prod.fst (Option.some.inj answered)
      rw [← done]
      rcases world.addFeeAccrued_cases answer delta with same | ⟨_, _, added⟩
      · rw [same]
        exact Or.inl rfl
      · rw [added]
        exact Or.inl rfl
  | sign voucher =>
      have done : _ = after := congrArg Prod.fst (Option.some.inj answered)
      rw [← done]
      simp only [Issuance.World.sign]
      split <;> exact Or.inl rfl
  | _ =>
      have done : _ = after := congrArg Prod.fst (Option.some.inj answered)
      rw [← done]
      exact Or.inl rfl

theorem issuance_move_called (deployment : Issuance.Deployment Issuer Signature)
    (pool : Pool Issuer (Issuance.World Issuer) (Issuance.Command Signature) Issuance.Reply
      Issuance.Stage)
    (action : Action Issuer (Issuance.Answer Signature) (Issuance.Event Signature)) :
    Called deployment.site.ecdsa (fun _ _ => True) pool.world.token
      (deployment.move pool action).world.token := by
  cases action with
  | step thread answer =>
      rcases Pool.move_step_cases deployment.machine deployment.discipline pool thread answer with
        same | ⟨command, next, world, reply, _, answered, moved⟩
      · rw [Issuance.Deployment.move, same]
        exact Or.inl rfl
      · rw [Issuance.Deployment.move, moved]
        exact issuance_exec_called answered
  | restart thread => exact Or.inl rfl
  | event event =>
      cases event with
      | l2 sender call => exact Or.inr ⟨sender, call, trivial, rfl⟩
      | _ => exact Or.inl rfl

variable (honest : Address → Call Signature → Prop)

theorem redemption_exec_called (ecdsa : Token.Ecdsa Signature) (lua : Redemption.Lua)
    (enclave : Address) (world : Redemption.World) (command : Redemption.Command)
    (answer : Redemption.Answer)
    (marks : ∀ id txid height, honest enclave (.markProcessed id txid height)) :
    Called ecdsa honest world.token
      (Redemption.exec lua enclave world command answer).1.token := by
  cases command with
  | markProcessed id txid restoreHeight =>
      simp only [Redemption.exec, Redemption.World.markProcessed, Redemption.Outcome.perform]
      cases attempt : world.token.markProcessed enclave id.val txid restoreHeight with
      | none => cases answer.outcome <;> exact Or.inl rfl
      | some marked =>
          cases answer.outcome with
          | refused => exact Or.inl rfl
          | _ => exact .of_returned enclave _ (marks id.val txid restoreHeight) attempt
  | transfer id amount address =>
      simp only [Redemption.exec, Redemption.World.pay]
      split <;> exact Or.inl rfl
  | _ => exact Or.inl rfl

theorem redemption_move_called (deployment : Redemption.Deployment Redeemer Signature)
    (pool : Pool Redeemer Redemption.World Redemption.Command Redemption.Reply Redemption.Stage)
    (action : Action Redeemer Redemption.Answer (Redemption.Event Signature))
    (marks : ∀ id txid height, honest deployment.enclave (.markProcessed id txid height))
    (outside : ∀ sender call, action = .event (.l2 sender call) → honest sender call) :
    Called deployment.ecdsa honest pool.world.token
      (deployment.move pool action).world.token := by
  cases action with
  | step thread answer =>
      rcases Pool.move_step_cases deployment.machine _ pool thread answer with
        same | ⟨command, next, world, reply, _, answered, moved⟩
      · rw [Redemption.Deployment.move, same]
        exact Or.inl rfl
      · rw [Redemption.Deployment.move, moved]
        obtain ⟨rfl, _⟩ := deployment.machine_exec answered
        exact redemption_exec_called honest _ _ _ _ _ _ marks
  | restart thread => exact Or.inl rfl
  | event event =>
      cases event with
      | l2 sender call => exact Or.inr ⟨sender, call, outside sender call rfl, rfl⟩
      | _ => exact Or.inl rfl

end Sides

/-! ### Each side inside the pool -/

section Projections

variable [DecidableEq Issuer] [DecidableEq Redeemer]
  (deployment : Deployment Issuer Redeemer Signature)

theorem step_agree (state : State Issuer Redeemer Signature)
    (move : Move Issuer Redeemer Signature) : (deployment.step state move).Agree := by
  cases move with
  | issuance action => rfl
  | redemption action => rfl

/-- To the issuing side, whatever the redemption side does is a call anyone might make. -/
theorem issuance_projection :
    Projection deployment.step deployment.Assumed State.Agree State.issuance
      deployment.issuance.move deployment.issuance.Assumed where
  keeps state move _ _ := step_agree deployment state move
  shows state move agree assumed := by
    cases move with
    | issuance action => exact ⟨[action], rfl, assumed, trivial⟩
    | redemption action =>
        have called := redemption_move_called
          (fun sender call => deployment.issuance.Assumed state.issuance (.event (.l2 sender call)))
          deployment.redemption state.redemption action (fun _ _ _ => trivial) (by
            rintro sender call rfl
            exact assumed)
        rw [← agree, deployment.sameScheme] at called
        rcases called with same | ⟨sender, call, fair, after⟩
        · refine ⟨[], ?_, trivial⟩
          change state.onIssuance _ = state.issuance
          rw [same]
          rfl
        · refine ⟨[.event (.l2 sender call)], ?_, fair, trivial⟩
          change state.onIssuance _ = _
          rw [after]
          rfl

/-- To the redemption side, whatever the issuing side does is a call anyone might make. -/
theorem redemption_projection :
    Projection deployment.step deployment.Assumed State.Agree State.redemption
      deployment.redemption.move (fun _ => Redemption.NoWipe) where
  keeps state move _ _ := step_agree deployment state move
  shows state move agree assumed := by
    cases move with
    | redemption action =>
        refine ⟨[action], rfl, ?_, trivial⟩
        rintro rfl
        exact assumed
    | issuance action =>
        have called := issuance_move_called deployment.issuance state.issuance action
        rw [agree, ← deployment.sameScheme] at called
        rcases called with same | ⟨sender, call, _, after⟩
        · refine ⟨[], ?_, trivial⟩
          change state.onRedemption _ = state.redemption
          rw [same]
          rfl
        · refine ⟨[.event (.l2 sender call)], ?_, by simp [Redemption.NoWipe], trivial⟩
          change state.onRedemption _ = _
          rw [after]
          rfl

end Projections

/-! ### From credit to payout -/

/-- All that was ever credited: to the miners for their shares, and to the pool as its fee. -/
def totalCredited (world : Issuance.World Issuer) : Nat :=
  (∑ miner, world.credited miner) + world.feeCredited

theorem sum_backing (feeSwapper : Address) (world : Issuance.World Issuer) :
    ∑ user, world.backing feeSwapper user = totalCredited world := by
  simp only [Issuance.World.backing, totalCredited, Finset.sum_add_distrib, Finset.sum_ite_eq',
    Finset.mem_univ, if_true]

theorem totalClaimed_le {feeSwapper signer : Address} {world : Issuance.World Issuer}
    (solvent : Issuance.Solvent feeSwapper signer world) :
    world.token.totalClaimed ≤ totalCredited world := by
  rw [← sum_backing feeSwapper world]
  exact Finset.sum_le_sum fun user _ => solvent.claimed user

theorem withPremium_mono (premiumBp : Nat) {burned credited : Nat} (within : burned ≤ credited) :
    Redemption.withPremium premiumBp burned ≤ Redemption.withPremium premiumBp credited := by
  unfold Redemption.withPremium
  exact Nat.add_le_add within (Nat.div_le_div_right (Nat.mul_le_mul_right _ within))

section Run

variable [DecidableEq Issuer] [DecidableEq Redeemer]
  {deployment : Deployment Issuer Redeemer Signature} {owner : Address} {subsidy : Nat}
  {moves : List (Move Issuer Redeemer Signature)}

/-- The issuing side inside the pool: whatever was claimed was credited. -/
theorem run_claimed_le
    (assumed : Along deployment.step deployment.Assumed (deployment.start owner subsidy) moves) :
    (run deployment.step (deployment.start owner subsidy) moves).issuance.world.token.totalClaimed ≤
      totalCredited (run deployment.step (deployment.start owner subsidy) moves).issuance.world := by
  obtain ⟨actions, seen, fair⟩ := (issuance_projection deployment).run assumed rfl
  have solvent := ((Issuance.solvent_invariant deployment.issuance).run deployment.issuance.obeys
    (Pool.initial_disciplined _ deployment.issuance.obeys) fair
    ⟨Issuance.genesis_solvent _ _ owner subsidy, fun _ _ => Nat.zero_le _⟩).1
  rw [seen]
  exact totalClaimed_le solvent

/-- The redemption side inside the pool: what was paid was burned, and what was burned was
claimed. -/
theorem run_paid_le (polls : ¬deployment.redemption.EnqueuesDirectly)
    (assumed : Along deployment.step deployment.Assumed (deployment.start owner subsidy) moves)
    (few : (run deployment.step (deployment.start owner subsidy)
      moves).redemption.world.token.made < uint256) :
    let world := (run deployment.step (deployment.start owner subsidy) moves).redemption.world
    (world.payments.map Redemption.Payment.amount).sum ≤
        Redemption.withPremium deployment.redemption.payouts.monero.maxPayoutPremiumBp
          world.token.totalRedeemed ∧
      world.token.totalRedeemed ≤ world.token.totalClaimed := by
  obtain ⟨actions, seen, noWipe⟩ := (redemption_projection deployment).run assumed rfl
  rw [seen] at few ⊢
  obtain ⟨paid, conserved⟩ := Redemption.Deployment.run_paid_within polls owner
    deployment.issuance.signer subsidy actions noWipe few
  refine ⟨paid, Nat.le_trans ?_ (Nat.le_of_eq conserved)⟩
  exact Nat.le_trans (Nat.le_add_left _ _) (Nat.le_add_right _ _)

end Run

/-- **Every payout is backed by credited work.** However share credits, voucher requests, restores,
fee swaps, claims, burns, polls and payouts interleave, fail and restart, and however often balance
keys are evicted: as long as nobody forges a voucher and the disk is not lost, what was ever paid in
Monero is at most what was ever credited for shares and fees, with the premium. -/
theorem payouts_backed_by_credit [DecidableEq Issuer] [DecidableEq Redeemer]
    (deployment : Deployment Issuer Redeemer Signature)
    (polls : ¬deployment.redemption.EnqueuesDirectly) (owner : Address) (subsidy : Nat)
    (moves : List (Move Issuer Redeemer Signature))
    (assumed : Along deployment.step deployment.Assumed (deployment.start owner subsidy) moves)
    (state : State Issuer Redeemer Signature)
    (reached : state = run deployment.step (deployment.start owner subsidy) moves)
    (few : state.redemption.world.token.made < uint256) :
    (state.redemption.world.payments.map Redemption.Payment.amount).sum ≤
      Redemption.withPremium deployment.redemption.payouts.monero.maxPayoutPremiumBp
        (totalCredited state.issuance.world) := by
  subst reached
  obtain ⟨paid, burned⟩ := run_paid_le polls assumed few
  have agree : (run deployment.step (deployment.start owner subsidy) moves).Agree :=
    assumed.keeps State.Agree (fun state move _ _ => step_agree deployment state move) rfl
  have claimed := run_claimed_le assumed
  rw [agree] at claimed
  exact Nat.le_trans paid (withPremium_mono _ (Nat.le_trans burned claimed))

/-! A share is credited, the miner asks for the voucher, claims and burns it, and is paid. -/

/-- One issuing side and one redemption side; a voucher is its own signature. -/
def sample : Deployment Issuance.SampleThread Redemption.SampleThread Token.Voucher where
  issuance := Issuance.sample
  redemption := {
    lua := .unbounded
    ecdsa := Issuance.sample.site.ecdsa
    enclave := 9
    payouts := Redemption.sample.payouts
    poller := Redemption.sample.poller
    role := Redemption.sample.role }
  sameScheme := rfl

theorem sample_polls : ¬sample.redemption.EnqueuesDirectly := by
  rintro ⟨thread, id, evmFrom, atomicAmount, xmrAddr, direct⟩
  cases thread <;> cases direct

def creditToPayout :
    List (Move Issuance.SampleThread Redemption.SampleThread Token.Voucher) :=
  List.replicate 3 (.issuance (.step .credit { credit := 10 ^ 12 })) ++
    List.replicate 7
      (.issuance (.step .issue { signature := some ⟨1, 10 ^ 12, 1000⟩, time := 1000 })) ++
    [.issuance (.event (.l2 8 (.claim 1 (10 ^ 12) 1000 ⟨1, 10 ^ 12, 1000⟩))),
      .redemption (.event (.l2 1 (.redeem (10 ^ 12) "4A" 0 .nil true)))] ++
    List.replicate 6 (.redemption (.step .poller {})) ++
    List.replicate 7
      (.redemption (.step .refresher { balance := some (10 ^ 12, 10 ^ 12) })) ++
    List.replicate 11 (.redemption (.step .consumer
      { height := some 100, history := some ⟨[], [], []⟩, transfer := .sent "tx" }))

theorem payouts_backed_by_credit_paid :
    (run sample.step (sample.start 7 0) creditToPayout).redemption.world.payments =
        [⟨1, 999999995905, none⟩] ∧
      999999995905 ≤ totalCredited
        (run sample.step (sample.start 7 0) creditToPayout).issuance.world := by
  have paid : (run sample.step (sample.start 7 0) creditToPayout).redemption.world.payments =
      [⟨1, 999999995905, none⟩] := by decide +kernel
  have backed := payouts_backed_by_credit sample sample_polls 7 0 creditToPayout
    (by decide +kernel) _ rfl (by decide +kernel)
  have noPremium : sample.redemption.payouts.monero.maxPayoutPremiumBp = 0 := rfl
  rw [paid, noPremium, Redemption.withPremium, Nat.mul_zero, Nat.zero_div, Nat.add_zero] at backed
  exact ⟨paid, backed⟩

end CrFaucet.MiningPool
