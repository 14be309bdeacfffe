import CrFaucet.Redemption.SinglePayout

/-!
Owns safety of payouts across Redis wipes. After a wipe the poller enqueues
every id again, so what keeps a paid redemption from being paid anew is the
wallet history: a consumer claims only ids its scan found clean.

The scan looks back `reconcileWindowBlocks`. A payment that was never recorded
on the L2 and has aged past the window is invisible to it; `wipeRun` pays twice
that way. Away from that, and as long as no wipe hits a consumer between its
scan and its transfer, no redemption is paid twice in any run.
-/

set_option autoImplicit false

namespace CrFaucet.Redemption

open Interaction
open Token (Address)

/-! ### The wallet history -/

/-- The history shows this payment: among the transfers in flight while it is
unmined, among the mined ones with its height after. -/
def WalletHistory.shows (history : WalletHistory) (payment : Payment) : Bool :=
  match payment.height with
  | none => (history.pending ++ history.pool).any fun item => item.amount == some payment.amount
  | some height => history.out.any fun item =>
      item.amount == some payment.amount && item.height == some height

/-- The scan from `minHeight` on takes this payment into account. -/
def Payment.inReach (payment : Payment) (minHeight : Nat) : Bool :=
  match payment.height with
  | none => true
  | some height => minHeight ≤ height

def Payment.Stamped (payment : Payment) : Prop :=
  0 < payment.amount ∧ matchesStamp payment.amount payment.id = true

theorem mem_stampMatches {id : RedemptionId} {items : List HistoryItem} {item : HistoryItem}
    {amount : Nat} (confirmed : Bool) (member : item ∈ items) (shown : item.amount = some amount)
    (positive : 0 < amount) (stamped : matchesStamp amount id = true) :
    stampMatches id confirmed items ≠ [] := by
  intro empty
  rw [stampMatches, List.map_eq_nil_iff] at empty
  have kept : item ∈ items.filter fun item =>
      0 < item.amount.getD 0 ∧ matchesStamp (item.amount.getD 0) id = true := by
    rw [List.mem_filter, shown]
    exact ⟨member, by simp [positive, stamped]⟩
  rw [empty] at kept
  cases kept

/-- **A stamped payment that is shown and in reach is found.** -/
theorem scan_not_clean {history : WalletHistory} {payment : Payment} {minHeight : Nat}
    (stamped : payment.Stamped) (shown : history.shows payment = true)
    (reach : payment.inReach minHeight = true) :
    scanResult (some history) payment.id minHeight ≠ .clean := by
  have found : stampMatches payment.id true
        (history.out.filter fun item => minHeight ≤ item.height.getD 0) ++
      stampMatches payment.id false history.pending ++
      stampMatches payment.id false history.pool ≠ [] := by
    unfold WalletHistory.shows at shown
    unfold Payment.inReach at reach
    simp only [ne_eq, List.append_eq_nil_iff, not_and_or]
    cases mined : payment.height with
    | none =>
        rw [mined, List.any_eq_true] at shown
        obtain ⟨item, member, same⟩ := shown
        have amount := beq_iff_eq.1 same
        rcases List.mem_append.1 member with pending | pool
        · exact Or.inl (Or.inr (mem_stampMatches false pending amount stamped.1 stamped.2))
        · exact Or.inr (mem_stampMatches false pool amount stamped.1 stamped.2)
    | some height =>
        rw [mined, List.any_eq_true] at shown
        rw [mined, decide_eq_true_iff] at reach
        obtain ⟨item, member, same⟩ := shown
        rw [Bool.and_eq_true, beq_iff_eq, beq_iff_eq] at same
        have recent : item ∈ history.out.filter fun item => minHeight ≤ item.height.getD 0 := by
          rw [List.mem_filter, same.2]
          exact ⟨member, by simpa using reach⟩
        exact Or.inl (Or.inl (mem_stampMatches true recent same.1 stamped.1 stamped.2))
  intro clean
  simp only [scanResult, stampMatchInResult] at clean
  split at clean
  · exact found ‹_›
  · cases clean
  · cases clean

/-! ### Conditions on a run -/

section Conditions

variable {Thread Signature : Type}

/-- `get_transfers` reports every payment ever broadcast, with its height. -/
def truthful (pool : Pool Thread World Command Reply Stage) :
    Action Thread Answer (Event Signature) → Bool
  | .step thread answer =>
      match pool.next? thread, answer.history with
      | some (.getTransfers _ _), some history => pool.world.payments.all history.shows
      | _, _ => true
  | _ => true

/-- A scan for a paid id that can still be claimed reaches back to its payment. -/
def World.scanInReach (world : World) : Command → Bool
  | .getTransfers id minHeight =>
      decide (world.Claimable id → ∀ payment ∈ world.payments, payment.id = id →
        payment.inReach minHeight = true)
  | _ => true

/-- The thread is not between a clean scan and the end of its payout. -/
def Hold.unbound : Hold → Bool
  | .checked _ => false
  | .owner _ => false
  | _ => true

/-- Every scan reaches back far enough, and a wipe finds no consumer between its
scan and its transfer. -/
def WithinReach (pool : Pool Thread World Command Reply Stage) :
    Action Thread Answer (Event Signature) → Prop
  | .step thread _ => (pool.next? thread).all pool.world.scanInReach = true
  | .event .wipe => ∀ thread, (pool.stage thread).hold.unbound = true
  | _ => True

instance [Fintype Thread] (pool : Pool Thread World Command Reply Stage) :
    ∀ action : Action Thread Answer (Event Signature), Decidable (WithinReach pool action)
  | .step _ _ => inferInstanceAs (Decidable (_ = true))
  | .restart _ => isTrue trivial
  | .event .wipe => inferInstanceAs (Decidable (∀ _, _ = true))
  | .event (.mined _ _) => isTrue trivial
  | .event (.l2 _ _) => isTrue trivial

end Conditions

/-! ### The invariant -/

section Invariant

variable {Thread Signature : Type}

/-- What holds across wipes: an id a consumer found clean and may still claim was
never paid, and every payment carries its stamp. -/
structure WipeSafe (world : World) (stage : Thread → Stage) : Prop where
  exclusive : ExclusiveClaims world stage
  checked : ∀ thread id, (stage thread).hold = .checked id → world.Claimable id →
    world.broadcasts id = 0
  stamped : ∀ payment ∈ world.payments, payment.Stamped

theorem genesis_wipeSafe (token : Token.State) :
    WipeSafe (World.genesis token) fun _ : Thread => Stage.free where
  exclusive := (genesis_singlePayout token).exclusive
  checked _ _ _ _ := rfl
  stamped _ member := by cases member

variable {world : World} {stage : Thread → Stage} {thread : Thread} {command : Command}

theorem stageAfter_checked {poller : EventPoller} {stage : Stage} {reply : Reply command}
    {id : RedemptionId} (other : ∀ minHeight, command ≠ .getTransfers id minHeight)
    (checked : (stageAfter poller stage command reply).hold = .checked id) :
    stage.hold = .checked id := by
  rcases stageAfter_hold (by simp) checked with kept | gains
  · exact kept
  · cases gains with
    | scanned id minHeight history clean => exact absurd rfl (other minHeight)

/-- A clean scan that reaches back to the payments of a claimable id found that
there are none. -/
theorem unpaid_of_clean {answer : Answer} {id : RedemptionId} {minHeight : Nat}
    (stamped : ∀ payment ∈ world.payments, payment.Stamped)
    (shown : ∀ history, answer.history = some history →
      ∀ payment ∈ world.payments, history.shows payment = true)
    (reach : ∀ payment ∈ world.payments, payment.id = id → payment.inReach minHeight = true)
    (clean : scanResult answer.history id minHeight = .clean) : world.broadcasts id = 0 := by
  apply List.countP_eq_zero.2
  intro payment member same
  have paid : payment.id = id := of_decide_eq_true same
  cases read : answer.history with
  | none =>
      rw [read] at clean
      cases clean
  | some history =>
      rw [read, ← paid] at clean
      exact scan_not_clean (stamped payment member) (shown history read payment member)
        (reach payment member paid) clean

variable [DecidableEq Thread] (lua : Lua) (enclave : Address) (poller : EventPoller)
  (answer : Answer)

theorem WipeSafe.step (safe : WipeSafe world stage) (permitted : permits (stage thread) command)
    (shown : ∀ id minHeight history, command = .getTransfers id minHeight →
      answer.history = some history → ∀ payment ∈ world.payments, history.shows payment = true)
    (reach : world.scanInReach command = true) :
    WipeSafe (exec lua enclave world command answer).1
      (stagesAfter poller stage thread command (exec lua enclave world command answer).2) where
  exclusive := exclusive_step answer lua enclave poller safe.exclusive permitted
    fun id _ checked pending => safe.checked thread id checked (Or.inr pending)
  checked other id checked claimable := by
    refine unpaid_step lua enclave answer safe.exclusive permitted (fun before => ?_) claimable
    by_cases same : other = thread
    · subst same
      rw [stagesAfter, Function.update_self] at checked
      by_cases scan : ∃ minHeight, command = .getTransfers id minHeight
      · obtain ⟨minHeight, rfl⟩ := scan
        have clean : scanResult answer.history id minHeight = .clean := by
          change (stageAfter poller (stage other) (.getTransfers id minHeight)
            answer.history).hold = _ at checked
          simp only [stageAfter, Stage.withHold_hold] at checked
          split at checked
          · assumption
          · cases checked
        exact unpaid_of_clean safe.stamped (fun history => shown id minHeight history rfl)
          (of_decide_eq_true reach before) clean
      · exact safe.checked other id
          (stageAfter_checked (fun minHeight same => scan ⟨minHeight, same⟩) checked) before
    · rw [stagesAfter, Function.update_of_ne same] at checked
      exact safe.checked other id checked before
  stamped payment member := by
    by_cases transfer : ∃ paid amount address, command = .transfer paid amount address
    · obtain ⟨paid, amount, address, rfl⟩ := transfer
      change payment ∈ (world.pay answer paid amount).payments at member
      unfold World.pay at member
      split at member
      · rcases List.mem_append.1 member with before | new
        · exact safe.stamped payment before
        · rw [List.mem_singleton.1 new]
          exact permitted.2
      · exact safe.stamped payment member
    · rw [exec_payments _ _ _ _ _ fun paid amount address same =>
        transfer ⟨paid, amount, address, same⟩] at member
      exact safe.stamped payment member

omit [DecidableEq Thread] in
theorem WipeSafe.wipe (safe : WipeSafe world stage)
    (unbound : ∀ thread, (stage thread).hold.unbound = true) :
    WipeSafe { world with redis := world.redis.wipe } stage where
  exclusive := .of_unowned safe.exclusive.once fun thread id owns => by
    have bound := unbound thread
    rw [Owns] at owns
    rw [owns] at bound
    cases bound
  checked thread id checked := by
    have bound := unbound thread
    rw [checked] at bound
    cases bound
  stamped := safe.stamped

omit [DecidableEq Thread] in
theorem WipeSafe.mined (safe : WipeSafe world stage) (position height : Nat) :
    ∀ payment ∈ world.payments.modify position (fun payment =>
      { payment with height := some height }), payment.Stamped := by
  intro payment member
  obtain ⟨index, bound, rfl⟩ := List.getElem_of_mem member
  rw [List.getElem_modify]
  have before := safe.stamped _ (List.getElem_mem (by simpa using bound))
  split <;> exact before

end Invariant

theorem wipeSafe_invariant {Thread Signature : Type} [DecidableEq Thread]
    (deployment : Deployment Thread Signature) :
    Invariant deployment.machine (claimDiscipline deployment.poller)
      (fun pool action => truthful pool action = true ∧ WithinReach pool action) WipeSafe where
  step pool thread answer command next world reply code permitted answered meets safe := by
    obtain ⟨rfl, rfl⟩ := deployment.machine_exec answered
    obtain ⟨truth, reach⟩ := meets
    have asks : pool.next? thread = some command := by rw [Pool.next?, code]
    refine safe.step deployment.lua deployment.enclave deployment.poller answer permitted ?_ ?_
    · rintro id minHeight history rfl read
      rw [truthful, asks, read] at truth
      exact List.all_eq_true.1 truth
    · rw [WithinReach, asks] at reach
      exact reach
  restart pool thread _ safe := by
    refine ⟨exclusive_restart safe.exclusive, fun other id checked => ?_, safe.stamped⟩
    by_cases same : other = thread
    · subst same
      rw [Function.update_self] at checked
      cases checked
    · rw [Function.update_of_ne same] at checked
      exact safe.checked other id checked
  event pool event meets safe := by
    cases event with
    | wipe => exact safe.wipe meets.2
    | l2 sender call => exact ⟨safe.exclusive, safe.checked, safe.stamped⟩
    | mined position height =>
        have counted := pool.world.broadcasts_occur deployment.ecdsa (.mined position height)
        refine ⟨safe.exclusive.weaken (fun _ claimable => claimable) counted fun _ _ owns => owns,
          fun thread id checked claimable => ?_, safe.mined position height⟩
        exact (counted id).trans (safe.checked thread id checked claimable)

/-- **At most one payout across wipes**, in every run in which the wallet reports
its payments, every scan reaches back to the payment of an id that could be
claimed again, and no wipe hits a consumer between its scan and its transfer. -/
theorem at_most_one_broadcast_across_wipes {Thread Signature : Type} [DecidableEq Thread]
    (deployment : Deployment Thread Signature) (token : Token.State)
    (actions : List (Action Thread Answer (Event Signature)))
    (truth : Along deployment.move (fun pool action => truthful pool action = true)
      (deployment.start (World.genesis token)) actions)
    (reach : Along deployment.move WithinReach (deployment.start (World.genesis token)) actions)
    (id : RedemptionId) :
    (run deployment.move (deployment.start (World.genesis token)) actions).world.broadcasts
      id ≤ 1 := by
  have safe := Deployment.run_keeps (wipeSafe_invariant deployment) (truth.and reach)
    (genesis_wipeSafe token)
  exact safe.exclusive.once id

/-! ### The hole -/

/-- The history with the payment of redemption 1 mined at height 100. -/
def minedHistory : WalletHistory where
  out := [{ amount := some (10 ^ 12 - 10 ^ 12 % 2 ^ 16 + 1), txid := some "tx", height := some 100 }]
  pending := []
  pool := []

/-- Redemption 1 is paid, its confirmation does not come in time, and the entry
is acknowledged all the same. The payment is mined at height 100, then Redis is
wiped, and all services start anew. -/
def payThenWipe : List SampleAction :=
  pollOne ++ refreshOne ++ payOne 100 ⟨[], [], []⟩ (.sent "tx") ++
    steps .consumer [{}, { minedAt := some 0 }, { expired := true }, {}] ++
    [.event (.mined 0 100), .event .wipe, .restart .consumer, .restart .poller,
      .restart .refresher] ++
    pollOne ++ refreshOne

/-- The next drain happens 4900 blocks later. -/
def wipeRun : List SampleAction := payThenWipe ++ payOne 5000 minedHistory (.sent "tx2")

theorem wipeRun_pays_twice :
    Along sample.move (fun pool action => truthful pool action = true)
        (sample.start (World.genesis sampleToken)) wipeRun ∧
      (run sample.move (sample.start (World.genesis sampleToken)) wipeRun).world.broadcasts 1 =
        2 := by
  decide

/-- The next drain happens 1900 blocks later and reconciles. -/
def reconcileRun : List SampleAction :=
  payThenWipe ++ steps .consumer
    (List.replicate 9 { height := some 2000, history := some minedHistory })

theorem at_most_one_broadcast_across_wipes_reconciled :
    (run sample.move (sample.start (World.genesis sampleToken)) reconcileRun).world.token.processed
        1 = true ∧
      (run sample.move (sample.start (World.genesis sampleToken)) reconcileRun).world.broadcasts
        1 ≤ 1 :=
  ⟨by decide, at_most_one_broadcast_across_wipes sample sampleToken reconcileRun (by decide)
    (by decide) 1⟩

end CrFaucet.Redemption
