import CrFaucet.Redemption.Custody
import CrFaucet.Redemption.WipeSafety
import CrFaucet.Token.Steps

/-!
Owns what `sent` says about the wallet: that a payout for the id was broadcast.

A consumer writes `sent` on evidence, and evidence is a fact of the past: a transfer
that came back, a transfer in the wallet history that carries the tag of the id, or
the mark on the L2. The first is a broadcast. The second is one if the transfers with
that tag were made for that id. The third is not: the mark is also set for dust and
for payouts the wallet refuses for good, under one of the `deadLetters`. `dustRun` ends
with `sent` and nothing broadcast.
-/

set_option autoImplicit false

namespace CrFaucet.Redemption

open Interaction
open Token (Address Ecdsa Call)

variable {Thread Signature : Type}

/-! ### What the wallet shows -/

/-- The transfers a scan from `minHeight` on takes into account. -/
def WalletHistory.inWindow (history : WalletHistory) (minHeight : Nat) : List HistoryItem :=
  history.out.filter (fun item => minHeight ≤ item.height.getD 0) ++ history.pending ++
    history.pool

theorem mem_of_mem_stampMatches {id : RedemptionId} {confirmed : Bool} {items : List HistoryItem}
    {hit : String × Bool} (member : hit ∈ stampMatches id confirmed items) :
    ∃ item ∈ items, item.Tagged id := by
  obtain ⟨item, kept, _⟩ := List.mem_map.1 member
  obtain ⟨shown, tagged⟩ := List.mem_filter.1 kept
  exact ⟨item, shown, of_decide_eq_true tagged⟩

theorem scan_paid {history : Option WalletHistory} {id : RedemptionId} {minHeight : Nat}
    {txid : String} {confirmed : Bool}
    (paid : scanResult history id minHeight = .paid txid confirmed) :
    ∃ shown ∈ history, ∃ item ∈ shown.inWindow minHeight, item.Tagged id := by
  cases history with
  | none => cases paid
  | some history =>
      refine ⟨history, rfl, ?_⟩
      simp only [scanResult, stampMatchInResult] at paid
      split at paid
      · cases paid
      · rename_i foundTxid foundConfirmed found
        have member : (foundTxid, foundConfirmed) ∈ stampMatches id true
              (history.out.filter fun item => minHeight ≤ item.height.getD 0) ++
            stampMatches id false history.pending ++ stampMatches id false history.pool := by
          rw [found]
          exact List.mem_singleton_self _
        unfold WalletHistory.inWindow
        rcases List.mem_append.1 member with first | inPool
        · rcases List.mem_append.1 first with mined | pending
          · obtain ⟨item, shown, tagged⟩ := mem_of_mem_stampMatches mined
            exact ⟨item, List.mem_append_left _ (List.mem_append_left _ shown), tagged⟩
          · obtain ⟨item, shown, tagged⟩ := mem_of_mem_stampMatches pending
            exact ⟨item, List.mem_append_left _ (List.mem_append_right _ shown), tagged⟩
        · obtain ⟨item, shown, tagged⟩ := mem_of_mem_stampMatches inPool
          exact ⟨item, List.mem_append_right _ shown, tagged⟩
      · cases paid

/-! ### Conditions on a run -/

/-- The answer tells the truth about payments: a transfer in the window with the tag
of `id` was made for it, and an id that is marked was not marked as a dead letter. -/
def World.tellsPaid (world : World) (answer : Answer) : Command → Prop
  | .getTransfers id minHeight => ∀ history ∈ answer.history, ∀ item ∈ history.inWindow minHeight,
      item.Tagged id → ∃ payment ∈ world.payments,
        payment.id = id ∧ item.amount = some payment.amount
  | .isProcessed id => world.token.processed id.val = true →
      world.token.payoutTxid id.val ∉ deadLetters
  | _ => True

instance (world : World) (answer : Answer) (command : Command) :
    Decidable (world.tellsPaid answer command) := by
  apply @Command.casesOn (fun command => Decidable (world.tellsPaid answer command)) command
  case getTransfers => exact fun _ _ => Option.decidableForallMem _
  case isProcessed => exact fun _ => instDecidableForall
  all_goals
    intros
    exact isTrue trivial

/-- The call does not mark a redemption. -/
def Unmarking (_ : Address) : Call Signature → Prop
  | .markProcessed _ _ _ => False
  | _ => True

instance (sender : Address) (call : Call Signature) : Decidable (Unmarking sender call) := by
  apply @Call.casesOn Signature (fun call => Decidable (Unmarking sender call)) call
  case markProcessed => exact fun _ _ _ => isFalse not_false
  all_goals
    intros
    exact isTrue trivial

/-- Every answer tells the truth about payments, and nobody but the consumers marks
redemptions. -/
def TellsPaid (pool : Pool Thread World Command Reply Custody) :
    Action Thread Answer (Event Signature) → Prop
  | .step thread answer => ∀ command ∈ pool.next? thread, pool.world.tellsPaid answer command
  | .event (.l2 sender call) => call.All Unmarking sender
  | _ => True

instance (pool : Pool Thread World Command Reply Custody) :
    ∀ action : Action Thread Answer (Event Signature), Decidable (TellsPaid pool action)
  | .step _ _ => Option.decidableForallMem _
  | .restart _ => isTrue trivial
  | .event .wipe => isTrue trivial
  | .event (.mined _ _) => isTrue trivial
  | .event (.l2 sender call) => Call.decidableAll Unmarking sender call

/-! ### What a step adds -/

section Step

variable {lua : Lua} {enclave : Address} {world : World} {command : Command} {answer : Answer}
  {id : RedemptionId}

theorem broadcasts_le_exec (lua : Lua) (enclave : Address) (world : World) (command : Command)
    (answer : Answer) (id : RedemptionId) :
    world.broadcasts id ≤ (exec lua enclave world command answer).1.broadcasts id := by
  by_cases transfer : ∃ paid amount address, command = .transfer paid amount address
  · obtain ⟨paid, amount, address, rfl⟩ := transfer
    have counted := world.broadcasts_pay answer paid id amount
    change world.broadcasts id ≤ (world.pay answer paid amount).broadcasts id
    omega
  · rw [exec_broadcasts _ _ _ _ _ fun paid amount address same =>
      transfer ⟨paid, amount, address, same⟩]

/-- **Where new evidence comes from.** -/
theorem evidenceAfter_eq_some {evidence : Option RedemptionId}
    (known : evidenceAfter evidence command (exec lua enclave world command answer).2 = some id) :
    evidence = some id ∨
      (∃ amount address txHash, command = .transfer id amount address ∧
        answer.transfer = .sent txHash) ∨
      (command = .isProcessed id ∧ world.token.processed id.val = true) ∨
      ∃ minHeight txid confirmed, command = .getTransfers id minHeight ∧
        scanResult answer.history id minHeight = .paid txid confirmed := by
  cases command with
  | transfer paid amount address =>
      change evidenceAfter evidence (.transfer paid amount address) answer.transfer = some id
        at known
      cases reply : answer.transfer with
      | sent txHash =>
          rw [reply] at known
          obtain rfl : paid = id := Option.some.inj known
          exact Or.inr (Or.inl ⟨amount, address, txHash, rfl, rfl⟩)
      | _ =>
          rw [reply] at known
          exact Or.inl known
  | isProcessed asked =>
      cases reply : (exec lua enclave world (.isProcessed asked) answer).2 with
      | none =>
          rw [reply] at known
          exact Or.inl known
      | some processed =>
          rw [reply] at known
          cases processed with
          | false => exact Or.inl known
          | true =>
              obtain rfl : asked = id := Option.some.inj known
              refine Or.inr (Or.inr (Or.inl ⟨rfl, ?_⟩))
              simp only [exec, World.readL2, Outcome.perform] at reply
              split at reply
              · exact Option.some.inj reply
              · cases reply
              · cases reply
  | getTransfers asked minHeight =>
      change evidenceAfter evidence (.getTransfers asked minHeight) answer.history = some id
        at known
      simp only [evidenceAfter] at known
      split at known
      · rename_i txid confirmed paid
        obtain rfl : asked = id := Option.some.inj known
        exact Or.inr (Or.inr (Or.inr ⟨minHeight, txid, confirmed, rfl, paid⟩))
      · exact Or.inl known
  | _ => exact Or.inl known

theorem exec_token (other : ∀ id txid restoreHeight, command ≠ .markProcessed id txid restoreHeight) :
    (exec lua enclave world command answer).1.token = world.token := by
  cases command with
  | markProcessed id txid restoreHeight => exact absurd rfl (other id txid restoreHeight)
  | transfer paid amount address =>
      change (world.pay answer paid amount).token = world.token
      unfold World.pay
      split <;> rfl
  | _ => rfl

theorem exec_markProcessed {marked : RedemptionId} {txid : String} {restoreHeight : Nat}
    (processed : (exec lua enclave world (.markProcessed marked txid restoreHeight)
      answer).1.token.processed id.val = true) :
    (world.token.processed id.val = true ∧
        (exec lua enclave world (.markProcessed marked txid restoreHeight)
          answer).1.token.payoutTxid id.val = world.token.payoutTxid id.val) ∨
      (id = marked ∧ (exec lua enclave world (.markProcessed marked txid restoreHeight)
        answer).1.token.payoutTxid id.val = txid) := by
  have token : (exec lua enclave world (.markProcessed marked txid restoreHeight) answer).1.token =
      world.token ∨ world.token.markProcessed enclave marked.val txid restoreHeight =
        some (exec lua enclave world (.markProcessed marked txid restoreHeight) answer).1.token := by
    simp only [exec, World.markProcessed, Outcome.perform]
    cases attempt : world.token.markProcessed enclave marked.val txid restoreHeight with
    | none => cases answer.outcome <;> exact Or.inl rfl
    | some after =>
        cases answer.outcome with
        | refused => exact Or.inl rfl
        | _ => exact Or.inr rfl
  rcases token with same | written
  · rw [same] at processed ⊢
    exact Or.inl ⟨processed, rfl⟩
  · obtain ⟨_, _, after⟩ := Token.State.markProcessed_eq written
    rw [after] at processed ⊢
    dsimp only at processed ⊢
    by_cases own : id = marked
    · subst own
      by_cases already : world.token.processed id.val = true
      · rw [if_pos already]
        exact Or.inl ⟨already, rfl⟩
      · rw [if_neg already, Function.update_self]
        exact Or.inr ⟨rfl, rfl⟩
    · have elsewhere : id.val ≠ marked.val := fun same => own (Fin.ext same)
      rw [Function.update_of_ne elsewhere] at processed
      refine Or.inl ⟨processed, ?_⟩
      split
      · rfl
      · rw [Function.update_of_ne elsewhere]

end Step

/-! ### The invariant -/

/-- A state that is `sent`, a mark that is no dead letter, and evidence all go back to a
broadcast. -/
structure SentPaid (world : World) (stage : Thread → Custody) : Prop where
  sent : ∀ id, world.redis.state id = some .sent → 0 < world.broadcasts id
  marked : ∀ id : RedemptionId, world.token.processed id.val = true →
    world.token.payoutTxid id.val ∈ deadLetters ∨ 0 < world.broadcasts id
  evident : ∀ thread id, (stage thread).evidence = some id → 0 < world.broadcasts id

namespace SentPaid

variable {lua : Lua} {enclave : Address} {world : World} {stage : Thread → Custody}
  {thread : Thread} {command : Command} {answer : Answer} {cap : Nat} {id : RedemptionId}

theorem genesis {token : Token.State} (unmarked : ∀ id, token.processed id = false) :
    SentPaid (World.genesis token) fun _ : Thread => ({} : Custody) where
  sent _ absent := by cases absent
  marked id processed := by
    change token.processed id.val = true at processed
    rw [unmarked] at processed
    cases processed
  evident _ _ known := by cases known

/-- New evidence goes back to a broadcast. -/
theorem evidence (paid : SentPaid world stage) (tells : world.tellsPaid answer command)
    (known : evidenceAfter (stage thread).evidence command
      (exec lua enclave world command answer).2 = some id) :
    0 < (exec lua enclave world command answer).1.broadcasts id := by
  have grows := broadcasts_le_exec lua enclave world command answer id
  rcases evidenceAfter_eq_some known with
    had | ⟨amount, address, txHash, rfl, sent⟩ | ⟨rfl, processed⟩ |
      ⟨minHeight, txid, confirmed, rfl, found⟩
  · exact (paid.evident thread id had).trans_le grows
  · have counted := world.broadcasts_pay answer id id amount
    rw [if_pos ⟨by rw [sent]; rfl, rfl⟩] at counted
    change 0 < (world.pay answer id amount).broadcasts id
    omega
  · exact ((paid.marked id processed).resolve_left (tells processed)).trans_le grows
  · obtain ⟨history, shown, item, inWindow, tagged⟩ := scan_paid found
    obtain ⟨payment, member, named, _⟩ := tells history shown item inWindow tagged
    have broadcast : 0 < world.broadcasts id :=
      List.countP_pos_iff.2 ⟨payment, member, decide_eq_true named⟩
    exact broadcast.trans_le grows

/-- **The step lemma**, for deployments in which nobody marks by hand. -/
theorem step [DecidableEq Thread] (paid : SentPaid world stage)
    (permitted : (stage thread).permits cap False command)
    (tells : world.tellsPaid answer command) :
    SentPaid (exec lua enclave world command answer).1
      (custodiesAfter stage thread command (exec lua enclave world command answer).2) where
  sent id now := by
    have grows := broadcasts_le_exec lua enclave world command answer id
    rcases exec_state_sent now with before | settles
    · exact (paid.sent id before).trans_le grows
    · -- Whoever writes `sent` has the evidence.
      have evident : (stage thread).evidence = some id := by
        cases command with
        | markSent written txid =>
            obtain rfl := Option.some.inj settles
            exact permitted.resolve_left id
        | hsetState written state =>
            cases state with
            | sent =>
                obtain rfl := Option.some.inj settles
                exact permitted
            | _ => cases settles
        | hsetnxState written state =>
            obtain ⟨_, rfl⟩ := permitted
            cases settles
        | _ => cases settles
      exact (paid.evident thread id evident).trans_le grows
  marked id processed := by
    have grows := broadcasts_le_exec lua enclave world command answer id
    by_cases marks : ∃ marked txid restoreHeight, command = .markProcessed marked txid restoreHeight
    · obtain ⟨marked, txid, restoreHeight, rfl⟩ := marks
      rcases exec_markProcessed processed with ⟨before, text⟩ | ⟨rfl, text⟩
      · rw [text]
        exact (paid.marked id before).imp_right fun broadcast => broadcast.trans_le grows
      · rw [text]
        rcases permitted with evident | dead
        · exact Or.inr ((paid.evident thread id evident).trans_le grows)
        · exact Or.inl dead
    · have same : (exec lua enclave world command answer).1.token = world.token :=
        exec_token fun marked txid restoreHeight is => marks ⟨marked, txid, restoreHeight, is⟩
      rw [same] at processed ⊢
      exact (paid.marked id processed).imp_right fun broadcast => broadcast.trans_le grows
  evident other id known := by
    by_cases same : other = thread
    · subst same
      rw [custodiesAfter, Function.update_self] at known
      exact paid.evidence tells known
    · rw [custodiesAfter, Function.update_of_ne same] at known
      exact (paid.evident other id known).trans_le
        (broadcasts_le_exec lua enclave world command answer id)

end SentPaid

/-! ### The L2 -/

theorem transact_unmarking {ecdsa : Ecdsa Signature} {state after : Token.State} {sender : Address}
    {call : Call Signature} (unmarking : call.All Unmarking sender)
    (returned : Token.transact ecdsa state sender call = some after) :
    after.processed = state.processed ∧ after.payoutTxid = state.payoutTxid := by
  refine Token.transact_keeps (fun reached => reached.processed = state.processed ∧
    reached.payoutTxid = state.payoutTxid) ?_ unmarking returned ⟨rfl, rfl⟩
  intro before reached step same
  cases step with
  | claim sender user cumulativeAmount signedAt sig may claimed =>
      obtain ⟨_, _, _, erc20, _, rfl⟩ := Token.State.claim_eq claimed
      exact same
  | redeem sender amount xmrAddress value wrote =>
      obtain ⟨_, erc20, _, rfl⟩ := Token.State.redeemWrites_eq wrote
      exact same
  | plain sender call flat may returned =>
      cases Token.plain_move flat returned with
      | marked id moneroTxid newRestoreHeight written => cases may
      | signer | subsidy | owner | balances => exact same

/-! ### Runs -/

section Runs

variable [DecidableEq Thread] (deployment : Deployment Thread Signature)

theorem sentPaid_invariant
    (byServices : ∀ thread id txid, deployment.role thread ≠ .markSent id txid) :
    Invariant deployment.machine deployment.custody TellsPaid SentPaid where
  step := by
    intro pool thread answer command next world reply code permitted answered tells paid
    obtain ⟨rfl, rfl⟩ := deployment.machine_exec answered
    have asks : pool.next? thread = some command := by rw [Pool.next?, code]
    have nobody : ¬ ∃ thread id txid, deployment.role thread = .markSent id txid := by
      rintro ⟨thread, id, txid, byHand⟩
      exact byServices thread id txid byHand
    have permitted : (pool.stage thread).permits deployment.payouts.monero.perTxCapAtomic False
        command := by
      rw [← eq_false nobody]
      exact permitted
    exact paid.step permitted (tells command asks)
  restart := by
    intro pool thread _ paid
    refine ⟨paid.sent, paid.marked, ?_⟩
    intro other id known
    by_cases same : other = thread
    · subst same
      rw [Function.update_self] at known
      cases known
    · rw [Function.update_of_ne same] at known
      exact paid.evident other id known
  event := by
    intro pool event tells paid
    have kept := pool.world.broadcasts_occur deployment.ecdsa event
    cases event with
    | wipe =>
        refine ⟨?_, paid.marked, paid.evident⟩
        intro id sent
        cases sent
    | mined position height =>
        constructor
        · intro id sent
          exact (paid.sent id sent).trans_eq (kept id).symm
        · intro id processed
          exact (paid.marked id processed).imp_right fun broadcast =>
            broadcast.trans_eq (kept id).symm
        · intro thread id known
          exact (paid.evident thread id known).trans_eq (kept id).symm
    | l2 sender call =>
        refine ⟨paid.sent, ?_, paid.evident⟩
        change ∀ id : RedemptionId,
          ((Token.transact deployment.ecdsa pool.world.token sender call).getD
            pool.world.token).processed id.val = true →
          ((Token.transact deployment.ecdsa pool.world.token sender call).getD
            pool.world.token).payoutTxid id.val ∈ deadLetters ∨ _
        cases returned : Token.transact deployment.ecdsa pool.world.token sender call with
        | none => exact paid.marked
        | some after =>
            obtain ⟨processed, payoutTxid⟩ := transact_unmarking tells returned
            rw [Option.getD_some, processed, payoutTxid]
            exact paid.marked

/-- **`sent` means paid**, in every run in which the transfers with the tag of an id
were made for it, no dead letter is taken for a payment, and nobody marks by hand. -/
theorem sent_means_paid (token : Token.State) (unmarked : ∀ id, token.processed id = false)
    (byServices : ∀ thread id txid, deployment.role thread ≠ .markSent id txid)
    (actions : List (Action Thread Answer (Event Signature)))
    (tells : Along deployment.handle TellsPaid (deployment.handsEmpty (World.genesis token)) actions)
    (id : RedemptionId)
    (sent : (run deployment.handle (deployment.handsEmpty (World.genesis token))
      actions).world.redis.state id = some .sent) :
    0 < (run deployment.handle (deployment.handsEmpty (World.genesis token))
      actions).world.broadcasts id := by
  have paid := (sentPaid_invariant deployment byServices).run deployment.keepsCustody
    (Pool.initial_disciplined (World.genesis token) deployment.keepsCustody) tells
    (SentPaid.genesis unmarked)
  exact paid.sent id sent

end Runs

/-- Redemption 1 is paid, Redis is wiped, and the payment is found in the history. -/
theorem sent_means_paid_reconciled :
    (run sample.handle (sample.handsEmpty (World.genesis sampleToken))
        reconcileRun).world.redis.state 1 = some .sent ∧
      0 < (run sample.handle (sample.handsEmpty (World.genesis sampleToken))
        reconcileRun).world.broadcasts 1 := by
  have sent : (run sample.handle (sample.handsEmpty (World.genesis sampleToken))
      reconcileRun).world.redis.state 1 = some .sent := by decide
  refine ⟨sent, sent_means_paid sample sampleToken (fun _ => rfl) ?_ reconcileRun (by decide) 1
    sent⟩
  intro thread id txid
  cases thread <;> exact nofun

/-! ### A dead letter taken for a payment -/

/-- The wallet holds 100 atomic units, so redemption 1 is dust. The consumer marks it and
crashes; the next drain finds the mark. -/
def dustRun : List SampleAction :=
  pollOne ++ steps .refresher (List.replicate 7 { balance := some (100, 100) }) ++
    payOne 100 ⟨[], [], []⟩ .failed ++ [.restart .consumer] ++
    steps .consumer (List.replicate 5 { idle := [1] })

theorem dust_is_sent :
    (run sample.handle (sample.handsEmpty (World.genesis sampleToken))
        dustRun).world.redis.state 1 = some .sent ∧
      (run sample.handle (sample.handsEmpty (World.genesis sampleToken))
        dustRun).world.payments = [] := by
  decide

end CrFaucet.Redemption
