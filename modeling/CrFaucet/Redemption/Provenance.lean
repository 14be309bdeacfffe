import CrFaucet.Redemption.Claim
import CrFaucet.Redemption.Stream
import CrFaucet.Redemption.Trail
import CrFaucet.Token.Conservation
import CrFaucet.Token.Records

/-!
Owns where a payout comes from: the contract records a burn, the poller carries the record into the
stream, and a consumer pays the entry. Across any interleaving, every payment and every transfer a
thread is about to ask for is held against the record on the L2.

Records are append-only below `2 ^ 256` redemptions, see `Token.Records`; a wiped store loses
entries and never makes any.

Does not own how often an entry is paid; see `Redemption.SinglePayout` and `Redemption.PaidTotal`.
-/

set_option autoImplicit false

namespace CrFaucet.Redemption

open Interaction
open Token (Address Ecdsa StoredRedemption Entry uint256)

/-! ### What the contract does meanwhile -/

section Contract

variable {Signature : Type} {ecdsa : Ecdsa Signature}

/-- Entry points of the contract lead from one state to the other. -/
abbrev Onwards (ecdsa : Ecdsa Signature) (before after : Token.State) : Prop :=
  Relation.ReflTransGen (Entry ecdsa) before after

theorem Onwards.made_le {before after : Token.State} (onwards : Onwards ecdsa before after) :
    before.made ≤ after.made := by
  induction onwards with
  | refl => exact Nat.le_refl _
  | tail _ last inductionHypothesis => exact Nat.le_trans inductionHypothesis last.made_le

theorem Onwards.sound {before after : Token.State} (onwards : Onwards ecdsa before after)
    (sound : before.Sound) : after.Sound := by
  induction onwards with
  | refl => exact sound
  | tail _ last inductionHypothesis => exact last.sound inductionHypothesis

variable (ecdsa) in
theorem exec_onwards (lua : Lua) (enclave : Address) (world : World) (command : Command)
    (answer : Answer) :
    Onwards ecdsa world.token (exec lua enclave world command answer).1.token := by
  cases command with
  | markProcessed id txid restoreHeight =>
      simp only [exec, World.markProcessed, Outcome.perform]
      cases attempt : world.token.markProcessed enclave id.val txid restoreHeight with
      | none => cases answer.outcome <;> exact .refl
      | some marked =>
          have entry : Entry ecdsa world.token marked :=
            .plain enclave (.markProcessed id.val txid restoreHeight) rfl trivial attempt
          cases answer.outcome with
          | refused => exact .refl
          | _ => exact .single entry
  | transfer id amount address =>
      simp only [exec, World.pay]
      split <;> exact .refl
  | _ => exact .refl

theorem occur_onwards (world : World) (event : Event Signature) :
    Onwards ecdsa world.token (world.occur ecdsa event).token := by
  cases event with
  | wipe => exact .refl
  | mined position height => exact .refl
  | l2 sender call =>
      simp only [World.occur]
      cases returned : Token.transact ecdsa world.token sender call with
      | none => exact .refl
      | some after =>
          exact Token.transact_steps sender call
            (Token.Call.all_of_forall (fun _ _ => trivial) sender call) returned

end Contract

/-! ### What the trail is worth -/

def Issued (token : Token.State) (id : RedemptionId) : Prop :=
  1 ≤ id.val ∧ id.val ≤ token.nextRedemptionId

structure StreamEntry.Carries (entry : StreamEntry) (row : StoredRedemption) : Prop where
  sender : entry.sender = row.user
  amount : entry.amount = row.amount
  xmrAddr : entry.xmrAddr = row.xmrAddress

structure Recorded (token : Token.State) (entry : StreamEntry) : Prop where
  issued : Issued token entry.id
  carries : entry.Carries (token.redemptions entry.id.val)

structure AnswersBurn (monero : MoneroConfig) (token : Token.State) (payment : Payment) :
    Prop where
  issued : Issued token payment.id
  payable : PayableFor monero (token.redemptions payment.id.val).amount payment.amount

/-- What a thread has read is so. -/
structure Trail.Truthful (trail : Trail) (token : Token.State) : Prop where
  told : trail.told ≤ token.nextRedemptionId
  row : ∀ id row, trail.row = some (id, row) → Issued token id ∧ token.redemptions id.val = row
  handed : ∀ entry ∈ trail.handed, Recorded token entry

section Kept

variable {before after : Token.State}

theorem Issued.kept {id : RedemptionId} (issued : Issued before id) (kept : before.Kept after) :
    Issued after id :=
  ⟨issued.1, Nat.le_trans issued.2 kept.next⟩

theorem Recorded.kept {entry : StreamEntry} (recorded : Recorded before entry)
    (kept : before.Kept after) : Recorded after entry := by
  refine ⟨recorded.issued.kept kept, ?_⟩
  rw [kept.redemptions entry.id.val recorded.issued.2]
  exact recorded.carries

theorem AnswersBurn.kept {monero : MoneroConfig} {payment : Payment}
    (answers : AnswersBurn monero before payment) (kept : before.Kept after) :
    AnswersBurn monero after payment := by
  refine ⟨answers.issued.kept kept, ?_⟩
  rw [kept.redemptions payment.id.val answers.issued.2]
  exact answers.payable

theorem Trail.Truthful.kept {trail : Trail} (truthful : trail.Truthful before)
    (kept : before.Kept after) : trail.Truthful after where
  told := Nat.le_trans truthful.told kept.next
  row id row read := by
    obtain ⟨issued, same⟩ := truthful.row id row read
    exact ⟨issued.kept kept, (kept.redemptions id.val issued.2).trans same⟩
  handed entry member := (truthful.handed entry member).kept kept

theorem Trail.Truthful.start (token : Token.State) : ({} : Trail).Truthful token where
  told := Nat.zero_le _
  row id row read := by cases read
  handed entry member := by cases member

end Kept

theorem StreamEntry.Carries.atomicAmount_eq {entry : StreamEntry} {row : StoredRedemption}
    (carries : entry.Carries row) : entry.atomicAmount = row.amount := by
  rw [StreamEntry.atomicAmount, carries.amount, Int.toNat_natCast]

/-! ### One command -/

section Step

variable {lua : Lua} {enclave : Address} {world : World} {command : Command} {answer : Answer}
  {monero : MoneroConfig} {direct : Prop} {trail : Trail}

theorem readL2_some {Result : Type} {value : Option Result} {result : Result}
    (read : (world.readL2 answer value).2 = some result) : value = some result := by
  simp only [World.readL2, Outcome.perform] at read
  cases outcome : answer.outcome with
  | ok =>
      rw [outcome] at read
      exact read
  | lost =>
      rw [outcome] at read
      cases read
  | refused =>
      rw [outcome] at read
      cases read

/-- **What a thread learns from a reply is so**, in the world the command met. -/
theorem Trail.Truthful.learn (truthful : trail.Truthful world.token)
    (stream : ∀ entry ∈ world.redis.stream, Recorded world.token entry) :
    (trail.after command (exec lua enclave world command answer).2).Truthful world.token := by
  have more : ∀ entries : List StreamEntry, (∀ entry ∈ entries, entry ∈ world.redis.stream) →
      Trail.Truthful { trail with handed := trail.handed ++ entries } world.token := by
    intro entries fromStream
    refine ⟨truthful.told, truthful.row, ?_⟩
    intro entry member
    rcases List.mem_append.1 member with had | new
    · exact truthful.handed entry had
    · exact stream entry (fromStream entry new)
  generalize replied : (exec lua enclave world command answer).2 = reply
  cases command with
  | nextRedemptionId =>
      cases reply with
      | none => exact truthful
      | some next =>
          have counter := readL2_some replied
          unfold World.nextId at counter
          split at counter
          · cases counter
            exact ⟨Nat.le_refl _, truthful.row, truthful.handed⟩
          · cases counter
  | redemption id =>
      cases reply with
      | none => exact truthful
      | some row =>
          have stored := Option.some.inj (readL2_some replied)
          refine ⟨truthful.told, ?_, truthful.handed⟩
          intro other otherRow read
          simp only [Trail.after] at read
          split at read
          · rename_i issued
            cases read
            exact ⟨⟨issued.1, Nat.le_trans issued.2 truthful.told⟩, stored⟩
          · cases read
  | xautoclaim =>
      cases reply with
      | none => exact truthful
      | some entries =>
          exact more entries fun _ member => (unacknowledged_of_xautoclaim replied member).1
  | xreadgroup =>
      cases reply with
      | none => exact truthful
      | some entries =>
          exact more entries fun _ member => (unacknowledged_of_xreadgroup replied member).1
  | incomingTransfers =>
      cases reply with
      | none => exact truthful
      | some transfers => exact ⟨truthful.told, truthful.row, truthful.handed⟩
  | _ => exact truthful

theorem stream_recorded (polled : ¬direct) (truthful : trail.Truthful world.token)
    (permitted : trail.permits monero direct command)
    (stream : ∀ entry ∈ world.redis.stream, Recorded world.token entry) :
    ∀ entry ∈ (exec lua enclave world command answer).1.redis.stream,
      Recorded world.token entry := by
  intro entry member
  rw [exec_redis] at member
  split at member
  · exact stream entry member
  · rcases Redis.mem_after_stream member with had | rfl
    · exact stream entry had
    · obtain ⟨row, read, isSender, isAmount, isAddress⟩ := permitted.resolve_left polled
      obtain ⟨issued, stored⟩ := truthful.row entry.id row read
      refine ⟨issued, ?_⟩
      rw [stored]
      exact ⟨isSender, isAmount, isAddress⟩

theorem payments_answer (truthful : trail.Truthful world.token)
    (permitted : trail.permits monero direct command)
    (payments : ∀ payment ∈ world.payments, AnswersBurn monero world.token payment) :
    ∀ payment ∈ (exec lua enclave world command answer).1.payments,
      AnswersBurn monero world.token payment := by
  by_cases transfers : ∃ id amount address, command = .transfer id amount address
  · obtain ⟨id, amount, address, rfl⟩ := transfers
    intro payment member
    simp only [exec, World.pay] at member
    split at member
    · rcases List.mem_append.1 member with had | new
      · exact payments payment had
      · obtain rfl := List.mem_singleton.1 new
        obtain ⟨entry, handed, rfl, _, payable⟩ := permitted
        have recorded := truthful.handed entry handed
        refine ⟨recorded.issued, ?_⟩
        rw [← recorded.carries.atomicAmount_eq]
        exact payable
    · exact payments payment member
  · rw [exec_payments]
    · exact payments
    · intro id amount address transfer
      exact transfers ⟨id, amount, address, transfer⟩

end Step

/-! ### Every run -/

/-- Entries, payments and everything the threads have read go back to the records. -/
structure Provenance {Thread : Type} (monero : MoneroConfig) (world : World)
    (trail : Thread → Trail) : Prop where
  numbered : world.token.Numbered
  few : world.token.made < uint256
  sound : world.token.Sound
  stream : ∀ entry ∈ world.redis.stream, Recorded world.token entry
  payments : ∀ payment ∈ world.payments, AnswersBurn monero world.token payment
  trails : ∀ thread, (trail thread).Truthful world.token

section Run

variable {Thread Signature : Type} {monero : MoneroConfig} {world : World}
  {trail : Thread → Trail}

/-- The contract moves on, and the rest of the world says nothing new. -/
theorem Provenance.onwards {ecdsa : Ecdsa Signature} {after : World}
    (provenance : Provenance monero world trail)
    (onwards : Onwards ecdsa world.token after.token) (few : after.token.made < uint256)
    (stream : ∀ entry ∈ after.redis.stream, Recorded world.token entry)
    (payments : ∀ payment ∈ after.payments, AnswersBurn monero world.token payment) :
    Provenance monero after trail := by
  obtain ⟨numbered, kept⟩ := Token.entries_kept provenance.numbered onwards few
  exact {
    numbered
    few
    sound := onwards.sound provenance.sound
    stream := fun entry member => (stream entry member).kept kept
    payments := fun payment member => (payments payment member).kept kept
    trails := fun thread => (provenance.trails thread).kept kept }

theorem Provenance.with_trails {others : Thread → Trail} (provenance : Provenance monero world trail)
    (trails : ∀ thread, (others thread).Truthful world.token) : Provenance monero world others :=
  { provenance with trails }

theorem mem_occur_payments {ecdsa : Ecdsa Signature} {event : Event Signature} {payment : Payment}
    (member : payment ∈ (world.occur ecdsa event).payments) :
    ∃ earlier ∈ world.payments, earlier.id = payment.id ∧ earlier.amount = payment.amount := by
  cases event with
  | wipe => exact ⟨payment, member, rfl, rfl⟩
  | l2 sender call => exact ⟨payment, member, rfl, rfl⟩
  | mined position height =>
      simp only [World.occur] at member
      obtain ⟨index, within, rfl⟩ := List.mem_iff_getElem.1 member
      rw [List.length_modify] at within
      refine ⟨world.payments[index], List.getElem_mem within, ?_⟩
      rw [List.getElem_modify]
      split <;> exact ⟨rfl, rfl⟩

namespace Deployment

variable {deployment : Deployment Thread Signature}

variable [DecidableEq Thread]

variable (deployment) in
/-- One action, with the trail of every thread kept. -/
def follow : Pool Thread World Command Reply Trail → Action Thread Answer (Event Signature) →
    Pool Thread World Command Reply Trail :=
  Pool.move deployment.machine deployment.trail

variable (deployment) in
/-- The contract has made fewer than `2 ^ 256` redemptions after the action. -/
def FewAfter (pool : Pool Thread World Command Reply Trail)
    (action : Action Thread Answer (Event Signature)) : Prop :=
  (deployment.follow pool action).world.token.made < uint256

theorem provenance_invariant (polls : ¬deployment.EnqueuesDirectly) :
    Invariant deployment.machine deployment.trail deployment.FewAfter
      (Provenance deployment.payouts.monero) where
  step pool thread answer command next world reply code permitted answered few provenance := by
    have moved : (deployment.follow pool (.step thread answer)).world = world := by
      simp only [follow, Pool.move, code, answered]
    rw [FewAfter, moved] at few
    obtain ⟨rfl, rfl⟩ := deployment.machine_exec answered
    have truthful := provenance.trails thread
    have learned : ∀ other, (Function.update pool.stage thread
        ((pool.stage thread).after command
          (exec deployment.lua deployment.enclave pool.world command answer).2) other).Truthful
            pool.world.token := by
      apply (Function.forall_update_iff pool.stage fun _ trail =>
        trail.Truthful pool.world.token).2
      exact ⟨truthful.learn provenance.stream, fun other _ => provenance.trails other⟩
    exact (provenance.with_trails learned).onwards
      (exec_onwards deployment.ecdsa _ _ _ _ _) few
      (stream_recorded polls truthful permitted provenance.stream)
      (payments_answer truthful permitted provenance.payments)
  restart pool thread _ provenance := by
    refine provenance.with_trails ?_
    apply (Function.forall_update_iff pool.stage fun _ trail =>
      trail.Truthful pool.world.token).2
    exact ⟨.start _, fun other _ => provenance.trails other⟩
  event pool event few provenance := by
    refine provenance.onwards (occur_onwards pool.world event) few ?_ ?_
    · intro entry member
      cases event with
      | wipe => cases member
      | mined position height => exact provenance.stream entry member
      | l2 sender call => exact provenance.stream entry member
    · intro payment member
      obtain ⟨earlier, listed, sameId, sameAmount⟩ := mem_occur_payments member
      obtain ⟨issued, payable⟩ := provenance.payments earlier listed
      rw [sameId] at issued payable
      rw [sameAmount] at payable
      exact ⟨issued, payable⟩

theorem follow_made_le (pool : Pool Thread World Command Reply Trail)
    (action : Action Thread Answer (Event Signature)) :
    pool.world.token.made ≤ (deployment.follow pool action).world.token.made := by
  cases action with
  | step thread answer =>
      rcases Pool.move_step_cases deployment.machine deployment.trail pool thread answer with
        same | ⟨command, next, world, reply, _, answered, moved⟩
      · rw [follow, same]
      · rw [follow, moved]
        obtain ⟨rfl, _⟩ := deployment.machine_exec answered
        exact (exec_onwards deployment.ecdsa _ _ _ _ _).made_le
  | restart thread => exact Nat.le_refl _
  | event event => exact (occur_onwards pool.world event).made_le

omit [DecidableEq Thread] in
/-- Where every deployment starts: the contract just deployed, nothing stored, nothing paid. -/
theorem genesis_provenance (owner signer : Address) (subsidy : Nat) :
    Provenance deployment.payouts.monero (World.genesis (Token.deployed owner signer subsidy))
      fun _ : Thread => {} where
  numbered := Token.deployed_numbered owner signer subsidy
  few := (by decide : 0 < uint256)
  sound := Token.deployed_sound owner signer subsidy
  stream entry member := by cases member
  payments payment member := by cases member
  trails _ := .start _

/-- The whole run: what holds at its end, with the trails of the threads as they are there. -/
theorem run_provenance (polls : ¬deployment.EnqueuesDirectly) (owner signer : Address) (subsidy : Nat)
    (actions : List (Action Thread Answer (Event Signature)))
    (few : (run deployment.move (deployment.start
      (World.genesis (Token.deployed owner signer subsidy))) actions).world.token.made < uint256) :
    ∃ trails : Thread → Trail,
      Provenance deployment.payouts.monero (run deployment.move (deployment.start
        (World.genesis (Token.deployed owner signer subsidy))) actions).world trails ∧
      ∀ thread command, (run deployment.move (deployment.start
          (World.genesis (Token.deployed owner signer subsidy))) actions).next? thread =
            some command → deployment.trail.permits (trails thread) command := by
  have disciplined := Pool.initial_disciplined
    (World.genesis (Token.deployed owner signer subsidy)) deployment.keepsTrail
  have alike : (run deployment.move (deployment.start
        (World.genesis (Token.deployed owner signer subsidy))) actions).Alike
      (run deployment.follow (Pool.initial deployment.machine deployment.trail
        (World.genesis (Token.deployed owner signer subsidy))) actions) := by
    have initially : (deployment.start
        (World.genesis (Token.deployed owner signer subsidy))).Alike
        (Pool.initial deployment.machine deployment.trail
          (World.genesis (Token.deployed owner signer subsidy))) := ⟨rfl, rfl⟩
    exact initially.run actions
  rw [alike.world] at few ⊢
  have along := Along.of_end_lt follow_made_le few
  refine ⟨_, (provenance_invariant polls).run deployment.keepsTrail disciplined along
    (genesis_provenance owner signer subsidy), ?_⟩
  intro thread command next
  rw [alike.next_eq] at next
  exact (disciplined.run deployment.keepsTrail actions).permits_next next

end Deployment

end Run

/-- **Every payout answers a burn that the contract records.** However the services interleave,
fail and restart, and even if the store is wiped: what was paid, and what a thread is about to ask
the wallet for, is for a redemption the contract has issued, to the address recorded with it, for a
burn within the cap, and no more than the burn with the premium. -/
theorem payouts_answer_burns {Thread Signature : Type} [DecidableEq Thread]
    (deployment : Deployment Thread Signature) (polls : ¬deployment.EnqueuesDirectly)
    (owner signer : Address) (subsidy : Nat)
    (actions : List (Action Thread Answer (Event Signature)))
    (pool : Pool Thread World Command Reply Stage)
    (reached : pool = run deployment.move
      (deployment.start (World.genesis (Token.deployed owner signer subsidy))) actions)
    (few : pool.world.token.made < uint256) :
    (∀ payment ∈ pool.world.payments,
      AnswersBurn deployment.payouts.monero pool.world.token payment) ∧
    ∀ thread id amount address, pool.next? thread = some (.transfer id amount address) →
      Issued pool.world.token id ∧ (pool.world.token.redemptions id.val).xmrAddress = address ∧
        PayableFor deployment.payouts.monero (pool.world.token.redemptions id.val).amount
          amount := by
  subst reached
  obtain ⟨trails, provenance, permitted⟩ :=
    Deployment.run_provenance polls owner signer subsidy actions few
  refine ⟨provenance.payments, ?_⟩
  intro thread id amount address asks
  obtain ⟨entry, handed, rfl, rfl, payable⟩ := permitted thread _ asks
  have recorded := (provenance.trails thread).handed entry handed
  refine ⟨recorded.issued, recorded.carries.xmrAddr.symm, ?_⟩
  rw [← recorded.carries.atomicAmount_eq]
  exact payable

/-! Account 1 claims one token and redeems it; the poller finds the burn, and a consumer is about
to pay it. -/

/-- The worked deployment, with every voucher signed by account 9. -/
def redeeming : Deployment SampleThread Unit :=
  { sample with ecdsa := { voucher := fun _ _ => some 9, permit := fun _ _ => none } }

theorem redeeming_polls : ¬redeeming.EnqueuesDirectly := by
  rintro ⟨thread, id, evmFrom, atomicAmount, xmrAddr, direct⟩
  cases thread <;> cases direct

def redeemOne : List SampleAction :=
  [.event (.l2 1 (.claim 1 (10 ^ 12) 0 ())), .event (.l2 1 (.redeem (10 ^ 12) "4A" 0 .nil true))]

def paidOne : List SampleAction :=
  redeemOne ++ pollOne ++ refreshOne ++ payOne 100 ⟨[], [], []⟩ (.sent "tx")

theorem payouts_answer_burns_redeemed :
    (run redeeming.move (redeeming.start (World.genesis (Token.deployed 7 9 0)))
        paidOne).world.payments = [⟨1, 999999995905, none⟩] ∧
      AnswersBurn redeeming.payouts.monero
        (run redeeming.move (redeeming.start (World.genesis (Token.deployed 7 9 0)))
          paidOne).world.token ⟨1, 999999995905, none⟩ := by
  have paid : (run redeeming.move (redeeming.start (World.genesis (Token.deployed 7 9 0)))
      paidOne).world.payments = [⟨1, 999999995905, none⟩] := by decide +kernel
  have answers := (payouts_answer_burns redeeming redeeming_polls 7 9 0 paidOne _ rfl
    (by decide +kernel)).1
  exact ⟨paid, answers _ (by rw [paid]; exact List.mem_singleton.2 rfl)⟩

end CrFaucet.Redemption
