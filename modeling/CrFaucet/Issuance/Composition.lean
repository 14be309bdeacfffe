import CrFaucet.Issuance.Chain
import CrFaucet.Issuance.UnsoldFees

/-!
Owns how vouchers compose: an issuing history of any length, and claims of its
vouchers in any order and any number.

`Issuance.Chain` keeps the books of the issuer. The contract mints differences, so that
what it has minted to a user is the largest amount claimed; that is `Settled`. Together
they are `Balanced`, which every action keeps.

The zero address is left out: its vouchers are signed like any other, and `_mint`
refuses to pay them out.
-/

set_option autoImplicit false

namespace CrFaucet.Issuance

open Interaction
open Token (Address Call Ecdsa Voucher uint256 transact)

variable {Thread Signature : Type}

/-! ### What was issued, claimed and minted -/

/-- Ghost books, newest first. -/
structure Ledger (Signature : Type) where
  issued : List (Issued Signature)
  /-- Every voucher `claim` was called with, also where it reverted. -/
  submitted : List Voucher
  minted : Address → Nat

def largest (amounts : List Nat) : Nat := amounts.foldr max 0

namespace Ledger

def empty : Ledger Signature where
  issued := []
  submitted := []
  minted := fun _ => 0

/-- The cumulative amounts claimed for one user. -/
def claims (ledger : Ledger Signature) (user : Address) : List Nat :=
  (ledger.submitted.filter fun voucher => voucher.user = user).map Voucher.cumulativeAmount

/-- A call of `claim`, with the delta it mints. -/
def claim (ecdsa : Ecdsa Signature) (token : Token.State) (ledger : Ledger Signature)
    (voucher : Voucher) (sig : Signature) : Ledger Signature :=
  let delta := (token.claim ecdsa voucher.user voucher.cumulativeAmount voucher.signedAt sig).elim
    0 Prod.snd
  { ledger with
    submitted := voucher :: ledger.submitted
    minted := Function.update ledger.minted voucher.user (ledger.minted voucher.user + delta) }

variable {ledger : Ledger Signature} {ecdsa : Ecdsa Signature} {token : Token.State}
  {voucher : Voucher} {sig : Signature} {user : Address}

theorem claims_cons_of_eq (own : voucher.user = user) :
    (ledger.claim ecdsa token voucher sig).claims user =
      voucher.cumulativeAmount :: ledger.claims user := by
  simp [claims, claim, own]

theorem claims_cons_of_ne (other : voucher.user ≠ user) :
    (ledger.claim ecdsa token voucher sig).claims user = ledger.claims user := by
  simp [claims, claim, other]

end Ledger

theorem le_largest {amounts : List Nat} {amount : Nat} (member : amount ∈ amounts) :
    amount ≤ largest amounts := by
  induction amounts with
  | nil => cases member
  | cons first rest inductionHypothesis =>
      change amount ≤ max first (largest rest)
      rcases List.mem_cons.1 member with rfl | later
      · exact Nat.le_max_left _ _
      · exact (inductionHypothesis later).trans (Nat.le_max_right _ _)

/-! ### The contract -/

/-- The contract has minted what was claimed, which is too little to overflow: amounts
are `i64` and accounts are 160 bits. -/
structure Supplied (signer : Address) (token : Token.State) (issued : List (Issued Signature)) :
    Prop where
  authorized : token.authorizedSigner = signer
  backed : token.erc20.Backed
  supply : token.erc20.totalSupply = token.totalClaimed
  small : ∀ owner, token.claimed owner ≤ 2 ^ 63
  bounded : ∀ record ∈ issued, record.voucher.cumulativeAmount ≤ 2 ^ 63

/-- What one user was paid. -/
structure Settled (ecdsa : Ecdsa Signature) (signer user : Address) (token : Token.State)
    (ledger : Ledger Signature) : Prop where
  genuine : ∀ record ∈ issuedTo user ledger.issued,
    ecdsa.voucher record.voucher record.signature = some signer
  covered : token.claimed user ≤ lastCumulative (issuedTo user ledger.issued)
  claimed : token.claimed user = largest (ledger.claims user)
  minted : ledger.minted user = token.claimed user

theorem sum_fin_le {n bound : Nat} (values : Fin n → Nat) (small : ∀ index, values index ≤ bound) :
    ∑ index, values index ≤ n * bound := by
  have total := Finset.sum_le_card_nsmul Finset.univ values bound fun index _ => small index
  rwa [Finset.card_univ, Fintype.card_fin, nsmul_eq_mul] at total

section Claim

variable {ecdsa : Ecdsa Signature} {signer user : Address} {token after : Token.State}
  {issued : List (Issued Signature)} {ledger : Ledger Signature} {record : Issued Signature}

theorem Supplied.fits (supplied : Supplied signer token issued) (member : record ∈ issued)
    (owner : Address) :
    token.erc20.totalSupply + (record.voucher.cumulativeAmount - token.claimed owner) <
      uint256 := by
  have total : token.totalClaimed ≤ 2 ^ 160 * 2 ^ 63 := sum_fin_le token.claimed supplied.small
  have amount := supplied.bounded record member
  rw [supplied.supply]
  unfold uint256
  omega

theorem Supplied.claim (supplied : Supplied signer token issued) (member : record ∈ issued)
    {delta : Nat} (claims : token.claim ecdsa record.voucher.user record.voucher.cumulativeAmount
      record.voucher.signedAt record.signature = some (after, delta)) :
    Supplied signer after issued := by
  obtain ⟨fresh, rfl, _, erc20, mints, rfl⟩ := Token.State.claim_eq claims
  obtain ⟨backed, minted, _⟩ := supplied.backed.mint mints
  constructor
  case authorized => exact supplied.authorized
  case backed => exact backed
  case supply =>
    have replaced := Token.sum_replace token.claimed record.voucher.user
      record.voucher.cumulativeAmount
    have before := supplied.supply
    simp only [Token.State.totalClaimed] at before ⊢
    omega
  case small =>
    apply (Function.forall_update_iff token.claimed fun _ amount => amount ≤ 2 ^ 63).2
    exact ⟨supplied.bounded record member, fun owner _ => supplied.small owner⟩
  case bounded => exact supplied.bounded

theorem Settled.stale (settled : Settled ecdsa signer user token ledger)
    (supplied : Supplied signer token ledger.issued) (nonzero : user ≠ 0)
    (member : record ∈ ledger.issued) (own : record.voucher.user = user)
    (reverts : token.claim ecdsa record.voucher.user record.voucher.cumulativeAmount
      record.voucher.signedAt record.signature = none) :
    record.voucher.cumulativeAmount ≤ token.claimed user := by
  by_contra above
  have listed : record ∈ issuedTo user ledger.issued :=
    List.mem_filter.2 ⟨member, decide_eq_true own⟩
  have signed := settled.genuine record listed
  rw [← supplied.authorized] at signed
  obtain ⟨erc20, mints⟩ := Token.Erc20.mint_succeeds nonzero (supplied.fits member user)
  subst own
  obtain ⟨_, _, claims⟩ := Token.State.claim_succeeds (Nat.lt_of_not_le above) signed mints
  rw [claims] at reverts
  cases reverts

theorem Settled.of_other {voucher : Voucher} {sig : Signature}
    (settled : Settled ecdsa signer user token ledger) (other : voucher.user ≠ user)
    (claimed : after.claimed user = token.claimed user) :
    Settled ecdsa signer user after (ledger.claim ecdsa token voucher sig) where
  genuine := settled.genuine
  covered := claimed ▸ settled.covered
  claimed := by
    rw [Ledger.claims_cons_of_ne other, claimed]
    exact settled.claimed
  minted := by
    rw [claimed]
    change Function.update ledger.minted voucher.user _ user = _
    rw [Function.update_of_ne (Ne.symm other)]
    exact settled.minted

theorem Settled.reverted (settled : Settled ecdsa signer user token ledger)
    (supplied : Supplied signer token ledger.issued) (nonzero : user ≠ 0)
    (member : record ∈ ledger.issued)
    (reverts : token.claim ecdsa record.voucher.user record.voucher.cumulativeAmount
      record.voucher.signedAt record.signature = none) :
    Settled ecdsa signer user token
      (ledger.claim ecdsa token record.voucher record.signature) := by
  by_cases own : record.voucher.user = user
  · have stale := settled.stale supplied nonzero member own reverts
    constructor
    case genuine => exact settled.genuine
    case covered => exact settled.covered
    case claimed =>
      rw [Ledger.claims_cons_of_eq own]
      change _ = max record.voucher.cumulativeAmount (largest (ledger.claims user))
      rw [← settled.claimed]
      exact (Nat.max_eq_right stale).symm
    case minted =>
      simp only [Ledger.claim, reverts, Option.elim_none]
      rw [own, Function.update_self]
      exact settled.minted
  · exact settled.of_other own rfl

theorem Settled.paid (settled : Settled ecdsa signer user token ledger)
    (chained : Chained (issuedTo user ledger.issued)) (member : record ∈ ledger.issued)
    {delta : Nat} (claims : token.claim ecdsa record.voucher.user record.voucher.cumulativeAmount
      record.voucher.signedAt record.signature = some (after, delta)) :
    Settled ecdsa signer user after
      (ledger.claim ecdsa token record.voucher record.signature) := by
  obtain ⟨fresh, difference, _, erc20, _, rfl⟩ := Token.State.claim_eq claims
  by_cases own : record.voucher.user = user
  · have listed : record ∈ issuedTo user ledger.issued :=
      List.mem_filter.2 ⟨member, decide_eq_true own⟩
    rw [own] at fresh difference
    constructor
    case genuine => exact settled.genuine
    case covered =>
      simp only [own, Function.update_self]
      exact chained.le_lastCumulative listed
    case claimed =>
      rw [Ledger.claims_cons_of_eq own]
      change _ = max record.voucher.cumulativeAmount (largest (ledger.claims user))
      rw [← settled.claimed]
      simp only [own, Function.update_self]
      exact (Nat.max_eq_left fresh.le).symm
    case minted =>
      have before := settled.minted
      simp only [Ledger.claim, claims, Option.elim_some]
      rw [own, Function.update_self, Function.update_self]
      omega
  · exact settled.of_other own (Function.update_of_ne (Ne.symm own) ..)

/-! ### New vouchers -/

variable {phase : Phase} {answer : Answer Signature} {command : Command Signature}

theorem Supplied.issuedAfter (supplied : Supplied signer token issued)
    (permitted : phasePermits phase command) :
    Supplied signer token (issuedAfter issued phase answer command) := by
  cases command with
  | sign voucher =>
      obtain ⟨cumulative, marginal, _, fits, amount⟩ := permitted
      unfold Issuance.issuedAfter
      cases answer.signature with
      | none => exact supplied
      | some signature =>
          have small : voucher.cumulativeAmount ≤ 2 ^ 63 := by
            unfold i64Max at fits
            omega
          exact { supplied with
            bounded := List.forall_mem_cons.2 ⟨small, supplied.bounded⟩ }
  | _ => exact supplied

theorem Settled.issuedAfter (settled : Settled ecdsa signer user token ledger)
    (chained : Chained (issuedTo user (issuedAfter ledger.issued phase answer command)))
    (undropped : Undropped ecdsa signer user answer command) :
    Settled ecdsa signer user token
      { ledger with issued := issuedAfter ledger.issued phase answer command } := by
  cases command with
  | sign voucher =>
      unfold Issuance.issuedAfter at chained ⊢
      cases made : answer.signature with
      | none => exact settled
      | some signature =>
          simp only [made] at chained
          by_cases own : voucher.user = user
          · have signed := undropped own
            rw [made] at signed
            rw [issuedTo_cons_of_eq _ own] at chained
            obtain ⟨adds, positive, _⟩ := chained
            constructor
            case genuine =>
              dsimp only
              rw [issuedTo_cons_of_eq _ own]
              exact List.forall_mem_cons.2 ⟨signed, settled.genuine⟩
            case covered =>
              have before := settled.covered
              dsimp only
              rw [issuedTo_cons_of_eq _ own]
              change _ ≤ voucher.cumulativeAmount
              dsimp only at adds positive
              omega
            case claimed => exact settled.claimed
            case minted => exact settled.minted
          · constructor
            case genuine =>
              dsimp only
              rw [issuedTo_cons_of_ne _ own]
              exact settled.genuine
            case covered =>
              dsimp only
              rw [issuedTo_cons_of_ne _ own]
              exact settled.covered
            case claimed => exact settled.claimed
            case minted => exact settled.minted
  | _ => exact settled

end Claim

/-! ### Runs -/

/-- The system and its ghost books. -/
structure Audit (Thread Signature : Type) where
  pool : Pool Thread (World Thread) (Command Signature) Reply Phase
  ledger : Ledger Signature

/-- What one action adds to the books. -/
def Ledger.after (ecdsa : Ecdsa Signature)
    (pool : Pool Thread (World Thread) (Command Signature) Reply Phase)
    (ledger : Ledger Signature) :
    Action Thread (Answer Signature) (Event Signature) → Ledger Signature
  | .step thread answer =>
      match pool.code thread with
      | .done _ => ledger
      | .ask command _ =>
          { ledger with issued := issuedAfter ledger.issued (pool.stage thread) answer command }
  | .event (.l2 _ (.claim user cumulativeAmount signedAt sig)) =>
      ledger.claim ecdsa pool.world.token ⟨user, cumulativeAmount, signedAt⟩ sig
  | _ => ledger

/-- An event of the runs considered: the user's last voucher is not evicted, and the
contract is called to claim issued vouchers, by anyone. -/
def EventComposes (user : Address) (issued : List (Issued Signature)) :
    Event Signature → Prop
  | .evictEarned _ => True
  | .evictLastVoucher miner => miner ≠ user
  | .wipe => False
  | .l2 _ (.claim owner cumulativeAmount signedAt sig) =>
      ∃ record ∈ issued, record.voucher = ⟨owner, cumulativeAmount, signedAt⟩ ∧
        record.signature = sig
  | .l2 _ _ => False

instance [DecidableEq Signature] (user : Address) (issued : List (Issued Signature)) :
    ∀ event, Decidable (EventComposes user issued event)
  | .evictEarned _ => isTrue trivial
  | .evictLastVoucher _ => instDecidableNot
  | .wipe => isFalse not_false
  | .l2 sender call => by
      apply @Call.casesOn Signature
        (fun call => Decidable (EventComposes user issued (.l2 sender call))) call
      case claim =>
        intro owner cumulativeAmount signedAt sig
        exact List.decidableBEx _ _
      all_goals
        intros
        exact isFalse not_false

instance [DecidableEq Signature] (ecdsa : Ecdsa Signature) (signer user : Address)
    (answer : Answer Signature) (command : Command Signature) :
    Decidable (Undropped ecdsa signer user answer command) := by
  apply @Command.casesOn Signature
    (fun command => Decidable (Undropped ecdsa signer user answer command)) command
  case setLastVoucher => exact fun _ _ => instDecidableForall
  case sign => exact fun _ => instDecidableForall
  all_goals
    intros
    exact isTrue trivial

variable [DecidableEq Thread]

namespace Deployment

variable (deployment : Deployment Thread Signature)

def audit (audit : Audit Thread Signature)
    (action : Action Thread (Answer Signature) (Event Signature)) : Audit Thread Signature where
  pool := audit.pool.move deployment.machine issuing action
  ledger := audit.ledger.after deployment.site.ecdsa audit.pool action

/-- A fresh deployment whose contract trusts the enclave's key. -/
def opening (owner : Address) (subsidy : Nat) : Audit Thread Signature where
  pool := Pool.initial deployment.machine issuing
    (World.genesis (Token.deployed owner deployment.signer subsidy))
  ledger := .empty

/-- The runs considered: a decision of the user that is recorded is also signed, the
request is not dropped in between, and events are as above. -/
def Composes (user : Address) (audit : Audit Thread Signature) :
    Action Thread (Answer Signature) (Event Signature) → Prop
  | .step thread answer => ∀ command ∈ audit.pool.next? thread,
      Undropped deployment.site.ecdsa deployment.signer user answer command
  | .restart thread => (audit.pool.stage thread).recording ≠ some user
  | .event event => EventComposes user audit.ledger.issued event

instance [DecidableEq Signature] (user : Address) (audit : Audit Thread Signature) :
    ∀ action, Decidable (deployment.Composes user audit action)
  | .step _ _ => Option.decidableForallMem _
  | .restart _ => instDecidableNot
  | .event event => inferInstanceAs (Decidable (EventComposes user audit.ledger.issued event))

/-- **Inversion of a step** with its entry in the books. Only a lock makes a thread wait. -/
theorem audit_step_cases (audit : Audit Thread Signature) (thread : Thread)
    (answer : Answer Signature) :
    deployment.audit audit (.step thread answer) = audit ∨
      ∃ command next world reply, audit.pool.code thread = .ask command next ∧
        exec deployment.site thread audit.pool.world command answer = some (world, reply) ∧
        deployment.audit audit (.step thread answer) =
          { pool := {
              world := world
              code := Function.update audit.pool.code thread (next reply)
              stage := Function.update audit.pool.stage thread
                (phaseAfter (audit.pool.stage thread) command reply) }
            ledger := { audit.ledger with
              issued := issuedAfter audit.ledger.issued (audit.pool.stage thread) answer
                command } } := by
  cases code : audit.pool.code thread with
  | done result => exact Or.inl (by simp only [Deployment.audit, Pool.move, Ledger.after, code])
  | ask command next =>
      cases answered : deployment.machine.exec thread audit.pool.world command answer with
      | none =>
          left
          cases command with
          | lock owner =>
              simp only [Deployment.audit, Pool.move, Ledger.after, code, answered, issuedAfter]
          | _ => cases answered
      | some outcome =>
          right
          refine ⟨command, next, outcome.1, outcome.2, rfl, answered, ?_⟩
          simp only [Deployment.audit, Pool.move, Ledger.after, code, answered]
          rfl

/-- The books of the issuer and of the contract. -/
structure Balanced (user : Address) (audit : Audit Thread Signature) : Prop where
  composing : Composing user audit.pool.world audit.ledger.issued audit.pool.stage
  supplied : Supplied deployment.signer audit.pool.world.token audit.ledger.issued
  settled : Settled deployment.site.ecdsa deployment.signer user audit.pool.world.token
    audit.ledger

end Deployment

namespace Deployment.Balanced

variable {deployment : Deployment Thread Signature} {user : Address}
  {audit : Audit Thread Signature}

theorem opening (owner : Address) (subsidy : Nat) (user : Address) :
    deployment.Balanced user (deployment.opening owner subsidy) where
  composing := InOrder.start user
  supplied := {
    authorized := rfl
    backed := (Token.deployed_sound owner deployment.signer subsidy).backed
    supply := by simp [Deployment.opening, Pool.initial, World.genesis, Token.deployed,
      Token.State.totalClaimed]
    small := fun _ => Nat.zero_le _
    bounded := nofun }
  settled := {
    genuine := nofun
    covered := Nat.le_refl _
    claimed := rfl
    minted := rfl }

theorem step (balanced : deployment.Balanced user audit)
    (disciplined : audit.pool.Disciplined issuing) {thread : Thread} {answer : Answer Signature}
    (composes : deployment.Composes user audit (.step thread answer)) :
    deployment.Balanced user (deployment.audit audit (.step thread answer)) := by
  rcases deployment.audit_step_cases audit thread answer with
    same | ⟨command, next, world, reply, code, answered, moved⟩
  · rw [same]
    exact balanced
  · have obeys := disciplined thread
    rw [code] at obeys
    have permitted : phasePermits (audit.pool.stage thread) command := obeys.1
    have undropped := composes command (by rw [Pool.next?, code]; rfl)
    have composing := balanced.composing.step balanced.settled.covered permitted undropped
      answered
    have token : world.token = audit.pool.world.token := by
      apply exec_token answered
      · rintro voucher sig rfl
        exact permitted
      · rintro mptIn minOut deadline rfl
        exact permitted
    rw [moved]
    constructor
    case composing => exact composing
    case supplied =>
      change Supplied _ world.token _
      rw [token]
      exact balanced.supplied.issuedAfter permitted
    case settled =>
      change Settled _ _ _ world.token _
      rw [token]
      exact balanced.settled.issuedAfter composing.chained undropped

theorem restart (balanced : deployment.Balanced user audit) {thread : Thread}
    (unrecorded : (audit.pool.stage thread).recording ≠ some user) :
    deployment.Balanced user (deployment.audit audit (.restart thread)) where
  composing := balanced.composing.restart unrecorded
  supplied := balanced.supplied
  settled := balanced.settled

theorem of_claim (balanced : deployment.Balanced user audit) {sender : Address}
    {voucher : Voucher} {sig : Signature} {after : Token.State}
    (left : (transact deployment.site.ecdsa audit.pool.world.token sender
      (.claim voucher.user voucher.cumulativeAmount voucher.signedAt sig)).getD
        audit.pool.world.token = after)
    (supplied : Supplied deployment.signer after audit.ledger.issued)
    (settled : Settled deployment.site.ecdsa deployment.signer user after
      (audit.ledger.claim deployment.site.ecdsa audit.pool.world.token voucher sig)) :
    deployment.Balanced user (deployment.audit audit (.event (.l2 sender
      (.claim voucher.user voucher.cumulativeAmount voucher.signedAt sig)))) := by
  subst left
  exact ⟨balanced.composing, supplied, settled⟩

theorem claim (balanced : deployment.Balanced user audit) (nonzero : user ≠ 0)
    {record : Issued Signature} (member : record ∈ audit.ledger.issued) (sender : Address) :
    deployment.Balanced user (deployment.audit audit (.event (.l2 sender
      (.claim record.voucher.user record.voucher.cumulativeAmount record.voucher.signedAt
        record.signature)))) := by
  cases claims : audit.pool.world.token.claim deployment.site.ecdsa record.voucher.user
      record.voucher.cumulativeAmount record.voucher.signedAt record.signature with
  | none =>
      apply balanced.of_claim (by simp only [transact, claims, Option.map_none]; rfl)
      · exact balanced.supplied
      · exact balanced.settled.reverted balanced.supplied nonzero member claims
  | some outcome =>
      apply balanced.of_claim (by simp only [transact, claims, Option.map_some]; rfl)
      · exact balanced.supplied.claim member claims
      · exact balanced.settled.paid balanced.composing.chained member claims

theorem event (balanced : deployment.Balanced user audit) (nonzero : user ≠ 0)
    {event : Event Signature} (composes : EventComposes user audit.ledger.issued event) :
    deployment.Balanced user (deployment.audit audit (.event event)) := by
  cases event with
  | evictEarned miner => exact ⟨balanced.composing, balanced.supplied, balanced.settled⟩
  | evictLastVoucher miner =>
      have kept : World.lastKey { audit.pool.world with
          balances := audit.pool.world.balances.evictLastVoucher miner } user =
          audit.pool.world.lastKey user := by
        change (Function.update audit.pool.world.balances.lastVoucher miner none user).getD 0 = _
        rw [Function.update_of_ne (Ne.symm composes)]
        rfl
      constructor
      case composing =>
        have composing := balanced.composing
        unfold Composing at composing
        rw [← kept] at composing
        exact composing
      case supplied => exact balanced.supplied
      case settled => exact balanced.settled
  | wipe => cases composes
  | l2 sender call =>
      cases call with
      | claim owner cumulativeAmount signedAt sig =>
          obtain ⟨record, member, voucher, rfl⟩ := composes
          have claimed := balanced.claim nonzero member sender
          rw [voucher] at claimed
          exact claimed
      | _ => cases composes

/-- **The books balance** in every run. -/
theorem run (roles : ∀ thread, (deployment.role thread).Issues) (owner : Address) (subsidy : Nat)
    (nonzero : user ≠ 0) {actions : List (Action Thread (Answer Signature) (Event Signature))}
    (along : Along deployment.audit (deployment.Composes user)
      (deployment.opening owner subsidy) actions) :
    deployment.Balanced user
      (Interaction.run deployment.audit (deployment.opening owner subsidy) actions) := by
  have mains := deployment.issues roles
  have both := along.keeps
    (fun audit => deployment.Balanced user audit ∧ audit.pool.Disciplined issuing) ?_
    ⟨opening owner subsidy user, Pool.initial_disciplined _ mains⟩
  · exact both.1
  · intro audit action now composes
    refine ⟨?_, now.2.move mains action⟩
    cases action with
    | step thread answer => exact now.1.step now.2 composes
    | restart thread => exact now.1.restart composes
    | event event => exact now.1.event nonzero composes

end Deployment.Balanced

/-! ### Vouchers compose -/

theorem lastCumulative_le_largest {user : Address} {ledger : Ledger Signature}
    (submitted : ∀ record ∈ issuedTo user ledger.issued, record.voucher ∈ ledger.submitted) :
    lastCumulative (issuedTo user ledger.issued) ≤ largest (ledger.claims user) := by
  cases chain : issuedTo user ledger.issued with
  | nil => exact Nat.zero_le _
  | cons newest earlier =>
      have member : newest ∈ issuedTo user ledger.issued := by
        rw [chain]
        exact List.mem_cons_self ..
      have own : newest.voucher.user = user := of_decide_eq_true (List.mem_filter.1 member).2
      apply le_largest
      apply List.mem_map_of_mem
      exact List.mem_filter.2 ⟨submitted newest member, decide_eq_true own⟩

/-- **Vouchers compose.** Any number of requests and credits side by side, and anyone
claiming issued vouchers in any order and any number of times, interleaved anywhere. For
a user other than the zero address whose recorded decisions are all signed and whose
last voucher is never evicted, amounts strictly increase (the newest voucher comes
first), marginals add up to the last amount, the contract has minted the largest amount
claimed, and hence the sum of all marginals once every voucher was submitted. -/
theorem vouchers_compose (deployment : Deployment Thread Signature)
    (roles : ∀ thread, (deployment.role thread).Issues) (owner : Address) (subsidy : Nat)
    (user : Address) (nonzero : user ≠ 0)
    (actions : List (Action Thread (Answer Signature) (Event Signature)))
    (along : Along deployment.audit (deployment.Composes user)
      (deployment.opening owner subsidy) actions) :
    let ledger := (run deployment.audit (deployment.opening owner subsidy) actions).ledger
    let vouchers := issuedTo user ledger.issued
    vouchers.Pairwise (fun later earlier =>
        earlier.voucher.cumulativeAmount < later.voucher.cumulativeAmount) ∧
      (vouchers.map Issued.marginal).sum = lastCumulative vouchers ∧
      ledger.minted user = largest (ledger.claims user) ∧
      ((∀ record ∈ vouchers, record.voucher ∈ ledger.submitted) →
        (ledger.minted user : Int) = (vouchers.map Issued.marginal).sum) := by
  intro ledger vouchers
  have balanced := Deployment.Balanced.run roles owner subsidy nonzero along
  have chained : Chained vouchers := balanced.composing.chained
  have minted : ledger.minted user = largest (ledger.claims user) :=
    balanced.settled.minted.trans balanced.settled.claimed
  refine ⟨chained.increasing, chained.sum_marginal, minted, fun submitted => ?_⟩
  have above := lastCumulative_le_largest submitted
  have below : ledger.minted user ≤ lastCumulative vouchers := by
    rw [balanced.settled.minted]
    exact balanced.settled.covered
  rw [chained.sum_marginal]
  change lastCumulative vouchers ≤ _ at above
  omega

inductive ClaimThread where
  | share
  | part
  | rest
deriving DecidableEq

/-- One share is credited, a voucher for 4 is requested and one for the rest. -/
def twoVouchers (user : Address) : Deployment ClaimThread Address where
  site := {
    lua := .unbounded
    ecdsa := { voucher := fun _ sig => some sig, permit := fun _ sig => some sig }
    feeSwapper := 50
    app := 51
    pair := 52 }
  signer := 9
  feeSwap := {
    rentFloorWei := none
    minSwapAtomic := 0
    maxSwapAtomic := 0
    slippageBps := 0
    minSwapGasMultiple := 0 }
  mintableFee := fun _ _ _ => 0
  role
    | .share => .credit user 1
    | .part => .issue user (some 4)
    | .rest => .issue user none

/-- The share earns 10. The second voucher is claimed before the first, and again. -/
def disordered (user : Address) :
    List (Action ClaimThread (Answer Address) (Event Address)) :=
  List.replicate 3 (.step .share { credit := 10 }) ++
    List.replicate 7 (.step .part { signature := some 9 }) ++
    List.replicate 7 (.step .rest { signature := some 9 }) ++
    [.event (.l2 3 (.claim user 10 0 9)), .event (.l2 4 (.claim user 4 0 9)),
      .event (.l2 3 (.claim user 10 0 9))]

/-- Vouchers for 4 and 10 mint 10, in this order too. -/
theorem vouchers_compose_disordered :
    let ledger := (run (twoVouchers 1).audit ((twoVouchers 1).opening 7 0) (disordered 1)).ledger
    ledger.claims 1 = [10, 4, 10] ∧ ledger.minted 1 = 10 ∧
      (ledger.minted 1 : Int) = ((issuedTo 1 ledger.issued).map Issued.marginal).sum := by
  have roles : ∀ thread, ((twoVouchers 1).role thread).Issues := by
    intro thread
    cases thread <;> trivial
  have along : Along (twoVouchers 1).audit ((twoVouchers 1).Composes 1)
      ((twoVouchers 1).opening 7 0) (disordered 1) := by decide +kernel
  have composed := vouchers_compose (twoVouchers 1) roles 7 0 1 (by decide) (disordered 1) along
  exact ⟨by decide +kernel, by decide +kernel, composed.2.2.2 (by decide +kernel)⟩

/-- **The zero address is never paid.** The same requests and claims for it: both
vouchers are signed, and every claim reverts. -/
theorem zero_vouchers_mint_nothing :
    Along (twoVouchers 0).audit ((twoVouchers 0).Composes 0) ((twoVouchers 0).opening 7 0)
        (disordered 0) ∧
      let ledger := (run (twoVouchers 0).audit ((twoVouchers 0).opening 7 0) (disordered 0)).ledger
      ((issuedTo 0 ledger.issued).map Issued.marginal).sum = 10 ∧
        largest (ledger.claims 0) = 10 ∧ ledger.minted 0 = 0 := by
  decide +kernel

end CrFaucet.Issuance
