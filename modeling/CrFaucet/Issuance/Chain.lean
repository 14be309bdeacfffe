import CrFaucet.Issuance.Phases

/-!
Owns the chain the vouchers of one user form, each one adding its marginal to the
cumulative amount of the one before.

On the way from one link to the next a request holds the user's lock; `InOrder` says
what every phase of it knows about the last link. It needs two things of the outside:
a decision that is recorded is also signed (`Undropped`), and nothing is claimed beyond
the last link.

Does not own the contract; see `Issuance.Composition`.
-/

set_option autoImplicit false

namespace CrFaucet.Issuance

open Interaction
open Redemption (Outcome)
open Token (Address Ecdsa Voucher)

variable {Thread Signature : Type}

/-! ### Chains of vouchers -/

/-- A voucher that was signed, with the amount it adds. -/
structure Issued (Signature : Type) where
  voucher : Voucher
  signature : Signature
  marginal : Int
deriving DecidableEq

/-- The cumulative amount of the newest voucher, which comes first. -/
def lastCumulative : List (Issued Signature) → Nat
  | [] => 0
  | record :: _ => record.voucher.cumulativeAmount

/-- Every voucher adds its marginal to the one before. -/
def Chained : List (Issued Signature) → Prop
  | [] => True
  | record :: earlier =>
      (record.voucher.cumulativeAmount : Int) = lastCumulative earlier + record.marginal ∧
        0 < record.marginal ∧ Chained earlier

namespace Chained

variable {chain : List (Issued Signature)}

theorem le_lastCumulative (chained : Chained chain) {record : Issued Signature}
    (member : record ∈ chain) : record.voucher.cumulativeAmount ≤ lastCumulative chain := by
  induction chain with
  | nil => cases member
  | cons newest earlier inductionHypothesis =>
      obtain ⟨adds, positive, chained⟩ := chained
      rcases List.mem_cons.1 member with rfl | older
      · exact Nat.le_refl _
      · have before := inductionHypothesis chained older
        change _ ≤ newest.voucher.cumulativeAmount
        omega

theorem increasing (chained : Chained chain) : chain.Pairwise fun later earlier =>
    earlier.voucher.cumulativeAmount < later.voucher.cumulativeAmount := by
  induction chain with
  | nil => exact List.Pairwise.nil
  | cons newest earlier inductionHypothesis =>
      obtain ⟨adds, positive, chained⟩ := chained
      refine List.Pairwise.cons ?_ (inductionHypothesis chained)
      intro record member
      have before := chained.le_lastCumulative member
      omega

theorem sum_marginal (chained : Chained chain) :
    (chain.map Issued.marginal).sum = lastCumulative chain := by
  induction chain with
  | nil => rfl
  | cons newest earlier inductionHypothesis =>
      obtain ⟨adds, _, chained⟩ := chained
      rw [List.map_cons, List.sum_cons, inductionHypothesis chained]
      change _ = (newest.voucher.cumulativeAmount : Int)
      omega

end Chained

/-! ### Requests between two links -/

/-- What a phase knows about the last link and the key it is recorded in. -/
def Phase.Agrees (user : Address) (key last : Int) : Phase → Prop
  | .read owner told => owner = user → told = last
  | .based owner base => owner = user → base = last
  | .recorded owner cumulative marginal => owner = user →
      key = cumulative ∧ cumulative = last + marginal ∧ 0 < marginal
  | .unsigned owner => owner ≠ user
  | _ => True

theorem Phase.agrees_of_holder_ne {phase : Phase} {user : Address} (key last : Int)
    (other : phase.holder ≠ some user) : phase.Agrees user key last := by
  cases phase with
  | read owner told | based owner told | unsigned owner =>
      rintro rfl
      exact absurd rfl other
  | recorded owner cumulative marginal =>
      rintro rfl
      exact absurd rfl other
  | _ => trivial

/-- The lock and the key of one user, the chain of the user's vouchers, and the phase
of every thread. -/
structure InOrder (user : Address) (lock : Option Thread) (key : Int)
    (chain : List (Issued Signature)) (stage : Thread → Phase) : Prop where
  locked : ∀ thread, (stage thread).holder = some user → lock = some thread
  chained : Chained chain
  fits : (lastCumulative chain : Int) ≤ i64Max
  settled : (∀ thread, (stage thread).recording ≠ some user) → key = lastCumulative chain
  agrees : ∀ thread, (stage thread).Agrees user key (lastCumulative chain)

namespace InOrder

variable {user : Address} {lock lock' : Option Thread} {key key' : Int}
  {chain chain' : List (Issued Signature)} {stage : Thread → Phase} {thread : Thread}
  {phase : Phase}

theorem start (user : Address) : InOrder user none 0 ([] : List (Issued Signature))
    fun _ : Thread => Phase.idle where
  locked _ holds := by cases holds
  chained := trivial
  fits := by
    change (0 : Int) ≤ i64Max
    decide
  settled _ := rfl
  agrees _ := trivial

theorem sole (inOrder : InOrder user lock key chain stage)
    (holds : (stage thread).holder = some user) (other : Thread) (distinct : other ≠ thread) :
    (stage other).holder ≠ some user := by
  intro also
  have same := (inOrder.locked thread holds).symm.trans (inOrder.locked other also)
  exact distinct (Option.some.inj same).symm

theorem key_eq (inOrder : InOrder user lock key chain stage)
    (holds : (stage thread).holder = some user)
    (unrecorded : (stage thread).recording ≠ some user) : key = lastCumulative chain := by
  apply inOrder.settled
  intro other records
  by_cases same : other = thread
  · subst same
    exact unrecorded records
  · exact inOrder.sole holds other same (Phase.holder_of_recording records)

variable [DecidableEq Thread]

theorem update (sole : ∀ other, other ≠ thread → (stage other).holder ≠ some user)
    (own : phase.holder = some user → lock = some thread) (chained : Chained chain)
    (fits : (lastCumulative chain : Int) ≤ i64Max)
    (settled : phase.recording ≠ some user → key = lastCumulative chain)
    (agrees : phase.Agrees user key (lastCumulative chain)) :
    InOrder user lock key chain (Function.update stage thread phase) where
  locked := by
    apply (Function.forall_update_iff stage fun other phase =>
      phase.holder = some user → lock = some other).2
    exact ⟨own, fun other distinct holds => absurd holds (sole other distinct)⟩
  chained := chained
  fits := fits
  settled unrecorded := by
    apply settled
    have own := unrecorded thread
    rwa [Function.update_self] at own
  agrees := by
    apply (Function.forall_update_iff stage fun _ =>
      Phase.Agrees user key (lastCumulative chain)).2
    exact ⟨agrees, fun other distinct => Phase.agrees_of_holder_ne _ _ (sole other distinct)⟩

theorem aside (inOrder : InOrder user lock key chain stage)
    (kept : ∀ other, other ≠ thread → lock = some other → lock' = some other)
    (unrecorded : (stage thread).recording ≠ some user) (away : phase.holder ≠ some user) :
    InOrder user lock' key chain (Function.update stage thread phase) where
  locked := by
    apply (Function.forall_update_iff stage fun other phase =>
      phase.holder = some user → lock' = some other).2
    refine ⟨fun holds => absurd holds away, fun other distinct holds => ?_⟩
    exact kept other distinct (inOrder.locked other holds)
  chained := inOrder.chained
  fits := inOrder.fits
  settled unmoved := by
    apply inOrder.settled
    intro other
    by_cases same : other = thread
    · subst same
      exact unrecorded
    · have before := unmoved other
      rwa [Function.update_of_ne same] at before
  agrees := by
    apply (Function.forall_update_iff stage fun _ =>
      Phase.Agrees user key (lastCumulative chain)).2
    exact ⟨Phase.agrees_of_holder_ne _ _ away, fun other _ => inOrder.agrees other⟩

theorem advance (inOrder : InOrder user lock key chain stage)
    (holds : (stage thread).holder = some user)
    (settled : phase.recording ≠ some user → key' = lastCumulative chain)
    (agrees : phase.Agrees user key' (lastCumulative chain)) :
    InOrder user lock key' chain (Function.update stage thread phase) := by
  apply update (inOrder.sole holds)
  · exact fun _ => inOrder.locked thread holds
  · exact inOrder.chained
  · exact inOrder.fits
  · exact settled
  · exact agrees

theorem elsewhere {owner : Address} (inOrder : InOrder user lock key chain stage)
    (unrecorded : (stage thread).recording ≠ some user) (other : owner ≠ user)
    (holds : phase.holder = some owner) :
    InOrder user lock key chain (Function.update stage thread phase) := by
  apply aside inOrder
  · exact fun _ _ held => held
  · exact unrecorded
  · rw [holds]
    exact fun same => other (Option.some.inj same)

end InOrder

/-! ### One command -/

/-- What `bal:last_voucher` holds. -/
def World.lastKey (world : World Thread) (user : Address) : Int :=
  (world.balances.lastVoucher user).getD 0

theorem World.lastKey_setLastVoucher {world : World Thread} {user owner : Address} {value : Int}
    (other : owner ≠ user) :
    World.lastKey { world with balances := world.balances.setLastVoucher owner value } user =
      world.lastKey user := by
  change (Function.update world.balances.lastVoucher owner (some value) user).getD 0 = _
  rw [Function.update_of_ne (Ne.symm other)]
  rfl

/-- The vouchers of one user. -/
def issuedTo (user : Address) (issued : List (Issued Signature)) : List (Issued Signature) :=
  issued.filter fun record => record.voucher.user = user

theorem issuedTo_cons_of_eq {user : Address} {record : Issued Signature}
    (issued : List (Issued Signature)) (own : record.voucher.user = user) :
    issuedTo user (record :: issued) = record :: issuedTo user issued :=
  List.filter_cons_of_pos (decide_eq_true own)

theorem issuedTo_cons_of_ne {user : Address} {record : Issued Signature}
    (issued : List (Issued Signature)) (other : record.voucher.user ≠ user) :
    issuedTo user (record :: issued) = issuedTo user issued :=
  List.filter_cons_of_neg (by simpa using other)

/-- The vouchers signed so far, after one more command in `phase`. -/
def issuedAfter (issued : List (Issued Signature)) (phase : Phase) (answer : Answer Signature) :
    Command Signature → List (Issued Signature)
  | .sign voucher =>
      match answer.signature with
      | some signature => ⟨voucher, signature, phase.marginal⟩ :: issued
      | none => issued
  | _ => issued

/-- Signing does not fail once a decision is recorded: its record is not lost, and the
signature recovers to the enclave's address. -/
def Undropped (ecdsa : Ecdsa Signature) (signer user : Address) (answer : Answer Signature) :
    Command Signature → Prop
  | .setLastVoucher owner _ => owner = user → answer.outcome ≠ .lost
  | .sign voucher => voucher.user = user →
      (answer.signature.bind fun signature => ecdsa.voucher voucher signature) = some signer
  | _ => True

theorem baseOf_eq {last : Int} {chain : List (Issued Signature)} {told : Option Nat}
    (read : last = lastCumulative chain) (paid : told.getD 0 ≤ lastCumulative chain)
    (fits : (lastCumulative chain : Int) ≤ i64Max) : baseOf last told = lastCumulative chain := by
  have exactly : u256ToI64Or (told.getD 0) i64Max = told.getD 0 := by
    unfold u256ToI64Or
    rw [if_pos]
    unfold i64Max at fits
    omega
  unfold baseOf
  rw [exactly]
  omega

section Command

variable [DecidableEq Thread] {site : Site Signature} {signer user : Address}
  {world after : World Thread} {issued : List (Issued Signature)} {stage : Thread → Phase}
  {thread : Thread} {answer : Answer Signature}

/-- The user's lock, key, vouchers and phases are in order. -/
abbrev Composing (user : Address) (world : World Thread) (issued : List (Issued Signature))
    (stage : Thread → Phase) : Prop :=
  InOrder user (world.locks user) (world.lastKey user) (issuedTo user issued) stage

namespace Composing

theorem same (composing : Composing user world issued stage)
    (locks : after.locks user = world.locks user) (key : after.lastKey user = world.lastKey user) :
    Composing user after issued (Function.update stage thread (stage thread)) := by
  rw [Function.update_eq_self]
  unfold Composing
  rw [locks, key]
  exact composing

theorem lock {owner : Address} (composing : Composing user world issued stage)
    (permitted : phasePermits (stage thread) (.lock owner : Command Signature))
    (answered : exec site thread world (.lock owner) answer = some (after, ())) :
    Composing user after issued (Function.update stage thread (.locked owner)) := by
  simp only [exec] at answered
  split at answered
  · cases answered
  · rename_i free
    cases answered
    have idle : stage thread = .idle := permitted
    by_cases own : owner = user
    · subst own
      have nobody : ∀ other, (stage other).holder ≠ some owner := by
        intro other holds
        rw [composing.locked other holds] at free
        cases free
      apply InOrder.update
      · exact fun other _ => nobody other
      · exact fun _ => Function.update_self ..
      · exact composing.chained
      · exact composing.fits
      · intro _
        exact composing.settled fun other records =>
          nobody other (Phase.holder_of_recording records)
      · trivial
    · apply InOrder.aside composing
      · intro other _ held
        change Function.update world.locks owner _ user = _
        rw [Function.update_of_ne (Ne.symm own)]
        exact held
      · rw [idle]
        exact nofun
      · exact fun same => own (Option.some.inj same)

theorem unlock {owner : Address} (composing : Composing user world issued stage)
    (permitted : phasePermits (stage thread) (.unlock owner : Command Signature))
    (answered : exec site thread world (.unlock owner) answer = some (after, ())) :
    Composing user after issued (Function.update stage thread
      (phaseAfter (stage thread) (.unlock owner : Command Signature) ())) := by
  cases answered
  obtain ⟨holds, unrecorded⟩ := permitted
  apply InOrder.aside composing
  · intro other distinct held
    by_cases own : user = owner
    · subst own
      rw [composing.locked thread holds] at held
      exact absurd (Option.some.inj held).symm distinct
    · change Function.update world.locks owner _ user = _
      rw [Function.update_of_ne own]
      exact held
  · rw [unrecorded]
    exact nofun
  · cases stage thread <;> exact nofun

theorem balanceState {asked : Address} {reply : Option BalanceState}
    (composing : Composing user world issued stage)
    (told : ∀ balance, reply = some balance →
      balance.lastVoucherCumulative = world.lastKey asked) :
    Composing user world issued (Function.update stage thread
      (phaseAfter (stage thread) (.balanceState asked : Command Signature) reply)) := by
  cases reply with
  | none => exact same composing rfl rfl
  | some balance =>
      by_cases locked : stage thread = .locked asked
      · have reads : phaseAfter (stage thread) (.balanceState asked : Command Signature)
            (some balance) = .read asked balance.lastVoucherCumulative := if_pos locked
        rw [reads, told balance rfl]
        by_cases own : asked = user
        · subst own
          have holds : (stage thread).holder = some asked := by rw [locked]; rfl
          have unrecorded : (stage thread).recording ≠ some asked := by rw [locked]; exact nofun
          have key := composing.key_eq holds unrecorded
          exact composing.advance holds (fun _ => key) fun _ => key
        · apply InOrder.elsewhere composing _ own rfl
          rw [locked]
          exact nofun
      · have stays : phaseAfter (stage thread) (.balanceState asked : Command Signature)
            (some balance) = stage thread := if_neg locked
        rw [stays]
        exact same composing rfl rfl

theorem claimed {asked : Address} {told : Option Nat}
    (composing : Composing user world issued stage)
    (permitted : phasePermits (stage thread) (.claimed asked : Command Signature))
    (paid : asked = user → told.getD 0 ≤ lastCumulative (issuedTo user issued)) :
    Composing user world issued (Function.update stage thread
      (phaseAfter (stage thread) (.claimed asked : Command Signature) told)) := by
  cases phase : stage thread with
  | read owner last =>
      have same : owner = asked := permitted owner last phase
      subst same
      by_cases own : owner = user
      · subst own
        have holds : (stage thread).holder = some owner := by rw [phase]; rfl
        have unrecorded : (stage thread).recording ≠ some owner := by rw [phase]; exact nofun
        have read := composing.agrees thread
        rw [phase] at read
        apply InOrder.advance composing holds
        · exact fun _ => composing.key_eq holds unrecorded
        · exact fun _ => baseOf_eq (read rfl) (paid rfl) composing.fits
      · apply InOrder.elsewhere composing _ own rfl
        rw [phase]
        exact nofun
  | _ =>
      have stays : Composing user world issued (Function.update stage thread (stage thread)) :=
        same composing rfl rfl
      rw [phase] at stays
      exact stays

theorem setLastVoucher {owner : Address} {value : Int} {reply : Option Unit}
    (composing : Composing user world issued stage)
    (permitted : phasePermits (stage thread) (.setLastVoucher owner value : Command Signature))
    (undropped : Undropped site.ecdsa signer user answer (.setLastVoucher owner value))
    (answered : exec site thread world (.setLastVoucher owner value) answer =
      some (after, reply)) :
    Composing user after issued (Function.update stage thread
      (phaseAfter (stage thread) (.setLastVoucher owner value : Command Signature) reply)) := by
  obtain ⟨base, phase, above, fits⟩ := permitted
  have unrecorded : (stage thread).recording ≠ some user := by rw [phase]; exact nofun
  simp only [exec, World.onBalances, Outcome.perform] at answered
  cases outcome : answer.outcome with
  | refused =>
      rw [outcome] at answered
      cases answered
      exact same composing rfl rfl
  | lost =>
      rw [outcome] at answered
      cases answered
      have other : owner ≠ user := fun own => undropped own outcome
      exact same composing rfl (World.lastKey_setLastVoucher other)
  | ok =>
      rw [outcome] at answered
      cases answered
      rw [phase]
      change Composing _ _ _ (Function.update stage thread (.recorded owner value (value - base)))
      by_cases own : owner = user
      · subst own
        have holds : (stage thread).holder = some owner := by rw [phase]; rfl
        have read := composing.agrees thread
        rw [phase] at read
        have last : base = lastCumulative (issuedTo owner issued) := read rfl
        apply InOrder.advance composing holds
        · exact fun apart => absurd rfl apart
        · intro _
          refine ⟨?_, by omega, by omega⟩
          change (Function.update world.balances.lastVoucher owner (some value) owner).getD 0 = _
          rw [Function.update_self]
          rfl
      · unfold Composing
        rw [World.lastKey_setLastVoucher own]
        exact composing.elsewhere unrecorded own rfl

theorem sign {voucher : Voucher} {reply : Option Signature}
    (composing : Composing user world issued stage)
    (permitted : phasePermits (stage thread) (.sign voucher : Command Signature))
    (undropped : Undropped site.ecdsa signer user answer (.sign voucher))
    (answered : exec site thread world (.sign voucher) answer = some (after, reply)) :
    Composing user after (issuedAfter issued (stage thread) answer (.sign voucher))
      (Function.update stage thread
        (phaseAfter (stage thread) (.sign voucher : Command Signature) reply)) := by
  obtain ⟨cumulative, marginal, phase, fits, amount⟩ := permitted
  have unrecorded : voucher.user ≠ user → (stage thread).recording ≠ some user := by
    intro other
    rw [phase]
    exact fun same => other (Option.some.inj same)
  simp only [exec, World.sign] at answered
  cases made : answer.signature with
  | none =>
      have other : voucher.user ≠ user := by
        intro own
        have signed := undropped own
        rw [made] at signed
        cases signed
      simp only [made] at answered
      cases answered
      simp only [issuedAfter, made]
      exact composing.elsewhere (unrecorded other) other rfl
  | some signature =>
      simp only [made] at answered
      cases answered
      simp only [issuedAfter, made]
      rw [phase]
      change Composing _ _ (⟨voucher, signature, marginal⟩ :: issued)
        (Function.update stage thread (.issued voucher.user cumulative marginal))
      by_cases own : voucher.user = user
      · have holds : (stage thread).holder = some user := by rw [phase, ← own]; rfl
        have agrees := composing.agrees thread
        rw [phase] at agrees
        obtain ⟨key, sum, positive⟩ := agrees own
        have settled : (voucher.cumulativeAmount : Int) = cumulative := by omega
        unfold Composing
        rw [issuedTo_cons_of_eq _ own]
        apply InOrder.update (composing.sole holds)
        · exact fun _ => composing.locked thread holds
        · exact ⟨settled.trans sum, positive, composing.chained⟩
        · exact settled.le.trans fits
        · exact fun _ => key.trans settled.symm
        · trivial
      · unfold Composing
        rw [issuedTo_cons_of_ne _ own]
        exact composing.elsewhere (unrecorded own) own rfl

/-- **Every command** keeps the user's requests in order. -/
theorem step {command : Command Signature} {reply : Reply command}
    (composing : Composing user world issued stage)
    (paid : world.token.claimed user ≤ lastCumulative (issuedTo user issued))
    (permitted : phasePermits (stage thread) command)
    (undropped : Undropped site.ecdsa signer user answer command)
    (answered : exec site thread world command answer = some (after, reply)) :
    Composing user after (issuedAfter issued (stage thread) answer command)
      (Function.update stage thread (phaseAfter (stage thread) command reply)) := by
  cases command with
  | lock owner => exact lock composing permitted answered
  | unlock owner => exact unlock composing permitted answered
  | balanceState asked =>
      obtain ⟨rfl, told⟩ := World.of_read answered
      apply balanceState composing
      intro balance succeeded
      exact Balances.balanceState_lastVoucher (told balance succeeded)
  | setLastVoucher owner value => exact setLastVoucher composing permitted undropped answered
  | claimed asked =>
      obtain ⟨rfl, told⟩ := World.of_read answered
      apply claimed composing permitted
      rintro rfl
      cases reply with
      | none => exact Nat.zero_le _
      | some value =>
          cases told value rfl
          exact paid
  | sign voucher => exact sign composing permitted undropped answered
  | addEarned miner deltaAtomic =>
      have moved : after = (world.addEarned answer miner deltaAtomic).1 := by
        cases answered
        rfl
      rcases world.addEarned_cases answer miner deltaAtomic with unchanged | ⟨total, _, added⟩
      · rw [moved, unchanged]
        exact same composing rfl rfl
      · rw [moved, added]
        exact same composing rfl rfl
  | addFeeAccrued deltaAtomic =>
      have moved : after = (world.addFeeAccrued answer deltaAtomic).1 := by
        cases answered
        rfl
      rcases world.addFeeAccrued_cases answer deltaAtomic with unchanged | ⟨total, _, added⟩
      · rw [moved, unchanged]
        exact same composing rfl rfl
      · rw [moved, added]
        exact same composing rfl rfl
  | restoreCumulative | submitClaim | swapFeeToRose => cases permitted
  | _ =>
      cases answered
      exact same composing rfl rfl

/-- A request that is dropped before it records a decision leaves nothing behind. -/
theorem restart (composing : Composing user world issued stage)
    (unrecorded : (stage thread).recording ≠ some user) :
    Composing user (abandon thread world) issued (Function.update stage thread .idle) := by
  apply InOrder.aside composing
  · intro other distinct held
    change (if world.locks user = some thread then none else world.locks user) = some other
    rw [if_neg]
    · exact held
    · rw [held]
      exact fun same => distinct (Option.some.inj same)
  · exact unrecorded
  · exact nofun

end Composing

end Command

end CrFaucet.Issuance
