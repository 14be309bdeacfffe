import CrFaucet.Issuance.Service

/-!
Owns what a request to the voucher signer that ends with an error leaves behind in
the balance keys of its user.

`issue` writes the decision before it signs, and `restore` merges before it reads the
state it answers with. A request runs alone here: what other requests do to the keys
meanwhile is theirs.
-/

set_option autoImplicit false

namespace CrFaucet.Issuance

open Interaction
open Redemption (Lua Outcome)
open Token (Address Voucher)

variable {Signature Thread : Type}

def Balances.values (balances : Balances) (user : Address) : Int × Int :=
  (balances.earnedBy user, balances.voucheredBy user)

/-- The script of `restore_cumulative` would leave another value in a key of the user.
It compares Lua numbers, and writes Lua numbers. -/
def Balances.MergeChanges (lua : Lua) (balances : Balances) (user : Address)
    (cumulative : Int) : Prop :=
  (max (lua.value (balances.values user).1) (lua.value cumulative),
    max (lua.value (balances.values user).2) (lua.value cumulative)) ≠ balances.values user

/-! ### Failure patterns -/

/-- How the outside treats an `issue`. -/
structure IssueFaults (Signature : Type) where
  read : Outcome
  chainRead : Outcome
  write : Outcome
  time : Nat
  signature : Option Signature

/-- One answer for each command, in the order they are asked. -/
def IssueFaults.answers (faults : IssueFaults Signature) : List (Answer Signature) :=
  [{}, { outcome := faults.read }, { outcome := faults.chainRead }, { outcome := faults.write },
    { time := faults.time }, { signature := faults.signature }, {}]

/-- How the outside treats a `restore`. -/
structure RestoreFaults where
  merge : Outcome
  finalRead : Outcome
  chainRead : Outcome

def RestoreFaults.answers (faults : RestoreFaults) : List (Answer Signature) :=
  [{}, {}, { outcome := faults.merge }, { outcome := faults.finalRead },
    { outcome := faults.chainRead }, {}]

/-! ### One command -/

theorem World.read_eq {Result : Type} (world : World Thread) (answer : Answer Signature)
    (value : Option Result) :
    world.read answer value = (world, if answer.outcome = .ok then value else none) := by
  unfold World.read Outcome.perform
  cases answer.outcome <;> rfl

theorem World.onBalances_eq {Result : Type} (world : World Thread) (answer : Answer Signature)
    (command : Balances → Balances × Option Result) :
    world.onBalances answer command =
      ({ world with
          balances := if answer.outcome = .refused then world.balances
            else (command world.balances).1 },
        if answer.outcome = .ok then (command world.balances).2 else none) := by
  unfold World.onBalances Outcome.perform
  cases answer.outcome <;> rfl

section Requests

variable [DecidableEq Thread] (site : Site Signature) (thread : Thread) (world : World Thread)

/-- A whole `issue`: the world it leaves, and its answer. -/
def issueAlone (user : Address) (amount : Option Int) (faults : IssueFaults Signature) :
    Option (World Thread × Except ServiceError (VoucherOut Signature)) :=
  (issue user amount).attempt (exec site thread) world faults.answers

def restoreAlone (signer user : Address) (cumulativeAmount : Int) (signedAt : Nat)
    (sig : Signature) (faults : RestoreFaults) :
    Option (World Thread × Except ServiceError StateOut) :=
  (restore signer user cumulativeAmount signedAt sig).attempt (exec site thread) world
    faults.answers

/-! ### What is written -/

/-- What `issue` decides, if it gets as far as a decision. A failed read of `claimed`
counts as 0. -/
def decided (user : Address) (amount : Option Int) (faults : IssueFaults Signature) :
    Option VoucherDecision :=
  let read := if faults.read = .ok then world.balances.balanceState user else none
  let claimed := if faults.chainRead = .ok then some (world.token.claimed user) else none
  read.bind fun balance =>
    (VoucherInputs.decide {
      earnedCumulative := balance.earned
      lastVoucherCumulative := balance.lastVoucherCumulative
      onChainClaimed := u256ToI64Or (claimed.getD 0) i64Max
      requestedAmount := amount }).toOption

variable {site thread world} {after : World Thread} {user : Address} {amount : Option Int}
  {answer : Answer Signature} {faults : IssueFaults Signature} {Result : Type}

omit [DecidableEq Thread] in
theorem read_cases {value reply : Option Result}
    (answered : some (world.read answer value) = some (after, reply)) :
    after = world ∧ reply = if answer.outcome = .ok then value else none := by
  rw [World.read_eq] at answered
  cases answered
  exact ⟨rfl, rfl⟩

theorem lock_keeps {reply : Unit}
    (taken : exec site thread world (.lock user) answer = some (after, reply)) :
    after.balances = world.balances ∧ after.token = world.token := by
  simp only [exec] at taken
  split at taken
  · cases taken
  · cases taken
    exact ⟨rfl, rfl⟩

theorem sign_keeps {voucher : Voucher} {reply : Option Signature}
    (made : exec site thread world (.sign voucher) answer = some (after, reply)) :
    after.balances = world.balances := by
  simp only [exec, World.sign] at made
  split at made
  · cases made
    rfl
  · cases made
    rfl

theorem unlock_balances {result returned : Result} {answers : List (Answer Signature)}
    (done : (send (.unlock user) >>= fun _ => (.done result : Service Signature Result)).attempt
      (exec site thread) world answers = some (after, returned)) :
    after.balances = world.balances ∧ returned = result := by
  cases answers with
  | nil => cases done
  | cons answer rest =>
      obtain ⟨unlocked, _, released, done⟩ := Program.attempt_ask done
      cases released
      cases done
      exact ⟨rfl, rfl⟩

theorem signDecision_balances {balance : BalanceState} {claimed : Nat}
    {decision : VoucherDecision} {before : Balances}
    {result : Except ServiceError (VoucherOut Signature)}
    (done : (signDecision user balance claimed decision >>= fun result =>
        send (.unlock user) >>= fun _ => .done result).attempt (exec site thread) world
      (faults.answers.drop 3) = some (after, result))
    (same : world.balances = before) :
    after.balances = if faults.write = .refused then before
      else before.setLastVoucher user decision.newCumulative := by
  subst same
  obtain ⟨written, reply, answered, signs⟩ := Program.attempt_ask done
  simp only [exec, World.onBalances_eq, Option.some.injEq, Prod.mk.injEq] at answered
  obtain ⟨rfl, _⟩ := answered
  cases reply with
  | none => exact (unlock_balances signs).1
  | some _ =>
      obtain ⟨_, signedAt, clock, signs⟩ := Program.attempt_ask signs
      cases clock
      obtain ⟨_, signature, made, answers⟩ := Program.attempt_ask signs
      have kept := sign_keeps made
      cases signature with
      | none => exact (unlock_balances answers).1.trans kept
      | some sig => exact (unlock_balances answers).1.trans kept

/-- **What `issue` leaves.** A decision is written unless the write is refused. -/
theorem issue_balances {result : Except ServiceError (VoucherOut Signature)}
    (done : issueAlone site thread world user amount faults = some (after, result)) :
    after.balances = match decided world user amount faults with
      | none => world.balances
      | some decision =>
          if faults.write = .refused then world.balances
          else world.balances.setLastVoucher user decision.newCumulative := by
  obtain ⟨locked, _, taken, reads⟩ := Program.attempt_ask done
  have same := lock_keeps taken
  obtain ⟨_, read, readAnswer, readsChain⟩ := Program.attempt_ask reads
  obtain ⟨rfl, readIs⟩ := read_cases readAnswer
  rw [same.1] at readIs
  simp only [decided, ← readIs]
  cases read with
  | none => exact (unlock_balances readsChain).1.trans same.1
  | some balance =>
      obtain ⟨_, claimed, chainAnswer, decides⟩ := Program.attempt_ask readsChain
      obtain ⟨rfl, claimedIs⟩ := read_cases chainAnswer
      rw [same.2] at claimedIs
      simp only [← claimedIs, Option.bind_some]
      cases decision : VoucherInputs.decide {
          earnedCumulative := balance.earned
          lastVoucherCumulative := balance.lastVoucherCumulative
          onChainClaimed := u256ToI64Or (Option.getD claimed 0) i64Max
          requestedAmount := amount } with
      | error error =>
          simp only [Program.bind, decision] at decides
          exact (unlock_balances decides).1.trans same.1
      | ok decision =>
          simp only [Program.bind, decision] at decides
          exact signDecision_balances decides same.1

omit [DecidableEq Thread] in
theorem lastVoucher_lt_decided {decision : VoucherDecision}
    (decides : decided world user amount faults = some decision) :
    world.balances.voucheredBy user < decision.newCumulative := by
  unfold decided at decides
  obtain ⟨balance, read, decides⟩ := Option.bind_eq_some_iff.mp decides
  split at read
  · have voucher := Balances.balanceState_lastVoucher read
    cases outcome : VoucherInputs.decide {
        earnedCumulative := balance.earned
        lastVoucherCumulative := balance.lastVoucherCumulative
        onChainClaimed := u256ToI64Or
          ((if faults.chainRead = .ok then some (world.token.claimed user) else none).getD 0) i64Max
        requestedAmount := amount } with
    | error error =>
        rw [outcome] at decides
        cases decides
    | ok granted =>
        rw [outcome] at decides
        cases decides
        obtain ⟨positive, new, _, _⟩ := VoucherInputs.decide_eq_ok balance.earned_isI64 outcome
        rw [new, Balances.voucheredBy, ← voucher]
        simp only [VoucherInputs.base]
        omega
  · cases read

theorem state_balances {answers : List (Answer Signature)} {result : Except ServiceError StateOut}
    (done : (state user >>= fun result =>
        send (.unlock user) >>= fun _ => .done result).attempt (exec site thread) world
      answers = some (after, result)) : after.balances = world.balances := by
  cases answers with
  | nil => cases done
  | cons finalRead answers =>
      obtain ⟨_, read, readAnswer, readsChain⟩ := Program.attempt_ask done
      obtain ⟨rfl, _⟩ := read_cases readAnswer
      cases read with
      | none => exact (unlock_balances readsChain).1
      | some balance =>
          cases answers with
          | nil => cases readsChain
          | cons chainRead answers =>
              obtain ⟨_, claimed, chainAnswer, answers⟩ := Program.attempt_ask readsChain
              obtain ⟨rfl, _⟩ := read_cases chainAnswer
              exact (unlock_balances answers).1

/-- **What `restore` leaves.** A voucher of the signer is merged unless the script is
refused. -/
theorem restore_balances {signer : Address} {cumulativeAmount : Int} {signedAt : Nat}
    {sig : Signature} {faults : RestoreFaults} {result : Except ServiceError StateOut}
    (done : restoreAlone site thread world signer user cumulativeAmount signedAt sig faults =
      some (after, result)) :
    after.balances =
      if 0 < cumulativeAmount ∧
          site.ecdsa.voucher ⟨user, asU64 cumulativeAmount, signedAt⟩ sig = some signer ∧
          faults.merge ≠ .refused then
        (world.balances.restoreScript site.lua user cumulativeAmount).1
      else world.balances := by
  unfold restoreAlone restore at done
  by_cases positive : cumulativeAmount ≤ 0
  · rw [if_pos positive] at done
    cases done
    rw [if_neg (by omega)]
  · rw [if_neg positive] at done
    obtain ⟨_, recovered, answered, checks⟩ := Program.attempt_ask done
    simp only [exec, Option.some.injEq, Prod.mk.injEq] at answered
    obtain ⟨rfl, recovers⟩ := answered
    rw [recovers]
    cases recovered with
    | none =>
        cases checks
        rw [if_neg (by simp)]
    | some recovered =>
        simp only [Program.bind] at checks
        by_cases foreign : recovered = signer
        · rw [if_neg (not_not_intro foreign)] at checks
          obtain ⟨locked, _, taken, merges⟩ := Program.attempt_ask checks
          have same := (lock_keeps taken).1
          obtain ⟨merged, reply, answered, reads⟩ := Program.attempt_ask merges
          simp only [exec, World.onBalances_eq, Option.some.injEq, Prod.mk.injEq] at answered
          obtain ⟨rfl, _⟩ := answered
          have left : after.balances = if faults.merge = .refused then locked.balances
              else (locked.balances.restoreScript site.lua user cumulativeAmount).1 := by
            cases reply with
            | none => exact (unlock_balances reads).1
            | some _ => exact state_balances reads
          rw [left, same, foreign]
          by_cases refused : faults.merge = .refused
          · rw [if_pos refused, if_neg (by simp [refused])]
          · rw [if_neg refused, if_pos ⟨by omega, rfl, refused⟩]
        · rw [if_pos foreign] at checks
          cases checks
          rw [if_neg (by simp [foreign])]

end Requests

theorem Balances.restoreScript_values (lua : Lua) (balances : Balances) (user : Address)
    (cumulative : Int) :
    (balances.restoreScript lua user cumulative).1.values user = balances.values user ↔
      ¬ balances.MergeChanges lua user cumulative := by
  rw [restoreScript_eq_set, MergeChanges, not_not]
  simp only [Balances.values, set_earnedBy, set_voucheredBy]

/-! ### Failed requests -/

/-- **When a failed request changes nothing.** An `issue` that fails leaves the keys of
its user as they were exactly if it came to no decision or the write was not carried
out; a `restore` that fails, exactly if it was rejected before its merge, the merge was
not carried out, or the merge has nothing to raise. -/
theorem failed_request_changes_nothing_iff [DecidableEq Thread] (site : Site Signature)
    (thread : Thread) (world : World Thread) (user : Address) :
    (∀ (amount : Option Int) (faults : IssueFaults Signature) (after : World Thread)
        (error : ServiceError),
      issueAlone site thread world user amount faults = some (after, .error error) →
        (after.balances.values user = world.balances.values user ↔
          decided world user amount faults = none ∨ faults.write = .refused)) ∧
    ∀ (signer : Address) (cumulativeAmount : Int) (signedAt : Nat) (sig : Signature)
        (faults : RestoreFaults) (after : World Thread) (error : ServiceError),
      restoreAlone site thread world signer user cumulativeAmount signedAt sig faults =
          some (after, .error error) →
        (after.balances.values user = world.balances.values user ↔
          cumulativeAmount ≤ 0 ∨
          site.ecdsa.voucher ⟨user, asU64 cumulativeAmount, signedAt⟩ sig ≠ some signer ∨
          faults.merge = .refused ∨
          ¬ world.balances.MergeChanges site.lua user cumulativeAmount) := by
  constructor
  · intro amount faults after error done
    rw [issue_balances done]
    cases decides : decided world user amount faults with
    | none => simp
    | some decision =>
        have raised := lastVoucher_lt_decided decides
        by_cases refused : faults.write = .refused
        · simp [refused]
        · simp only [refused, if_false, reduceCtorEq, or_false, iff_false]
          intro same
          have last := congrArg Prod.snd same
          simp only [Balances.values, Balances.voucheredBy, Balances.setLastVoucher,
            Function.update_self, Option.getD_some] at last raised
          omega
  · intro signer cumulativeAmount signedAt sig faults after error done
    rw [restore_balances done]
    split
    · rename_i merged
      rw [Balances.restoreScript_values]
      obtain ⟨positive, recovers, carriedOut⟩ := merged
      simp [Int.not_le.mpr positive, recovers, carriedOut]
    · rename_i rejected
      simp only [true_iff]
      by_contra merged
      simp only [not_or, not_not, Int.not_le] at merged
      exact rejected ⟨merged.1, merged.2.1, merged.2.2.1⟩

/-- Signatures name their signer; the enclave's address is 9. -/
def namedSigners : Site Address where
  lua := .unbounded
  ecdsa := ⟨fun _ sig => some sig, fun _ _ => none⟩
  feeSwapper := 3
  app := 4
  pair := 5

def earned500 : World Unit :=
  { World.genesis (Token.deployed 7 9 0) with
    balances := (Balances.empty.addEarned 1 500).1 }

/-- A request for more than there is, and a voucher of a foreign signer. -/
theorem failed_request_changes_nothing_rejected :
    (∃ after, issueAlone namedSigners () earned500 1 (some 1000) ⟨.ok, .ok, .ok, 5, some 9⟩ =
        some (after, .error (.badRequest
          "only 500 available beyond prior vouchers/claims; requested 1000")) ∧
      after.balances.values 1 = earned500.balances.values 1) ∧
    ∃ after, restoreAlone namedSigners () earned500 9 1 750 5 8 ⟨.ok, .ok, .ok⟩ =
        some (after, .error (.badRequest "voucher not signed by this pool's signer")) ∧
      after.balances.values 1 = earned500.balances.values 1 := by
  have unchanged := failed_request_changes_nothing_iff namedSigners () earned500 1
  constructor
  · have rejects := unchanged.1 (some 1000) ⟨.ok, .ok, .ok, 5, some 9⟩ _ _ rfl
    exact ⟨_, rfl, rejects.mpr (Or.inl (by decide))⟩
  · have rejects := unchanged.2 9 750 5 8 ⟨.ok, .ok, .ok⟩ _ _ rfl
    exact ⟨_, rfl, rejects.mpr (Or.inr (Or.inl (by decide)))⟩

/-- Signing fails after the decision is written; the read that answers a `restore` fails
after the merge. -/
theorem failed_request_advances_state :
    (∃ after, issueAlone namedSigners () earned500 1 (some 100) ⟨.ok, .ok, .ok, 5, none⟩ =
        some (after, .error .internal) ∧
      earned500.balances.values 1 = (500, 0) ∧ after.balances.values 1 = (500, 100)) ∧
    ∃ after, restoreAlone namedSigners () earned500 9 1 750 5 9 ⟨.ok, .refused, .ok⟩ =
        some (after, .error .internal) ∧
      earned500.balances.values 1 = (500, 0) ∧ after.balances.values 1 = (750, 750) :=
  ⟨⟨_, rfl, by decide, by decide⟩, ⟨_, rfl, by decide, by decide⟩⟩

end CrFaucet.Issuance
