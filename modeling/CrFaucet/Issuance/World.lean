import CrFaucet.Interaction.Pool
import CrFaucet.Issuance.Balances
import CrFaucet.Redemption.World

/-!
Owns the world the issuing services run against: the balance keys, the L2
contract, the per-user locks of the process and the enclave's signing key, with
one command for each thing a service asks of them.

`signed`, `credited` and `feeCredited` are ghosts: every voucher ever signed,
and all credit and all fees ever added. No command reads them.

Floating-point results and what the other contracts report are the outside's to
decide and are part of its `Answer`.
-/

set_option autoImplicit false

namespace CrFaucet.Issuance

open Redemption (Lua Outcome TreasurySnapshot)
open Token (Address Call Ecdsa Voucher transact)

variable {Signature Thread : Type}

inductive Command (Signature : Type) where
  | lock (user : Address)
  | unlock (user : Address)
  | balanceState (user : Address)
  | setLastVoucher (user : Address) (value : Int)
  | restoreCumulative (user : Address) (cumulative : Int)
  | claimed (user : Address)
  | sign (voucher : Voucher)
  | recover (voucher : Voucher) (sig : Signature)
  | now
  /-- `(rate.get() * difficulty) as i64`. -/
  | credit (difficulty : Nat)
  /-- `(rate.fee_rate() * difficulty) as i64`. -/
  | fee (difficulty : Nat)
  | addEarned (miner : Address) (deltaAtomic : Int)
  | addFeeAccrued (deltaAtomic : Int)
  | feeAccrued
  | treasurySnapshot
  | reservoirBalance
  | quoteRoseOut (mptIn : Nat)
  | gasPrice
  | submitClaim (voucher : Voucher) (sig : Signature)
  | swapFeeToRose (mptIn minOut deadline : Nat)

/-- `none` is an error of the connection, the call or the script. -/
abbrev Reply : Command Signature → Type
  | .lock _ => Unit
  | .unlock _ => Unit
  | .balanceState _ => Option BalanceState
  | .setLastVoucher _ _ => Option Unit
  | .restoreCumulative _ _ => Option (Int × Int)
  | .claimed _ => Option Nat
  | .sign _ => Option Signature
  | .recover _ _ => Option Address
  | .now => Nat
  | .credit _ => Int
  | .fee _ => Int
  | .addEarned _ _ => Option Int
  | .addFeeAccrued _ => Option Int
  | .feeAccrued => Option { n : Int // IsI64 n }
  | .treasurySnapshot => Option (Option TreasurySnapshot)
  | .reservoirBalance => Option Nat
  | .quoteRoseOut _ => Option Nat
  | .gasPrice => Option Nat
  | .submitClaim _ _ => Option Unit
  | .swapFeeToRose _ _ _ => Option Unit

abbrev Service (Signature Result : Type) :=
  Interaction.Program (Command Signature) Reply Result

def send (command : Command Signature) : Service Signature (Reply command) :=
  Interaction.Program.call command

export Interaction.Program (obeys_call)

/-- Everything the outside decides about one command. -/
structure Answer (Signature : Type) where
  outcome : Outcome := .ok
  signature : Option Signature := none
  time : Nat := 0
  credit : Int := 0
  fee : Int := 0
  snapshot : Option TreasurySnapshot := none
  reservoir : Option Nat := none
  quote : Option Nat := none
  gasPrice : Option Nat := none
  /-- The router takes the MPT: it pays at least `minOut`, and before the deadline. -/
  sells : Bool := true
  /-- The body of the answer to a call that reverted has an `error`. -/
  revertTold : Bool := false

/-- A submission that changes the chain: it got there and did not revert. -/
def Answer.Lands (answer : Answer Signature) (attempt : Option Token.State) : Prop :=
  answer.outcome ≠ .refused ∧ attempt.isSome

instance (answer : Answer Signature) (attempt : Option Token.State) :
    Decidable (answer.Lands attempt) :=
  inferInstanceAs (Decidable (_ ∧ _))

/-- What does not change: the arithmetic of the scripts, the signature scheme and
the addresses of the fee swap. -/
structure Site (Signature : Type) where
  lua : Lua
  ecdsa : Ecdsa Signature
  feeSwapper : Address
  /-- The account behind app-origin calls. -/
  app : Address
  /-- The trading pair fee-MPT is sold to. -/
  pair : Address

structure World (Thread : Type) where
  balances : Balances
  token : Token.State
  locks : Address → Option Thread
  signed : List Voucher
  credited : Address → Nat
  feeCredited : Nat

namespace World

/-- Nothing was credited and nothing signed. -/
def genesis (token : Token.State) : World Thread where
  balances := .empty
  token := token
  locks := fun _ => none
  signed := []
  credited := fun _ => 0
  feeCredited := 0

variable (world : World Thread) (answer : Answer Signature)

def onBalances {Result : Type} (command : Balances → Balances × Option Result) :
    World Thread × Option Result :=
  let done := answer.outcome.perform world.balances (command world.balances)
  ({ world with balances := done.1 }, done.2)

def read {Result : Type} (value : Option Result) : World Thread × Option Result :=
  (world, (answer.outcome.perform () ((), value)).2)

variable {world answer} in
theorem read_eq_some {Result : Type} {value : Option Result} {told : Result}
    (succeeded : (world.read answer value).2 = some told) : value = some told := by
  unfold World.read Outcome.perform at succeeded
  cases outcome : answer.outcome with
  | ok => simpa [outcome] using succeeded
  | lost | refused => simp [outcome] at succeeded

variable {world answer} in
theorem of_read {Result : Type} {value reply : Option Result} {after : World Thread}
    (answered : some (world.read answer value) = some (after, reply)) :
    after = world ∧ ∀ told, reply = some told → value = some told := by
  have read := Option.some.inj answered
  refine ⟨(congrArg Prod.fst read).symm, fun told succeeded => ?_⟩
  apply read_eq_some
  rw [read]
  exact succeeded

/-- A transaction. A revert changes nothing and is answered like any other result, so
unless the body names an `error` the sender takes it for a success. -/
def submit (attempt : Option Token.State) : World Thread × Option Unit :=
  let told := if attempt.isNone ∧ answer.revertTold then none else some ()
  let done := answer.outcome.perform world.token (attempt.getD world.token, told)
  ({ world with token := done.1 }, done.2)

/-- `add_earned`, with the ghost total. -/
def addEarned (miner : Address) (deltaAtomic : Int) : World Thread × Option Int :=
  let done := world.onBalances answer (·.addEarned miner deltaAtomic)
  let added := answer.outcome ≠ .refused ∧ (world.balances.addEarned miner deltaAtomic).2.isSome
  ({ done.1 with
    credited := if added then
        Function.update world.credited miner (world.credited miner + deltaAtomic.toNat)
      else world.credited }, done.2)

/-- `add_fee_accrued`, with the ghost total. -/
def addFeeAccrued (deltaAtomic : Int) : World Thread × Option Int :=
  let done := world.onBalances answer (·.addFeeAccrued deltaAtomic)
  let added := answer.outcome ≠ .refused ∧ (world.balances.addFeeAccrued deltaAtomic).2.isSome
  ({ done.1 with
    feeCredited := if added then world.feeCredited + deltaAtomic.toNat
      else world.feeCredited }, done.2)

/-! ### What a command can do, whatever its outcome -/

theorem onBalances_cases {Result : Type} (command : Balances → Balances × Option Result) :
    (world.onBalances answer command).1 = world ∨
      (world.onBalances answer command).1 =
        { world with balances := (command world.balances).1 } := by
  unfold World.onBalances Outcome.perform
  cases answer.outcome with
  | ok | lost => exact Or.inr rfl
  | refused => exact Or.inl rfl

/-- A transaction that lands leaves what it computes; any other leaves everything. -/
theorem submit_cases (attempt : Option Token.State) :
    (¬ answer.Lands attempt ∧ (world.submit answer attempt).1 = world) ∨
      answer.Lands attempt ∧ ∃ after, attempt = some after ∧
        (world.submit answer attempt).1 = { world with token := after } := by
  unfold Answer.Lands World.submit Outcome.perform
  cases attempt with
  | none => cases answer.outcome <;> exact Or.inl ⟨by simp, rfl⟩
  | some after =>
      cases answer.outcome with
      | ok | lost => exact Or.inr ⟨by simp, after, rfl, rfl⟩
      | refused => exact Or.inl ⟨by simp, rfl⟩

theorem lost_of_lands {attempt : Option Token.State} (lands : answer.Lands attempt)
    (unanswered : (world.submit answer attempt).2 = none) : answer.outcome = .lost := by
  obtain ⟨reached, returned⟩ := lands
  unfold World.submit Outcome.perform at unanswered
  cases outcome : answer.outcome with
  | ok =>
      rw [outcome] at unanswered
      simp [Option.isNone_iff_eq_none, Option.ne_none_iff_isSome.2 returned] at unanswered
  | lost => rfl
  | refused => exact absurd outcome reached

theorem not_lost_of_answered {attempt : Option Token.State} {told : Unit}
    (answered : (world.submit answer attempt).2 = some told) : answer.outcome ≠ .lost := by
  intro lost
  unfold World.submit Outcome.perform at answered
  rw [lost] at answered
  cases answered

theorem addEarned_cases (miner : Address) (deltaAtomic : Int) :
    (world.addEarned answer miner deltaAtomic).1 = world ∨
      ∃ total, total = (world.balances.earned miner).getD 0 + deltaAtomic ∧
        (world.addEarned answer miner deltaAtomic).1 = { world with
          balances := { world.balances with
            earned := Function.update world.balances.earned miner (some total) }
          credited := Function.update world.credited miner
            (world.credited miner + deltaAtomic.toNat) } := by
  unfold World.addEarned World.onBalances Outcome.perform
  rcases world.balances.addEarned_cases miner deltaAtomic with same | ⟨total, sum, added⟩
  · cases answer.outcome <;> exact Or.inl (by simp [same])
  · cases answer.outcome with
    | ok | lost => exact Or.inr ⟨total, sum, by simp [added]⟩
    | refused => exact Or.inl (by simp)

theorem addFeeAccrued_cases (deltaAtomic : Int) :
    (world.addFeeAccrued answer deltaAtomic).1 = world ∨
      ∃ total, total = world.balances.feeAccrued.getD 0 + deltaAtomic ∧
        (world.addFeeAccrued answer deltaAtomic).1 = { world with
          balances := { world.balances with feeAccrued := some total }
          feeCredited := world.feeCredited + deltaAtomic.toNat } := by
  unfold World.addFeeAccrued World.onBalances Outcome.perform
  rcases world.balances.addFeeAccrued_cases deltaAtomic with same | ⟨total, sum, added⟩
  · cases answer.outcome <;> exact Or.inl (by simp [same])
  · cases answer.outcome with
    | ok | lost => exact Or.inr ⟨total, sum, by simp [added]⟩
    | refused => exact Or.inl (by simp)

/-! ### Signing and swapping -/

/-- A signature the enclave makes is known from then on. -/
def sign (voucher : Voucher) : World Thread × Option Signature :=
  match answer.signature with
  | none => (world, none)
  | some sig => ({ world with signed := voucher :: world.signed }, some sig)

/-- `swapFeeToRose`: the router takes the MPT from the contract, or reverts. -/
def swapFeeToRose (site : Site Signature) (mptIn : Nat) : Option Token.State :=
  if 0 < mptIn ∧ answer.sells then
    (world.token.erc20.transfer site.feeSwapper site.pair mptIn).map fun erc20 =>
      { world.token with erc20 := erc20 }
  else none

variable {world answer} in
/-- A sale is a transfer to the pair. -/
theorem swapFeeToRose_eq {site : Site Signature} {mptIn : Nat} {after : Token.State}
    (sold : world.swapFeeToRose answer site mptIn = some after) :
    ∃ erc20, world.token.erc20.transfer site.feeSwapper site.pair mptIn = some erc20 ∧
      after = { world.token with erc20 := erc20 } := by
  unfold World.swapFeeToRose at sold
  split at sold
  · obtain ⟨erc20, moved, rfl⟩ := Option.map_eq_some_iff.mp sold
    exact ⟨erc20, moved, rfl⟩
  · cases sold

end World

/-- One command of `thread`. A lock that is taken makes it wait. -/
def exec [DecidableEq Thread] (site : Site Signature) (thread : Thread) (world : World Thread) :
    (command : Command Signature) → Answer Signature → Option (World Thread × Reply command)
  | .lock user, _ =>
      match world.locks user with
      | some _ => none
      | none => some ({ world with locks := Function.update world.locks user (some thread) }, ())
  | .unlock user, _ =>
      let released := if world.locks user = some thread then none else world.locks user
      some ({ world with locks := Function.update world.locks user released }, ())
  | .balanceState user, answer => some (world.read answer (world.balances.balanceState user))
  | .setLastVoucher user value, answer =>
      some (world.onBalances answer fun balances =>
        (balances.setLastVoucher user value, some ()))
  | .restoreCumulative user cumulative, answer =>
      some (world.onBalances answer (·.restoreScript site.lua user cumulative))
  | .claimed user, answer => some (world.read answer (some (world.token.claimed user)))
  | .sign voucher, answer => some (world.sign answer voucher)
  | .recover voucher sig, _ => some (world, site.ecdsa.voucher voucher sig)
  | .now, answer => some (world, answer.time)
  | .credit _, answer => some (world, answer.credit)
  | .fee _, answer => some (world, answer.fee)
  | .addEarned miner deltaAtomic, answer => some (world.addEarned answer miner deltaAtomic)
  | .addFeeAccrued deltaAtomic, answer => some (world.addFeeAccrued answer deltaAtomic)
  | .feeAccrued, answer =>
      some (world.read answer (Balances.decodeI64 world.balances.feeAccrued))
  | .treasurySnapshot, answer => some (world.read answer (some answer.snapshot))
  | .reservoirBalance, answer => some (world, answer.reservoir)
  | .quoteRoseOut _, answer => some (world, answer.quote)
  | .gasPrice, answer => some (world, answer.gasPrice)
  | .submitClaim voucher sig, answer =>
      some (world.submit answer (transact site.ecdsa world.token site.app
        (.claim voucher.user voucher.cumulativeAmount voucher.signedAt sig)))
  | .swapFeeToRose mptIn _ _, answer =>
      some (world.submit answer (world.swapFeeToRose answer site mptIn))

/-- A thread that goes away drops its guards. -/
def abandon [DecidableEq Thread] (thread : Thread) (world : World Thread) : World Thread :=
  { world with locks := fun user =>
      if world.locks user = some thread then none else world.locks user }

inductive Event (Signature : Type) where
  | evictEarned (miner : Address)
  | evictLastVoucher (miner : Address)
  | wipe
  /-- Anyone calls the contract. -/
  | l2 (sender : Address) (call : Call Signature)

def World.occur (ecdsa : Ecdsa Signature) (world : World Thread) :
    Event Signature → World Thread
  | .evictEarned miner => { world with balances := world.balances.evictEarned miner }
  | .evictLastVoucher miner => { world with balances := world.balances.evictLastVoucher miner }
  | .wipe => { world with balances := .empty }
  | .l2 sender call =>
      { world with token := (transact ecdsa world.token sender call).getD world.token }

end CrFaucet.Issuance
