import CrFaucet.Issuance.Decide
import CrFaucet.Redemption.Store

/-!
Owns the balance keys of `pool_core::store`: `bal:earned:<addr>`,
`bal:last_voucher:<addr>` and `fee:accrued`, the commands on them and the script
of `restore_cumulative`.

The per-miner keys have a time to live and may be evicted one by one; a wipe
takes all three families.

A key is the number its text stands for. The texts are plain integers as long as a
restore works on amounts below `10 ^ 17`; a larger one it writes with an exponent,
and that such a text is no `i64` to the services is not followed up here.
-/

set_option autoImplicit false

namespace CrFaucet.Issuance

open Redemption (Lua incrBy)
open Token (Address)

structure Balances where
  earned : Address → Option Int
  lastVoucher : Address → Option Int
  feeAccrued : Option Int

/-- Both per-miner keys, read as `i64`. -/
structure BalanceState where
  earned : Int
  lastVoucherCumulative : Int
  earned_isI64 : IsI64 earned
  lastVoucherCumulative_isI64 : IsI64 lastVoucherCumulative

namespace Balances

def empty : Balances where
  earned := fun _ => none
  lastVoucher := fun _ => none
  feeAccrued := none

variable (balances : Balances)

/-- `INCRBY bal:earned:<miner>`. -/
def addEarned (miner : Address) (deltaAtomic : Int) : Balances × Option Int :=
  match incrBy (balances.earned miner) deltaAtomic with
  | none => (balances, none)
  | some total =>
      ({ balances with earned := Function.update balances.earned miner (some total) }, some total)

/-- `INCRBY fee:accrued`. -/
def addFeeAccrued (deltaAtomic : Int) : Balances × Option Int :=
  match incrBy balances.feeAccrued deltaAtomic with
  | none => (balances, none)
  | some total => ({ balances with feeAccrued := some total }, some total)

/-- A key's value, if it is an `i64`; an absent key is 0. -/
def decodeI64 (key : Option Int) : Option { n : Int // IsI64 n } :=
  let value := key.getD 0
  if fits : IsI64 value then some ⟨value, fits⟩ else none

def balanceState (miner : Address) : Option BalanceState := do
  let earned ← decodeI64 (balances.earned miner)
  let last ← decodeI64 (balances.lastVoucher miner)
  some ⟨earned.1, last.1, earned.2, last.2⟩

/-- What the miner earned; an absent key is 0. -/
def earnedBy (miner : Address) : Int := (balances.earned miner).getD 0

def voucheredBy (miner : Address) : Int := (balances.lastVoucher miner).getD 0

def setLastVoucher (miner : Address) (value : Int) : Balances :=
  { balances with lastVoucher := Function.update balances.lastVoucher miner (some value) }

def set (miner : Address) (earned last : Int) : Balances :=
  { balances with
    earned := Function.update balances.earned miner (some earned)
    lastVoucher := Function.update balances.lastVoucher miner (some last) }

/-- The script of `restore_cumulative`. -/
def restoreScript (lua : Lua) (miner : Address) (cumulative : Int) :
    Balances × Option (Int × Int) :=
  let v := lua.value cumulative
  let e := lua.value ((balances.earned miner).getD 0)
  let e := if e < v then v else e
  let lv := lua.value ((balances.lastVoucher miner).getD 0)
  let lv := if lv < v then v else lv
  ({ balances with
      earned := Function.update balances.earned miner (some e)
      lastVoucher := Function.update balances.lastVoucher miner (some lv) }, some (e, lv))

/-- The memory limit or the time to live takes `bal:earned:<miner>`. -/
def evictEarned (miner : Address) : Balances :=
  { balances with earned := Function.update balances.earned miner none }

def evictLastVoucher (miner : Address) : Balances :=
  { balances with lastVoucher := Function.update balances.lastVoucher miner none }

section Set

variable {miner other : Address} (earned last earned' last' : Int)

@[simp] theorem set_earnedBy : (balances.set miner earned last).earnedBy miner = earned := by
  simp [earnedBy, set]

@[simp] theorem set_voucheredBy : (balances.set miner earned last).voucheredBy miner = last := by
  simp [voucheredBy, set]

theorem set_earnedBy_of_ne (different : other ≠ miner) :
    (balances.set miner earned last).earnedBy other = balances.earnedBy other := by
  simp [earnedBy, set, Function.update_of_ne different]

theorem set_voucheredBy_of_ne (different : other ≠ miner) :
    (balances.set miner earned last).voucheredBy other = balances.voucheredBy other := by
  simp [voucheredBy, set, Function.update_of_ne different]

@[simp] theorem set_set :
    (balances.set miner earned last).set miner earned' last' =
      balances.set miner earned' last' := by
  simp [set]

theorem set_comm (different : other ≠ miner) :
    (balances.set miner earned last).set other earned' last' =
      (balances.set other earned' last').set miner earned last := by
  simp only [set, Function.update_comm different]

end Set

/-! ### What the commands leave in `bal:earned` -/

variable {balances}

theorem decodeI64_eq_some {key : Option Int} {value : { n : Int // IsI64 n }}
    (read : decodeI64 key = some value) : value.1 = key.getD 0 := by
  simp only [decodeI64, Option.dite_none_right_eq_some, Option.some.injEq] at read
  obtain ⟨_, rfl⟩ := read
  rfl

theorem balanceState_earned {miner : Address} {state : BalanceState}
    (read : balances.balanceState miner = some state) :
    state.earned = (balances.earned miner).getD 0 := by
  simp only [balanceState, Option.bind_eq_bind, Option.bind_eq_some_iff,
    Option.some.injEq] at read
  obtain ⟨earned, decoded, last, _, rfl⟩ := read
  exact decodeI64_eq_some decoded

theorem balanceState_lastVoucher {miner : Address} {state : BalanceState}
    (read : balances.balanceState miner = some state) :
    state.lastVoucherCumulative = (balances.lastVoucher miner).getD 0 := by
  simp only [balanceState, Option.bind_eq_bind, Option.bind_eq_some_iff,
    Option.some.injEq] at read
  obtain ⟨earned, _, last, decoded, rfl⟩ := read
  exact decodeI64_eq_some decoded

theorem incrBy_eq_some {current : Option Int} {delta total : Int}
    (added : incrBy current delta = some total) : total = current.getD 0 + delta := by
  unfold incrBy at added
  simp only at added
  split at added
  · exact (Option.some.inj added).symm
  · cases added

theorem addEarned_cases (balances : Balances) (miner : Address) (deltaAtomic : Int) :
    balances.addEarned miner deltaAtomic = (balances, none) ∨
      ∃ total, total = (balances.earned miner).getD 0 + deltaAtomic ∧
        balances.addEarned miner deltaAtomic =
          ({ balances with earned := Function.update balances.earned miner (some total) },
            some total) := by
  unfold addEarned
  cases added : incrBy (balances.earned miner) deltaAtomic with
  | none => exact Or.inl rfl
  | some total => exact Or.inr ⟨total, incrBy_eq_some added, rfl⟩

theorem addFeeAccrued_cases (balances : Balances) (deltaAtomic : Int) :
    balances.addFeeAccrued deltaAtomic = (balances, none) ∨
      ∃ total, total = balances.feeAccrued.getD 0 + deltaAtomic ∧
        balances.addFeeAccrued deltaAtomic =
          ({ balances with feeAccrued := some total }, some total) := by
  unfold addFeeAccrued
  cases added : incrBy balances.feeAccrued deltaAtomic with
  | none => exact Or.inl rfl
  | some total => exact Or.inr ⟨total, incrBy_eq_some added, rfl⟩

theorem restoreScript_eq_set (lua : Lua) (miner : Address) (cumulative : Int) :
    balances.restoreScript lua miner cumulative =
      (balances.set miner (max (lua.value (balances.earnedBy miner)) (lua.value cumulative))
          (max (lua.value (balances.voucheredBy miner)) (lua.value cumulative)),
        some (max (lua.value (balances.earnedBy miner)) (lua.value cumulative),
          max (lua.value (balances.voucheredBy miner)) (lua.value cumulative))) := by
  have larger : ∀ a b : Int, (if a < b then b else a) = max a b := by
    intro a b
    split <;> omega
  simp only [restoreScript, larger]
  rfl

theorem restoreScript_eq (lua : Lua) {miner : Address} {cumulative : Int}
    (small : cumulative.natAbs ≤ 2 ^ 53)
    (earned : ((balances.earned miner).getD 0).natAbs ≤ 2 ^ 53)
    (last : ((balances.lastVoucher miner).getD 0).natAbs ≤ 2 ^ 53) :
    balances.restoreScript lua miner cumulative =
      ({ balances with
        earned := Function.update balances.earned miner
          (some (max ((balances.earned miner).getD 0) cumulative))
        lastVoucher := Function.update balances.lastVoucher miner
          (some (max ((balances.lastVoucher miner).getD 0) cumulative)) },
        some (max ((balances.earned miner).getD 0) cumulative,
          max ((balances.lastVoucher miner).getD 0) cumulative)) := by
  rw [restoreScript_eq_set, earnedBy, voucheredBy, lua.value_exact _ small,
    lua.value_exact _ earned, lua.value_exact _ last]
  rfl

end Balances

end CrFaucet.Issuance
