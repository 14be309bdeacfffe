import CrFaucet.Issuance.Balances
import CrFaucet.Rounding

/-!
Owns `restore_cumulative` over the whole range of its amounts: the script computes
with Lua numbers, which are doubles, on keys that hold 64-bit integers.

Redis passes a Lua number on with 17 digits, so a key is left as an integer that an
`i64` read accepts only below `10 ^ 17`; from there on its text has an exponent.
-/

set_option autoImplicit false

namespace CrFaucet.Issuance

open Redemption (Lua)
open Rounding
open Token (Address)

/-- Lua numbers have 53 significant bits; `tonumber` rounds to nearest. A number is
written by `%.17g`. -/
def luaDoubles : Lua where
  value := roundInt 53
  plain := fun n => n.natAbs < 10 ^ 17
  value_exact := fun _ small => roundInt_of_natAbs_le small (by decide)
  plain_of_lt := fun _ small => decide_eq_true small

namespace Balances

/-! ### The script, with doubles -/

variable (balances : Balances) (miner : Address) (cumulative : Int)

/-- **What the script leaves**: the maxima, rounded to 53 bits. -/
theorem restoreScript_luaDoubles :
    balances.restoreScript luaDoubles miner cumulative =
      (balances.set miner (roundInt 53 (max (balances.earnedBy miner) cumulative))
          (roundInt 53 (max (balances.voucheredBy miner) cumulative)),
        some (roundInt 53 (max (balances.earnedBy miner) cumulative),
          roundInt 53 (max (balances.voucheredBy miner) cumulative))) := by
  rw [roundInt_max (by decide), roundInt_max (by decide)]
  exact restoreScript_eq_set luaDoubles miner cumulative

/-- The keys after `restore_cumulative`. -/
def restored : Balances := (balances.restoreScript luaDoubles miner cumulative).1

theorem roundInt_max_roundInt (a b : Int) :
    roundInt 53 (max (roundInt 53 a) b) = roundInt 53 (max a b) := by
  rw [roundInt_max (by decide), roundInt_max (by decide), roundInt_roundInt (by decide)]

theorem restoreScript_restored :
    (balances.restored miner cumulative).restoreScript luaDoubles miner cumulative =
      balances.restoreScript luaDoubles miner cumulative := by
  unfold restored
  rw [restoreScript_luaDoubles balances]
  rw [restoreScript_luaDoubles]
  simp only [set_earnedBy, set_voucheredBy, set_set, roundInt_max_roundInt]
  simp only [max_assoc, max_self]

/-- Restores of one miner commute, because both orders merge the same three numbers. -/
theorem restored_comm_same (other : Int) :
    (balances.restored miner cumulative).restored miner other =
      (balances.restored miner other).restored miner cumulative := by
  simp only [restored, restoreScript_luaDoubles, set_earnedBy, set_voucheredBy, set_set,
    roundInt_max_roundInt, max_right_comm _ cumulative other]

theorem restored_comm (user : Address) (other : Int) :
    (balances.restored miner cumulative).restored user other =
      (balances.restored user other).restored miner cumulative := by
  by_cases same : user = miner
  · subst same
    exact restored_comm_same balances user cumulative other
  · have swapped : miner ≠ user := Ne.symm same
    simp only [restored, restoreScript_luaDoubles, set_earnedBy_of_ne _ _ _ same,
      set_voucheredBy_of_ne _ _ _ same, set_earnedBy_of_ne _ _ _ swapped,
      set_voucheredBy_of_ne _ _ _ swapped]
    exact set_comm _ _ _ _ _ same

/-- What the comment on `restore_cumulative` promises: a monotonic max-merge, of keys
that are integers to their readers. -/
structure MaxMerge : Prop where
  earned : (balances.restored miner cumulative).earned miner =
    some (max (balances.earnedBy miner) cumulative)
  lastVoucher : (balances.restored miner cumulative).lastVoucher miner =
    some (max (balances.voucheredBy miner) cumulative)
  reply : (balances.restoreScript luaDoubles miner cumulative).2 =
    some (max (balances.earnedBy miner) cumulative, max (balances.voucheredBy miner) cumulative)
  readable :
    luaDoubles.plain ((balances.restored miner cumulative).earnedBy miner) = true ∧
      luaDoubles.plain ((balances.restored miner cumulative).voucheredBy miner) = true
  neverLowers :
    balances.earnedBy miner ≤ (balances.restored miner cumulative).earnedBy miner ∧
      balances.voucheredBy miner ≤ (balances.restored miner cumulative).voucheredBy miner
  idempotent :
    (balances.restored miner cumulative).restoreScript luaDoubles miner cumulative =
      balances.restoreScript luaDoubles miner cumulative
  commutes : ∀ user other,
    (balances.restored miner cumulative).restored user other =
      (balances.restored user other).restored miner cumulative

end Balances

/-- **When a restore is an exact max-merge**: exactly when both maxima have at most 53
significant bits and at most 17 digits. Replays and commutations are never the reason it
is not. -/
theorem restore_max_merge_iff (balances : Balances) (miner : Address) (cumulative : Int) :
    balances.MaxMerge miner cumulative ↔
      (HasBits 53 (max (balances.earnedBy miner) cumulative).natAbs ∧
          HasBits 53 (max (balances.voucheredBy miner) cumulative).natAbs) ∧
        (max (balances.earnedBy miner) cumulative).natAbs < 10 ^ 17 ∧
          (max (balances.voucheredBy miner) cumulative).natAbs < 10 ^ 17 := by
  have leaves := balances.restoreScript_luaDoubles miner cumulative
  rw [← roundInt_eq_self_iff (by decide), ← roundInt_eq_self_iff (by decide)]
  constructor
  · intro merge
    have reply := merge.reply
    have readable := merge.readable
    rw [leaves] at reply
    have kept := Prod.mk.inj (Option.some.inj reply)
    rw [Balances.earnedBy, Balances.voucheredBy, merge.earned, merge.lastVoucher] at readable
    exact ⟨kept, of_decide_eq_true readable.1, of_decide_eq_true readable.2⟩
  · rintro ⟨⟨earned, last⟩, earnedShort, lastShort⟩
    rw [earned, last] at leaves
    constructor
    case earned => simp [Balances.restored, leaves, Balances.set]
    case lastVoucher => simp [Balances.restored, leaves, Balances.set]
    case reply => rw [leaves]
    case readable =>
      rw [Balances.restored, leaves, Balances.set_earnedBy, Balances.set_voucheredBy]
      exact ⟨luaDoubles.plain_of_lt _ earnedShort, luaDoubles.plain_of_lt _ lastShort⟩
    case neverLowers => simp [Balances.restored, leaves]
    case idempotent => exact balances.restoreScript_restored miner cumulative
    case commutes => exact balances.restored_comm miner cumulative

/-- A miner earned `2 ^ 53 + 1`; a voucher for 1 takes a unit away. -/
theorem restore_lowers_earned :
    ∃ balances : Balances, balances.earned 1 = some (2 ^ 53 + 1) ∧
      balances.lastVoucher 1 = some 1 ∧
      (balances.restored 1 1).earned 1 = some (2 ^ 53) ∧
      (balances.restoreScript luaDoubles 1 1).2 = some (2 ^ 53, 1) :=
  ⟨Balances.empty.set 1 (2 ^ 53 + 1) 1, by decide +kernel⟩

end CrFaucet.Issuance
