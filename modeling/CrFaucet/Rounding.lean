import Mathlib.Algebra.GroupWithZero.Nat
import Mathlib.Algebra.Ring.Int.Defs
import Mathlib.Data.Int.Order.Basic

/-!
Owns rounding of integers to a number of significant bits, to nearest with ties to
even: what a binary floating-point format without a range limit does to an integer.

The result that carries the others is `roundTo_eq_self_iff`: an integer is kept
exactly if its significant bits fit.

Does not own fractions, exponents that run out, or how a number is written as text.
-/

set_option autoImplicit false

namespace CrFaucet.Rounding

/-! ### To a multiple of a unit -/

/-- The multiple of `unit` nearest to `n`; of two equally near the even one. -/
def nearest (unit n : Nat) : Nat :=
  if 2 * (n % unit) < unit ∨ (2 * (n % unit) = unit ∧ n / unit % 2 = 0) then n / unit * unit
  else (n / unit + 1) * unit

variable {unit n m : Nat}

theorem nearest_cases (unit n : Nat) :
    nearest unit n = n / unit * unit ∨ nearest unit n = (n / unit + 1) * unit := by
  unfold nearest
  split
  · exact Or.inl rfl
  · exact Or.inr rfl

theorem nearest_of_dvd (divides : unit ∣ n) : nearest unit n = n := by
  have whole := Nat.div_mul_cancel divides
  have rest := Nat.mod_eq_zero_of_dvd divides
  unfold nearest
  rw [rest]
  cases unit with
  | zero => simpa using whole
  | succ below => simpa using whole

theorem nearest_mono (positive : 0 < unit) (below : n ≤ m) : nearest unit n ≤ nearest unit m := by
  have quotients : n / unit ≤ m / unit := Nat.div_le_div_right below
  rcases Nat.lt_or_eq_of_le quotients with smaller | same
  · -- Another multiple lies between them.
    calc
      nearest unit n ≤ (n / unit + 1) * unit := by
        rcases nearest_cases unit n with down | up
        · rw [down]
          exact Nat.mul_le_mul_right unit (Nat.le_succ _)
        · exact Nat.le_of_eq up
      _ ≤ m / unit * unit := Nat.mul_le_mul_right unit smaller
      _ ≤ nearest unit m := by
        rcases nearest_cases unit m with down | up
        · exact Nat.le_of_eq down.symm
        · rw [up]
          exact Nat.mul_le_mul_right unit (Nat.le_succ _)
  · have left := Nat.div_add_mod n unit
    have right := Nat.div_add_mod m unit
    rw [same] at left
    unfold nearest
    rw [same, Nat.succ_mul (m / unit)]
    split <;> split <;> omega

/-! ### To a number of significant bits -/

/-- `n` is a number of at most `bits` bits followed by zeros. -/
def HasBits (bits n : Nat) : Prop :=
  ∃ mantissa exponent, mantissa < 2 ^ bits ∧ n = mantissa * 2 ^ exponent

/-- The weight of the last of `bits` significant bits of `n`. -/
def lastPlace (bits n : Nat) : Nat := 2 ^ (n.log2 + 1 - bits)

def roundTo (bits n : Nat) : Nat := nearest (lastPlace bits n) n

variable {bits : Nat}

theorem lastPlace_pos (bits n : Nat) : 0 < lastPlace bits n := Nat.two_pow_pos _

theorem div_lastPlace_lt (bits n : Nat) : n / lastPlace bits n < 2 ^ bits := by
  rw [lastPlace, Nat.div_lt_iff_lt_mul (Nat.two_pow_pos _), ← Nat.pow_add]
  calc
    n < 2 ^ (n.log2 + 1) := Nat.lt_log2_self
    _ ≤ 2 ^ (bits + (n.log2 + 1 - bits)) := Nat.pow_le_pow_right (by decide) (by omega)

theorem lastPlace_dvd_of_hasBits (fits : HasBits bits n) : lastPlace bits n ∣ n := by
  obtain ⟨mantissa, exponent, small, rfl⟩ := fits
  by_cases zero : mantissa * 2 ^ exponent = 0
  · rw [zero]
    exact Nat.dvd_zero _
  · have below : mantissa * 2 ^ exponent < 2 ^ (bits + exponent) := by
      rw [Nat.pow_add]
      exact Nat.mul_lt_mul_of_pos_right small (Nat.two_pow_pos _)
    have length := (Nat.log2_lt zero).mpr below
    have zeros : lastPlace bits (mantissa * 2 ^ exponent) ∣ 2 ^ exponent :=
      Nat.pow_dvd_pow 2 (by omega)
    exact Nat.dvd_trans zeros (Nat.dvd_mul_left _ _)

theorem hasBits_roundTo (positive : 0 < bits) (n : Nat) : HasBits bits (roundTo bits n) := by
  have small := div_lastPlace_lt bits n
  rcases nearest_cases (lastPlace bits n) n with down | up
  · exact ⟨_, _, small, down⟩
  · rcases Nat.lt_or_eq_of_le (Nat.succ_le_of_lt small) with fits | carry
    · exact ⟨_, _, fits, up⟩
    · -- All bits were ones: the carry leaves a power of two.
      refine ⟨1, bits + (n.log2 + 1 - bits), Nat.one_lt_two_pow (by omega), ?_⟩
      rw [roundTo, up, Nat.one_mul, Nat.pow_add, ← carry]
      rfl

/-- **What is kept exactly.** -/
theorem roundTo_eq_self_iff (positive : 0 < bits) : roundTo bits n = n ↔ HasBits bits n := by
  constructor
  · intro same
    rw [← same]
    exact hasBits_roundTo positive n
  · intro fits
    exact nearest_of_dvd (lastPlace_dvd_of_hasBits fits)

theorem roundTo_mono (positive : 0 < bits) (below : n ≤ m) : roundTo bits n ≤ roundTo bits m := by
  by_cases sameLength : n.log2 = m.log2
  · have place : lastPlace bits n = lastPlace bits m := by
      rw [lastPlace, sameLength]
      rfl
    unfold roundTo
    rw [place]
    exact nearest_mono (lastPlace_pos bits m) below
  · -- The power of two at which `m` starts is a multiple of both last places.
    by_cases zero : n = 0
    · subst zero
      have none : roundTo bits 0 = 0 := nearest_of_dvd (Nat.dvd_zero _)
      rw [none]
      exact Nat.zero_le _
    · have nonzero : m ≠ 0 := by omega
      have longer : n.log2 < m.log2 := by
        have most : n.log2 ≤ m.log2 :=
          (Nat.le_log2 nonzero).mpr (Nat.le_trans (Nat.log2_self_le zero) below)
        omega
      have ofShorter : lastPlace bits n ∣ 2 ^ m.log2 := Nat.pow_dvd_pow 2 (by omega)
      have ofLonger : lastPlace bits m ∣ 2 ^ m.log2 := Nat.pow_dvd_pow 2 (by omega)
      have start : n ≤ 2 ^ m.log2 := Nat.le_of_lt ((Nat.log2_lt zero).mp longer)
      calc
        roundTo bits n ≤ nearest (lastPlace bits n) (2 ^ m.log2) :=
          nearest_mono (lastPlace_pos bits n) start
        _ = 2 ^ m.log2 := nearest_of_dvd ofShorter
        _ = nearest (lastPlace bits m) (2 ^ m.log2) := (nearest_of_dvd ofLonger).symm
        _ ≤ roundTo bits m := nearest_mono (lastPlace_pos bits m) (Nat.log2_self_le nonzero)

/-! ### With a sign -/

/-- Sign and magnitude are kept apart, so that rounding is symmetric. -/
def roundInt (bits : Nat) (n : Int) : Int :=
  if n < 0 then -(roundTo bits n.natAbs : Int) else roundTo bits n.natAbs

variable {a b : Int}

theorem natAbs_roundInt (bits : Nat) (n : Int) :
    (roundInt bits n).natAbs = roundTo bits n.natAbs := by
  unfold roundInt
  split <;> simp

theorem roundInt_eq_self_iff (positive : 0 < bits) :
    roundInt bits a = a ↔ HasBits bits a.natAbs := by
  rw [← roundTo_eq_self_iff positive]
  unfold roundInt
  split <;> omega

theorem roundInt_roundInt (positive : 0 < bits) (a : Int) :
    roundInt bits (roundInt bits a) = roundInt bits a := by
  rw [roundInt_eq_self_iff positive, natAbs_roundInt]
  exact hasBits_roundTo positive _

theorem roundInt_mono (positive : 0 < bits) (below : a ≤ b) :
    roundInt bits a ≤ roundInt bits b := by
  unfold roundInt
  split
  · split
    · have magnitudes := roundTo_mono positive (show b.natAbs ≤ a.natAbs by omega)
      omega
    · omega
  · split
    · omega
    · have magnitudes := roundTo_mono positive (show a.natAbs ≤ b.natAbs by omega)
      omega

/-- Rounding does not care whether a maximum is taken before or after it. -/
theorem roundInt_max (positive : 0 < bits) (a b : Int) :
    roundInt bits (max a b) = max (roundInt bits a) (roundInt bits b) := by
  rcases Int.le_total a b with below | above
  · rw [Int.max_eq_right below, Int.max_eq_right (roundInt_mono positive below)]
  · rw [Int.max_eq_left above, Int.max_eq_left (roundInt_mono positive above)]

theorem roundInt_of_natAbs_le (small : a.natAbs ≤ 2 ^ bits) (positive : 0 < bits) :
    roundInt bits a = a := by
  rw [roundInt_eq_self_iff positive]
  rcases Nat.lt_or_eq_of_le small with fits | power
  · exact ⟨a.natAbs, 0, fits, by simp⟩
  · exact ⟨1, bits, Nat.one_lt_two_pow (by omega), by simp [power]⟩

example : roundInt 53 (2 ^ 53 + 1) = 2 ^ 53 ∧ roundInt 53 (2 ^ 53 + 3) = 2 ^ 53 + 4 := by
  decide +kernel

end CrFaucet.Rounding
