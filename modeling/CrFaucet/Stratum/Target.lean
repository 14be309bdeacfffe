import CrFaucet.Hex
import CrFaucet.Stratum.Vardiff

/-!
Owns difficulties and targets: `diff_to_target_hex` and `target_hex_to_diff` of
`pool_core::stratum`, and `meets_difficulty` of `randomx_verify`.

A target is the largest value that still counts, a difficulty divides the largest
value there is. Targets on the wire have 32 bits here; a hash is compared with 64.
-/

set_option autoImplicit false

namespace CrFaucet.Stratum

open Hex

def u32Max : Nat := 2 ^ 32 - 1

def target32 (difficulty : Nat) : Nat :=
  if difficulty = 0 then u32Max
  else
    let t := u32Max / difficulty
    if u32Max < t then u32Max else t

def diffToTargetHex (difficulty : Nat) : String := encode (toLe 4 (target32 difficulty))

def diffOfTarget (target : Nat) : Nat :=
  if target = 0 then u64Max else u32Max / Nat.max target 1

def targetHexToDiff (targetHex : String) : Except FromHexError Nat := do
  let bytes ← decode targetHex
  match bytes.length with
  | 4 => return diffOfTarget (ofLe bytes)
  | 8 => return diffOfTarget (ofLe bytes)
  | _ => throw .invalidStringLength

/-- 32 bytes. -/
structure ResultHash where
  bytes : List UInt8
  length : bytes.length = 32
deriving DecidableEq

/-- The last eight bytes, the most significant ones. -/
def ResultHash.leading (hash : ResultHash) : Nat := ofLe (hash.bytes.drop 24)

def meetsDifficulty (hash : ResultHash) (difficulty : Nat) : Bool :=
  if difficulty = 0 then true
  else hash.leading == 0 || hash.leading ≤ u64Max / difficulty

/-! ### Hashes -/

theorem ResultHash.leading_le (hash : ResultHash) : hash.leading ≤ u64Max := by
  have small := ofLe_lt (hash.bytes.drop 24)
  rw [List.length_drop, hash.length] at small
  exact Nat.le_sub_one_of_lt small

def ResultHash.ofLeading (leading : Nat) : ResultHash where
  bytes := List.replicate 24 0 ++ toLe 8 leading
  length := by simp

theorem ResultHash.leading_ofLeading {leading : Nat} (fits : leading ≤ u64Max) :
    (ofLeading leading).leading = leading := by
  have prefixed : (List.replicate 24 (0 : UInt8)).length = 24 := List.length_replicate
  unfold ResultHash.leading ofLeading
  rw [List.drop_left' prefixed]
  exact ofLe_toLe (Nat.lt_of_le_sub_one (by decide) fits)

theorem meetsDifficulty_iff {hash : ResultHash} {difficulty : Nat} (positive : 0 < difficulty) :
    meetsDifficulty hash difficulty = true ↔ hash.leading ≤ u64Max / difficulty := by
  rw [meetsDifficulty, if_neg (Nat.ne_of_gt positive), Bool.or_eq_true, beq_iff_eq,
    decide_eq_true_eq]
  constructor
  · rintro (zero | below)
    · rw [zero]
      exact Nat.zero_le _
    · exact below
  · exact Or.inr

/-- **Meeting a difficulty is meeting every lower one.** -/
theorem meetsDifficulty_mono {hash : ResultHash} {lower higher : Nat} (order : lower ≤ higher)
    (meets : meetsDifficulty hash higher = true) : meetsDifficulty hash lower = true := by
  by_cases zero : lower = 0
  · rw [meetsDifficulty, if_pos zero]
  · have positive : 0 < lower := Nat.pos_of_ne_zero zero
    have quotients : u64Max / higher ≤ u64Max / lower := Nat.div_le_div_left order positive
    rw [meetsDifficulty_iff (Nat.lt_of_lt_of_le positive order)] at meets
    rw [meetsDifficulty_iff positive]
    exact Nat.le_trans meets quotients

/-! ### Targets on the wire -/

theorem target32_le (difficulty : Nat) : target32 difficulty ≤ u32Max := by
  unfold target32
  dsimp only
  split
  · exact Nat.le_refl _
  · split
    · exact Nat.le_refl _
    · omega

/-- The saturation to `u32::MAX` never happens. -/
theorem target32_eq {difficulty : Nat} (positive : 0 < difficulty) :
    target32 difficulty = u32Max / difficulty := by
  have quotient := Nat.div_le_self u32Max difficulty
  unfold target32
  rw [if_neg (Nat.ne_of_gt positive)]
  dsimp only
  rw [if_neg (Nat.not_lt.2 quotient)]

theorem target32_fits (difficulty : Nat) : target32 difficulty < 256 ^ 4 :=
  Nat.lt_of_le_sub_one (by decide) (target32_le difficulty)

theorem diffToTargetHex_eq_iff {first second : Nat} :
    diffToTargetHex first = diffToTargetHex second ↔ target32 first = target32 second := by
  constructor
  · intro same
    exact toLe_injective (target32_fits first) (target32_fits second) (encode_injective same)
  · intro same
    rw [diffToTargetHex, diffToTargetHex, same]

theorem targetHexToDiff_encode {width target : Nat} (widths : width = 4 ∨ width = 8)
    (fits : target < 256 ^ width) :
    targetHexToDiff (encode (toLe width target)) = .ok (diffOfTarget target) := by
  unfold targetHexToDiff
  simp only [decode_encode, bind, Except.bind, length_toLe, ofLe_toLe fits]
  rcases widths with rfl | rfl <;> rfl

/-! ### There and back -/

section Quotients

variable {top divisor : Nat}

/-- A quotient of a quotient is the largest divisor with the same quotient. -/
theorem le_div_div (positive : 0 < top / divisor) : divisor ≤ top / (top / divisor) :=
  (Nat.le_div_iff_mul_le positive).2 (Nat.mul_div_le top divisor)

theorem div_div_div (positive : 0 < divisor) (quotient : 0 < top / divisor) :
    top / (top / (top / divisor)) = top / divisor := by
  have back := le_div_div quotient
  apply Nat.le_antisymm
  · exact Nat.div_le_div_left back positive
  · exact (Nat.le_div_iff_mul_le (Nat.lt_of_lt_of_le positive back)).2 (Nat.mul_div_le top _)

end Quotients

theorem diffOfTarget_eq {target : Nat} (positive : 0 < target) :
    diffOfTarget target = u32Max / target := by
  have atLeastOne : Nat.max target 1 = target := Nat.max_eq_left positive
  rw [diffOfTarget, if_neg (Nat.ne_of_gt positive), atLeastOne]

theorem diffOfTarget_le (target : Nat) : diffOfTarget target ≤ u64Max := by
  unfold diffOfTarget
  split
  · exact Nat.le_refl _
  · exact Nat.le_trans (Nat.div_le_self _ _) (by decide)

theorem le_diffOfTarget_target32 {difficulty : Nat} (fits : difficulty ≤ u64Max) :
    difficulty ≤ diffOfTarget (target32 difficulty) := by
  by_cases target : target32 difficulty = 0
  · rw [diffOfTarget, if_pos target]
    exact fits
  · have positiveTarget : 0 < target32 difficulty := Nat.pos_of_ne_zero target
    by_cases zero : difficulty = 0
    · rw [zero]
      exact Nat.zero_le _
    · have positive : 0 < difficulty := Nat.pos_of_ne_zero zero
      rw [diffOfTarget_eq positiveTarget]
      rw [target32_eq positive] at positiveTarget ⊢
      exact le_div_div positiveTarget

theorem target32_diffOfTarget_target32 (difficulty : Nat) :
    target32 (diffOfTarget (target32 difficulty)) = target32 difficulty := by
  by_cases target : target32 difficulty = 0
  · rw [target]
    decide
  · have positiveTarget : 0 < target32 difficulty := Nat.pos_of_ne_zero target
    by_cases zero : difficulty = 0
    · subst zero
      decide
    · have positive : 0 < difficulty := Nat.pos_of_ne_zero zero
      rw [diffOfTarget_eq positiveTarget]
      rw [target32_eq positive] at positiveTarget ⊢
      have back := Nat.lt_of_lt_of_le positive (le_div_div positiveTarget)
      rw [target32_eq back, div_div_div positive positiveTarget]

end CrFaucet.Stratum
