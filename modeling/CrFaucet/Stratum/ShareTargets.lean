import CrFaucet.Stratum.Share
import CrFaucet.Stratum.Upstream

/-!
Owns what becomes of a target that crosses the wire: the one sent to a miner, which has
four bytes, and the one an upstream job brings, which may have eight.

Both are read with the same formula, whose numerator is the largest value of 32 bits.
-/

set_option autoImplicit false

namespace CrFaucet.Stratum

open Hex
open SerdeJson (Value)

/-! ### The target sent to a miner -/

theorem le_diffOfTarget_of_same {difficulty other : Nat} (fits : other ≤ u64Max)
    (same : diffToTargetHex other = diffToTargetHex difficulty) :
    other ≤ diffOfTarget (target32 difficulty) := by
  have largest := le_diffOfTarget_target32 fits
  rw [diffToTargetHex_eq_iff.1 same] at largest
  exact largest

theorem judgeHash_ne_belowDifficulty {job : UpstreamJob} {difficulty : Nat} {hash : ResultHash}
    (meets : meetsDifficulty hash difficulty = true) :
    judgeHash job difficulty hash ≠ .belowDifficulty := by
  rw [judgeHash, if_pos meets]
  intro below
  cases below

/-- **The advertised target is faithful.** What a miner reads from it is the largest
difficulty with that target, so a share that meets it is not below the difficulty the
target was made from. -/
theorem advertised_target_faithful (difficulty : Nat) (fits : difficulty ≤ u64Max) :
    ∃ read, targetHexToDiff (diffToTargetHex difficulty) = .ok read ∧
      difficulty ≤ read ∧ read ≤ u64Max ∧
      diffToTargetHex read = diffToTargetHex difficulty ∧
      (∀ other, other ≤ u64Max → diffToTargetHex other = diffToTargetHex difficulty →
        other ≤ read) ∧
      ∀ hash, meetsDifficulty hash read = true →
        meetsDifficulty hash difficulty = true ∧
          ∀ job, judgeHash job difficulty hash ≠ .belowDifficulty := by
  refine ⟨diffOfTarget (target32 difficulty), ?_, ?_, ?_, ?_, ?_, ?_⟩
  · exact targetHexToDiff_encode (.inl rfl) (target32_fits difficulty)
  · exact le_diffOfTarget_target32 fits
  · exact diffOfTarget_le _
  · exact diffToTargetHex_eq_iff.2 (target32_diffOfTarget_target32 difficulty)
  · intro other otherFits same
    exact le_diffOfTarget_of_same otherFits same
  · intro hash meetsRead
    have meets := meetsDifficulty_mono (le_diffOfTarget_target32 fits) meetsRead
    exact ⟨meets, fun job => judgeHash_ne_belowDifficulty meets⟩

/-- 3000000 is read back as 3001374, the largest difficulty with the target 1431. -/
theorem advertised_target_three_million :
    3000000 ≤ u64Max ∧ target32 3000000 = 1431 ∧
      targetHexToDiff (diffToTargetHex 3000000) = .ok 3001374 ∧
      ∀ other, other ≤ u64Max → diffToTargetHex other = diffToTargetHex 3000000 →
        other ≤ 3001374 := by
  have fits : 3000000 ≤ u64Max := by decide
  have concrete : targetHexToDiff (diffToTargetHex 3000000) = .ok 3001374 := by rfl
  obtain ⟨read, isRead, _, _, _, largest, _⟩ := advertised_target_faithful 3000000 fits
  have same : read = 3001374 := Except.ok.inj (isRead.symm.trans concrete)
  subst same
  exact ⟨fits, by decide, concrete, largest⟩

/-! ### The target of an upstream job -/

/-- The job forwards exactly the accepted shares whose hash is within the target. -/
def ForwardsExactly (job : UpstreamJob) (target : Nat) : Prop :=
  ∀ sessionDifficulty hash forwarded,
    judgeHash job sessionDifficulty hash = .accepted forwarded →
      (forwarded = true ↔ hash.leading ≤ target)

/-- At session difficulty 0 every hash is accepted. -/
theorem forwardsExactly_iff (job : UpstreamJob) (target : Nat) :
    ForwardsExactly job target ↔
      ∀ hash, meetsDifficulty hash job.upstreamDiff = true ↔ hash.leading ≤ target := by
  constructor
  · intro exactly hash
    exact exactly 0 hash _ rfl
  · intro exactly sessionDifficulty hash forwarded accepted
    unfold judgeHash at accepted
    split at accepted
    · cases accepted
      exact exactly hash
    · cases accepted

theorem parseJob_upstreamDiff {params : Value} {job : UpstreamJob} {targetHex : String}
    {difficulty : Nat} (parsed : parseJob params = some job)
    (target : (params.get "target").bind Value.asStr = some targetHex)
    (isRead : targetHexToDiff targetHex = .ok difficulty) : job.upstreamDiff = difficulty := by
  unfold parseJob at parsed
  simp only [Option.bind_eq_bind, Option.bind_eq_some_iff, Option.pure_def,
    Option.some.injEq] at parsed
  obtain ⟨_, _, _, _, found, isTarget, rfl⟩ := parsed
  have same : found = targetHex := Option.some.inj
    ((Option.bind_eq_some_iff.2 isTarget).symm.trans target)
  subst same
  simp only [isRead]
  rfl

theorem target_lt_of_diffOfTarget_pos {target : Nat} (positive : 0 < target)
    (readPositive : 0 < diffOfTarget target) : target < u64Max / diffOfTarget target := by
  have product : diffOfTarget target * target ≤ u32Max := by
    rw [diffOfTarget_eq positive]
    exact Nat.div_mul_le_self u32Max target
  have readSmall : diffOfTarget target ≤ u32Max :=
    Nat.le_trans (Nat.le_mul_of_pos_right _ positive) product
  have room : (target + 1) * diffOfTarget target ≤ u64Max := by
    calc (target + 1) * diffOfTarget target
        = diffOfTarget target * target + diffOfTarget target := by
          rw [Nat.add_mul, Nat.one_mul, Nat.mul_comm]
      _ ≤ u32Max + u32Max := Nat.add_le_add product readSmall
      _ ≤ u64Max := by decide
  exact (Nat.le_div_iff_mul_le readPositive).2 room

/-- Unless the target is the largest, some hash above it counts as meeting the difficulty
read from it. -/
theorem exists_hash_above {target : Nat} (positive : 0 < target) (small : target < u64Max) :
    ∃ hash : ResultHash, target < hash.leading ∧
      meetsDifficulty hash (diffOfTarget target) = true := by
  have leading := ResultHash.leading_ofLeading (Nat.succ_le_of_lt small)
  refine ⟨.ofLeading (target + 1), ?_, ?_⟩
  · rw [leading]
    exact Nat.lt_succ_self target
  · by_cases zero : diffOfTarget target = 0
    · rw [meetsDifficulty, if_pos zero]
    · have readPositive := Nat.pos_of_ne_zero zero
      rw [meetsDifficulty_iff readPositive, leading]
      exact target_lt_of_diffOfTarget_pos positive readPositive

theorem div_eq_u64Max_iff {difficulty : Nat} (positive : 0 < difficulty) :
    u64Max / difficulty = u64Max ↔ difficulty = 1 := by
  constructor
  · intro whole
    have product : u64Max * difficulty ≤ u64Max := by
      have le := Nat.div_mul_le_self u64Max difficulty
      rwa [whole] at le
    have atMostOne : difficulty ≤ 1 :=
      Nat.le_of_mul_le_mul_left (by rwa [Nat.mul_one]) (by decide : 0 < u64Max)
    exact Nat.le_antisymm atMostOne positive
  · rintro rfl
    exact Nat.div_one _

/-- **Eight-byte targets are misread.** A job whose target is the 64-bit one of a
difficulty gets a difficulty with another 64-bit target, whatever the difficulty is; and
it forwards exactly the shares within its target for difficulty 1 alone. -/
theorem eight_byte_target_misread (difficulty : Nat) (positive : 1 ≤ difficulty)
    (fits : difficulty ≤ u64Max) (params : Value) (job : UpstreamJob)
    (target : (params.get "target").bind Value.asStr =
      some (encode (toLe 8 (u64Max / difficulty))))
    (parsed : parseJob params = some job) :
    targetHexToDiff (encode (toLe 8 (u64Max / difficulty))) = .ok job.upstreamDiff ∧
      u64Max / job.upstreamDiff ≠ u64Max / difficulty ∧
      (ForwardsExactly job (u64Max / difficulty) ↔ difficulty = 1) := by
  have targetPositive : 0 < u64Max / difficulty := Nat.div_pos fits positive
  have targetFits : u64Max / difficulty < 256 ^ 8 :=
    Nat.lt_of_le_sub_one (by decide) (Nat.div_le_self u64Max difficulty)
  have isRead := targetHexToDiff_encode (.inr rfl) targetFits
  have upstreamDiff := parseJob_upstreamDiff parsed target isRead
  refine ⟨?_, ?_, ?_⟩
  · rw [upstreamDiff]
    exact isRead
  · rw [upstreamDiff]
    by_cases zero : diffOfTarget (u64Max / difficulty) = 0
    · rw [zero, Nat.div_zero]
      exact Nat.ne_of_lt targetPositive
    · have above := target_lt_of_diffOfTarget_pos targetPositive (Nat.pos_of_ne_zero zero)
      exact Nat.ne_of_gt above
  · rw [forwardsExactly_iff, upstreamDiff, ← div_eq_u64Max_iff positive]
    constructor
    · intro exactly
      by_contra notWhole
      have small : u64Max / difficulty < u64Max :=
        Nat.lt_of_le_of_ne (Nat.div_le_self u64Max difficulty) notWhole
      obtain ⟨hash, above, meets⟩ := exists_hash_above targetPositive small
      exact absurd ((exactly hash).1 meets) (Nat.not_le.2 above)
    · intro whole hash
      have zero : diffOfTarget (u64Max / difficulty) = 0 := by
        rw [whole]
        decide
      have always : meetsDifficulty hash 0 = true := if_pos rfl
      rw [zero, whole]
      exact ⟨fun _ => hash.leading_le, fun _ => always⟩

/-- The parameters of a job with the 64-bit target of a difficulty. -/
def eightByteJob (difficulty : Nat) : Value :=
  .object [("job_id", .string "J"), ("blob", .string ""),
    ("target", .string (encode (toLe 8 (u64Max / difficulty))))]

def eightByteJobParsed (difficulty : Nat) : UpstreamJob where
  jobId := "J"
  blobHex := ""
  seedHex := ""
  upstreamTargetHex := encode (toLe 8 (u64Max / difficulty))
  upstreamDiff := 0
  height := none

theorem eight_byte_target_misread_one :
    parseJob (eightByteJob 1) = some (eightByteJobParsed 1) ∧
      ForwardsExactly (eightByteJobParsed 1) (u64Max / 1) := by
  have parsed : parseJob (eightByteJob 1) = some (eightByteJobParsed 1) := by rfl
  have misread := eight_byte_target_misread 1 (by decide) (by decide) (eightByteJob 1)
    (eightByteJobParsed 1) rfl parsed
  exact ⟨parsed, misread.2.2.2 rfl⟩

/-- The target of difficulty 1000 is read as difficulty 0, and the largest hash there is
is forwarded. -/
theorem eight_byte_target_forwards_any :
    parseJob (eightByteJob 1000) = some (eightByteJobParsed 1000) ∧
      targetHexToDiff (encode (toLe 8 (u64Max / 1000))) = .ok 0 ∧
      judgeHash (eightByteJobParsed 1000) 1 (.ofLeading u64Max) = .accepted true ∧
      ¬ (ResultHash.ofLeading u64Max).leading ≤ u64Max / 1000 := by
  refine ⟨by rfl, by rfl, by decide +kernel, by decide +kernel⟩

end CrFaucet.Stratum
