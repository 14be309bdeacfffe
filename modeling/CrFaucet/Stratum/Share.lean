import CrFaucet.Stratum.Blob
import CrFaucet.Stratum.Session
import CrFaucet.Stratum.Target

/-!
Owns `stratum_proxy::share`: the check of a share by its RandomX hash, and the check of
the result its miner claims, which is used for miners that are trusted.

Both end in the same judgement of a hash. They differ in where the hash comes from, and
in what they look at before.

Does not own RandomX, which is a parameter, nor when each check is used; see
`Stratum.Session`, whose two checks are these (`shareChecks`).
-/

set_option autoImplicit false

namespace CrFaucet.Stratum

open Hex

inductive VerifyError where
  | belowDifficulty
  | randomX (message : String)
deriving DecidableEq

def VerifyError.text : VerifyError → String
  | .belowDifficulty => "hash below target difficulty"
  | .randomX message => "randomx error: " ++ message

abbrev SeedHash := ResultHash

structure Verifier where
  hash : SeedHash → List UInt8 → Except VerifyError ResultHash

structure VerifyInput where
  job : UpstreamJob
  sessionDifficulty : Nat
  nonceHex : String
  claimedResultHex : String

/-- `[0u8; 32]`. -/
def ResultHash.zero : ResultHash := ⟨List.replicate 32 0, rfl⟩

def ResultHash.ofBytes? (bytes : List UInt8) : Option ResultHash :=
  if length : bytes.length = 32 then some ⟨bytes, length⟩ else none

def judgeHash (job : UpstreamJob) (sessionDifficulty : Nat) (hash : ResultHash) : ShareOutcome :=
  if meetsDifficulty hash sessionDifficulty then
    .accepted (meetsDifficulty hash job.upstreamDiff)
  else .belowDifficulty

def acceptClaimedResult (input : VerifyInput) : Except String (ShareOutcome × ResultHash) :=
  match (decode input.claimedResultHex).toOption.bind ResultHash.ofBytes? with
  | some hash => .ok (judgeHash input.job input.sessionDifficulty hash, hash)
  | none => .ok (.badBlob, .zero)

/-- A seed that is not hex or not 32 bytes counts as zeros. -/
def UpstreamJob.seed (job : UpstreamJob) : SeedHash :=
  ((decode job.seedHex).toOption.bind ResultHash.ofBytes?).getD .zero

def verifyShare (verifier : Verifier) (input : VerifyInput) :
    Except String (ShareOutcome × ResultHash) := do
  match decode input.nonceHex with
  | .error _ => throw "bad nonce hex"
  | .ok nonce =>
      if nonce.length ≠ nonceLen then return (.badBlob, .zero)
      else
        match assembleBlobWithNonce input.job.blobHex input.nonceHex with
        | .error _ => return (.badBlob, .zero)
        | .ok blob =>
            -- The claimed result is not looked at.
            match verifier.hash input.job.seed blob with
            | .error error => throw ("randomx: " ++ error.text)
            | .ok hash => return (judgeHash input.job input.sessionDifficulty hash, hash)

def shareChecks (verifier : Verifier) : ShareChecks where
  verifyShare job difficulty nonce result :=
    (verifyShare verifier ⟨job, difficulty, nonce, result⟩).toOption.map Prod.fst
  acceptClaimedResult job difficulty nonce result :=
    (acceptClaimedResult ⟨job, difficulty, nonce, result⟩).toOption.map Prod.fst

/-! ### What the checks look at -/

/-- The nonce is hex for four bytes, and the blob hex with room for it. -/
def WellFormed (job : UpstreamJob) (nonceHex : String) : Prop :=
  ∃ nonce blob, decode nonceHex = .ok nonce ∧ nonce.length = nonceLen ∧
    decode job.blobHex = .ok blob ∧ nonceOffset + nonceLen ≤ blob.length

/-- The hash the verifier computes for the job's blob with the nonce. -/
def Computes (verifier : Verifier) (job : UpstreamJob) (nonceHex : String) (hash : ResultHash) :
    Prop :=
  ∃ blob, assembleBlobWithNonce job.blobHex nonceHex = .ok blob ∧
    verifier.hash job.seed blob = .ok hash

variable {verifier : Verifier} {input : VerifyInput}

theorem ResultHash.ofBytes?_eq_some {bytes : List UInt8} {hash : ResultHash} :
    ofBytes? bytes = some hash ↔ bytes = hash.bytes := by
  unfold ofBytes?
  constructor
  · intro isHash
    split at isHash
    · cases isHash
      rfl
    · cases isHash
  · rintro rfl
    rw [dif_pos hash.length]

theorem wellFormed_of_assembles {job : UpstreamJob} {nonceHex : String} {blob : List UInt8}
    (assembles : assembleBlobWithNonce job.blobHex nonceHex = .ok blob) :
    WellFormed job nonceHex := by
  cases blobIsHex : decode job.blobHex with
  | error _ =>
      rw [assembleBlobWithNonce, decodeOrBadHex, blobIsHex] at assembles
      cases assembles
  | ok decodedBlob =>
      cases nonceIsHex : decode nonceHex with
      | error _ =>
          rw [assembleBlobWithNonce, decodeOrBadHex, decodeOrBadHex, blobIsHex, nonceIsHex]
            at assembles
          cases assembles
      | ok nonce =>
          rw [assemble_eq blobIsHex nonceIsHex] at assembles
          by_cases short : decodedBlob.length < nonceOffset + nonceLen
          · rw [if_pos short] at assembles
            cases assembles
          · rw [if_neg short] at assembles
            by_cases four : nonce.length = nonceLen
            · exact ⟨nonce, decodedBlob, nonceIsHex, four, blobIsHex, Nat.not_lt.1 short⟩
            · rw [if_pos four] at assembles
              cases assembles

theorem WellFormed.assembles {job : UpstreamJob} {nonceHex : String}
    (wellFormed : WellFormed job nonceHex) :
    ∃ nonce blob, decode nonceHex = .ok nonce ∧ nonce.length = nonceLen ∧
      assembleBlobWithNonce job.blobHex nonceHex = .ok blob := by
  obtain ⟨nonce, blob, nonceIsHex, four, blobIsHex, long⟩ := wellFormed
  refine ⟨nonce, copyInto blob nonceOffset nonce, nonceIsHex, four, ?_⟩
  rw [assemble_eq blobIsHex nonceIsHex, if_neg (Nat.not_lt.2 long), if_neg (not_not_intro four)]

/-- **What `verify_share` answers** to a well-formed submission. -/
theorem verifyShare_of_wellFormed {nonce blob : List UInt8}
    (nonceIsHex : decode input.nonceHex = .ok nonce) (four : nonce.length = nonceLen)
    (assembles : assembleBlobWithNonce input.job.blobHex input.nonceHex = .ok blob) :
    verifyShare verifier input =
      match verifier.hash input.job.seed blob with
      | .error error => .error ("randomx: " ++ error.text)
      | .ok hash => .ok (judgeHash input.job input.sessionDifficulty hash, hash) := by
  unfold verifyShare
  rw [nonceIsHex, assembles]
  dsimp only
  rw [if_neg (not_not_intro four)]
  rfl

theorem verifyShare_of_computes {hash : ResultHash}
    (computes : Computes verifier input.job input.nonceHex hash) :
    verifyShare verifier input =
      .ok (judgeHash input.job input.sessionDifficulty hash, hash) := by
  obtain ⟨blob, assembles, hashes⟩ := computes
  obtain ⟨nonce, _, nonceIsHex, four, _⟩ := (wellFormed_of_assembles assembles).assembles
  rw [verifyShare_of_wellFormed nonceIsHex four assembles, hashes]

theorem computes_of_accepted {forwarded : Bool} {hash : ResultHash}
    (accepted : verifyShare verifier input = .ok (.accepted forwarded, hash)) :
    Computes verifier input.job input.nonceHex hash ∧
      judgeHash input.job input.sessionDifficulty hash = .accepted forwarded := by
  unfold verifyShare at accepted
  split at accepted
  · cases accepted
  · split at accepted
    · cases accepted
    · split at accepted
      · cases accepted
      · rename_i blob assembles
        split at accepted
        · cases accepted
        · rename_i computed hashes
          have same := Except.ok.inj accepted
          rw [Prod.mk.injEq] at same
          obtain ⟨judged, rfl⟩ := same
          exact ⟨⟨blob, assembles, hashes⟩, judged⟩

theorem acceptClaimedResult_of_decodes {hash : ResultHash}
    (claims : decode input.claimedResultHex = .ok hash.bytes) :
    acceptClaimedResult input =
      .ok (judgeHash input.job input.sessionDifficulty hash, hash) := by
  have isHash : (decode input.claimedResultHex).toOption.bind ResultHash.ofBytes? = some hash := by
    rw [claims]
    exact ResultHash.ofBytes?_eq_some.2 rfl
  rw [acceptClaimedResult, isHash]

/-! ### The two checks against each other -/

/-- `verify_share` turns the submission away before it hashes anything. -/
def RejectsStructurally (verifier : Verifier) (input : VerifyInput) : Prop :=
  verifyShare verifier input = .error "bad nonce hex" ∨
    verifyShare verifier input = .ok (.badBlob, .zero)

theorem judgeHash_ne_badBlob (job : UpstreamJob) (sessionDifficulty : Nat) (hash : ResultHash) :
    judgeHash job sessionDifficulty hash ≠ .badBlob := by
  unfold judgeHash
  split <;> nofun

theorem randomx_ne_bad_nonce (text : String) : "randomx: " ++ text ≠ "bad nonce hex" := by
  intro same
  have texts := congrArg String.toList same
  rw [String.toList_append] at texts
  have firsts : 'r' :: ("andomx: ".toList ++ text.toList) = 'b' :: "ad nonce hex".toList := texts
  exact absurd (List.cons.inj firsts).1 (by decide)

/-- It does so exactly to submissions that are not well-formed. -/
theorem rejectsStructurally_iff :
    RejectsStructurally verifier input ↔ ¬ WellFormed input.job input.nonceHex := by
  constructor
  · intro rejects wellFormed
    obtain ⟨nonce, blob, nonceIsHex, four, assembles⟩ := wellFormed.assembles
    unfold RejectsStructurally at rejects
    rw [verifyShare_of_wellFormed nonceIsHex four assembles] at rejects
    cases hashes : verifier.hash input.job.seed blob with
    | error error =>
        rw [hashes] at rejects
        rcases rejects with text | badBlob
        · exact randomx_ne_bad_nonce error.text (Except.error.inj text)
        · cases badBlob
    | ok hash =>
        rw [hashes] at rejects
        rcases rejects with text | badBlob
        · cases text
        · have same := congrArg Prod.fst (Except.ok.inj badBlob)
          exact judgeHash_ne_badBlob _ _ _ same
  · intro malformed
    unfold RejectsStructurally verifyShare
    split
    · exact Or.inl rfl
    · split
      · exact Or.inr rfl
      · split
        · exact Or.inr rfl
        · rename_i assembles
          exact absurd (wellFormed_of_assembles assembles) malformed

/-- The unverified check accepts nothing malformed, and agrees with the verified one on
an honest claim. -/
structure ChecksAgree (verifier : Verifier) (input : VerifyInput) : Prop where
  malformed : RejectsStructurally verifier input →
    ∀ forwarded hash, acceptClaimedResult input ≠ .ok (.accepted forwarded, hash)
  honest : ∀ hash, Computes verifier input.job input.nonceHex hash →
    decode input.claimedResultHex = .ok hash.bytes →
      acceptClaimedResult input = verifyShare verifier input

/-- The claim is 32 bytes of hex and meets the difficulty of the session. -/
def ClaimMeets (input : VerifyInput) : Prop :=
  ∃ hash : ResultHash, decode input.claimedResultHex = .ok hash.bytes ∧
    meetsDifficulty hash input.sessionDifficulty = true

/-- The unverified check looks at the claim alone. -/
theorem accepts_iff_claimMeets :
    (∃ forwarded hash, acceptClaimedResult input = .ok (.accepted forwarded, hash)) ↔
      ClaimMeets input := by
  constructor
  · rintro ⟨forwarded, hash, accepted⟩
    unfold acceptClaimedResult at accepted
    split at accepted
    · rename_i claimed isHash
      obtain ⟨bytes, decoded, is32⟩ := Option.bind_eq_some_iff.1 isHash
      refine ⟨claimed, ?_, ?_⟩
      · rw [← ResultHash.ofBytes?_eq_some.1 is32]
        cases claims : decode input.claimedResultHex with
        | error _ =>
            rw [claims] at decoded
            cases decoded
        | ok found =>
            rw [claims] at decoded
            cases decoded
            rfl
      · have judged := congrArg Prod.fst (Except.ok.inj accepted)
        unfold judgeHash at judged
        by_contra below
        rw [if_neg below] at judged
        cases judged
    · cases accepted
  · rintro ⟨hash, claims, meets⟩
    refine ⟨meetsDifficulty hash input.job.upstreamDiff, hash, ?_⟩
    rw [acceptClaimedResult_of_decodes claims, judgeHash, if_pos meets]

/-- **When the two checks agree**: exactly if the submission is well-formed or its claim
would not do anyway. -/
theorem checks_agree_iff (verifier : Verifier) (input : VerifyInput) :
    ChecksAgree verifier input ↔
      WellFormed input.job input.nonceHex ∨ ¬ ClaimMeets input := by
  have honest : ∀ hash, Computes verifier input.job input.nonceHex hash →
      decode input.claimedResultHex = .ok hash.bytes →
        acceptClaimedResult input = verifyShare verifier input := by
    intro hash computes claims
    rw [acceptClaimedResult_of_decodes claims, verifyShare_of_computes computes]
  constructor
  · intro agree
    by_cases wellFormed : WellFormed input.job input.nonceHex
    · exact Or.inl wellFormed
    · refine Or.inr fun claimMeets => ?_
      obtain ⟨forwarded, hash, accepted⟩ := accepts_iff_claimMeets.2 claimMeets
      exact agree.malformed (rejectsStructurally_iff.2 wellFormed) forwarded hash accepted
  · intro condition
    refine ⟨?_, honest⟩
    intro rejects forwarded hash accepted
    rcases condition with wellFormed | unmet
    · exact rejectsStructurally_iff.1 rejects wellFormed
    · exact unmet (accepts_iff_claimMeets.1 ⟨forwarded, hash, accepted⟩)

/-- `StubVerifier`: the blob folded into 32 bytes. -/
def stubVerifier : Verifier where
  hash _ blob := .ok {
    bytes := (List.range 32).map fun index =>
      ((List.range blob.length).filter (· % 32 = index)).foldl
        (fun folded position => folded ^^^ blob.getD position 0) 0
    length := by rw [List.length_map, List.length_range] }

/-- A job without a blob, a nonce that is no hex, and zeros for a result. -/
def impossibleShare : VerifyInput where
  job := {
    jobId := "J"
    blobHex := ""
    seedHex := ""
    upstreamTargetHex := "ffffffff"
    upstreamDiff := 1
    height := none }
  sessionDifficulty := 10000
  nonceHex := "zzzzzzzz"
  claimedResultHex := encode (List.replicate 32 0)

theorem impossible_share_accepted :
    RejectsStructurally stubVerifier impossibleShare ∧
      acceptClaimedResult impossibleShare = .ok (.accepted true, .zero) :=
  ⟨Or.inl (by decide +kernel), by decide +kernel⟩

end CrFaucet.Stratum
