import CrFaucet.Stratum.Advertised
import CrFaucet.Stratum.Share

/-!
Owns what a session hands to the upstream client after it has verified a share.

`verify_share` returns the hash it computed, and the session drops it: what is forwarded
is the result the miner claimed.
-/

set_option autoImplicit false

namespace CrFaucet.Stratum

open Hex
open Token (Address)

/-- Everything forwarded carries the hash the verifier computes, in hex. -/
def ForwardsRealHash (verifier : Verifier) (job : UpstreamJob) (effects : List Effect) : Prop :=
  ∀ jobId nonce result, .submitUpstream jobId nonce result ∈ effects →
    ∃ hash, Computes verifier job nonce hash ∧ decode result = .ok hash.bytes

/-- The hash of the share, if it is one that is forwarded, is the one claimed. -/
def ClaimsRealHash (verifier : Verifier) (job : UpstreamJob) (difficulty : Nat)
    (params : SubmitParams) : Prop :=
  ∀ hash, Computes verifier job params.nonce hash → meetsDifficulty hash difficulty = true →
    meetsDifficulty hash job.upstreamDiff = true → decode params.result = .ok hash.bytes

theorem Computes.unique {verifier : Verifier} {job : UpstreamJob} {nonceHex : String}
    {first second : ResultHash} (firstComputed : Computes verifier job nonceHex first)
    (secondComputed : Computes verifier job nonceHex second) : first = second := by
  obtain ⟨blob, assembles, hashes⟩ := firstComputed
  obtain ⟨otherBlob, otherAssembles, otherHashes⟩ := secondComputed
  have sameBlob : blob = otherBlob := Except.ok.inj (assembles.symm.trans otherAssembles)
  subst sameBlob
  exact Except.ok.inj (hashes.symm.trans otherHashes)

theorem judgeHash_forwarded_iff {job : UpstreamJob} {difficulty : Nat} {hash : ResultHash} :
    judgeHash job difficulty hash = .accepted true ↔
      meetsDifficulty hash difficulty = true ∧ meetsDifficulty hash job.upstreamDiff = true := by
  unfold judgeHash
  cases meetsDifficulty hash difficulty with
  | true => simp
  | false => simp

/-- The check of the session accepts for forwarding exactly the shares whose hash meets
both difficulties. -/
theorem verifyShare_forwarded_iff {verifier : Verifier} {job : UpstreamJob} {difficulty : Nat}
    {nonce result : String} :
    (shareChecks verifier).verifyShare job difficulty nonce result = some (.accepted true) ↔
      ∃ hash, Computes verifier job nonce hash ∧ meetsDifficulty hash difficulty = true ∧
        meetsDifficulty hash job.upstreamDiff = true := by
  constructor
  · intro accepted
    obtain ⟨⟨outcome, hash⟩, isOk, rfl⟩ := Option.map_eq_some_iff.1 accepted
    have answered : verifyShare verifier ⟨job, difficulty, nonce, result⟩ =
        .ok (.accepted true, hash) := by
      cases answer : verifyShare verifier ⟨job, difficulty, nonce, result⟩ with
      | error _ =>
          rw [answer] at isOk
          cases isOk
      | ok _ =>
          rw [answer] at isOk
          cases isOk
          rfl
    obtain ⟨computes, judged⟩ := computes_of_accepted answered
    exact ⟨hash, computes, judgeHash_forwarded_iff.1 judged⟩
  · rintro ⟨hash, computes, meetsBoth⟩
    have answer := verifyShare_of_computes
      (show Computes verifier (VerifyInput.mk job difficulty nonce result).job _ hash
        from computes)
    change (verifyShare verifier ⟨job, difficulty, nonce, result⟩).toOption.map Prod.fst = _
    rw [answer, judgeHash_forwarded_iff.2 meetsBoth]
    rfl

namespace Session

variable {now : Nat} {session : Session} {store : JobStore} {address : Address}
  {params : SubmitParams} {didVerify : Bool} {outcome : ShareOutcome}

theorem mem_settle_forwarded {jobId nonce result : String} :
    .submitUpstream jobId nonce result ∈
        (session.settle now store address params didVerify outcome).effects ↔
      outcome = .accepted true ∧ jobId = params.jobId ∧ nonce = params.nonce ∧
        result = params.result := by
  cases outcome with
  | accepted forwarded =>
      cases forwarded with
      | true | false => simp [settle]
  | belowDifficulty | invalidHash | unknownJob | badBlob => simp [settle]

/-- **What a verified submit forwards**: the miner's own words, exactly if the hash meets
both difficulties. -/
theorem mem_handleSubmit_forwarded {config : StratumConfig} {verifier : Verifier} {draw : Bool}
    {job : UpstreamJob} {jobId nonce result : String} (loggedIn : session.miner = some address)
    (recorded : (store.recordSubmission config.shareGrace now params.jobId params.nonce).2 =
      .accepted job)
    (verifies : shouldVerify config session.verifiedCount draw = true) :
    .submitUpstream jobId nonce result ∈ (session.handleSubmit config (shareChecks verifier) now
        store draw (some params)).effects ↔
      (∃ hash, Computes verifier job params.nonce hash ∧
        meetsDifficulty hash (session.checkDiff params.jobId) = true ∧
        meetsDifficulty hash job.upstreamDiff = true) ∧
      jobId = params.jobId ∧ nonce = params.nonce ∧ result = params.result := by
  have handled : session.handleSubmit config (shareChecks verifier) now store draw (some params) =
      session.judge config (shareChecks verifier) now
        (store.recordSubmission config.shareGrace now params.jobId params.nonce).1 address params
        draw job := by
    unfold handleSubmit
    simp only [loggedIn, recorded]
  have answered := @verifyShare_forwarded_iff verifier job (session.checkDiff params.jobId)
    params.nonce params.result
  rw [handled, ← answered]
  unfold judge
  simp only [verifies, if_true]
  cases (shareChecks verifier).verifyShare job (session.checkDiff params.jobId) params.nonce
      params.result with
  | none => simp
  | some outcome =>
      dsimp only
      rw [mem_settle_forwarded, Option.some.injEq]

end Session

/-- **When a verified share is forwarded with its real hash**: exactly if the miner
claimed that hash. -/
theorem verified_forwards_real_hash_iff (config : StratumConfig) (verifier : Verifier)
    (now : Nat) (session : Session) (store : JobStore) (draw : Bool) (address : Address)
    (params : SubmitParams) (job : UpstreamJob) (loggedIn : session.miner = some address)
    (recorded : (store.recordSubmission config.shareGrace now params.jobId params.nonce).2 =
      .accepted job)
    (verifies : shouldVerify config session.verifiedCount draw = true) :
    ForwardsRealHash verifier job (session.handleSubmit config (shareChecks verifier) now store
        draw (some params)).effects ↔
      ClaimsRealHash verifier job (session.checkDiff params.jobId) params := by
  constructor
  · intro forwardsReal hash computes meetsLocal meetsUpstream
    obtain ⟨real, realComputes, claimed⟩ := forwardsReal params.jobId params.nonce params.result
      ((Session.mem_handleSubmit_forwarded loggedIn recorded verifies).2
        ⟨⟨hash, computes, meetsLocal, meetsUpstream⟩, rfl, rfl, rfl⟩)
    rw [computes.unique realComputes]
    exact claimed
  · intro claimsReal jobId nonce result forwarded
    obtain ⟨⟨hash, computes, meetsLocal, meetsUpstream⟩, rfl, rfl, rfl⟩ :=
      (Session.mem_handleSubmit_forwarded loggedIn recorded verifies).1 forwarded
    exact ⟨hash, computes, claimsReal hash computes meetsLocal meetsUpstream⟩

/-- A miner that is logged in and has sent nothing yet. -/
def sampleSession : Session := { Session.new sampleProxy.config 0 with miner := some 1 }

def sampleStore : JobStore := JobStore.new.publish 0 (sampleJob "J")

/-- The hash of the sample job with nonce 1, as the stub verifier computes it: the blob is
zeros but for the nonce, whose last byte is folded into the eleventh. -/
def sampleHash : ResultHash where
  bytes := List.replicate 10 0 ++ 1 :: List.replicate 21 0
  length := rfl

theorem sampleHash_computes : Computes stubVerifier (sampleJob "J") "00000001" sampleHash := by
  have spelled : (sampleJob "J").blobHex = encode (List.replicate 76 0) := by decide +kernel
  have blobIsHex : decode (sampleJob "J").blobHex = .ok (List.replicate 76 0) := by
    rw [spelled]
    exact decode_encode _
  have nonceIsHex : decode "00000001" = .ok [0, 0, 0, 1] := by decide +kernel
  refine ⟨copyInto (List.replicate 76 0) nonceOffset [0, 0, 0, 1], ?_, by decide +kernel⟩
  rw [assemble_eq blobIsHex nonceIsHex]
  rfl

def sampleSubmitEffects (result : String) : List Effect :=
  (sampleSession.handleSubmit sampleProxy.config (shareChecks stubVerifier) 0 sampleStore true
    (some ⟨"J", "00000001", result⟩)).effects

theorem sampleSubmit_recorded : (sampleStore.recordSubmission sampleProxy.config.shareGrace 0 "J"
    "00000001").2 = .accepted (sampleJob "J") := by
  rfl

theorem mem_sampleSubmitEffects (result : String) :
    .submitUpstream "J" "00000001" result ∈ sampleSubmitEffects result := by
  have loggedIn : sampleSession.miner = some 1 := rfl
  have meetsLocal : meetsDifficulty sampleHash (sampleSession.checkDiff "J") = true := by
    decide +kernel
  have meetsUpstream : meetsDifficulty sampleHash (sampleJob "J").upstreamDiff = true := by
    decide +kernel
  exact (Session.mem_handleSubmit_forwarded loggedIn sampleSubmit_recorded (by decide)).2
    ⟨⟨sampleHash, sampleHash_computes, meetsLocal, meetsUpstream⟩, rfl, rfl, rfl⟩

theorem verified_forwards_real_hash_honest :
    .submitUpstream "J" "00000001" (encode sampleHash.bytes) ∈
        sampleSubmitEffects (encode sampleHash.bytes) ∧
      ForwardsRealHash stubVerifier (sampleJob "J")
        (sampleSubmitEffects (encode sampleHash.bytes)) := by
  refine ⟨mem_sampleSubmitEffects _, ?_⟩
  refine (verified_forwards_real_hash_iff sampleProxy.config stubVerifier 0 sampleSession
    sampleStore true 1 ⟨"J", "00000001", encode sampleHash.bytes⟩ (sampleJob "J") rfl
    sampleSubmit_recorded (by decide)).2 ?_
  intro hash computes _ _
  rw [computes.unique sampleHash_computes]
  exact decode_encode _

/-- A verified share is forwarded with the empty result the miner claimed. -/
theorem verified_forwards_claimed_result :
    shouldVerify sampleProxy.config sampleSession.verifiedCount true = true ∧
      Computes stubVerifier (sampleJob "J") "00000001" sampleHash ∧
      .submitUpstream "J" "00000001" "" ∈ sampleSubmitEffects "" ∧
      ¬ ForwardsRealHash stubVerifier (sampleJob "J") (sampleSubmitEffects "") := by
  have forwarded := mem_sampleSubmitEffects ""
  refine ⟨by decide, sampleHash_computes, forwarded, ?_⟩
  intro forwardsReal
  obtain ⟨hash, _, claimed⟩ := forwardsReal _ _ _ forwarded
  have nothing : hash.bytes = [] := (Except.ok.inj claimed).symm
  have length := hash.length
  rw [nothing] at length
  cases length

end CrFaucet.Stratum
