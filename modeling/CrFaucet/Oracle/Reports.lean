import CrFaucet.Oracle.Server

/-!
Owns what stands behind a signed report, and when the committee's decision panics.

A sum decides the first. The floor `block_number + min_confirmations` and the number of
confirmations are computed in wrapping `u64` arithmetic, and a `minConfirmations` that does not
fit in a word is taken to be zero. All of this is harmless exactly while the true sum fits.

One index decides the second: `tips[quorum - 1]`, with a quorum nobody checked against zero.
-/

set_option autoImplicit false

namespace CrFaucet.Oracle

open Tally
open Token (Address)

/-- The report is confirmed by the committee, in whole numbers. -/
structure Backed (contract : OracleContract) (votes : List MemberVote)
    (report : BlockHashReport) : Prop where
  deep : report.blockNumber.toNat + contract.minConfirmations ≤ report.quorumTip.toNat
  observed : report.observedConfirmations.toNat + report.blockNumber.toNat =
    report.quorumTip.toNat
  tips : contract.sourceRpcQuorum ≤
    votes.countP fun vote => vote.tip.any fun tip => report.quorumTip ≤ tip
  hashes : contract.sourceRpcQuorum ≤
    votes.countP fun vote => vote.hash = some report.blockHash
  finalized : contract.mandateFinalized = true →
    contract.sourceRpcQuorum ≤
      votes.countP fun vote => vote.finalized.any fun number => report.blockNumber ≤ number

/-! ### Members and their numbers -/

section Members

variable {votes : List MemberVote}

theorem countP_numbers (number : MemberVote → Option UInt64) (bound : UInt64) :
    (votes.filterMap number).countP (fun other => bound ≤ other) =
      votes.countP fun vote => (number vote).any fun other => bound ≤ other := by
  rw [List.countP_filterMap]
  congr 1
  funext vote
  cases number vote <;> rfl

theorem countP_atLeast_mono (number : MemberVote → Option UInt64) {low high : UInt64}
    (below : low ≤ high) :
    (votes.countP fun vote => (number vote).any fun other => high ≤ other) ≤
      votes.countP fun vote => (number vote).any fun other => low ≤ other := by
  rw [← countP_numbers, ← countP_numbers]
  refine List.countP_mono_left ?_
  intro other _ above
  exact decide_eq_true (UInt64.le_trans below (of_decide_eq_true above))

theorem votesFor_hashes (hash : B256) :
    votesFor (votes.filterMap MemberVote.hash) hash =
      votes.countP fun vote => vote.hash = some hash := by
  rw [votesFor, List.countP_filterMap]
  congr 1
  funext vote
  cases vote.hash <;> simp

end Members

/-! ### Signed reports -/

section Signed

variable {settings : OracleSettings} {contracts : Address → OracleContract}
  {server : OracleServer} {request : SignRequest}

theorem mapError_eq_ok {Error Other Value : Type} {lift : Error → Other}
    {result : Except Error Value} {value : Value} :
    result.mapError lift = .ok value ↔ result = .ok value := by
  cases result <;> simp [Except.mapError]

theorem signWith_ok {info : OracleInfo} {signed : SignedReport}
    (signs : signWith settings request info = .ok signed) :
    ∃ confirmed now, fetchFor request info = .ok confirmed ∧
      signed.report = report settings request info confirmed now := by
  obtain ⟨confirmed, fetched, rest⟩ := bind_eq_ok.1 signs
  obtain ⟨now, _, rest⟩ := bind_eq_ok.1 rest
  obtain ⟨signature, _, made⟩ := bind_eq_ok.1 rest
  cases made
  exact ⟨confirmed, now, mapError_eq_ok.1 fetched, rfl⟩

theorem fetchFor_panicked_iff {info : OracleInfo} (members : info.rpcUrls.length < 2 ^ 63) :
    fetchFor request info = .error .panicked ↔ info.quorum.toNat = 0 := by
  have fits : (request.votes info).length < 2 ^ 64 := by
    rw [SignRequest.votes, List.length_map, List.length_zip]
    omega
  constructor
  · intro panicked
    by_contra some
    have positive : 1 ≤ info.quorum :=
      UInt64.le_iff_toNat_le.2 (Nat.one_le_iff_ne_zero.2 some)
    exact fetchConfirmed_not_panicked positive _ panicked
  · intro zero
    have isZero : info.quorum = 0 := UInt64.toNat_inj.1 zero
    rw [fetchFor, isZero]
    exact fetchConfirmed_zero fits _

theorem quorum_of_fetchFor {info : OracleInfo} {confirmed : Confirmed}
    (members : info.rpcUrls.length < 2 ^ 63)
    (fetched : fetchFor request info = .ok confirmed) : 1 ≤ info.quorum := by
  rw [UInt64.le_iff_toNat_le]
  refine Nat.one_le_iff_ne_zero.2 ?_
  intro zero
  rw [(fetchFor_panicked_iff members).2 zero] at fetched
  cases fetched

/-- Tips, hash and finality do not depend on any sum. -/
theorem backed_iff {contract : OracleContract} {info : OracleInfo}
    (readFrom : ReadFrom contract info) {confirmed : Confirmed} {now : UInt64}
    (fetched : fetchFor request info = .ok confirmed) :
    Backed contract (request.votes info) (report settings request info confirmed now) ↔
      request.blockNumber.toNat + contract.minConfirmations < 2 ^ 64 := by
  have positive := quorum_of_fetchFor readFrom.members fetched
  obtain ⟨⟨isTip, deep⟩, mandated, ⟨count, isHash⟩, observed⟩ := fetchConfirmed_ok fetched
  have tipFits := confirmed.quorumTip.toNat_lt
  constructor
  · intro backed
    exact backed.deep.trans_lt tipFits
  · intro fits
    have confirmations : info.minConfirmations.toNat = contract.minConfirmations := by
      rw [readFrom.confirmations]
      exact narrow_toNat (by omega)
    have sum : request.blockNumber.toNat + contract.minConfirmations ≤
        confirmed.quorumTip.toNat := by
      rw [UInt64.le_iff_toNat_le, UInt64.toNat_add, confirmations, Nat.mod_eq_of_lt fits] at deep
      exact deep
    have below : request.blockNumber ≤ confirmed.quorumTip :=
      UInt64.le_iff_toNat_le.2 (by omega)
    have tips := countP_of_quorumTip positive isTip
    obtain ⟨counted, enough, _⟩ := quorumHash_some isHash
    refine ⟨sum, ?_, ?_, ?_, ?_⟩
    · change confirmed.observedConfirmations.toNat + _ = confirmed.quorumTip.toNat
      rw [observed, UInt64.toNat_sub_of_le _ _ below]
      exact Nat.sub_add_cancel (by omega)
    · rw [← readFrom.quorum, ← countP_numbers MemberVote.tip]
      exact tips
    · rw [← readFrom.quorum, ← votesFor_hashes]
      exact counted ▸ enough
    · intro finality
      rw [← readFrom.finality] at finality
      obtain ⟨isFinalized, reached⟩ := mandated finality
      have finalized := countP_of_quorumTip positive isFinalized
      rw [countP_numbers] at finalized
      rw [← readFrom.quorum]
      exact finalized.trans (countP_atLeast_mono MemberVote.finalized reached)

end Signed

/-- **When a signed report is confirmed**: exactly if the block number and the contract's
`minConfirmations` add up to less than `2 ^ 64`. -/
theorem signed_report_is_confirmed_iff (settings : OracleSettings)
    (contracts : Address → OracleContract) (before : List SignRequest) (request : SignRequest)
    (signed : SignedReport)
    (signs : (signFor settings contracts (serve settings contracts before) request).2 =
      .ok signed) :
    ∃ info, (oracleInfo settings contracts (serve settings contracts before) request).2 =
        .ok info ∧
      signed.report.blockNumber = request.blockNumber ∧
      (Backed (contracts request.oracle) (request.votes info) signed.report ↔
        request.blockNumber.toNat + (contracts request.oracle).minConfirmations < 2 ^ 64) := by
  obtain ⟨info, given, rest⟩ := bind_eq_ok.1 signs
  obtain ⟨confirmed, now, fetched, isReport⟩ := signWith_ok rest
  have readFrom := oracleInfo_readFrom (serve_cached settings contracts before) given
  rw [isReport]
  exact ⟨info, given, rfl, backed_iff readFrom fetched⟩

/-! ### A committee of one -/

def sampleSettings : OracleSettings where
  registry := ⟨7, by decide⟩
  maxSourceRpcs := 8
  reportTtlSecs := 600
  signerEpoch := 1

def sampleContract (minConfirmations sourceRpcQuorum : Nat) : OracleContract where
  registry := ⟨7, by decide⟩
  expectedSourceChainId := 1
  minConfirmations := minConfirmations
  mandateFinalized := false
  sourceRpcUrls := ["a"]
  sourceRpcQuorum := sourceRpcQuorum
  urls_fit := by decide

def sampleRequest (blockNumber tip : UInt64) : SignRequest where
  oracle := ⟨1, by decide⟩
  blockNumber := blockNumber
  missed := false
  reads := true
  verdicts := [true]
  replies := [⟨some tip, none, some (BitVec.ofNat 256 0xaa)⟩]
  order := .listed
  now := some 1000
  signature := some []

/-- The report on block `blockNumber` with the numbers that are computed for it. -/
def sampleSigned (blockNumber required observed tip : UInt64) : SignedReport where
  oracle := ⟨1, by decide⟩
  report := {
    sourceChainId := 1
    blockNumber := blockNumber
    blockHash := BitVec.ofNat 256 0xaa
    requiredConfirmations := required
    observedConfirmations := observed
    quorumTip := tip
    observedQuorum := 1
    requireFinalized := false
    finalizedBlockNumber := 0
    expiresAt := 1600
    signerEpoch := 1 }
  signature := []

theorem sampleSigned_confirmed :
    (signFor sampleSettings (fun _ => sampleContract 6 1) .start (sampleRequest 100 110)).2 =
        .ok (sampleSigned 100 6 10 110) ∧
      ∃ info, Backed (sampleContract 6 1) ((sampleRequest 100 110).votes info)
        (sampleSigned 100 6 10 110).report := by
  have signs : (signFor sampleSettings (fun _ => sampleContract 6 1) .start
      (sampleRequest 100 110)).2 = .ok (sampleSigned 100 6 10 110) := by decide
  obtain ⟨info, _, _, backed⟩ := signed_report_is_confirmed_iff sampleSettings
    (fun _ => sampleContract 6 1) [] (sampleRequest 100 110) _ signs
  exact ⟨signs, info, backed.2 (by decide)⟩

/-- The last block there is, and a floor that no word can hold. -/
theorem unconfirmed_reports_are_signed :
    (signFor sampleSettings (fun _ => sampleContract 1 1) .start
        (sampleRequest 18446744073709551615 5)).2 =
        .ok (sampleSigned 18446744073709551615 1 6 5) ∧
      (∀ votes, ¬Backed (sampleContract 1 1) votes
        (sampleSigned 18446744073709551615 1 6 5).report) ∧
      (signFor sampleSettings (fun _ => sampleContract (2 ^ 64) 1) .start
        (sampleRequest 100 100)).2 = .ok (sampleSigned 100 0 0 100) ∧
      ∀ votes, ¬Backed (sampleContract (2 ^ 64) 1) votes (sampleSigned 100 0 0 100).report := by
  refine ⟨by decide, ?_, by decide, ?_⟩
  · intro votes backed
    exact absurd backed.deep (by decide)
  · intro votes backed
    exact absurd backed.deep (by decide)

/-! ### Panics -/

section Panics

variable {settings : OracleSettings} {contracts : Address → OracleContract}
  {server : OracleServer} {request : SignRequest}

theorem readInfo_not_panicked (contract : OracleContract) :
    readInfo settings request contract ≠ .error .panicked := by
  intro panicked
  unfold readInfo at panicked
  split at panicked
  · cases panicked
  · split at panicked
    · cases panicked
    · dsimp only at panicked
      split at panicked
      · cases panicked
      · cases panicked

theorem oracleInfo_not_panicked :
    (oracleInfo settings contracts server request).2 ≠ .error .panicked := by
  intro panicked
  unfold oracleInfo at panicked
  split at panicked
  · cases panicked
  · split at panicked
    · rename_i fault read
      cases panicked
      exact readInfo_not_panicked _ read
    · cases panicked

theorem expect_not_panicked {Value : Type} {error : OracleError} (value : Option Value) :
    expect error value ≠ .error .panicked := by
  cases value <;> simp [expect]

theorem signWith_panicked_iff {info : OracleInfo} :
    signWith settings request info = .error .panicked ↔
      fetchFor request info = .error .panicked := by
  constructor
  · intro panicked
    rcases bind_eq_error.1 panicked with early | ⟨confirmed, _, rest⟩
    · cases fetched : fetchFor request info with
      | ok confirmed =>
          rw [fetched] at early
          cases early
      | error fault =>
          rw [fetched] at early
          cases fault with
          | panicked => rfl
          | failed error => cases early
    · rcases bind_eq_error.1 rest with early | ⟨now, _, rest⟩
      · exact (expect_not_panicked _ early).elim
      · rcases bind_eq_error.1 rest with early | ⟨signature, _, made⟩
        · exact (expect_not_panicked _ early).elim
        · cases made
  · intro panicked
    rw [signWith, panicked]
    rfl

end Panics

/-- **When the committee's decision panics**: exactly for a contract whose quorum is zero, and
then always. From a quorum of one on, `quorum_tip` is the order statistic it is meant to be. -/
theorem committee_decision_panics_iff_quorum_is_zero (settings : OracleSettings)
    (contracts : Address → OracleContract) (before : List SignRequest) (request : SignRequest) :
    ((signFor settings contracts (serve settings contracts before) request).2 =
        .error .panicked ↔
      (∃ info, (oracleInfo settings contracts (serve settings contracts before) request).2 =
        .ok info) ∧ (contracts request.oracle).sourceRpcQuorum = 0) ∧
    ∀ (tips : List UInt64) (quorum : UInt64), 1 ≤ quorum →
      (tips.length < quorum.toNat → quorumTip tips quorum = .ok none) ∧
      (quorum.toNat ≤ tips.length → ∃ tip, quorumTip tips quorum = .ok (some tip) ∧
        quorum.toNat ≤ tips.countP (fun other => tip ≤ other) ∧
        ∀ bound : UInt64, quorum.toNat ≤ tips.countP (fun other => bound ≤ other) →
          bound ≤ tip) := by
  constructor
  · have cached := serve_cached settings contracts before
    constructor
    · intro panicked
      rcases bind_eq_error.1 panicked with early | ⟨info, given, rest⟩
      · exact (oracleInfo_not_panicked early).elim
      · have readFrom := oracleInfo_readFrom cached given
        rw [signWith_panicked_iff, fetchFor_panicked_iff readFrom.members, readFrom.quorum] at rest
        exact ⟨⟨info, given⟩, rest⟩
    · intro both
      obtain ⟨⟨info, given⟩, zero⟩ := both
      have readFrom := oracleInfo_readFrom cached given
      rw [← readFrom.quorum, ← fetchFor_panicked_iff readFrom.members,
        ← signWith_panicked_iff] at zero
      exact bind_eq_error.2 (Or.inr ⟨info, given, zero⟩)
  · intro tips quorum positive
    rcases quorumTip_spec positive tips with ⟨few, none⟩ | ⟨tip, found, enough, largest⟩
    · exact ⟨fun _ => none, fun many => (Nat.not_lt.2 many few).elim⟩
    · have many := enough.trans List.countP_le_length
      exact ⟨fun few => (Nat.not_lt.2 many few).elim, fun _ => ⟨tip, found, enough, largest⟩⟩

theorem zero_quorum_panics :
    (signFor sampleSettings (fun _ => sampleContract 6 0) .start (sampleRequest 100 110)).2 =
      .error .panicked := by
  decide

end CrFaucet.Oracle
