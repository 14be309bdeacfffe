import Mathlib.Algebra.GroupWithZero.Nat
import CrFaucet.Tally

/-!
Owns `crossroads_oracle::source`: what a committee of RPC nodes is taken to have agreed on.

`u64` and `usize` values are machine words and their arithmetic wraps, as in a release build.
An index out of bounds is a panic, told apart from an error the caller gets to see. The vote
map of `quorum_hash` is read in an order that is an argument.

Does not own the JSON-RPC calls: a `MemberVote` is what one member's three calls came to.
-/

set_option autoImplicit false

namespace CrFaucet.Oracle

open Tally

/-- A 32-byte word. -/
abbrev B256 := BitVec 256

/-- What the committee agreed on for a requested block. -/
structure Confirmed where
  blockHash : B256
  quorumTip : UInt64
  observedConfirmations : UInt64
  observedQuorum : UInt64
  finalizedBlockNumber : UInt64
deriving DecidableEq

inductive FetchError where
  | notEnoughTips
  | notConfirmed (blockNumber minConfirmations tip : UInt64)
  | finalizedUnavailable
  | notFinalized (blockNumber finalized : UInt64)
  | noHashQuorum
deriving DecidableEq

def FetchError.message : FetchError → String
  | .notEnoughTips => "not enough committee members returned a tip"
  | .notConfirmed blockNumber minConfirmations tip =>
      s!"block {blockNumber} not yet {minConfirmations}-confirmed (committee tip {tip})"
  | .finalizedUnavailable => "finalized quorum unavailable"
  | .notFinalized blockNumber finalized =>
      s!"block {blockNumber} not finalized by committee quorum (finalized {finalized})"
  | .noHashQuorum => "committee did not reach quorum on the block hash"

/-- Why a computation did not end with a value. -/
inductive Fault (Error : Type) where
  | failed (error : Error)
  | panicked
deriving DecidableEq

/-- `tips[quorum - 1]` of the tips in descending order. -/
def quorumTip (tips : List UInt64) (quorum : UInt64) :
    Except (Fault FetchError) (Option UInt64) :=
  if tips.length < quorum.toNat then .ok none
  else
    match (descending tips)[(quorum - 1).toNat]? with
    | none => .error .panicked
    | some tip => .ok (some tip)

def quorumHash (order : IterationOrder (B256 × Nat)) (votes : List B256) (quorum : UInt64) :
    Option (B256 × Nat) :=
  (lastMax Prod.snd (order.arrange (tally votes))).filter fun best => quorum.toNat ≤ best.2

/-- The tip, finalized number and block hash of one member; a failed call is `none`. -/
structure MemberVote where
  tip : Option UInt64
  finalized : Option UInt64
  hash : Option B256
deriving DecidableEq

/-- `poll_member`: the finalized block is only asked for when it is wanted. -/
def pollMember (wantFinalized : Bool) (reply : MemberVote) : MemberVote :=
  { reply with finalized := if wantFinalized then reply.finalized else none }

/-- `Option::context`. -/
def context {Value : Type} (error : FetchError) :
    Option Value → Except (Fault FetchError) Value
  | none => .error (.failed error)
  | some value => .ok value

/-- A number a quorum of the votes reaches, refused below the floor. -/
def agreedAtLeast (missing : FetchError) (refusal : UInt64 → FetchError) (votes : List UInt64)
    (quorum floor : UInt64) : Except (Fault FetchError) UInt64 := do
  let agreed ← context missing (← quorumTip votes quorum)
  if agreed < floor then throw (.failed (refusal agreed)) else pure agreed

/-- The tip, deep enough above the block. -/
def confirmedTip (votes : List MemberVote) (quorum blockNumber minConfirmations : UInt64) :
    Except (Fault FetchError) UInt64 :=
  agreedAtLeast .notEnoughTips (.notConfirmed blockNumber minConfirmations)
    (votes.filterMap MemberVote.tip) quorum (blockNumber + minConfirmations)

/-- The finalized block, not below the block; zero where finality is not mandated. -/
def finalizedBlock (votes : List MemberVote) (quorum blockNumber : UInt64)
    (mandateFinalized : Bool) : Except (Fault FetchError) UInt64 :=
  if mandateFinalized then
    agreedAtLeast .finalizedUnavailable (.notFinalized blockNumber)
      (votes.filterMap MemberVote.finalized) quorum blockNumber
  else .ok 0

/-- From the joined votes on. -/
def fetchConfirmed (order : IterationOrder (B256 × Nat)) (votes : List MemberVote)
    (quorum blockNumber minConfirmations : UInt64) (mandateFinalized : Bool) :
    Except (Fault FetchError) Confirmed := do
  let tip ← confirmedTip votes quorum blockNumber minConfirmations
  let finalizedBlockNumber ← finalizedBlock votes quorum blockNumber mandateFinalized
  let (blockHash, observedQuorum) ← context .noHashQuorum
    (quorumHash order (votes.filterMap MemberVote.hash) quorum)
  pure {
    blockHash
    quorumTip := tip
    observedConfirmations := tip - blockNumber
    observedQuorum := UInt64.ofNat observedQuorum
    finalizedBlockNumber }

/-! ### The order statistic -/

section Tip

variable {tips : List UInt64} {quorum : UInt64}

theorem toNat_sub_one (positive : 1 ≤ quorum) : (quorum - 1).toNat = quorum.toNat - 1 :=
  UInt64.toNat_sub_of_le quorum 1 positive

theorem one_le_toNat (positive : 1 ≤ quorum) : 1 ≤ quorum.toNat :=
  UInt64.le_iff_toNat_le.1 positive

/-- **From a quorum of one on** the index is in bounds, and the value is the largest bound a
quorum of tips reaches. -/
theorem quorumTip_spec (positive : 1 ≤ quorum) (tips : List UInt64) :
    (tips.length < quorum.toNat ∧ quorumTip tips quorum = .ok none) ∨
      ∃ tip, quorumTip tips quorum = .ok (some tip) ∧
        quorum.toNat ≤ tips.countP (fun other => tip ≤ other) ∧
        ∀ bound : UInt64, quorum.toNat ≤ tips.countP (fun other => bound ≤ other) →
          bound ≤ tip := by
  have index := toNat_sub_one positive
  have atLeastOne := one_le_toNat positive
  by_cases few : tips.length < quorum.toNat
  · exact Or.inl ⟨few, if_pos few⟩
  · right
    have inside : (quorum - 1).toNat < (descending tips).length := by
      rw [(descending_perm tips).length_eq]
      omega
    obtain ⟨tip, found⟩ : ∃ tip, (descending tips)[(quorum - 1).toNat]? = some tip :=
      ⟨_, List.getElem?_eq_getElem inside⟩
    obtain ⟨enough, largest⟩ := descending_getElem? found
    refine ⟨tip, ?_, by omega, ?_⟩
    · rw [quorumTip, if_neg few, found]
    · intro bound reached
      exact largest bound (by omega)

theorem countP_of_quorumTip (positive : 1 ≤ quorum) {tip : UInt64}
    (found : quorumTip tips quorum = .ok (some tip)) :
    quorum.toNat ≤ tips.countP fun other => tip ≤ other := by
  rcases quorumTip_spec positive tips with ⟨_, none⟩ | ⟨value, some, enough, _⟩
  · rw [none] at found
    cases found
  · rw [some] at found
    cases found
    exact enough

/-- **A quorum of zero** asks for the entry before the first. -/
theorem quorumTip_zero (fits : tips.length < 2 ^ 64) :
    quorumTip tips 0 = .error .panicked := by
  have beyond : (descending tips)[(0 - 1 : UInt64).toNat]? = none := by
    rw [List.getElem?_eq_none_iff, (descending_perm tips).length_eq]
    exact Nat.le_of_lt_succ fits
  have enough : ¬tips.length < (0 : UInt64).toNat := Nat.not_lt_zero _
  rw [quorumTip, if_neg enough, beyond]

end Tip

/-! ### The vote on the hash -/

section Hash

variable {order : IterationOrder (B256 × Nat)} {votes : List B256} {quorum : UInt64}

theorem quorumHash_some {hash : B256} {count : Nat}
    (found : quorumHash order votes quorum = some (hash, count)) :
    count = votesFor votes hash ∧ quorum.toNat ≤ count ∧
      ∀ other, votesFor votes other ≤ count := by
  obtain ⟨best, enough⟩ := Option.filter_eq_some_iff.1 found
  obtain ⟨member, most⟩ := lastMax_spec best
  rw [(order.perm _).mem_iff] at member
  refine ⟨(mem_tally.1 member).1, of_decide_eq_true enough, ?_⟩
  intro other
  by_cases none : votesFor votes other = 0
  · omega
  · have listed : (other, votesFor votes other) ∈ order.arrange (tally votes) :=
      (order.perm _).mem_iff.2 (mem_tally.2 ⟨rfl, Nat.pos_of_ne_zero none⟩)
    exact most _ listed

theorem quorumHash_none (none : quorumHash order votes quorum = none) (voted : votes ≠ [])
    (hash : B256) : votesFor votes hash < quorum.toNat := by
  cases best : lastMax Prod.snd (order.arrange (tally votes)) with
  | none =>
      have empty := (lastMax_eq_none Prod.snd).1 best
      cases votes with
      | nil => exact (voted rfl).elim
      | cons vote rest =>
          have counted : 0 < votesFor (vote :: rest) vote :=
            List.countP_pos_iff.2 ⟨vote, List.mem_cons_self .., by simp⟩
          have listed := (order.perm _).mem_iff.2 (mem_tally.2 ⟨rfl, counted⟩)
          rw [empty] at listed
          cases listed
  | some most =>
      have few : most.2 < quorum.toNat := by
        rw [quorumHash, best, Option.filter_eq_none_iff] at none
        simpa using none most rfl
      by_contra enough
      have counted : 0 < votesFor votes hash ∨ votesFor votes hash = 0 := by omega
      rcases counted with some | zero
      · have listed := (order.perm _).mem_iff.2 (mem_tally.2 ⟨rfl, some⟩)
        have atMost := (lastMax_spec best).2 _ listed
        exact enough (atMost.trans_lt few)
      · omega

end Hash

/-- **A split committee signs nothing**, as a law of one vote: what comes back is the only hash
with a quorum, whatever the order of the map, and two hashes with a quorum give nothing. -/
structure SplitSignsNothing (votes : List B256) (quorum : UInt64) : Prop where
  only : ∀ order hash count, quorumHash order votes quorum = some (hash, count) →
    quorum.toNat ≤ votesFor votes hash ∧
      ∀ other, quorum.toNat ≤ votesFor votes other → other = hash
  anyOrder : ∀ order other, quorumHash order votes quorum = quorumHash other votes quorum
  split : ∀ hash other, quorum.toNat ≤ votesFor votes hash →
    quorum.toNat ≤ votesFor votes other → hash ≠ other →
    ∀ order, quorumHash order votes quorum = none

/-- Where at most one hash reaches the quorum, the order of the map does not matter. -/
theorem quorumHash_order {votes : List B256} {quorum : UInt64} (voted : votes ≠ [])
    (one : ∀ hash other, quorum.toNat ≤ votesFor votes hash →
      quorum.toNat ≤ votesFor votes other → hash = other)
    (order other : IterationOrder (B256 × Nat)) :
    quorumHash order votes quorum = quorumHash other votes quorum := by
  cases first : quorumHash order votes quorum with
  | none =>
      cases second : quorumHash other votes quorum with
      | none => rfl
      | some found =>
          obtain ⟨counted, enough, _⟩ := quorumHash_some second
          have few := quorumHash_none first voted found.1
          omega
  | some found =>
      obtain ⟨counted, enough, _⟩ := quorumHash_some first
      cases second : quorumHash other votes quorum with
      | none =>
          have few := quorumHash_none second voted found.1
          omega
      | some again =>
          obtain ⟨countedAgain, enoughAgain, _⟩ := quorumHash_some second
          have same : found.1 = again.1 := one _ _ (by omega) (by omega)
          have sameCount : found.2 = again.2 := by rw [counted, countedAgain, same]
          rw [Prod.ext same sameCount]

theorem SplitSignsNothing.of_nobody (quorum : UInt64) : SplitSignsNothing [] quorum := by
  have none : ∀ order, quorumHash order [] quorum = none := by
    intro order
    have empty : order.arrange (tally ([] : List B256)) = [] := (order.perm []).eq_nil
    rw [quorumHash, empty]
    rfl
  constructor
  · intro order hash count found
    rw [none] at found
    cases found
  · intro order other
    rw [none, none]
  · intro hash other _ _ _ order
    exact none order

theorem SplitSignsNothing.of_one {votes : List B256} {quorum : UInt64}
    (one : ∀ hash other, quorum.toNat ≤ votesFor votes hash →
      quorum.toNat ≤ votesFor votes other → hash = other) : SplitSignsNothing votes quorum := by
  by_cases voted : votes = []
  · rw [voted]
    exact .of_nobody quorum
  · constructor
    · intro order hash count found
      obtain ⟨counted, enough, _⟩ := quorumHash_some found
      exact ⟨by omega, fun other enoughOther => one other hash enoughOther (by omega)⟩
    · exact quorumHash_order voted one
    · intro hash other enough enoughOther different
      exact (different (one hash other enough enoughOther)).elim

/-- **When a split committee signs nothing**: exactly if nobody voted or at most one hash
reaches the quorum. -/
theorem split_committee_signs_nothing_iff (votes : List B256) (quorum : UInt64) :
    SplitSignsNothing votes quorum ↔
      votes = [] ∨ ∀ hash other, quorum.toNat ≤ votesFor votes hash →
        quorum.toNat ≤ votesFor votes other → hash = other := by
  constructor
  · intro law
    by_cases voted : votes = []
    · exact Or.inl voted
    · right
      intro hash other enough enoughOther
      by_contra different
      have none := law.split hash other enough enoughOther different .listed
      have few := quorumHash_none none voted hash
      omega
  · intro condition
    rcases condition with nobody | one
    · rw [nobody]
      exact .of_nobody quorum
    · exact .of_one one

/-! ### What a confirmed block has behind it -/

section Fetch

theorem bind_eq_ok {Error Value Result : Type} {first : Except Error Value}
    {next : Value → Except Error Result} {result : Result} :
    (first >>= next) = .ok result ↔ ∃ value, first = .ok value ∧ next value = .ok result := by
  cases first <;> simp [bind, Except.bind]

theorem bind_eq_error {Error Value Result : Type} {first : Except Error Value}
    {next : Value → Except Error Result} {error : Error} :
    (first >>= next) = .error error ↔
      first = .error error ∨ ∃ value, first = .ok value ∧ next value = .error error := by
  cases first <;> simp [bind, Except.bind]

theorem context_eq_ok {Value : Type} {error : FetchError} {found : Option Value} {value : Value} :
    context error found = .ok value ↔ found = some value := by
  cases found <;> simp [context]

theorem context_not_panicked {Value : Type} {error : FetchError} (found : Option Value) :
    context error found ≠ .error .panicked := by
  cases found <;> simp [context]

variable {order : IterationOrder (B256 × Nat)} {votes : List MemberVote}
  {quorum blockNumber minConfirmations : UInt64}

variable {missing : FetchError} {refusal : UInt64 → FetchError} {numbers : List UInt64}
  {floor agreed : UInt64}

theorem agreedAtLeast_ok (found : agreedAtLeast missing refusal numbers quorum floor = .ok agreed) :
    quorumTip numbers quorum = .ok (some agreed) ∧ floor ≤ agreed := by
  obtain ⟨voted, isTip, rest⟩ := bind_eq_ok.1 found
  obtain ⟨value, given, checked⟩ := bind_eq_ok.1 rest
  rw [context_eq_ok] at given
  split at checked
  · cases checked
  · rename_i reached
    cases checked
    rw [given] at isTip
    exact ⟨isTip, UInt64.not_lt.1 reached⟩

theorem agreedAtLeast_not_panicked (positive : 1 ≤ quorum) :
    agreedAtLeast missing refusal numbers quorum floor ≠ .error .panicked := by
  intro panicked
  rcases bind_eq_error.1 panicked with early | ⟨voted, _, rest⟩
  · rcases quorumTip_spec positive numbers with ⟨_, none⟩ | ⟨tip, some, _⟩
    · rw [none] at early
      cases early
    · rw [some] at early
      cases early
  · rcases bind_eq_error.1 rest with early | ⟨value, _, checked⟩
    · exact context_not_panicked voted early
    · split at checked
      · cases checked
      · cases checked

theorem agreedAtLeast_zero (fits : numbers.length < 2 ^ 64) :
    agreedAtLeast missing refusal numbers 0 floor = .error .panicked := by
  rw [agreedAtLeast, quorumTip_zero fits]
  rfl

/-- **What a confirmed block has behind it.** -/
theorem fetchConfirmed_ok {mandateFinalized : Bool} {confirmed : Confirmed}
    (found : fetchConfirmed order votes quorum blockNumber minConfirmations mandateFinalized =
      .ok confirmed) :
    (quorumTip (votes.filterMap MemberVote.tip) quorum = .ok (some confirmed.quorumTip) ∧
        blockNumber + minConfirmations ≤ confirmed.quorumTip) ∧
      (mandateFinalized = true →
        quorumTip (votes.filterMap MemberVote.finalized) quorum =
            .ok (some confirmed.finalizedBlockNumber) ∧
          blockNumber ≤ confirmed.finalizedBlockNumber) ∧
      (∃ count, quorumHash order (votes.filterMap MemberVote.hash) quorum =
        some (confirmed.blockHash, count)) ∧
      confirmed.observedConfirmations = confirmed.quorumTip - blockNumber := by
  obtain ⟨tip, isTip, rest⟩ := bind_eq_ok.1 found
  obtain ⟨finalized, isFinalized, rest⟩ := bind_eq_ok.1 rest
  obtain ⟨best, isBest, made⟩ := bind_eq_ok.1 rest
  rw [context_eq_ok] at isBest
  cases made
  refine ⟨agreedAtLeast_ok isTip, ?_, ⟨best.2, isBest⟩, rfl⟩
  intro mandated
  rw [finalizedBlock, mandated, if_pos rfl] at isFinalized
  exact agreedAtLeast_ok isFinalized

/-- **With a quorum of one or more nothing panics.** -/
theorem fetchConfirmed_not_panicked (positive : 1 ≤ quorum) (mandateFinalized : Bool) :
    fetchConfirmed order votes quorum blockNumber minConfirmations mandateFinalized ≠
      .error .panicked := by
  intro panicked
  rcases bind_eq_error.1 panicked with early | ⟨tip, _, rest⟩
  · exact agreedAtLeast_not_panicked positive early
  · rcases bind_eq_error.1 rest with early | ⟨finalized, _, rest⟩
    · cases mandateFinalized with
      | false => cases early
      | true => exact agreedAtLeast_not_panicked positive early
    · rcases bind_eq_error.1 rest with early | ⟨best, _, made⟩
      · exact context_not_panicked _ early
      · cases made

/-- **With a quorum of zero it always panics**, before any vote is looked at. -/
theorem fetchConfirmed_zero (fits : votes.length < 2 ^ 64) (mandateFinalized : Bool) :
    fetchConfirmed order votes 0 blockNumber minConfirmations mandateFinalized =
      .error .panicked := by
  have tips : (votes.filterMap MemberVote.tip).length < 2 ^ 64 :=
    (List.length_filterMap_le _ votes).trans_lt fits
  rw [fetchConfirmed, confirmedTip, agreedAtLeast_zero tips]
  rfl

end Fetch

/-! ### Two hashes with a quorum -/

/-- Two members for each of two hashes. -/
def splitCommittee : List MemberVote :=
  [⟨some 110, none, some (BitVec.ofNat 256 0xaa)⟩, ⟨some 110, none, some (BitVec.ofNat 256 0xaa)⟩,
    ⟨some 110, none, some (BitVec.ofNat 256 0xbb)⟩, ⟨some 110, none, some (BitVec.ofNat 256 0xbb)⟩]

theorem split_committee_signs_either_hash :
    votesFor (splitCommittee.filterMap MemberVote.hash) (BitVec.ofNat 256 0xaa) = 2 ∧
      votesFor (splitCommittee.filterMap MemberVote.hash) (BitVec.ofNat 256 0xbb) = 2 ∧
      (fetchConfirmed .listed splitCommittee 2 100 6 false).map Confirmed.blockHash =
        .ok (BitVec.ofNat 256 0xbb) ∧
      (fetchConfirmed .reversed splitCommittee 2 100 6 false).map Confirmed.blockHash =
        .ok (BitVec.ofNat 256 0xaa) := by
  decide

end CrFaucet.Oracle
