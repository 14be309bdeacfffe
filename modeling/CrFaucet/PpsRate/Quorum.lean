import CrFaucet.Tally

/-!
Owns `pps_rate::decide_quorum`: which difficulty a handful of monerod nodes agree on.

The function counts samples by height and difficulty in one hash map, regroups the
counts by height in a second one, and walks the heights downwards. Both maps are read
in an unknown order, so the model takes the two orders as arguments.

`Verdict` says what may come out, without any map. `decideQuorum_verdict` is the one
lemma that opens the function; everything else is read off it.
-/

set_option autoImplicit false

namespace CrFaucet.PpsRate

open Tally

/-- `NodeSample`: what one node said. -/
structure NodeSample where
  url : String
  height : Nat
  difficulty : Nat
deriving DecidableEq

inductive RateError where
  | noMonerodRpc
  | noSamples
  | multipleDifficulties (height : Nat) (difficulties : List Nat)
  | noQuorum (quorum samples : Nat)
deriving DecidableEq

def RateError.message : RateError → String
  | .noMonerodRpc => "no monerod RPC configured"
  | .noSamples => "no monerod samples"
  | .multipleDifficulties height difficulties =>
      s!"multiple difficulties meet quorum at height {height}: {difficulties}"
  | .noQuorum quorum samples =>
      s!"no (height, difficulty) bucket reached quorum of {quorum} across {samples} samples"

/-- A bucket of `by_pair`: height, difficulty and how many samples. -/
abbrev Bucket := (Nat × Nat) × Nat

/-- The orders in which `by_pair` and the keys of `by_height` are read. -/
structure MapOrders where
  pairs : IterationOrder Bucket
  heights : IterationOrder Nat

def quorumDiffs (quorum : Nat) (buckets : List Bucket) : List Nat :=
  (buckets.filter fun bucket => quorum ≤ bucket.2).map fun bucket => bucket.1.2

/-- The loop over the heights; `exhausted` is the error after the last one. -/
def searchHeights (quorum : Nat) (byHeight : List (Nat × List Bucket)) (exhausted : RateError) :
    List Nat → Except RateError Nat
  | [] => .error exhausted
  | height :: lower =>
      match quorumDiffs quorum ((byHeight.lookup height).getD []) with
      | [] => searchHeights quorum byHeight exhausted lower
      | [difficulty] => .ok difficulty
      | difficulties => .error (.multipleDifficulties height difficulties)

def pair (sample : NodeSample) : Nat × Nat := (sample.height, sample.difficulty)

def decideQuorum (orders : MapOrders) (samples : List NodeSample) (quorum : Nat) :
    Except RateError Nat :=
  if samples.isEmpty then .error .noSamples
  else
    let byPair := tally (samples.map pair)
    let byHeight := groupBy (fun bucket => bucket.1.1) (orders.pairs.arrange byPair)
    let heights := descending (orders.heights.arrange (byHeight.map Prod.fst))
    searchHeights quorum byHeight (.noQuorum quorum samples.length) heights

/-! ### The rule -/

/-- How many samples report this difficulty at this height. -/
def reports (samples : List NodeSample) (height difficulty : Nat) : Nat :=
  votesFor (samples.map pair) (height, difficulty)

/-- No difficulty reaches the quorum above the height. -/
def QuietAbove (samples : List NodeSample) (quorum height : Nat) : Prop :=
  ∀ higher, height < higher → ∀ difficulty, reports samples higher difficulty < quorum

/-- `difficulty` is the only one with a quorum at `height`, the highest with any. -/
structure HighestQuorum (samples : List NodeSample) (quorum height difficulty : Nat) : Prop where
  reached : quorum ≤ reports samples height difficulty
  only : ∀ other, quorum ≤ reports samples height other → other = difficulty
  highest : QuietAbove samples quorum height

/-- What `decide_quorum` may return. -/
inductive Verdict (samples : List NodeSample) (quorum : Nat) : Except RateError Nat → Prop where
  | noSamples (empty : samples = []) : Verdict samples quorum (.error .noSamples)
  | agreed (height difficulty : Nat) (rule : HighestQuorum samples quorum height difficulty) :
      Verdict samples quorum (.ok difficulty)
  | ambiguous (height : Nat) (difficulties : List Nat) (distinct : difficulties.Nodup)
      (several : 2 ≤ difficulties.length)
      (all : ∀ difficulty, difficulty ∈ difficulties ↔ quorum ≤ reports samples height difficulty)
      (highest : QuietAbove samples quorum height) :
      Verdict samples quorum (.error (.multipleDifficulties height difficulties))
  | noQuorum (some : samples ≠ [])
      (quiet : ∀ height difficulty, reports samples height difficulty < quorum) :
      Verdict samples quorum (.error (.noQuorum quorum samples.length))

/-- The same answer, up to the order in which an error lists difficulties. -/
inductive SameAnswer : Except RateError Nat → Except RateError Nat → Prop where
  | same (answer : Except RateError Nat) : SameAnswer answer answer
  | listed (height : Nat) {first second : List Nat} (perm : first.Perm second) :
      SameAnswer (.error (.multipleDifficulties height first))
        (.error (.multipleDifficulties height second))

theorem reports_eq_of_perm {samples others : List NodeSample} (perm : samples.Perm others)
    (height difficulty : Nat) :
    reports samples height difficulty = reports others height difficulty :=
  (perm.map pair).countP_eq _

/-! ### The two maps -/

section Maps

variable (orders : MapOrders) (samples : List NodeSample) {quorum : Nat}

/-- `by_height` of a run. -/
def heightBuckets : List (Nat × List Bucket) :=
  groupBy (fun bucket => bucket.1.1) (orders.pairs.arrange (tally (samples.map pair)))

theorem mem_arranged {height difficulty count : Nat} :
    ((height, difficulty), count) ∈ orders.pairs.arrange (tally (samples.map pair)) ↔
      count = reports samples height difficulty ∧ 0 < count := by
  rw [(orders.pairs.perm _).mem_iff, mem_tally]
  rfl

theorem mem_quorumDiffs (positive : 1 ≤ quorum) {height difficulty : Nat} :
    difficulty ∈ quorumDiffs quorum (((heightBuckets orders samples).lookup height).getD []) ↔
      quorum ≤ reports samples height difficulty := by
  rw [quorumDiffs, heightBuckets, lookup_groupBy_getD, List.mem_map]
  constructor
  · intro found
    obtain ⟨⟨⟨bucketHeight, bucketDifficulty⟩, count⟩, member, rfl⟩ := found
    rw [List.mem_filter, List.mem_filter] at member
    obtain ⟨⟨listed, atHeight⟩, enough⟩ := member
    obtain rfl : bucketHeight = height := of_decide_eq_true atHeight
    obtain ⟨rfl, _⟩ := (mem_arranged orders samples).1 listed
    exact of_decide_eq_true enough
  · intro enough
    have listed : ((height, difficulty), reports samples height difficulty) ∈ _ :=
      (mem_arranged orders samples).2 ⟨rfl, positive.trans enough⟩
    exact ⟨_, List.mem_filter.2 ⟨List.mem_filter.2 ⟨listed, by simp⟩, by simpa using enough⟩, rfl⟩

theorem nodup_quorumDiffs (height : Nat) :
    (quorumDiffs quorum (((heightBuckets orders samples).lookup height).getD [])).Nodup := by
  have keys : ((orders.pairs.arrange (tally (samples.map pair))).map Prod.fst).Nodup :=
    ((orders.pairs.perm _).map Prod.fst).nodup_iff.2 (nodup_tally _)
  rw [quorumDiffs, heightBuckets, lookup_groupBy_getD, List.filter_filter]
  refine (List.Nodup.filter _ (List.Nodup.of_map _ keys)).map_on ?_
  intro first isFirst second isSecond same
  rw [List.mem_filter, Bool.and_eq_true] at isFirst isSecond
  -- Both stand at the height, so equal difficulties are equal keys.
  have keysAgree : first.1 = second.1 :=
    Prod.ext ((of_decide_eq_true isFirst.2.2).trans (of_decide_eq_true isSecond.2.2).symm) same
  exact List.inj_on_of_nodup_map keys isFirst.1 isSecond.1 keysAgree

theorem mem_heights (positive : 1 ≤ quorum) {height difficulty : Nat}
    (enough : quorum ≤ reports samples height difficulty) :
    height ∈ descending (orders.heights.arrange ((heightBuckets orders samples).map Prod.fst)) := by
  rw [(descending_perm _).mem_iff, (orders.heights.perm _).mem_iff, heightBuckets,
    mem_keys_groupBy]
  exact ⟨_, (mem_arranged orders samples).2 ⟨rfl, positive.trans enough⟩, rfl⟩

end Maps

/-- The loop, from a point where every height with a quorum is still ahead. -/
theorem searchHeights_verdict {orders : MapOrders} {samples : List NodeSample} {quorum : Nat}
    (positive : 1 ≤ quorum) (some : samples ≠ []) {heights : List Nat}
    (sorted : heights.Pairwise fun first second => second ≤ first)
    (ahead : ∀ height difficulty, quorum ≤ reports samples height difficulty → height ∈ heights) :
    Verdict samples quorum (searchHeights quorum (heightBuckets orders samples)
      (.noQuorum quorum samples.length) heights) := by
  induction heights with
  | nil =>
      refine .noQuorum some ?_
      intro height difficulty
      by_contra enough
      cases ahead height difficulty (Nat.le_of_not_lt enough)
  | cons height lower inductionHypothesis =>
      rw [List.pairwise_cons] at sorted
      have quiet : QuietAbove samples quorum height := by
        intro higher above difficulty
        by_contra enough
        rcases List.mem_cons.1 (ahead higher difficulty (Nat.le_of_not_lt enough)) with same | later
        · omega
        · have below := sorted.1 higher later
          omega
      have member := @mem_quorumDiffs orders samples quorum positive height
      have distinct := @nodup_quorumDiffs orders samples quorum height
      unfold searchHeights
      cases found : quorumDiffs quorum (((heightBuckets orders samples).lookup height).getD []) with
      | nil =>
          refine inductionHypothesis sorted.2 ?_
          intro other difficulty enough
          rcases List.mem_cons.1 (ahead other difficulty enough) with rfl | later
          · have listed := member.2 enough
            rw [found] at listed
            cases listed
          · exact later
      | cons difficulty others =>
          rw [found] at member distinct
          cases others with
          | nil =>
              exact .agreed height difficulty ⟨member.1 (by simp),
                fun other enough => List.mem_singleton.1 (member.2 enough), quiet⟩
          | cons other more =>
              exact .ambiguous height (difficulty :: other :: more) distinct (by simp)
                (fun _ => member) quiet

/-- **What `decide_quorum` returns.** -/
theorem decideQuorum_verdict (orders : MapOrders) (samples : List NodeSample) {quorum : Nat}
    (positive : 1 ≤ quorum) : Verdict samples quorum (decideQuorum orders samples quorum) := by
  unfold decideQuorum
  split
  · rename_i empty
    exact .noSamples (List.isEmpty_iff.1 empty)
  · rename_i some
    exact searchHeights_verdict positive (fun empty => some (List.isEmpty_iff.2 empty))
      (descending_pairwise _) fun _ _ enough => mem_heights orders samples positive enough

/-! ### One verdict -/

section Determined

variable {samples others : List NodeSample} {quorum height other difficulty : Nat}

theorem not_reached_nil (positive : 1 ≤ quorum) : ¬quorum ≤ reports [] height difficulty :=
  Nat.not_le_of_lt positive

theorem top_unique (quiet : QuietAbove samples quorum height)
    (reached : quorum ≤ reports samples height difficulty)
    (quietOther : QuietAbove samples quorum other) {otherDifficulty : Nat}
    (reachedOther : quorum ≤ reports samples other otherDifficulty) : height = other := by
  rcases Nat.lt_trichotomy height other with below | same | above
  · have few := quiet other below otherDifficulty
    omega
  · exact same
  · have few := quietOther height above difficulty
    omega

theorem HighestQuorum.not_ambiguous (rule : HighestQuorum samples quorum height difficulty)
    {difficulties : List Nat} (distinct : difficulties.Nodup) (several : 2 ≤ difficulties.length)
    (all : ∀ difficulty, difficulty ∈ difficulties ↔ quorum ≤ reports samples other difficulty)
    (highest : QuietAbove samples quorum other) : False := by
  obtain ⟨first, second, rest, rfl⟩ : ∃ first second rest, difficulties = first :: second :: rest := by
    cases difficulties with
    | nil => simp at several
    | cons first rest =>
        cases rest with
        | nil => simp at several
        | cons second rest => exact ⟨first, second, rest, rfl⟩
  have isFirst := (all first).1 (by simp)
  have isSecond := (all second).1 (by simp)
  obtain rfl := top_unique rule.highest rule.reached highest isFirst
  have same : first = second := (rule.only first isFirst).trans (rule.only second isSecond).symm
  simp [same] at distinct

theorem Verdict.ok_iff (positive : 1 ≤ quorum) {answer : Except RateError Nat}
    (verdict : Verdict samples quorum answer) :
    answer = .ok difficulty ↔ ∃ height, HighestQuorum samples quorum height difficulty := by
  cases verdict with
  | noSamples empty =>
      subst empty
      refine iff_of_false (fun refused => by cases refused) ?_
      intro found
      obtain ⟨height, rule⟩ := found
      exact not_reached_nil positive rule.reached
  | agreed height agreed rule =>
      constructor
      · intro same
        cases same
        exact ⟨height, rule⟩
      · intro found
        obtain ⟨top, topRule⟩ := found
        obtain rfl := top_unique rule.highest rule.reached topRule.highest topRule.reached
        rw [topRule.only agreed rule.reached]
  | ambiguous height difficulties distinct several all highest =>
      refine iff_of_false (fun refused => by cases refused) ?_
      intro found
      obtain ⟨top, rule⟩ := found
      exact rule.not_ambiguous distinct several all highest
  | noQuorum some quiet =>
      refine iff_of_false (fun refused => by cases refused) ?_
      intro found
      obtain ⟨height, rule⟩ := found
      have few := quiet height difficulty
      have reached := rule.reached
      omega

theorem Verdict.of_perm {answer : Except RateError Nat} (perm : samples.Perm others)
    (verdict : Verdict samples quorum answer) : Verdict others quorum answer := by
  have counts := reports_eq_of_perm perm
  have quietAbove : ∀ {height}, QuietAbove samples quorum height → QuietAbove others quorum height := by
    intro height quiet higher above difficulty
    rw [← counts]
    exact quiet higher above difficulty
  cases verdict with
  | noSamples empty => exact .noSamples (empty ▸ perm).symm.eq_nil
  | agreed height agreed rule =>
      refine .agreed height agreed ⟨?_, ?_, quietAbove rule.highest⟩
      · rw [← counts]
        exact rule.reached
      · intro other enough
        rw [← counts] at enough
        exact rule.only other enough
  | ambiguous height difficulties distinct several all highest =>
      refine .ambiguous height difficulties distinct several ?_ (quietAbove highest)
      intro difficulty
      rw [← counts]
      exact all difficulty
  | noQuorum some quiet =>
      rw [perm.length_eq]
      refine .noQuorum (fun empty => some (empty ▸ perm).eq_nil) ?_
      intro height difficulty
      rw [← counts]
      exact quiet height difficulty

theorem exists_reached {difficulties : List Nat} (several : 2 ≤ difficulties.length)
    (all : ∀ difficulty, difficulty ∈ difficulties ↔ quorum ≤ reports samples height difficulty) :
    ∃ difficulty, quorum ≤ reports samples height difficulty := by
  cases difficulties with
  | nil => simp at several
  | cons first rest => exact ⟨first, (all first).1 (List.mem_cons_self ..)⟩

/-- **The samples determine the verdict**, up to the order of a listing. -/
theorem Verdict.sameAnswer (positive : 1 ≤ quorum) {first second : Except RateError Nat}
    (verdict : Verdict samples quorum first) (again : Verdict samples quorum second) :
    SameAnswer first second := by
  cases verdict with
  | agreed height difficulty rule =>
      rw [(again.ok_iff positive).2 ⟨height, rule⟩]
      exact .same _
  | noSamples empty =>
      subst empty
      cases again with
      | noSamples _ => exact .same _
      | agreed height difficulty rule =>
          exact (not_reached_nil positive rule.reached).elim
      | ambiguous height difficulties distinct several all highest =>
          obtain ⟨difficulty, enough⟩ := exists_reached several all
          exact (not_reached_nil positive enough).elim
      | noQuorum some quiet => exact (some rfl).elim
  | ambiguous height difficulties distinct several all highest =>
      obtain ⟨difficulty, enough⟩ := exists_reached several all
      cases again with
      | noSamples empty =>
          subst empty
          exact (not_reached_nil positive enough).elim
      | agreed top agreed rule => exact (rule.not_ambiguous distinct several all highest).elim
      | ambiguous top listed distinctToo severalToo allToo highestToo =>
          obtain ⟨other, enoughToo⟩ := exists_reached severalToo allToo
          obtain rfl := top_unique highest enough highestToo enoughToo
          refine .listed height ((List.perm_ext_iff_of_nodup distinct distinctToo).2 ?_)
          intro difficulty
          rw [all, allToo]
      | noQuorum some quiet =>
          have few := quiet height difficulty
          omega
  | noQuorum some quiet =>
      cases again with
      | noSamples empty => exact (some empty).elim
      | agreed height difficulty rule =>
          have few := quiet height difficulty
          have reached := rule.reached
          omega
      | ambiguous height difficulties distinct several all highest =>
          obtain ⟨difficulty, enough⟩ := exists_reached several all
          have few := quiet height difficulty
          omega
      | noQuorum _ _ => exact .same _

/-- Fewer false samples than the quorum: some truthful one is among those that agree. -/
theorem HighestQuorum.truthful (rule : HighestQuorum samples quorum height difficulty)
    {truthful : NodeSample → Bool}
    (few : samples.countP (fun sample => !truthful sample) < quorum) :
    ∃ sample ∈ samples, truthful sample = true ∧ sample.difficulty = difficulty := by
  by_contra none
  have allFalse : reports samples height difficulty ≤
      samples.countP fun sample => !truthful sample := by
    rw [reports, votesFor, List.countP_map]
    refine List.countP_mono_left ?_
    intro sample member agrees
    have same : pair sample = (height, difficulty) := of_decide_eq_true agrees
    have isFalse : ¬truthful sample = true := fun isTrue =>
      none ⟨sample, member, isTrue, (Prod.ext_iff.1 same).2⟩
    simpa using isFalse
  have reached := rule.reached
  omega

end Determined

/-- **`decide_quorum` is the highest unambiguous quorum.** It depends neither on the order of
the samples nor on the orders of its maps (an error may list its difficulties in another order),
and fewer false samples than the quorum cannot make up the answer. -/
theorem decide_quorum_is_highest_unambiguous (orders : MapOrders) (samples : List NodeSample)
    (quorum : Nat) (positive : 1 ≤ quorum) :
    (∀ difficulty, decideQuorum orders samples quorum = .ok difficulty ↔
      ∃ height, HighestQuorum samples quorum height difficulty) ∧
    (∀ otherOrders others, samples.Perm others →
      SameAnswer (decideQuorum orders samples quorum) (decideQuorum otherOrders others quorum)) ∧
    ∀ (truthful : NodeSample → Bool) difficulty,
      samples.countP (fun sample => !truthful sample) < quorum →
      decideQuorum orders samples quorum = .ok difficulty →
      ∃ sample ∈ samples, truthful sample = true ∧ sample.difficulty = difficulty := by
  have verdict := decideQuorum_verdict orders samples positive
  refine ⟨fun difficulty => verdict.ok_iff positive, ?_, ?_⟩
  · intro otherOrders others perm
    exact (verdict.of_perm perm).sameAnswer positive
      (decideQuorum_verdict otherOrders others positive)
  · intro truthful difficulty few decided
    obtain ⟨height, rule⟩ := (verdict.ok_iff positive).1 decided
    exact rule.truthful few

/-- One node is a block behind the two that agree. -/
def sampleNodes : List NodeSample :=
  [⟨"a", 100, 100⟩, ⟨"b", 101, 200⟩, ⟨"c", 101, 200⟩]

theorem sampleNodes_decided :
    decideQuorum ⟨.listed, .reversed⟩ sampleNodes 2 = .ok 200 ∧
      ∃ height, HighestQuorum sampleNodes 2 height 200 :=
  ⟨by decide, ((decide_quorum_is_highest_unambiguous ⟨.listed, .reversed⟩ sampleNodes 2
    (by decide)).1 200).1 (by decide)⟩

end CrFaucet.PpsRate
