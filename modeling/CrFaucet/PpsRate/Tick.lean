import Mathlib.Data.List.Dedup
import Mathlib.Data.List.Duplicate
import CrFaucet.PpsRate.Quorum

/-!
Owns one `tick` of `pps_rate`: which nodes are asked, and whether the quorum it then finds
is one of different nodes.

The weights of `pick_weighted` only say how likely a choice is. A `Sampling` is any choice of
positions without replacement together with any replies, so a statement over all samplings
covers every state of the health scores.

A URL that stands twice in `monerod_rpc_pool` has two positions. `effective_pool` checks the
single URL against the pool but not the pool against itself, sampling is by position, and
`decide_quorum` counts samples: no stage looks at the URL again.
-/

set_option autoImplicit false

namespace CrFaucet.PpsRate

open Tally

structure PpsConfig where
  monerodRpc : String
  monerodRpcPool : List String
  quorumSize : Nat
  /-- Zero stands for one more than the quorum. -/
  sampleSize : Nat

def effectivePool (single : String) (pool : List String) : List String :=
  if !single.isEmpty && !pool.any (fun url => url == single) then pool ++ [single] else pool

namespace PpsConfig

variable (config : PpsConfig)

def urls : List String := effectivePool config.monerodRpc config.monerodRpcPool

def quorum : Nat := max config.quorumSize 1

/-- How many positions are sampled. -/
def sampleCount : Nat :=
  min (if 0 < config.sampleSize then config.sampleSize else config.quorum + 1) config.urls.length

end PpsConfig

/-- The sampled URLs and what each came back with; `none` is a failed fetch. -/
structure Sampling (config : PpsConfig) where
  outcomes : List (String × Option (Nat × Nat))
  picked : (outcomes.map Prod.fst).Subperm config.urls
  size : outcomes.length = config.sampleCount

def sampleOf (outcome : String × Option (Nat × Nat)) : Option NodeSample :=
  outcome.2.map fun reply => ⟨outcome.1, reply.1, reply.2⟩

def Sampling.samples {config : PpsConfig} (sampling : Sampling config) : List NodeSample :=
  sampling.outcomes.filterMap sampleOf

/-- Up to the difficulty the published rate is computed from. -/
def tick (orders : MapOrders) (config : PpsConfig) (sampling : Sampling config) :
    Except RateError Nat :=
  if config.urls.isEmpty then .error .noMonerodRpc
  else decideQuorum orders sampling.samples config.quorum

def nodesReporting (samples : List NodeSample) (height difficulty : Nat) : List String :=
  ((samples.filter fun sample => pair sample = (height, difficulty)).map NodeSample.url).dedup

/-- Whenever a rate is published, enough different URLs agreed. -/
def CountsNodes (config : PpsConfig) : Prop :=
  ∀ orders (sampling : Sampling config) difficulty, tick orders config sampling = .ok difficulty →
    ∃ height agreed, config.quorumSize ≤ (nodesReporting sampling.samples height agreed).length

/-! ### Samples and nodes -/

section Nodes

variable {samples : List NodeSample} {height difficulty : Nat}

theorem length_reporting :
    (samples.filter fun sample => pair sample = (height, difficulty)).length =
      reports samples height difficulty := by
  rw [reports, votesFor, List.countP_map, List.countP_eq_length_filter]
  rfl

theorem nodesReporting_length_le (samples : List NodeSample) (height difficulty : Nat) :
    (nodesReporting samples height difficulty).length ≤
      (samples.map NodeSample.url).dedup.length := by
  have distinct := List.nodup_dedup
    ((samples.filter fun sample => pair sample = (height, difficulty)).map NodeSample.url)
  refine (List.subperm_of_subset distinct ?_).length_le
  intro url reports
  rw [List.mem_dedup] at *
  exact (List.filter_sublist.map NodeSample.url).subset reports

theorem nodesReporting_length (distinct : (samples.map NodeSample.url).Nodup) :
    (nodesReporting samples height difficulty).length = reports samples height difficulty := by
  have filtered : ((samples.filter fun sample => pair sample = (height, difficulty)).map
      NodeSample.url).Nodup := distinct.sublist (List.filter_sublist.map NodeSample.url)
  rw [nodesReporting, filtered.dedup, List.length_map, length_reporting]

theorem nodesReporting_pos (reported : 1 ≤ reports samples height difficulty) :
    1 ≤ (nodesReporting samples height difficulty).length := by
  rw [← length_reporting] at reported
  obtain ⟨sample, member⟩ := List.exists_mem_of_length_pos reported
  refine List.length_pos_of_mem (List.mem_dedup.2 (List.mem_map_of_mem member))

end Nodes

/-! ### Sampling -/

section Sampled

variable {config : PpsConfig} (sampling : Sampling config)

theorem effectivePool_nodup {single : String} {pool : List String} (distinct : pool.Nodup) :
    (effectivePool single pool).Nodup := by
  unfold effectivePool
  split
  · rename_i new
    rw [Bool.and_eq_true, Bool.not_eq_true', Bool.not_eq_true', List.any_eq_false] at new
    refine List.nodup_append.2 ⟨distinct, List.nodup_singleton single, ?_⟩
    intro url member other isSingle same
    rw [List.mem_singleton] at isSingle
    exact new.2 url member (by simp [same, isSingle])
  · exact distinct

theorem pool_sublist_urls : config.monerodRpcPool.Sublist config.urls := by
  unfold PpsConfig.urls effectivePool
  split
  · exact List.sublist_append_left ..
  · exact List.Sublist.refl _

theorem nodup_of_subperm {picks urls : List String} (picked : picks.Subperm urls)
    (distinct : urls.Nodup) : picks.Nodup := by
  obtain ⟨chosen, perm, sublist⟩ := picked
  exact perm.nodup_iff.1 (distinct.sublist sublist)

theorem samples_urls_sublist (outcomes : List (String × Option (Nat × Nat))) :
    ((outcomes.filterMap sampleOf).map NodeSample.url).Sublist (outcomes.map Prod.fst) := by
  induction outcomes with
  | nil => exact List.Sublist.refl _
  | cons outcome rest inductionHypothesis =>
      obtain ⟨url, reply⟩ := outcome
      cases reply with
      | none => exact inductionHypothesis.cons url
      | some reply => exact inductionHypothesis.cons_cons url

theorem samples_length_le : sampling.samples.length ≤ config.sampleCount := by
  rw [← sampling.size]
  exact List.length_filterMap_le _ _

theorem reports_le_length (samples : List NodeSample) (height difficulty : Nat) :
    reports samples height difficulty ≤ samples.length := by
  rw [← length_reporting]
  exact List.length_filter_le _ _

variable {sampling}

theorem reports_of_tick {orders : MapOrders} {difficulty : Nat}
    (published : tick orders config sampling = .ok difficulty) :
    ∃ height, config.quorum ≤ reports sampling.samples height difficulty := by
  have positive : 1 ≤ config.quorum := Nat.le_max_right ..
  unfold tick at published
  split at published
  · cases published
  · obtain ⟨height, rule⟩ :=
      ((decideQuorum_verdict orders sampling.samples positive).ok_iff positive).1 published
    exact ⟨height, rule.reached⟩

end Sampled

theorem CountsNodes.of_nodup {config : PpsConfig} (distinct : config.monerodRpcPool.Nodup) :
    CountsNodes config := by
  intro orders sampling difficulty published
  obtain ⟨height, enough⟩ := reports_of_tick published
  have pickedOnce : (sampling.outcomes.map Prod.fst).Nodup :=
    nodup_of_subperm sampling.picked (effectivePool_nodup distinct)
  have nodes : (sampling.samples.map NodeSample.url).Nodup :=
    pickedOnce.sublist (samples_urls_sublist _)
  refine ⟨height, difficulty, ?_⟩
  rw [nodesReporting_length nodes]
  exact (Nat.le_max_left ..).trans enough

theorem CountsNodes.of_small {config : PpsConfig} (small : config.quorumSize ≤ 1) :
    CountsNodes config := by
  intro orders sampling difficulty published
  obtain ⟨height, enough⟩ := reports_of_tick published
  exact ⟨height, difficulty,
    small.trans (nodesReporting_pos ((Nat.le_max_right ..).trans enough))⟩

/-- Too few positions are sampled for any quorum. -/
theorem CountsNodes.of_few {config : PpsConfig} (few : config.sampleCount < config.quorumSize) :
    CountsNodes config := by
  intro orders sampling difficulty published
  obtain ⟨height, enough⟩ := reports_of_tick published
  have atMost := (reports_le_length sampling.samples height difficulty).trans
    (samples_length_le sampling)
  have quorum : config.quorumSize ≤ config.quorum := Nat.le_max_left ..
  omega

/-! ### One node, counted twice -/

/-- Nodes that all say the same. -/
def unanimous (urls : List String) : List NodeSample := urls.map fun url => ⟨url, 0, 1⟩

theorem reports_unanimous (urls : List String) (height difficulty : Nat) :
    reports (unanimous urls) height difficulty =
      if height = 0 ∧ difficulty = 1 then urls.length else 0 := by
  rw [reports, votesFor, unanimous, List.map_map, List.countP_map]
  split
  · rename_i both
    rw [both.1, both.2]
    exact List.countP_eq_length.2 fun _ _ => rfl
  · rename_i different
    refine List.countP_eq_zero.2 ?_
    intro url _ same
    have equal : (0, 1) = (height, difficulty) := of_decide_eq_true same
    cases equal
    exact different ⟨rfl, rfl⟩

theorem unanimous_highest {urls : List String} (some : 0 < urls.length) :
    HighestQuorum (unanimous urls) urls.length 0 1 where
  reached := by simp [reports_unanimous]
  only := by
    intro other enough
    rw [reports_unanimous] at enough
    split at enough
    · rename_i both
      exact both.2
    · omega
  highest := by
    intro higher above difficulty
    rw [reports_unanimous, if_neg (by omega)]
    exact some

/-- The first `quorum` of the picked nodes answer, and all say the same. -/
def firstAnswer (picks : List String) (quorum : Nat) : List (String × Option (Nat × Nat)) :=
  ((picks.take quorum).map fun url => (url, some (0, 1))) ++
    (picks.drop quorum).map fun url => (url, none)

theorem firstAnswer_urls (picks : List String) (quorum : Nat) :
    (firstAnswer picks quorum).map Prod.fst = picks := by
  simp [firstAnswer, Function.comp_def]

theorem firstAnswer_samples (picks : List String) (quorum : Nat) :
    (firstAnswer picks quorum).filterMap sampleOf = unanimous (picks.take quorum) := by
  have answers : ∀ urls : List String,
      (urls.map fun url => (url, some (0, 1))).filterMap sampleOf = unanimous urls := by
    intro urls
    rw [List.filterMap_map, unanimous, ← List.filterMap_eq_map]
    rfl
  have silence : ∀ urls : List String,
      (urls.map fun url => (url, none)).filterMap sampleOf = [] := by
    intro urls
    rw [List.filterMap_map, List.filterMap_eq_nil_iff]
    intro url _
    rfl
  rw [firstAnswer, List.filterMap_append, answers, silence, List.append_nil]

/-- Any positions of the right number may be picked; the first `quorum_size` answer. -/
def Sampling.firstAnswers (config : PpsConfig) (picks : List String)
    (picked : picks.Subperm config.urls) (size : picks.length = config.sampleCount) :
    Sampling config where
  outcomes := firstAnswer picks config.quorumSize
  picked := by
    rw [firstAnswer_urls]
    exact picked
  size := by
    rw [← size, ← List.length_map Prod.fst, firstAnswer_urls]

section FirstAnswers

variable {config : PpsConfig} {picks : List String} (picked : picks.Subperm config.urls)
  (size : picks.length = config.sampleCount)

theorem samples_firstAnswers :
    (Sampling.firstAnswers config picks picked size).samples =
      unanimous (picks.take config.quorumSize) :=
  firstAnswer_samples picks config.quorumSize

theorem tick_firstAnswers (some : 1 ≤ config.quorumSize)
    (fits : config.quorumSize ≤ picks.length) :
    tick ⟨.listed, .listed⟩ config (.firstAnswers config picks picked size) = .ok 1 := by
  have answering : config.quorum = (picks.take config.quorumSize).length := by
    rw [List.length_take, Nat.min_eq_left fits]
    exact Nat.max_eq_left some
  have positive : 1 ≤ config.quorum := Nat.le_max_right ..
  have configured : config.urls.isEmpty = false := by
    rw [List.isEmpty_eq_false_iff, ← List.length_pos_iff]
    exact (some.trans fits).trans picked.length_le
  rw [tick, configured, if_neg (by decide), samples_firstAnswers, answering]
  rw [answering] at positive
  exact ((decideQuorum_verdict _ _ positive).ok_iff positive).2 ⟨0, unanimous_highest positive⟩

end FirstAnswers

theorem exists_repeated_picks {config : PpsConfig} (repeated : ¬config.monerodRpcPool.Nodup)
    (several : 2 ≤ config.sampleCount) :
    ∃ url others, (url :: url :: others).Subperm config.urls ∧
      (url :: url :: others).length = config.sampleCount := by
  obtain ⟨url, duplicate⟩ := List.exists_duplicate_iff_not_nodup.2 repeated
  have twice : [url, url].Sublist config.urls :=
    (List.duplicate_iff_sublist.1 duplicate).trans pool_sublist_urls
  obtain ⟨rest, perm⟩ := twice.exists_perm_append
  have count : config.sampleCount ≤ rest.length + 2 := by
    have total : config.urls.length = rest.length + 2 := by
      rw [perm.length_eq]
      simp
    rw [← total]
    exact Nat.min_le_right ..
  refine ⟨url, rest.take (config.sampleCount - 2), ?_, ?_⟩
  · exact (((List.take_sublist _ rest).cons_cons url).cons_cons url).subperm.trans
      perm.symm.subperm
  · simp only [List.length_cons, List.length_take]
    omega

/-- **A repeated URL makes a quorum of fewer nodes.** -/
theorem not_countsNodes {config : PpsConfig} (repeated : ¬config.monerodRpcPool.Nodup)
    (several : 2 ≤ config.quorumSize) (fits : config.quorumSize ≤ config.sampleCount) :
    ¬CountsNodes config := by
  obtain ⟨url, others, picked, size⟩ := exists_repeated_picks repeated (several.trans fits)
  intro counts
  obtain ⟨height, agreed, nodes⟩ := counts _ (.firstAnswers config _ picked size) 1
    (tick_firstAnswers picked size (by omega) (size ▸ fits))
  have atMost := nodesReporting_length_le
    (Sampling.firstAnswers config _ picked size).samples height agreed
  -- The quorum that answers holds the repeated URL twice.
  obtain ⟨more, enough⟩ := Nat.exists_eq_add_of_le' several
  have urls : (Sampling.firstAnswers config _ picked size).samples.map NodeSample.url =
      url :: url :: others.take more := by
    rw [samples_firstAnswers, unanimous, List.map_map, enough]
    simp [Function.comp_def]
  have fewer : (url :: url :: others.take more).dedup.length ≤ more + 1 := by
    rw [List.dedup_cons_of_mem (List.mem_cons_self ..)]
    refine (List.dedup_sublist _).length_le.trans ?_
    rw [List.length_cons, List.length_take]
    omega
  rw [urls] at atMost
  omega

/-- **When the rate quorum counts nodes**: exactly if no URL is listed twice in the pool, or one
sample is enough anyway, or too few positions are sampled for any rate to be published. -/
theorem rate_quorum_counts_nodes_iff (config : PpsConfig) :
    CountsNodes config ↔
      config.monerodRpcPool.Nodup ∨ config.quorumSize ≤ 1 ∨
        config.sampleCount < config.quorumSize := by
  constructor
  · intro counts
    by_contra none
    rw [not_or, not_or] at none
    obtain ⟨repeated, several, fits⟩ := none
    exact not_countsNodes repeated (by omega) (by omega) counts
  · intro condition
    rcases condition with distinct | small | few
    · exact .of_nodup distinct
    · exact .of_small small
    · exact .of_few few

def repeatedPool : PpsConfig where
  monerodRpc := ""
  monerodRpcPool := ["a", "a"]
  quorumSize := 2
  sampleSize := 0

theorem repeatedPool_picked : (["a", "a"] : List String).Subperm repeatedPool.urls :=
  List.Subperm.refl _

/-- The node is asked twice and says the same twice. -/
def repeatedSampling : Sampling repeatedPool where
  outcomes := [("a", some (3000000, 400000000000)), ("a", some (3000000, 400000000000))]
  picked := repeatedPool_picked
  size := rfl

theorem repeated_node_makes_a_quorum :
    tick ⟨.listed, .listed⟩ repeatedPool repeatedSampling = .ok 400000000000 ∧
      ∀ height difficulty,
        (nodesReporting repeatedSampling.samples height difficulty).length <
          repeatedPool.quorumSize := by
  constructor
  · decide
  · intro height difficulty
    exact (nodesReporting_length_le repeatedSampling.samples height difficulty).trans_lt
      (by decide)

end CrFaucet.PpsRate
