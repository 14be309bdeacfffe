import Mathlib.Algebra.GroupWithZero.Nat
import CrFaucet.Interaction.Run
import CrFaucet.Stratum.Jobs

/-!
Owns replay protection: how often the job store answers `Accepted` for one job id
and nonce.

A nonce set is dropped when its entry is found stale and when the entry leaves the
ring. That is safe only as long as a stale entry stays stale and an id that was
accepted for does not return; `Renews` says when a publish respects both.
-/

set_option autoImplicit false

namespace CrFaucet.Stratum

open Interaction

/-- The store over the life of the process. `accepted` is a ghost: the pairs
answered `Accepted`, one entry for each answer. -/
structure Traffic where
  store : JobStore
  clock : Nat
  accepted : List (String × String)

/-- A call by the upstream or by some session, `elapsed` after the one before. -/
inductive StoreCall where
  | publish (elapsed : Nat) (job : UpstreamJob)
  | recordSubmission (elapsed : Nat) (jobId nonce : String)

namespace Traffic

def start : Traffic := ⟨JobStore.new, 0, []⟩

variable (traffic : Traffic)

def wait (elapsed : Nat) : Traffic := { traffic with clock := traffic.clock + elapsed }

def publish (job : UpstreamJob) : Traffic :=
  { traffic with store := traffic.store.publish traffic.clock job }

def recordSubmission (grace : Nat) (jobId nonce : String) : Traffic :=
  let recorded := traffic.store.recordSubmission grace traffic.clock jobId nonce
  { traffic with
    store := recorded.1
    accepted := match recorded.2 with
      | .accepted _ => (jobId, toAsciiLowercase nonce) :: traffic.accepted
      | _ => traffic.accepted }

def step (grace : Nat) (traffic : Traffic) : StoreCall → Traffic
  | .publish elapsed job => (traffic.wait elapsed).publish job
  | .recordSubmission elapsed jobId nonce =>
      (traffic.wait elapsed).recordSubmission grace jobId nonce

/-- A nonce was accepted under the entry's id and the entry no longer holds it. -/
def Forgot (entry : JobEntry) : Prop :=
  ∃ pair ∈ traffic.accepted, pair.1 = entry.job.jobId ∧ pair.2 ∉ entry.seenNonces

instance (entry : JobEntry) : Decidable (traffic.Forgot entry) :=
  inferInstanceAs (Decidable (∃ pair ∈ _, _ ∧ _))

/-- A published id has nothing accepted and no entry within its grace window, and
an entry that forgot a nonce stays stale under the new height. -/
structure Renews (grace : Nat) (job : UpstreamJob) : Prop where
  unaccepted : ∀ pair ∈ traffic.accepted, pair.1 ≠ job.jobId
  expired : ∀ entry ∈ traffic.store.entries.items, entry.job.jobId = job.jobId →
    entry.staleByTime grace traffic.clock = true
  stale : ∀ entry ∈ traffic.store.entries.items, traffic.Forgot entry →
    entry.staleByTime grace traffic.clock = true ∨ entry.staleByHeight job.height = true

instance (grace : Nat) (job : UpstreamJob) : Decidable (traffic.Renews grace job) :=
  decidable_of_iff (_ ∧ _ ∧ _)
    ⟨fun conditions => ⟨conditions.1, conditions.2.1, conditions.2.2⟩,
      fun renews => ⟨renews.unaccepted, renews.expired, renews.stale⟩⟩

/-- Every publish renews; submissions are arbitrary. -/
def Admits (grace : Nat) (traffic : Traffic) : StoreCall → Prop
  | .publish elapsed job => (traffic.wait elapsed).Renews grace job
  | .recordSubmission _ _ _ => True

instance (grace : Nat) (traffic : Traffic) : ∀ call, Decidable (Admits grace traffic call)
  | .publish elapsed job => inferInstanceAs (Decidable ((traffic.wait elapsed).Renews grace job))
  | .recordSubmission _ _ _ => isTrue trivial

end Traffic

/-! ### The invariant -/

/-- Nothing is accepted twice, and nothing can be: of two entries with one id the
first is past its grace window, and an entry holds every nonce accepted under its
id unless it is stale. -/
structure Unrepeated (grace : Nat) (traffic : Traffic) : Prop where
  once : traffic.accepted.Nodup
  distinct : traffic.store.entries.items.Pairwise fun earlier later =>
    earlier.job.jobId = later.job.jobId → earlier.staleByTime grace traffic.clock = true
  remembered : ∀ entry ∈ traffic.store.entries.items, ∀ pair ∈ traffic.accepted,
    pair.1 = entry.job.jobId → pair.2 ∈ entry.seenNonces ∨
      entry.stale grace traffic.clock traffic.store.currentHeight = true

namespace Unrepeated

variable {grace : Nat} {traffic : Traffic}

theorem start (grace : Nat) : Unrepeated grace Traffic.start :=
  ⟨List.nodup_nil, List.Pairwise.nil, nofun⟩

theorem wait (unrepeated : Unrepeated grace traffic) (elapsed : Nat) :
    Unrepeated grace (traffic.wait elapsed) := by
  have order : traffic.clock ≤ traffic.clock + elapsed := Nat.le_add_right _ _
  refine ⟨unrepeated.once, unrepeated.distinct.imp fun distinct same => ?_, ?_⟩
  · exact JobEntry.staleByTime_mono order (distinct same)
  · intro entry member pair accepted named
    rcases unrepeated.remembered entry member pair accepted named with seen | stale
    · exact Or.inl seen
    · exact Or.inr (JobEntry.stale_mono order stale)

theorem distinct_modifyLast (unrepeated : Unrepeated grace traffic) (now : Nat) :
    (traffic.store.entries.items.modifyLast (JobEntry.supersede now)).Pairwise fun earlier later =>
      earlier.job.jobId = later.job.jobId → earlier.staleByTime grace traffic.clock = true := by
  have distinct := unrepeated.distinct
  rcases List.eq_nil_or_concat traffic.store.entries.items with empty | ⟨before, last, split⟩
  · rw [empty]
    exact List.Pairwise.nil
  · rw [split, List.concat_eq_append] at distinct ⊢
    rw [List.modifyLast_concat]
    rw [List.pairwise_append] at distinct ⊢
    obtain ⟨first, _, across⟩ := distinct
    refine ⟨first, List.pairwise_singleton _ _, ?_⟩
    intro earlier member later isLast
    rw [List.mem_singleton.1 isLast, JobEntry.job_supersede]
    exact across earlier member last (List.mem_singleton.2 rfl)

theorem publish {job : UpstreamJob} (unrepeated : Unrepeated grace traffic)
    (renews : traffic.Renews grace job) : Unrepeated grace (traffic.publish job) := by
  obtain ⟨kept, suffix, published⟩ := traffic.store.publish_items traffic.clock job
  have height : (traffic.publish job).store.currentHeight = job.height := by
    simp [Traffic.publish, JobStore.currentHeight]
  -- An entry that was stale already is not touched.
  have origin : ∀ entry ∈ kept, ∃ earlier ∈ traffic.store.entries.items,
      entry.job = earlier.job ∧ entry.seenNonces = earlier.seenNonces ∧
        (earlier.supersededAt.isSome = true → entry = earlier) := by
    intro entry member
    obtain ⟨earlier, inRing, same | superseded⟩ :=
      JobStore.mem_modifyLast_supersede (suffix.subset member)
    · exact ⟨earlier, inRing, by rw [same], by rw [same], fun _ => same⟩
    · refine ⟨earlier, inRing, by simp [superseded], by simp [superseded], fun already => ?_⟩
      rw [superseded, JobEntry.supersede_of_isSome already]
  refine ⟨unrepeated.once, ?_, ?_⟩
  · change List.Pairwise _ (traffic.store.publish traffic.clock job).entries.items
    rw [published, List.pairwise_append]
    refine ⟨(unrepeated.distinct_modifyLast _).sublist suffix.sublist,
      List.pairwise_singleton _ _, ?_⟩
    intro entry member new isNew sameId
    rw [List.mem_singleton.1 isNew] at sameId
    obtain ⟨earlier, inRing, sameJob, _, untouched⟩ := origin entry member
    have expired := renews.expired earlier inRing (by rw [← sameJob]; exact sameId)
    rw [untouched (JobEntry.isSome_of_staleByTime expired)]
    exact expired
  · change ∀ entry ∈ (traffic.store.publish traffic.clock job).entries.items, _
    rw [published, height]
    intro entry member pair accepted named
    rcases List.mem_append.1 member with inKept | isNew
    · obtain ⟨earlier, inRing, sameJob, sameSeen, untouched⟩ := origin entry inKept
      rw [sameJob] at named
      by_cases seen : pair.2 ∈ earlier.seenNonces
      · exact Or.inl (sameSeen ▸ seen)
      · have stale := (unrepeated.remembered earlier inRing pair accepted named).resolve_left seen
        have superseded := JobEntry.isSome_of_stale stale
        rw [untouched superseded]
        right
        rcases renews.stale earlier inRing ⟨pair, accepted, named, seen⟩ with byTime | byHeight
        · exact JobEntry.stale_of_staleByTime byTime
        · exact JobEntry.stale_of_staleByHeight superseded byHeight
    · rw [List.mem_singleton.1 isNew] at named
      exact absurd named (renews.unaccepted pair accepted)

theorem exchange {before after : List JobEntry} {entry : JobEntry} {seen : Finset String}
    {accepted : List (String × String)} {store : JobStore} (unrepeated : Unrepeated grace traffic)
    (split : traffic.store.entries.items = before ++ entry :: after)
    (changed : store.entries.items = before ++ { entry with seenNonces := seen } :: after)
    (once : accepted.Nodup)
    (others : ∀ other, other ∈ before ∨ other ∈ after → ∀ pair ∈ accepted,
      pair.1 = other.job.jobId → pair ∈ traffic.accepted)
    (own : ∀ pair ∈ accepted, pair.1 = entry.job.jobId → pair.2 ∈ seen ∨
      entry.stale grace traffic.clock traffic.store.currentHeight = true) :
    Unrepeated grace { traffic with store := store, accepted := accepted } := by
  have height : store.currentHeight = traffic.store.currentHeight := by
    simp only [JobStore.currentHeight, JobStore.current, split, changed, ← List.getLast?_map,
      List.map_append, List.map_cons]
  have kept : ∀ other, other ∈ before ∨ other ∈ after → ∀ pair ∈ accepted,
      pair.1 = other.job.jobId → pair.2 ∈ other.seenNonces ∨
        other.stale grace traffic.clock traffic.store.currentHeight = true := by
    intro other member pair isAccepted named
    apply unrepeated.remembered other _ pair (others other member pair isAccepted named) named
    rw [split, List.mem_append, List.mem_cons]
    exact member.imp_right Or.inr
  refine ⟨once, ?_, ?_⟩
  · have distinct := unrepeated.distinct
    rw [split] at distinct
    dsimp only
    rw [changed]
    apply Ring.pairwise_exchange _ _ distinct
    · intro other related
      exact related
    · intro other related
      exact related
  · intro other member pair isAccepted named
    dsimp only at member ⊢
    rw [changed] at member
    rw [height]
    rcases List.mem_append.1 member with inBefore | inRest
    · exact kept other (Or.inl inBefore) pair isAccepted named
    · rcases List.mem_cons.1 inRest with rfl | inAfter
      · exact own pair isAccepted named
      · exact kept other (Or.inr inAfter) pair isAccepted named

/-- No other entry carries the id of a live entry that is found first. -/
theorem unique {before after : List JobEntry} {entry : JobEntry}
    (unrepeated : Unrepeated grace traffic)
    (split : traffic.store.entries.items = before ++ entry :: after)
    (first : ∀ earlier ∈ before, earlier.job.jobId ≠ entry.job.jobId)
    (live : entry.stale grace traffic.clock traffic.store.currentHeight = false)
    {other : JobEntry} (member : other ∈ before ∨ other ∈ after) :
    other.job.jobId ≠ entry.job.jobId := by
  rcases member with inBefore | inAfter
  · exact first other inBefore
  · intro same
    have distinct := unrepeated.distinct
    rw [split, List.pairwise_append, List.pairwise_cons] at distinct
    have expired := distinct.2.1.1 other inAfter same.symm
    rw [JobEntry.stale_of_staleByTime expired] at live
    cases live

theorem recordSubmission (unrepeated : Unrepeated grace traffic) (jobId nonce : String) :
    Unrepeated grace (traffic.recordSubmission grace jobId nonce) := by
  unfold Traffic.recordSubmission
  rcases traffic.store.recordSubmission_cases grace traffic.clock jobId nonce with
    unknown | ⟨before, entry, after, store, split, rfl, first, changed, recorded⟩
  · rw [unknown]
    exact unrepeated
  · rw [recorded]
    rcases entry.record_cases grace traffic.clock traffic.store.currentHeight
        (toAsciiLowercase nonce) with
      ⟨stale, answered⟩ | ⟨_, answered⟩ | ⟨live, fresh, answered⟩
    · rw [answered] at changed ⊢
      apply unrepeated.exchange split changed unrepeated.once
      · intro other _ pair isAccepted _
        exact isAccepted
      · intro pair _ _
        exact Or.inr stale
    · rw [answered] at changed ⊢
      apply unrepeated.exchange split changed unrepeated.once
      · intro other _ pair isAccepted _
        exact isAccepted
      · exact unrepeated.remembered entry (by rw [split]; simp)
    · rw [answered] at changed ⊢
      have remembered := unrepeated.remembered entry (by rw [split]; simp)
      have isNew : (entry.job.jobId, toAsciiLowercase nonce) ∉ traffic.accepted := by
        intro already
        rcases remembered _ already rfl with seen | stale
        · exact fresh seen
        · rw [stale] at live
          cases live
      apply unrepeated.exchange split changed (List.nodup_cons.2 ⟨isNew, unrepeated.once⟩)
      · intro other member pair isAccepted named
        rcases List.mem_cons.1 isAccepted with rfl | earlier
        · exact absurd named.symm (unrepeated.unique split first live member)
        · exact earlier
      · intro pair isAccepted named
        rcases List.mem_cons.1 isAccepted with rfl | earlier
        · exact Or.inl (Finset.mem_insert_self _ _)
        · exact (remembered pair earlier named).imp_left Finset.mem_insert_of_mem

theorem step (unrepeated : Unrepeated grace traffic) {call : StoreCall}
    (admits : Traffic.Admits grace traffic call) :
    Unrepeated grace (Traffic.step grace traffic call) := by
  cases call with
  | publish elapsed job => exact (unrepeated.wait elapsed).publish admits
  | recordSubmission elapsed jobId nonce =>
      exact (unrepeated.wait elapsed).recordSubmission jobId nonce

end Unrepeated

/-- **Replay protection.** In every run of publishes that renew and of arbitrary
submissions, no pair of a job id and a lowercased nonce is accepted twice. -/
theorem accepted_at_most_once (grace : Nat) (calls : List StoreCall)
    (renewing : Along (Traffic.step grace) (Traffic.Admits grace) Traffic.start calls) :
    (run (Traffic.step grace) Traffic.start calls).accepted.Nodup := by
  have unrepeated := renewing.keeps (Unrepeated grace)
    (fun traffic call unrepeated admits => unrepeated.step admits) (Unrepeated.start grace)
  exact unrepeated.once

/-! ### What a publish may not do -/

def jobAt (jobId : String) (height : Option Nat) : UpstreamJob where
  jobId := jobId
  blobHex := String.ofList (List.replicate 152 '0')
  seedHex := String.ofList (List.replicate 64 'a')
  upstreamTargetHex := "ffffffff"
  upstreamDiff := 1
  height := height

/-- A block is found, a late share empties the nonces of the old job, and the
upstream falls back to a template of the old height, all within a second. -/
def heightFallsBack : List StoreCall :=
  [.publish 0 (jobAt "J1" (some 100)), .recordSubmission 0 "J1" "DEADBEEF",
    .publish 0 (jobAt "J2" (some 101)), .recordSubmission 0 "J1" "00000001",
    .publish (10 ^ 8) (jobAt "J3" (some 100)), .recordSubmission 0 "J1" "deadbeef"]

/-- The upstream resends its job after a reconnect and rolls every second; after
31 rolls the first copy has left the ring. -/
def jobComesBack : List StoreCall :=
  [.publish 0 (jobAt "J" (some 100)), .recordSubmission 0 "J" "deadbeef",
    .publish 0 (jobAt "J" (some 100))] ++
    (List.range 31).map (fun roll =>
      .publish (10 ^ 9) (jobAt (String.ofList (List.replicate (roll + 1) 'K')) (some 100))) ++
    [.recordSubmission 0 "J" "deadbeef"]

theorem accepted_twice :
    (run (Traffic.step (10 ^ 9)) Traffic.start heightFallsBack).accepted =
        [("J1", "deadbeef"), ("J1", "deadbeef")] ∧
      (run (Traffic.step (60 * 10 ^ 9)) Traffic.start jobComesBack).accepted =
        [("J", "deadbeef"), ("J", "deadbeef")] :=
  ⟨by decide, by decide +kernel⟩

/-- Templates of one height and then of the next, with late and repeated shares. -/
def heightGrows : List StoreCall :=
  [.publish 0 (jobAt "J1" (some 100)), .recordSubmission 0 "J1" "DEADBEEF",
    .publish (10 ^ 9) (jobAt "J2" (some 100)), .recordSubmission (10 ^ 8) "J1" "deadbeef",
    .recordSubmission 0 "J1" "00000001", .publish (10 ^ 9) (jobAt "J3" (some 101)),
    .recordSubmission 0 "J1" "deadbeef"]

theorem accepted_at_most_once_grows :
    (run (Traffic.step (10 ^ 9)) Traffic.start heightGrows).accepted =
        [("J1", "00000001"), ("J1", "deadbeef")] ∧
      (run (Traffic.step (10 ^ 9)) Traffic.start heightGrows).accepted.Nodup :=
  ⟨by decide, accepted_at_most_once (10 ^ 9) heightGrows (by decide)⟩

end CrFaucet.Stratum
