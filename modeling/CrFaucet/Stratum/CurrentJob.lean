import CrFaucet.Stratum.Submit

/-!
Owns whether the current job can be mined: which answer a submission gets that names
the job id of the job `current` returns.

The current job is the newest entry of the ring. A submission is judged by the oldest
entry with its id, and only the newest is exempt from the checks for stale jobs. The
two are the same entry unless an id was published again while its older entry is
still in the ring.
-/

set_option autoImplicit false

namespace CrFaucet.Stratum

open Interaction

namespace JobEntry

@[simp] theorem supersededAt_record (grace now : Nat) (height : Option Nat) (nonceNorm : String)
    (entry : JobEntry) :
    (entry.record grace now height nonceNorm).1.supersededAt = entry.supersededAt := by
  unfold record
  split
  · rfl
  · split <;> rfl

theorem accepts_iff {grace now : Nat} {height : Option Nat} {nonceNorm : String}
    {entry : JobEntry} (unseen : nonceNorm ∉ entry.seenNonces) (job : UpstreamJob) :
    (entry.record grace now height nonceNorm).2 = .accepted job ↔
      entry.job = job ∧ entry.stale grace now height = false := by
  rcases entry.record_cases grace now height nonceNorm with
    ⟨stale, answered⟩ | ⟨seen, _⟩ | ⟨live, _, answered⟩
  · rw [answered, stale]
    simp
  · exact absurd seen unseen
  · rw [answered, live]
    simp

end JobEntry

theorem JobStore.recordSubmission_of_find {store : JobStore} {jobId : String} {entry : JobEntry}
    (found : store.entries.items.find? (fun entry => entry.job.jobId == jobId) = some entry)
    (grace now : Nat) (nonce : String) :
    (store.recordSubmission grace now jobId nonce).2 =
      (entry.record grace now store.currentHeight (toAsciiLowercase nonce)).2 := by
  unfold JobStore.recordSubmission
  dsimp only
  rw [found]

namespace Traffic

/-- A call, made with a grace window of its own. -/
def stepWith (traffic : Traffic) (call : Nat × StoreCall) : Traffic :=
  Traffic.step call.1 traffic call.2

def NewestLive (traffic : Traffic) : Prop :=
  ∀ since ∈ (traffic.store.entries.items.map JobEntry.supersededAt).getLast?, since = none

variable {traffic : Traffic}

theorem NewestLive.publish (traffic : Traffic) (job : UpstreamJob) :
    (traffic.publish job).NewestLive := by
  obtain ⟨kept, _, published⟩ := traffic.store.publish_items traffic.clock job
  intro since newest
  have last : ((traffic.store.publish traffic.clock job).entries.items.map
      JobEntry.supersededAt).getLast? = some none := by
    rw [published, List.map_append, List.map_singleton, List.getLast?_concat]
  rw [Traffic.publish, last, Option.mem_some_iff] at newest
  exact newest.symm

theorem NewestLive.recordSubmission (live : traffic.NewestLive) (grace : Nat)
    (jobId nonce : String) : (traffic.recordSubmission grace jobId nonce).NewestLive := by
  have same : (traffic.recordSubmission grace jobId nonce).store.entries.items.map
      JobEntry.supersededAt = traffic.store.entries.items.map JobEntry.supersededAt := by
    unfold Traffic.recordSubmission
    dsimp only
    rcases traffic.store.recordSubmission_cases grace traffic.clock jobId nonce with
      unknown | ⟨before, entry, after, store, split, _, _, changed, recorded⟩
    · rw [unknown]
    · rw [recorded, changed, split, List.map_append, List.map_append, List.map_cons, List.map_cons,
        JobEntry.supersededAt_record]
  unfold NewestLive
  rw [same]
  exact live

/-- What every history keeps. -/
structure Kept (traffic : Traffic) : Prop where
  registered : traffic.Registered
  newestLive : traffic.NewestLive

theorem Kept.stepWith (kept : traffic.Kept) (call : Nat × StoreCall) :
    (traffic.stepWith call).Kept := by
  obtain ⟨grace, call⟩ := call
  cases call with
  | publish elapsed job =>
      have waited : (traffic.wait elapsed).Registered := kept.registered
      exact ⟨waited.publish job, NewestLive.publish (traffic.wait elapsed) job⟩
  | recordSubmission elapsed jobId nonce =>
      have waited : (traffic.wait elapsed).Registered := kept.registered
      have live : (traffic.wait elapsed).NewestLive := kept.newestLive
      exact ⟨waited.recordSubmission grace jobId nonce, live.recordSubmission grace jobId nonce⟩

theorem kept_run (history : List (Nat × StoreCall)) : (run stepWith start history).Kept := by
  have initially : start.Kept := ⟨nofun, nofun⟩
  refine (Along.of_forall_mem start (fun _ _ => trivial)).keeps Kept ?_ initially
  intro traffic call kept _
  exact kept.stepWith call

theorem Kept.unseen (kept : traffic.Kept) {jobId nonceNorm : String} {entry : JobEntry}
    (member : entry ∈ traffic.store.entries.items) (named : entry.job.jobId = jobId)
    (fresh : (jobId, nonceNorm) ∉ traffic.accepted) : nonceNorm ∉ entry.seenNonces := by
  intro seen
  apply fresh
  rw [← named]
  exact kept.registered entry member nonceNorm seen

end Traffic

/-- **The current job is mineable exactly when no older entry stands before it.** An
older entry with its id must hold the same job and not be stale. -/
theorem current_job_mineable_iff (history : List (Nat × StoreCall)) {traffic : Traffic}
    (reached : traffic = run Traffic.stepWith Traffic.start history) (job : UpstreamJob)
    (current : traffic.store.current = some job) (nonce : String)
    (fresh : (job.jobId, toAsciiLowercase nonce) ∉ traffic.accepted) (grace elapsed : Nat) :
    (traffic.store.recordSubmission grace (traffic.clock + elapsed) job.jobId nonce).2 =
        .accepted job ↔
      ∀ older ∈ traffic.store.entries.items.dropLast.find? (·.job.jobId == job.jobId),
        older.job = job ∧ older.stale grace (traffic.clock + elapsed) job.height = false := by
  have kept : traffic.Kept := reached ▸ Traffic.kept_run history
  have height : traffic.store.currentHeight = job.height := by
    rw [JobStore.currentHeight, current]
    rfl
  obtain ⟨newest, isNewest, rfl⟩ := Option.map_eq_some_iff.1 current
  have split : traffic.store.entries.items =
      traffic.store.entries.items.dropLast ++ [newest] :=
    (List.dropLast_append_getLast? newest isNewest).symm
  cases found : traffic.store.entries.items.dropLast.find? (·.job.jobId == newest.job.jobId) with
  | some older =>
      have first : traffic.store.entries.items.find? (·.job.jobId == newest.job.jobId) =
          some older := by
        rw [split, List.find?_append, found]
        rfl
      have named : older.job.jobId = newest.job.jobId := by
        have matched := List.find?_some first
        exact beq_iff_eq.1 matched
      rw [JobStore.recordSubmission_of_find first, height,
        JobEntry.accepts_iff (kept.unseen (List.mem_of_find?_eq_some first) named fresh)]
      simp
  | none =>
      have first : traffic.store.entries.items.find? (·.job.jobId == newest.job.jobId) =
          some newest := by
        rw [split, List.find?_append, found, List.find?_singleton, beq_self_eq_true]
        rfl
      have live : newest.supersededAt = none := by
        apply kept.newestLive
        rw [List.getLast?_map, isNewest]
        rfl
      have lively : newest.stale grace (traffic.clock + elapsed) newest.job.height = false := by
        rw [JobEntry.stale, live]
        rfl
      rw [JobStore.recordSubmission_of_find first, height,
        JobEntry.accepts_iff (kept.unseen (List.mem_of_find?_eq_some first) rfl fresh)]
      simp [lively]

def sameJobAgain : List (Nat × StoreCall) :=
  [(0, .publish 0 (jobAt "J" (some 100))), (0, .publish (10 ^ 9) (jobAt "J" (some 100)))]

theorem current_job_mineable_in_grace :
    ((run Traffic.stepWith Traffic.start sameJobAgain).store.recordSubmission (10 ^ 9)
      ((run Traffic.stepWith Traffic.start sameJobAgain).clock + 10 ^ 8) "J" "deadbeef").2 =
        .accepted (jobAt "J" (some 100)) :=
  (current_job_mineable_iff sameJobAgain rfl (jobAt "J" (some 100)) (by decide +kernel) "deadbeef"
    (by decide +kernel) (10 ^ 9) (10 ^ 8)).2 (by decide +kernel)

/-- Two seconds later the first copy is past its grace window, and so is the current
job. -/
theorem current_job_stale :
    (run Traffic.stepWith Traffic.start sameJobAgain).store.current =
        some (jobAt "J" (some 100)) ∧
      ("J", "deadbeef") ∉ (run Traffic.stepWith Traffic.start sameJobAgain).accepted ∧
      ((run Traffic.stepWith Traffic.start sameJobAgain).store.recordSubmission (10 ^ 9)
        ((run Traffic.stepWith Traffic.start sameJobAgain).clock + 2 * 10 ^ 9) "J" "deadbeef").2 =
          .stale :=
  ⟨by decide +kernel, by decide +kernel, by decide +kernel⟩

end CrFaucet.Stratum
