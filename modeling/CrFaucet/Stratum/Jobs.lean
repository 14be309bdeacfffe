import Mathlib.Data.Finset.Insert
import CrFaucet.Ring

/-!
Owns `stratum_proxy::jobs`: the ring of jobs the proxy has issued, when each was
superseded, and the nonces already accepted for it.

Every call takes the store's lock before it reads the clock, so calls are atomic
and see times in order. Instants and durations count nanoseconds.

Does not own the broadcast `publish` ends with; sessions receive it.
-/

set_option autoImplicit false

namespace CrFaucet.Stratum

def ringSize : Nat := 32

structure UpstreamJob where
  jobId : String
  blobHex : String
  seedHex : String
  upstreamTargetHex : String
  upstreamDiff : Nat
  height : Option Nat
deriving DecidableEq

structure JobEntry where
  job : UpstreamJob
  /-- `none` while this is the current job. -/
  supersededAt : Option Nat
  /-- The lowercased nonces accepted for this job. -/
  seenNonces : Finset String

inductive SubmissionOutcome where
  | unknownJob
  | stale
  | duplicate
  | accepted (job : UpstreamJob)
deriving DecidableEq

def toAsciiLowercase (text : String) : String := String.ofList (text.toList.map Char.toLower)

namespace JobEntry

def supersede (now : Nat) (entry : JobEntry) : JobEntry :=
  if entry.supersededAt.isNone then { entry with supersededAt := some now } else entry

/-- `stale_by_time`. -/
def staleByTime (grace now : Nat) (entry : JobEntry) : Bool :=
  entry.supersededAt.any fun supersededAt => grace < now - supersededAt

/-- `stale_by_height`. -/
def staleByHeight (currentHeight : Option Nat) (entry : JobEntry) : Bool :=
  match entry.job.height, currentHeight with
  | some entryHeight, some height => entryHeight < height
  | _, _ => false

/-- Only a superseded job is stale. -/
def stale (grace now : Nat) (currentHeight : Option Nat) (entry : JobEntry) : Bool :=
  entry.supersededAt.isSome && (entry.staleByTime grace now || entry.staleByHeight currentHeight)

/-- `record_submission` on the entry it finds. -/
def record (grace now : Nat) (currentHeight : Option Nat) (nonceNorm : String)
    (entry : JobEntry) : JobEntry × SubmissionOutcome :=
  if entry.stale grace now currentHeight then ({ entry with seenNonces := ∅ }, .stale)
  else if nonceNorm ∈ entry.seenNonces then (entry, .duplicate)
  else ({ entry with seenNonces := insert nonceNorm entry.seenNonces }, .accepted entry.job)

end JobEntry

/-- Most recent last. -/
structure JobStore where
  entries : Ring ringSize JobEntry

namespace JobStore

def new : JobStore := ⟨Ring.empty⟩

variable (store : JobStore)

def publish (now : Nat) (job : UpstreamJob) : JobStore :=
  ⟨(store.entries.onLast (JobEntry.supersede now)).push
    { job := job, supersededAt := none, seenNonces := ∅ }⟩

def current : Option UpstreamJob := store.entries.items.getLast?.map JobEntry.job

def currentHeight : Option Nat := store.current.bind UpstreamJob.height

def recordSubmission (grace now : Nat) (jobId nonce : String) : JobStore × SubmissionOutcome :=
  let named (entry : JobEntry) : Bool := entry.job.jobId == jobId
  let record := JobEntry.record grace now store.currentHeight (toAsciiLowercase nonce)
  match store.entries.items.find? named with
  | none => (store, .unknownJob)
  | some entry => (⟨store.entries.onFirst named fun entry => (record entry).1⟩, (record entry).2)

end JobStore

/-! ### What the calls do -/

namespace JobEntry

variable {grace now later : Nat} {height : Option Nat} {nonceNorm : String} {entry : JobEntry}

@[simp] theorem job_supersede : (entry.supersede now).job = entry.job := by
  unfold supersede
  split <;> rfl

@[simp] theorem seenNonces_supersede :
    (entry.supersede now).seenNonces = entry.seenNonces := by
  unfold supersede
  split <;> rfl

theorem supersede_of_isSome (already : entry.supersededAt.isSome = true) :
    entry.supersede now = entry := by
  unfold supersede
  rw [if_neg]
  rw [Option.isNone_iff_eq_none]
  rintro absent
  rw [absent] at already
  cases already

theorem isSome_of_staleByTime (past : entry.staleByTime grace now = true) :
    entry.supersededAt.isSome = true := by
  unfold staleByTime at past
  cases since : entry.supersededAt with
  | none =>
      rw [since] at past
      cases past
  | some _ => rfl

theorem staleByTime_mono (order : now ≤ later) (past : entry.staleByTime grace now = true) :
    entry.staleByTime grace later = true := by
  unfold staleByTime at past ⊢
  cases since : entry.supersededAt with
  | none =>
      rw [since] at past
      cases past
  | some supersededAt =>
      rw [since, Option.any_some, decide_eq_true_eq] at past
      rw [Option.any_some, decide_eq_true_eq]
      omega

theorem stale_of_staleByTime (past : entry.staleByTime grace now = true) :
    entry.stale grace now height = true := by
  unfold stale
  rw [isSome_of_staleByTime past, past]
  rfl

theorem stale_of_staleByHeight (superseded : entry.supersededAt.isSome = true)
    (behind : entry.staleByHeight height = true) : entry.stale grace now height = true := by
  unfold stale
  rw [superseded, behind, Bool.or_true]
  rfl

theorem isSome_of_stale (stale : entry.stale grace now height = true) :
    entry.supersededAt.isSome = true :=
  (Bool.and_eq_true_iff.1 stale).1

theorem stale_mono (order : now ≤ later) (stale : entry.stale grace now height = true) :
    entry.stale grace later height = true := by
  obtain ⟨superseded, past⟩ := Bool.and_eq_true_iff.1 stale
  rcases Bool.or_eq_true_iff.1 past with byTime | byHeight
  · exact stale_of_staleByTime (staleByTime_mono order byTime)
  · exact stale_of_staleByHeight superseded byHeight

theorem record_cases (grace now : Nat) (height : Option Nat) (nonceNorm : String)
    (entry : JobEntry) :
    (entry.stale grace now height = true ∧
      entry.record grace now height nonceNorm =
        ({ entry with seenNonces := ∅ }, .stale)) ∨
    (nonceNorm ∈ entry.seenNonces ∧
      entry.record grace now height nonceNorm = (entry, .duplicate)) ∨
    (entry.stale grace now height = false ∧ nonceNorm ∉ entry.seenNonces ∧
      entry.record grace now height nonceNorm =
        ({ entry with seenNonces := insert nonceNorm entry.seenNonces },
          .accepted entry.job)) := by
  unfold record
  by_cases isStale : entry.stale grace now height = true
  · exact Or.inl ⟨isStale, if_pos isStale⟩
  · rw [if_neg isStale]
    by_cases seen : nonceNorm ∈ entry.seenNonces
    · exact Or.inr (Or.inl ⟨seen, if_pos seen⟩)
    · exact Or.inr (Or.inr ⟨Bool.eq_false_iff.2 isStale, seen, if_neg seen⟩)

end JobEntry

namespace JobStore

/-- **What a publish leaves**: the newest end of the ring, its last entry
superseded, and the new job. -/
theorem publish_items (store : JobStore) (now : Nat) (job : UpstreamJob) :
    ∃ kept, kept <:+ store.entries.items.modifyLast (JobEntry.supersede now) ∧
      (store.publish now job).entries.items =
        kept ++ [{ job := job, supersededAt := none, seenNonces := ∅ }] := by
  have room : 0 < ringSize := by decide
  exact (store.entries.onLast (JobEntry.supersede now)).push_items room
    { job := job, supersededAt := none, seenNonces := ∅ }

@[simp] theorem current_publish (store : JobStore) (now : Nat) (job : UpstreamJob) :
    (store.publish now job).current = some job := by
  obtain ⟨kept, _, published⟩ := store.publish_items now job
  rw [current, published, List.getLast?_append]
  rfl

theorem mem_modifyLast_supersede {entries : List JobEntry} {now : Nat} {entry : JobEntry}
    (member : entry ∈ entries.modifyLast (JobEntry.supersede now)) :
    ∃ earlier ∈ entries, entry = earlier ∨ entry = earlier.supersede now := by
  rcases List.eq_nil_or_concat entries with rfl | ⟨before, last, rfl⟩
  · cases member
  · rw [List.concat_eq_append, List.modifyLast_concat] at member
    rcases List.mem_append.1 member with inBefore | isLast
    · exact ⟨entry, by simp [inBefore], Or.inl rfl⟩
    · exact ⟨last, by simp, Or.inr (List.mem_singleton.1 isLast)⟩

/-- **What a submission leaves**: nothing changed, or the first entry of the named
job did. -/
theorem recordSubmission_cases (store : JobStore) (grace now : Nat) (jobId nonce : String) :
    store.recordSubmission grace now jobId nonce = (store, .unknownJob) ∨
      ∃ before entry after recorded, store.entries.items = before ++ entry :: after ∧
        entry.job.jobId = jobId ∧ (∀ earlier ∈ before, earlier.job.jobId ≠ jobId) ∧
        recorded.entries.items = before ++ (entry.record grace now store.currentHeight
          (toAsciiLowercase nonce)).1 :: after ∧
        store.recordSubmission grace now jobId nonce = (recorded,
          (entry.record grace now store.currentHeight (toAsciiLowercase nonce)).2) := by
  unfold recordSubmission
  dsimp only
  split
  · exact Or.inl rfl
  · rename_i entry found
    obtain ⟨before, after, split, named, others, changed⟩ := Ring.onFirst_items (fun entry =>
      (JobEntry.record grace now store.currentHeight (toAsciiLowercase nonce) entry).1) found
    refine Or.inr ⟨before, entry, after, _, split, beq_iff_eq.1 named, ?_, changed, rfl⟩
    intro earlier member
    exact beq_eq_false_iff_ne.1 (others earlier member)

end JobStore

end CrFaucet.Stratum
