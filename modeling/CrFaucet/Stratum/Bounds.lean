import CrFaucet.Stratum.Steps

/-!
Owns the bounds of the difficulty controller, and with them those of the difficulties a
session serves and credits.

Whatever the floating-point values are, a retarget ends between the floor and the
ceiling. The ceiling is that of the upstream job set last, and each job is served right
after its own was set. That `lo` is at most `hi` is what a drop factor of at most the
gain factor comes to, since products, rounding and the cast are monotone; it only
matters for the first clamp not to panic.
-/

set_option autoImplicit false

namespace CrFaucet.Stratum

open Interaction

/-- What a drop factor of at most the gain factor gives. -/
def Floats.Ordered (floats : Floats) : Prop := ∀ current, floats.lo current ≤ floats.hi current

/-! ### The controller -/

inductive VardiffCall where
  | setUpstreamCap (upstreamDiff : Nat)
  | onShare (now : Nat)
  | retarget (now : Nat)

namespace Vardiff

/-- `none` is a panic, after which nothing happens. -/
def call (floats : Floats) (vardiff : Option Vardiff) : VardiffCall → Option Vardiff
  | .setUpstreamCap upstreamDiff => vardiff.map (·.setUpstreamCap upstreamDiff)
  | .onShare now => vardiff.map (·.onShare now)
  | .retarget now => (vardiff.bind (·.retarget floats now)).map Prod.fst

/-- The bounds never move, and the difficulty is not below the floor. -/
structure InBounds (floor ceiling : Nat) (vardiff : Vardiff) : Prop where
  min : vardiff.min = floor
  max : vardiff.max = ceiling
  current : floor ≤ vardiff.current

def Serves (floor ceiling upstreamDiff served : Nat) : Prop :=
  floor ≤ served ∧ served ≤ Nat.max floor (Nat.min ceiling upstreamDiff)

variable {floats : Floats} {vardiff : Vardiff} {floor ceiling : Nat}

theorem clamp_bounds {value lo hi clamped : Nat} (isClamped : clamp value lo hi = some clamped) :
    lo ≤ clamped ∧ clamped ≤ hi := by
  unfold clamp at isClamped
  split at isClamped
  · rename_i ordered
    cases isClamped
    exact ⟨Nat.le_min.2 ⟨Nat.le_max_right _ _, ordered⟩, Nat.min_le_right _ _⟩
  · cases isClamped

theorem clamp_isSome (value : Nat) {lo hi : Nat} (ordered : lo ≤ hi) :
    (clamp value lo hi).isSome = true := by
  rw [clamp, if_pos ordered]
  rfl

theorem min_le_effectiveMax (vardiff : Vardiff) : vardiff.min ≤ vardiff.effectiveMax :=
  Nat.le_max_right _ _

theorem newDifficulty_bounds {averaged : List Nat} {new : Nat}
    (isNew : vardiff.newDifficulty floats averaged = some new) :
    vardiff.min ≤ new ∧ new ≤ vardiff.effectiveMax := by
  obtain ⟨_, _, clamped⟩ := Option.bind_eq_some_iff.1 isNew
  exact clamp_bounds clamped

theorem newDifficulty_isSome (ordered : floats.Ordered) (averaged : List Nat) :
    (vardiff.newDifficulty floats averaged).isSome = true := by
  obtain ⟨bounded, isBounded⟩ := Option.isSome_iff_exists.1
    (clamp_isSome (floats.raw averaged vardiff.current) (ordered vardiff.current))
  have second := clamp_isSome bounded vardiff.min_le_effectiveMax
  rw [newDifficulty, isBounded]
  exact second

/-- What a retarget leaves: bounds and cap as they were, and the difficulty it returns,
which is within them if the difficulty before was not below the floor. -/
structure Retargeted (vardiff : Vardiff) (next : Vardiff × Nat) : Prop where
  min : next.1.min = vardiff.min
  max : next.1.max = vardiff.max
  current : next.1.current = next.2
  bounds : vardiff.min ≤ vardiff.current → vardiff.min ≤ next.2 ∧ next.2 ≤ vardiff.effectiveMax

theorem retargetWithGap_spec {now gap : Nat} {next : Vardiff × Nat}
    (retargeted : vardiff.retargetWithGap floats now gap = some next) :
    Retargeted vardiff next := by
  have honored : vardiff.min ≤ vardiff.current →
      vardiff.min ≤ Nat.min vardiff.current vardiff.effectiveMax ∧
        Nat.min vardiff.current vardiff.effectiveMax ≤ vardiff.effectiveMax :=
    fun floorKept => ⟨Nat.le_min.2 ⟨floorKept, vardiff.min_le_effectiveMax⟩, Nat.min_le_right _ _⟩
  unfold retargetWithGap at retargeted
  dsimp only at retargeted
  split at retargeted
  · cases retargeted
    exact ⟨rfl, rfl, rfl, honored⟩
  · split at retargeted
    · cases retargeted
      exact ⟨rfl, rfl, rfl, honored⟩
    · obtain ⟨new, isNew, rfl⟩ := Option.map_eq_some_iff.1 retargeted
      have bounds := newDifficulty_bounds isNew
      split
      · exact ⟨rfl, rfl, rfl, fun _ => bounds⟩
      · exact ⟨rfl, rfl, rfl, honored⟩

theorem retarget_isSome (ordered : floats.Ordered) (vardiff : Vardiff) (now : Nat) :
    (vardiff.retarget floats now).isSome = true := by
  unfold retarget retargetWithGap
  dsimp only
  split
  · rfl
  · split
    · rfl
    · rw [Option.isSome_map]
      exact newDifficulty_isSome ordered _

namespace InBounds

theorem new (now floor initial ceiling sampleSize : Nat) :
    InBounds floor ceiling (Vardiff.new now floor initial ceiling sampleSize) :=
  ⟨rfl, rfl, Nat.le_max_right initial floor⟩

theorem setUpstreamCap (inBounds : InBounds floor ceiling vardiff) (upstreamDiff : Nat) :
    InBounds floor ceiling (vardiff.setUpstreamCap upstreamDiff) := by
  unfold Vardiff.setUpstreamCap
  dsimp only
  split
  · refine ⟨inBounds.min, inBounds.max, ?_⟩
    rw [← inBounds.min]
    exact min_le_effectiveMax { vardiff with upstreamCap := upstreamDiff }
  · exact ⟨inBounds.min, inBounds.max, inBounds.current⟩

theorem onShare (inBounds : InBounds floor ceiling vardiff) (now : Nat) :
    InBounds floor ceiling (vardiff.onShare now) := by
  unfold Vardiff.onShare
  dsimp only
  split
  · exact ⟨inBounds.min, inBounds.max, inBounds.current⟩
  · exact ⟨inBounds.min, inBounds.max, inBounds.current⟩

theorem retarget (inBounds : InBounds floor ceiling vardiff) {now : Nat} {next : Vardiff × Nat}
    (retargeted : vardiff.retarget floats now = some next) :
    InBounds floor ceiling next.1 ∧ floor ≤ next.2 ∧ next.2 ≤ vardiff.effectiveMax := by
  have spec := retargetWithGap_spec retargeted
  have floorKept : vardiff.min ≤ vardiff.current := inBounds.min ▸ inBounds.current
  have bounds := spec.bounds floorKept
  rw [inBounds.min] at bounds
  refine ⟨⟨spec.min.trans inBounds.min, spec.max.trans inBounds.max, ?_⟩, bounds⟩
  rw [spec.current]
  exact bounds.1

theorem effectiveMax_setUpstreamCap (inBounds : InBounds floor ceiling vardiff)
    (upstreamDiff : Nat) : (vardiff.setUpstreamCap upstreamDiff).effectiveMax =
      Nat.max floor (Nat.min ceiling upstreamDiff) := by
  have whole : Nat.max (Nat.min vardiff.max upstreamDiff) vardiff.min =
      Nat.max floor (Nat.min ceiling upstreamDiff) := by
    rw [inBounds.min, inBounds.max]
    exact Nat.max_comm _ _
  unfold Vardiff.setUpstreamCap
  dsimp only
  split
  · exact whole
  · exact whole

/-- **What is served for a job is within its bounds.** -/
theorem serves (inBounds : InBounds floor ceiling vardiff) {upstreamDiff now : Nat}
    {next : Vardiff × Nat}
    (retargeted : (vardiff.setUpstreamCap upstreamDiff).retarget floats now = some next) :
    InBounds floor ceiling next.1 ∧ Serves floor ceiling upstreamDiff next.2 := by
  obtain ⟨kept, atLeast, atMost⟩ := (inBounds.setUpstreamCap upstreamDiff).retarget retargeted
  rw [inBounds.effectiveMax_setUpstreamCap upstreamDiff] at atMost
  exact ⟨kept, atLeast, atMost⟩

/-- **The step lemma.** No call panics. -/
theorem call (ordered : floats.Ordered) (inBounds : InBounds floor ceiling vardiff)
    (call : VardiffCall) :
    ∃ next, Vardiff.call floats (some vardiff) call = some next ∧
      InBounds floor ceiling next := by
  cases call with
  | setUpstreamCap upstreamDiff => exact ⟨_, rfl, inBounds.setUpstreamCap upstreamDiff⟩
  | onShare now => exact ⟨_, rfl, inBounds.onShare now⟩
  | retarget now =>
      obtain ⟨next, retargeted⟩ := Option.isSome_iff_exists.1
        (retarget_isSome ordered vardiff now)
      refine ⟨next.1, ?_, (inBounds.retarget retargeted).1⟩
      rw [Vardiff.call, Option.bind_some, retargeted]
      rfl

/-- **The run lemma.** -/
theorem calls (ordered : floats.Ordered) (inBounds : InBounds floor ceiling vardiff)
    (calls : List VardiffCall) :
    ∃ last, run (Vardiff.call floats) (some vardiff) calls = some last ∧
      InBounds floor ceiling last := by
  induction calls generalizing vardiff with
  | nil => exact ⟨vardiff, rfl, inBounds⟩
  | cons first rest inductionHypothesis =>
      obtain ⟨next, called, kept⟩ := inBounds.call ordered first
      obtain ⟨last, reached, lastKept⟩ := inductionHypothesis kept
      refine ⟨last, ?_, lastKept⟩
      change run (Vardiff.call floats) (Vardiff.call floats (some vardiff) first) rest = _
      rw [called]
      exact reached

end InBounds

end Vardiff

/-! ### The session -/

def sessionCeiling : Nat := u64Max / 2

/-- A job carried by a message is within its bounds; a credit is within those of a job
known by its id. -/
def Effect.Within (floor : Nat) (jobs : List UpstreamJob) : Effect → Prop
  | .login (some (job, served)) => Vardiff.Serves floor sessionCeiling job.upstreamDiff served
  | .pushJob job served => Vardiff.Serves floor sessionCeiling job.upstreamDiff served
  | .credit share => ∃ job ∈ jobs, job.jobId = share.jobId ∧
      share.difficulty ≤ Nat.max floor job.upstreamDiff
  | _ => True

theorem Effect.Plain.within {effect : Effect} (plain : effect.Plain) (floor : Nat)
    (jobs : List UpstreamJob) : effect.Within floor jobs := by
  cases effect with
  | login served =>
      cases served with
      | none => trivial
      | some _ => cases plain.1
  | pushJob => cases plain.1
  | credit => cases plain.2
  | ok | keepalived | error | check | submitUpstream => trivial

/-- What is remembered for a job id is within the bounds of a job with that id. -/
def RemembersWithin (floor : Nat) (jobs : List UpstreamJob) (advertised : AdvertisedRing) : Prop :=
  ∀ jobId difficulty, advertisedDiff advertised jobId = some difficulty →
    ∃ job ∈ jobs, job.jobId = jobId ∧ difficulty ≤ Nat.max floor job.upstreamDiff

/-- The invariant of a session whose jobs are all in a list. -/
structure SessionWithin (floor : Nat) (jobs : List UpstreamJob) (session : Session) : Prop where
  vardiff : session.vardiff.InBounds floor sessionCeiling
  advertised : RemembersWithin floor jobs session.advertised

namespace SessionWithin

variable {floor : Nat} {jobs : List UpstreamJob} {session : Session}

/-- The ceiling is no further bound: what is served is within the job's own. -/
theorem le_of_serves {upstreamDiff served : Nat}
    (serves : Vardiff.Serves floor sessionCeiling upstreamDiff served) :
    served ≤ Nat.max floor upstreamDiff := by
  have capped : Nat.max floor (Nat.min sessionCeiling upstreamDiff) ≤
      Nat.max floor upstreamDiff :=
    Nat.max_le.2 ⟨Nat.le_max_left _ _,
      Nat.le_trans (Nat.min_le_right _ _) (Nat.le_max_right _ _)⟩
  exact Nat.le_trans serves.2 capped

/-- What a share is judged at: what is remembered, or the floor. -/
theorem checkDiff (within : SessionWithin floor jobs session) {job : UpstreamJob}
    (known : job ∈ jobs) {jobId : String} (named : job.jobId = jobId) :
    ∃ other ∈ jobs, other.jobId = jobId ∧
      session.checkDiff jobId ≤ Nat.max floor other.upstreamDiff := by
  unfold Session.checkDiff
  cases remembered : advertisedDiff session.advertised jobId with
  | some difficulty => exact within.advertised jobId difficulty remembered
  | none =>
      refine ⟨job, known, named, ?_⟩
      rw [Option.getD_none, within.vardiff.min]
      exact Nat.le_max_left _ _

/-- **The step lemma.** -/
theorem comes {proxy : Proxy} {now : Nat} {store : JobStore} {offered : UpstreamJob → Prop}
    {draw : Bool} {handled : Handled}
    (comes : Comes proxy now session store offered draw handled)
    (fromJobs : ∀ job, offered job ∨ job ∈ store.jobs → job ∈ jobs)
    (within : SessionWithin floor jobs session) :
    SessionWithin floor jobs handled.session ∧
      ∀ effect ∈ handled.effects, effect.Within floor jobs := by
  cases comes with
  | quiet miner left effects ending sameJobs plain calm =>
      exact ⟨⟨within.vardiff, within.advertised⟩,
        fun effect member => (plain effect member).within floor jobs⟩
  | panicked miner job isOffered retargeted =>
      exact ⟨⟨within.vardiff, within.advertised⟩, nofun⟩
  | served miner job next effect isOffered retargeted carries =>
      obtain ⟨kept, serves⟩ := within.vardiff.serves retargeted
      refine ⟨⟨kept, ?_⟩, ?_⟩
      · intro jobId difficulty remembered
        rcases advertisedDiff_noteAdvertised remembered with before | ⟨rfl, rfl⟩
        · exact within.advertised jobId difficulty before
        · exact ⟨job, fromJobs job (Or.inl isOffered), rfl, le_of_serves serves⟩
      · intro other member
        rw [List.mem_singleton.1 member]
        rcases carries with rfl | rfl
        · exact serves
        · exact serves
  | errored params left sameJobs =>
      refine ⟨within, ?_⟩
      intro effect member
      rw [List.mem_singleton.1 member]
      trivial
  | settled address params job left outcome sameJobs known named =>
      have judged := within.checkDiff (fromJobs job (Or.inr known)) named
      cases outcome with
      | accepted forwarded =>
          refine ⟨⟨within.vardiff.onShare now, within.advertised⟩, ?_⟩
          intro effect member
          rcases session.mem_settle_accepted now member with rfl | rfl | ⟨_, rfl⟩ | rfl
          · trivial
          · exact judged
          · trivial
          · trivial
      | belowDifficulty | invalidHash | unknownJob | badBlob =>
          refine ⟨⟨within.vardiff, within.advertised⟩, ?_⟩
          simp [Session.settle, Effect.Within]

end SessionWithin

def publishedJobs (happenings : List (Nat × Happening)) : List UpstreamJob :=
  happenings.filterMap fun next =>
    match next.2 with
    | .publish job => some job
    | _ => none

/-- Jobs with one id are one job. -/
def DistinctIds (jobs : List UpstreamJob) : Prop :=
  ∀ first ∈ jobs, ∀ second ∈ jobs, first.jobId = second.jobId → first = second

/-- The invariant of a run. -/
structure ServedWithin (floor : Nat) (jobs : List UpstreamJob) (served : Served) : Prop where
  session : SessionWithin floor jobs served.session
  atHand : ∀ job, served.AtHand job → job ∈ jobs
  log : ∀ effect ∈ served.log, effect.Within floor jobs
  calm : served.ending ≠ .panicked

namespace ServedWithin

variable {proxy : Proxy} {floor : Nat} {jobs : List UpstreamJob} {served : Served}

theorem servedDiff_ne_none (ordered : proxy.floats.Ordered) (session : Session) (now : Nat)
    (job : UpstreamJob) : session.servedDiff proxy.floats now job ≠ none := by
  intro retargeted
  have serves := Vardiff.retarget_isSome ordered
    (session.vardiff.setUpstreamCap job.upstreamDiff) now
  rw [Session.servedDiff] at retargeted
  rw [retargeted] at serves
  cases serves

theorem step (ordered : proxy.floats.Ordered) (within : ServedWithin floor jobs served)
    {next : Nat × Happening} (published : ∀ job, next.2 = .publish job → job ∈ jobs) :
    ServedWithin floor jobs (served.step proxy next) := by
  have fromJobs : ∀ job, (served.wait next.1).AtHand job ∨
      job ∈ (served.wait next.1).store.jobs → job ∈ jobs := by
    rintro job (known | inStore)
    · exact within.atHand job known
    · exact within.atHand job (Or.inl inStore)
  unfold Served.step
  cases (served.wait next.1).occurs proxy next.2 with
  | outside _ session ending log atHand =>
      refine ⟨session ▸ within.session, ?_, log ▸ within.log, ending ▸ within.calm⟩
      intro job known
      rcases atHand job known with before | new
      · exact within.atHand job before
      · exact published job new
  | called handled _ comes session ending log atHand =>
      obtain ⟨kept, effects⟩ := SessionWithin.comes comes fromJobs within.session
      refine ⟨session ▸ kept, fun job known => within.atHand job (atHand job known), ?_,
        ending ▸ comes.calm fun job _ => servedDiff_ne_none ordered _ _ job⟩
      intro effect member
      rw [log, List.mem_append, List.mem_reverse] at member
      rcases member with isNew | old
      · exact effects effect isNew
      · exact within.log effect old

theorem connect (proxy : Proxy) (store : JobStore) (clock : Nat)
    (published : List UpstreamJob) :
    ServedWithin proxy.config.minShareDifficulty (store.jobs ++ published)
      (Served.connect proxy store clock) where
  session := ⟨Vardiff.InBounds.new _ _ _ _ _, nofun⟩
  atHand := by
    rintro job (inStore | broadcast)
    · exact List.mem_append_left _ inStore
    · cases broadcast
  log := nofun
  calm := nofun

theorem run_connect (proxy : Proxy) (ordered : proxy.floats.Ordered) (store : JobStore) (clock : Nat)
    (happenings : List (Nat × Happening)) :
    ServedWithin proxy.config.minShareDifficulty (store.jobs ++ publishedJobs happenings)
      (run (Served.step proxy) (Served.connect proxy store clock) happenings) := by
  have admitted : Along (Served.step proxy)
      (fun _ next => ∀ job, next.2 = .publish job → job ∈ store.jobs ++ publishedJobs happenings)
      (Served.connect proxy store clock) happenings := by
    apply Along.of_forall_mem
    intro next member job isPublish
    apply List.mem_append_right
    exact List.mem_filterMap.2 ⟨next, member, by rw [isPublish]⟩
  exact admitted.keeps (ServedWithin _ _) (fun _ _ within published => within.step ordered published)
    (connect proxy store clock _)

end ServedWithin

/-- **Vardiff stays in its bounds.** A controller called in any order and at any times
does not panic, and serves every job within the bounds of the job. So does every run of
a session; and if job ids are distinct, every share is credited at no more than the
floor or the upstream difficulty of its job. -/
theorem vardiff_in_bounds (floats : Floats) (ordered : floats.Ordered) :
    (∀ now floor initial ceiling sampleSize calls, ∃ vardiff,
      run (Vardiff.call floats)
        (some (Vardiff.new now floor initial ceiling sampleSize)) calls = some vardiff ∧
      ∀ upstreamDiff later, ∃ next,
        (vardiff.setUpstreamCap upstreamDiff).retarget floats later = some next ∧
          Vardiff.Serves floor ceiling upstreamDiff next.2) ∧
    ∀ config checks store clock happenings,
      let served := run (Served.step ⟨config, floats, checks⟩)
        (Served.connect ⟨config, floats, checks⟩ store clock) happenings
      let jobs := store.jobs ++ publishedJobs happenings
      served.ending ≠ .panicked ∧
      (∀ job difficulty,
        .login (some (job, difficulty)) ∈ served.log ∨ .pushJob job difficulty ∈ served.log →
          Vardiff.Serves config.minShareDifficulty sessionCeiling job.upstreamDiff difficulty) ∧
      (DistinctIds jobs → ∀ share, .credit share ∈ served.log →
        ∃ job ∈ jobs, job.jobId = share.jobId ∧
          (∀ other ∈ jobs, other.jobId = share.jobId → other = job) ∧
          share.difficulty ≤ Nat.max config.minShareDifficulty job.upstreamDiff) := by
  refine ⟨?_, ?_⟩
  · intro now floor initial ceiling sampleSize calls
    obtain ⟨vardiff, reached, inBounds⟩ :=
      (Vardiff.InBounds.new now floor initial ceiling sampleSize).calls ordered calls
    refine ⟨vardiff, reached, ?_⟩
    intro upstreamDiff later
    obtain ⟨next, retargeted⟩ := Option.isSome_iff_exists.1
      (Vardiff.retarget_isSome ordered (vardiff.setUpstreamCap upstreamDiff) later)
    exact ⟨next, retargeted, (inBounds.serves retargeted).2⟩
  · intro config checks store clock happenings
    have within := ServedWithin.run_connect ⟨config, floats, checks⟩ ordered store clock
      happenings
    refine ⟨within.calm, ?_, ?_⟩
    · rintro job difficulty (login | push)
      · exact within.log _ login
      · exact within.log _ push
    · intro distinct share credited
      obtain ⟨job, known, named, atMost⟩ := within.log _ credited
      refine ⟨job, known, named, ?_, atMost⟩
      intro other otherKnown otherNamed
      exact distinct other otherKnown job known (otherNamed.trans named.symm)

theorem sampleFloats_ordered : sampleFloats.Ordered := by
  intro current
  change (2 * (7 * current) + 10) / (2 * 10) ≤ 2 * current
  omega

/-- The share of the worked session for its second job. -/
theorem vardiff_in_bounds_sample :
    sampleFloats.Ordered ∧ DistinctIds (JobStore.new.jobs ++ publishedJobs jobChanges) ∧
      .credit ⟨1, "K", 14000, false⟩ ∈ (sampleRun jobChanges).log ∧
      Vardiff.Serves 10000 sessionCeiling (10 ^ 6) 14000 ∧
      ∃ job ∈ JobStore.new.jobs ++ publishedJobs jobChanges, job.jobId = "K" ∧
        14000 ≤ Nat.max 10000 job.upstreamDiff := by
  have distinct : DistinctIds (JobStore.new.jobs ++ publishedJobs jobChanges) := by
    unfold DistinctIds
    decide +kernel
  have credited : .credit ⟨1, "K", 14000, false⟩ ∈ (sampleRun jobChanges).log := by
    decide +kernel
  have pushed : .pushJob (sampleJob "K") 14000 ∈ (sampleRun jobChanges).log := by
    decide +kernel
  obtain ⟨_, serves, credits⟩ := (vardiff_in_bounds sampleFloats sampleFloats_ordered).2
    sampleProxy.config sampleProxy.checks JobStore.new 0 jobChanges
  obtain ⟨job, known, named, _, atMost⟩ := credits distinct _ credited
  exact ⟨sampleFloats_ordered, distinct, credited, serves _ _ (Or.inr pushed), job, known, named,
    atMost⟩

end CrFaucet.Stratum
