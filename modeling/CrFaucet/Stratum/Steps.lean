import CrFaucet.Stratum.Advertised

/-!
Owns what one step of a served session can come to, said once for the results about
whole runs: `Comes` lists the ways a handler ends, with the session, the messages and
where the job was taken from.

A run can be watched: a watcher keeps a record of its own beside the run and adds to it
at every call of a handler. `Watched.keeps` is the induction rule for such a run.
-/

set_option autoImplicit false

namespace CrFaucet.Stratum

open Interaction
open Token (Address)

/-- A message that neither carries a job nor judges a share. -/
def Effect.Plain (effect : Effect) : Prop := effect.tells = none ∧ effect.judges = none

namespace JobStore

def jobs (store : JobStore) : List UpstreamJob := store.entries.items.map JobEntry.job

theorem current_mem_jobs {store : JobStore} {job : UpstreamJob}
    (current : store.current = some job) : job ∈ store.jobs := by
  obtain ⟨entry, last, rfl⟩ := Option.map_eq_some_iff.1 current
  exact List.mem_map_of_mem (List.mem_of_getLast? last)

theorem jobs_publish {store : JobStore} {now : Nat} {job other : UpstreamJob}
    (member : other ∈ (store.publish now job).jobs) : other = job ∨ other ∈ store.jobs := by
  obtain ⟨kept, suffix, published⟩ := store.publish_items now job
  rw [jobs, published, List.map_append, List.mem_append] at member
  rcases member with old | new
  · obtain ⟨entry, inKept, rfl⟩ := List.mem_map.1 old
    obtain ⟨earlier, known, same | superseded⟩ := mem_modifyLast_supersede (suffix.subset inKept)
    · rw [same]
      exact Or.inr (List.mem_map_of_mem known)
    · rw [superseded, JobEntry.job_supersede]
      exact Or.inr (List.mem_map_of_mem known)
  · exact Or.inl (List.mem_singleton.1 new)

end JobStore

@[simp] theorem JobEntry.job_record (grace now : Nat) (height : Option Nat) (nonceNorm : String)
    (entry : JobEntry) : (entry.record grace now height nonceNorm).1.job = entry.job := by
  unfold JobEntry.record
  split
  · rfl
  · split <;> rfl

namespace JobStore

variable (store : JobStore) (grace now : Nat) (jobId nonce : String)

@[simp] theorem jobs_recordSubmission :
    (store.recordSubmission grace now jobId nonce).1.jobs = store.jobs := by
  rcases store.recordSubmission_cases grace now jobId nonce with
    unknown | ⟨before, entry, after, recorded, items, _, _, changed, outcome⟩
  · rw [unknown]
  · rw [outcome, jobs, jobs, changed, items]
    simp only [List.map_append, List.map_cons, JobEntry.job_record]

variable {store grace now jobId nonce} in
theorem accepted_mem_jobs {job : UpstreamJob}
    (accepted : (store.recordSubmission grace now jobId nonce).2 = .accepted job) :
    job ∈ store.jobs ∧ job.jobId = jobId := by
  rcases store.recordSubmission_cases grace now jobId nonce with
    unknown | ⟨before, entry, after, recorded, items, named, _, _, outcome⟩
  · rw [unknown] at accepted
    cases accepted
  · rw [outcome] at accepted
    have known : entry.job ∈ store.jobs := by
      rw [jobs, items]
      simp
    rcases entry.record_cases grace now store.currentHeight (toAsciiLowercase nonce) with
      ⟨_, stale⟩ | ⟨_, duplicate⟩ | ⟨_, _, isNew⟩
    · rw [stale] at accepted
      cases accepted
    · rw [duplicate] at accepted
      cases accepted
    · rw [isNew] at accepted
      cases accepted
      exact ⟨known, named⟩

end JobStore

/-! ### What a handler comes to -/

/-- The ways a handler ends. `offered` are the jobs it may serve, `draw` is the sampling
draw. -/
inductive Comes (proxy : Proxy) (now : Nat) (session : Session) (store : JobStore)
    (offered : UpstreamJob → Prop) (draw : Bool) : Handled → Prop
  /-- Nothing is served and nothing judged; a login may have named the miner. -/
  | quiet (miner : Option Address) (left : JobStore) (effects : List Effect) (ending : Ending)
      (sameJobs : left.jobs = store.jobs) (plain : ∀ effect ∈ effects, effect.Plain)
      (calm : ending ≠ .panicked) :
      Comes proxy now session store offered draw
        ⟨{ session with miner := miner }, left, effects, ending⟩
  | panicked (miner : Option Address) (job : UpstreamJob) (isOffered : offered job)
      (retargeted : session.servedDiff proxy.floats now job = none) :
      Comes proxy now session store offered draw
        ⟨{ session with miner := miner }, store, [], .panicked⟩
  | served (miner : Option Address) (job : UpstreamJob) (next : Vardiff × Nat) (effect : Effect)
      (isOffered : offered job)
      (retargeted : session.servedDiff proxy.floats now job = some next)
      (carries : effect = .login (some (job, next.2)) ∨ effect = .pushJob job next.2) :
      Comes proxy now session store offered draw
        ⟨{ session with
            miner := miner
            vardiff := next.1
            advertised := noteAdvertised session.advertised job.jobId next.2 },
          store, [effect], .keepOpen⟩
  /-- The share check failed with an error. -/
  | errored (params : SubmitParams) (left : JobStore) (sameJobs : left.jobs = store.jobs) :
      Comes proxy now session store offered draw
        ⟨session, left, [.check params.jobId (session.checkDiff params.jobId)], .failed⟩
  | settled (address : Address) (params : SubmitParams) (job : UpstreamJob) (left : JobStore)
      (outcome : ShareOutcome) (sameJobs : left.jobs = store.jobs) (known : job ∈ store.jobs)
      (named : job.jobId = params.jobId) :
      Comes proxy now session store offered draw
        (session.settle now left address params
          (shouldVerify proxy.config session.verifiedCount draw) outcome)

namespace Session

variable (proxy : Proxy) (now : Nat) (session : Session) (store : JobStore) (draw : Bool)

/-- Nothing but a message that is plain. -/
theorem comes_plain {offered : UpstreamJob → Prop} (left : JobStore) (effect : Effect)
    (sameJobs : left.jobs = store.jobs) (plain : effect.Plain) :
    Comes proxy now session store offered draw ⟨session, left, [effect], .keepOpen⟩ := by
  refine .quiet session.miner left [effect] .keepOpen sameJobs ?_ nofun
  intro other member
  rw [List.mem_singleton.1 member]
  exact plain

theorem comes_nothing {offered : UpstreamJob → Prop} {ending : Ending}
    (calm : ending ≠ .panicked) :
    Comes proxy now session store offered draw ⟨session, store, [], ending⟩ :=
  .quiet session.miner store [] ending rfl nofun calm

theorem handleJob_comes (job : UpstreamJob) :
    Comes proxy now session store (· = job) draw
      (session.handleJob proxy.floats now store job) := by
  unfold handleJob
  split
  · cases retargeted : session.servedDiff proxy.floats now job with
    | none =>
        rw [serve_eq_none retargeted]
        exact .panicked session.miner job rfl retargeted
    | some next =>
        rw [serve_eq_some retargeted]
        exact .served session.miner job next _ rfl retargeted (Or.inr rfl)
  · exact session.comes_nothing proxy now store draw nofun

theorem handleLogin_comes (params : Option (Option Address)) :
    Comes proxy now session store (store.current = some ·) draw
      (session.handleLogin proxy.floats now store params) := by
  cases params with
  | none =>
      have calm : Ending.failed ≠ .panicked := by decide
      exact session.comes_nothing proxy now store draw calm
  | some parsed =>
      cases parsed with
      | none => exact session.comes_plain proxy now store draw store _ rfl ⟨rfl, rfl⟩
      | some address =>
          cases current : store.current with
          | none =>
              have calm : Ending.keepOpen ≠ .panicked := by decide
              simp only [handleLogin, current]
              refine .quiet (some address) store [.login none] .keepOpen rfl ?_ calm
              intro effect member
              rw [List.mem_singleton.1 member]
              exact ⟨rfl, rfl⟩
          | some job =>
              cases retargeted : session.servedDiff proxy.floats now job with
              | none =>
                  rw [handleLogin_eq_panicked address current retargeted]
                  exact .panicked (some address) job rfl retargeted
              | some next =>
                  rw [handleLogin_eq_served address current retargeted]
                  exact .served (some address) job next _ rfl retargeted (Or.inl rfl)

theorem handleSubmit_comes {offered : UpstreamJob → Prop} (params : Option SubmitParams) :
    Comes proxy now session store offered draw
      (session.handleSubmit proxy.config proxy.checks now store draw params) := by
  unfold handleSubmit
  split
  · exact session.comes_plain proxy now store draw store _ rfl ⟨rfl, rfl⟩
  · exact session.comes_nothing proxy now store draw nofun
  · rename_i address named _
    have sameJobs := store.jobs_recordSubmission proxy.config.shareGrace now named.jobId named.nonce
    dsimp only
    split
    · rename_i job accepted
      obtain ⟨known, isNamed⟩ := JobStore.accepted_mem_jobs accepted
      unfold judge
      dsimp only
      split
      · exact .errored named _ sameJobs
      · exact .settled address named job _ _ sameJobs known isNamed
    all_goals exact session.comes_plain proxy now store draw _ _ sameJobs ⟨rfl, rfl⟩

theorem mem_settle_accepted {left : JobStore} {address : Address} {params : SubmitParams}
    {didVerify forwarded : Bool} {effect : Effect}
    (member : effect ∈
      (session.settle now left address params didVerify (.accepted forwarded)).effects) :
    effect = .check params.jobId (session.checkDiff params.jobId) ∨
      effect = .credit ⟨address, params.jobId, session.checkDiff params.jobId, forwarded⟩ ∨
      (forwarded = true ∧ effect = .submitUpstream params.jobId params.nonce params.result) ∨
      effect = .ok := by
  cases forwarded with
  | true | false => simpa [settle] using member

/-- **What a request comes to.** -/
theorem handleRequest_comes (request : Request) :
    Comes proxy now session store (store.current = some ·) draw
      (session.handleRequest proxy.config proxy.floats proxy.checks now store draw request) := by
  cases request with
  | login params => exact session.handleLogin_comes proxy now store draw params
  | submit params => exact session.handleSubmit_comes proxy now store draw params
  | keepalived => exact session.comes_plain proxy now store draw store _ rfl ⟨rfl, rfl⟩
  | unknown => exact session.comes_nothing proxy now store draw nofun

end Session

/-! ### What a happening comes to -/

namespace Happening

/-- The sampling draw; handlers that do not sample ignore it. -/
def draw : Happening → Bool
  | .request draw _ => draw
  | _ => false

end Happening

namespace Served

variable (proxy : Proxy) (served : Served)

/-- The call of a handler that a happening makes, if it makes one. -/
def call : Happening → Option Handled
  | .publish _ => none
  | .otherSubmission _ _ => none
  | .takeJob =>
      if served.ending = .keepOpen then
        served.inbox.pop.map fun taken =>
          served.session.handleJob proxy.floats served.clock served.store taken.1
      else none
  | .request draw request =>
      if served.ending = .keepOpen then
        some (served.session.handleRequest proxy.config proxy.floats proxy.checks served.clock
          served.store draw request)
      else none

/-- The jobs at hand: those of the store and those broadcast. -/
def AtHand (job : UpstreamJob) : Prop := job ∈ served.store.jobs ∨ job ∈ served.inbox.items

end Served

namespace Comes

variable {proxy : Proxy} {now : Nat} {session : Session} {store : JobStore}
  {offered offered' : UpstreamJob → Prop} {draw : Bool} {handled : Handled}

theorem weaken (comes : Comes proxy now session store offered draw handled)
    (implies : ∀ job, offered job → offered' job) :
    Comes proxy now session store offered' draw handled := by
  cases comes with
  | quiet miner left effects ending sameJobs plain calm =>
      exact .quiet miner left effects ending sameJobs plain calm
  | panicked miner job isOffered retargeted =>
      exact .panicked miner job (implies job isOffered) retargeted
  | served miner job next effect isOffered retargeted carries =>
      exact .served miner job next effect (implies job isOffered) retargeted carries
  | errored params left sameJobs => exact .errored params left sameJobs
  | settled address params job left outcome sameJobs known named =>
      exact .settled address params job left outcome sameJobs known named

/-- No handler changes the jobs of the store. -/
theorem jobs (comes : Comes proxy now session store offered draw handled) :
    handled.store.jobs = store.jobs := by
  cases comes with
  | quiet _ _ _ _ sameJobs _ _ => exact sameJobs
  | panicked | served => rfl
  | errored _ _ sameJobs => exact sameJobs
  | settled _ _ _ _ outcome sameJobs _ _ =>
      cases outcome with
      | accepted _ | belowDifficulty | invalidHash | unknownJob | badBlob => exact sameJobs

/-- A handler panics only over a job it cannot serve. -/
theorem calm (comes : Comes proxy now session store offered draw handled)
    (serves : ∀ job, offered job → session.servedDiff proxy.floats now job ≠ none) :
    handled.ending ≠ .panicked := by
  cases comes with
  | quiet _ _ _ _ _ _ calm => exact calm
  | panicked _ job isOffered retargeted => exact absurd retargeted (serves job isOffered)
  | served | errored => nofun
  | settled _ _ _ _ outcome _ _ _ =>
      cases outcome with
      | accepted => nofun
      | belowDifficulty | invalidHash | unknownJob | badBlob =>
          unfold Session.settle
          dsimp only
          split
          · nofun
          · nofun

end Comes

/-- **What a happening comes to**: something outside the session, or one call of a
handler. -/
inductive Occurs (proxy : Proxy) (served : Served) (happening : Happening) (next : Served) : Prop
  | outside (noCall : served.call proxy happening = none)
      (session : next.session = served.session) (ending : next.ending = served.ending)
      (log : next.log = served.log)
      (atHand : ∀ job, next.AtHand job → served.AtHand job ∨ happening = .publish job)
  | called (handled : Handled) (isCall : served.call proxy happening = some handled)
      (comes : Comes proxy served.clock served.session served.store served.AtHand happening.draw
        handled)
      (session : next.session = handled.session) (ending : next.ending = handled.ending)
      (log : next.log = handled.effects.reverse ++ served.log)
      (atHand : ∀ job, next.AtHand job → served.AtHand job)

namespace Served

variable (proxy : Proxy) (served : Served)

theorem publish_occurs (job : UpstreamJob) :
    Occurs proxy served (.publish job) (served.occur proxy (.publish job)) := by
  refine .outside rfl rfl rfl rfl ?_
  rintro other (inStore | broadcast)
  · rcases JobStore.jobs_publish inStore with rfl | known
    · exact Or.inr rfl
    · exact Or.inl (Or.inl known)
  · have room : 0 < broadcastCapacity := by decide
    obtain ⟨kept, suffix, pushed⟩ := served.inbox.push_items room job
    change other ∈ (served.inbox.push job).items at broadcast
    rw [pushed, List.mem_append] at broadcast
    rcases broadcast with old | new
    · exact Or.inl (Or.inr (suffix.subset old))
    · rw [List.mem_singleton.1 new]
      exact Or.inr rfl

theorem takeJob_occurs : Occurs proxy served .takeJob (served.occur proxy .takeJob) := by
  unfold occur
  by_cases isOpen : served.ending = .keepOpen
  · simp only [if_pos isOpen]
    cases popped : served.inbox.pop with
    | none =>
        have noCall : served.call proxy .takeJob = none := by
          rw [call, if_pos isOpen, popped]
          rfl
        rw [takeJob, popped]
        exact .outside noCall rfl rfl rfl fun job known => Or.inl known
    | some taken =>
        obtain ⟨job, rest⟩ := taken
        have items := Ring.pop_items popped
        have isCall : served.call proxy .takeJob =
            some (served.session.handleJob proxy.floats served.clock served.store job) := by
          rw [call, if_pos isOpen, popped]
          rfl
        have comes := served.session.handleJob_comes proxy served.clock served.store false job
        have atHand : served.AtHand job := Or.inr (items ▸ List.mem_cons_self)
        rw [takeJob, popped]
        refine .called _ isCall (comes.weaken fun other same => same ▸ atHand) rfl rfl rfl ?_
        rintro other (inStore | broadcast)
        · exact Or.inl (comes.jobs ▸ inStore)
        · exact Or.inr (items ▸ List.mem_cons_of_mem job broadcast)
  · simp only [if_neg isOpen]
    exact .outside (if_neg isOpen) rfl rfl rfl fun job known => Or.inl known

theorem request_occurs (draw : Bool) (request : Request) :
    Occurs proxy served (.request draw request) (served.occur proxy (.request draw request)) := by
  unfold occur
  by_cases isOpen : served.ending = .keepOpen
  · simp only [if_pos isOpen]
    have comes := served.session.handleRequest_comes proxy served.clock served.store draw request
    refine .called _ (if_pos isOpen)
      (comes.weaken fun job current => Or.inl (JobStore.current_mem_jobs current)) rfl rfl rfl ?_
    rintro other (inStore | broadcast)
    · exact Or.inl (comes.jobs ▸ inStore)
    · exact Or.inr broadcast
  · simp only [if_neg isOpen]
    exact .outside (if_neg isOpen) rfl rfl rfl fun job known => Or.inl known

theorem occurs (happening : Happening) :
    Occurs proxy served happening (served.occur proxy happening) := by
  cases happening with
  | publish job => exact served.publish_occurs proxy job
  | otherSubmission jobId nonce =>
      refine .outside rfl rfl rfl rfl ?_
      rintro job (inStore | broadcast)
      · have sameJobs := served.store.jobs_recordSubmission proxy.config.shareGrace served.clock
          jobId nonce
        exact Or.inl (Or.inl (sameJobs ▸ inStore))
      · exact Or.inl (Or.inr broadcast)
  | takeJob => exact served.takeJob_occurs proxy
  | request draw request => exact served.request_occurs proxy draw request

end Served

/-! ### Watched runs -/

/-- A session and what a watcher has recorded of it. -/
structure Watched (Record : Type) where
  served : Served
  record : Record

namespace Watched

variable {Record : Type} (proxy : Proxy) (note : Session → Bool → Handled → Record → Record)

/-- The watcher sees the session before a call, the draw and what the call came to. -/
def step (watched : Watched Record) (next : Nat × Happening) : Watched Record :=
  let now := watched.served.wait next.1
  { served := now.occur proxy next.2
    record :=
      match now.call proxy next.2 with
      | some handled => note now.session next.2.draw handled watched.record
      | none => watched.record }

theorem served_run (watched : Watched Record) (happenings : List (Nat × Happening)) :
    (run (step proxy note) watched happenings).served =
      run (Served.step proxy) watched.served happenings := by
  induction happenings generalizing watched with
  | nil => rfl
  | cons next rest inductionHypothesis => exact inductionHypothesis (step proxy note watched next)

variable {proxy note}

/-- **The step rule.** What every call keeps, every step keeps. -/
theorem step_keeps {holds : Session → Record → Prop}
    (keeps : ∀ {now session store offered draw handled record},
      Comes proxy now session store offered draw handled → holds session record →
        holds handled.session (note session draw handled record))
    {watched : Watched Record} (before : holds watched.served.session watched.record)
    (next : Nat × Happening) :
    holds (step proxy note watched next).served.session (step proxy note watched next).record := by
  unfold step
  dsimp only
  cases (watched.served.wait next.1).occurs proxy next.2 with
  | outside noCall session _ _ _ =>
      rw [noCall, session]
      exact before
  | called handled isCall comes session _ _ _ =>
      rw [isCall, session]
      exact keeps comes before

/-- **The run rule.** -/
theorem keeps (holds : Session → Record → Prop)
    (keeps : ∀ {now session store offered draw handled record},
      Comes proxy now session store offered draw handled → holds session record →
        holds handled.session (note session draw handled record))
    (watched : Watched Record) (initially : holds watched.served.session watched.record)
    (happenings : List (Nat × Happening)) :
    holds (run (step proxy note) watched happenings).served.session
      (run (step proxy note) watched happenings).record := by
  have admitted : Along (step proxy note) (fun _ _ => True) watched happenings :=
    Along.of_forall_mem _ fun _ _ => trivial
  exact admitted.keeps (fun watched => holds watched.served.session watched.record)
    (fun _ next before _ => step_keeps keeps before next) initially

end Watched

end CrFaucet.Stratum
