import CrFaucet.Interaction.Run
import CrFaucet.Stratum.Session

/-!
Owns the difficulty a share is judged at against the difficulty the miner was
told for its job.

One session runs next to the upstream, which publishes jobs, and to other
sessions, which record submissions. What the session told and what it judged are
read off the list of its effects, newest first.

The session remembers sixteen job ids and never changes what it remembers for one
of them; the store accepts submissions for thirty-two. `Consistent` says when
that does no harm.
-/

set_option autoImplicit false

namespace CrFaucet.Stratum

open Interaction

/-! ### Told and judged -/

namespace Effect

/-- The job id and difficulty of a message that carries a job. -/
def tells : Effect → Option (String × Nat)
  | .login (some (job, localDiff)) => some (job.jobId, localDiff)
  | .pushJob job localDiff => some (job.jobId, localDiff)
  | _ => none

/-- The job id and difficulty of a share that is checked or credited. -/
def judges : Effect → Option (String × Nat)
  | .check jobId difficulty => some (jobId, difficulty)
  | .credit share => some (share.jobId, share.difficulty)
  | _ => none

end Effect

def lastTold (jobId : String) : List Effect → Option Nat
  | [] => none
  | effect :: earlier =>
      match effect.tells with
      | some (told, difficulty) => if told = jobId then some difficulty else lastTold jobId earlier
      | none => lastTold jobId earlier

def JudgedAsTold : List Effect → Prop
  | [] => True
  | effect :: earlier =>
      (∀ judged ∈ effect.judges, ∀ told ∈ lastTold judged.1 earlier, judged.2 = told) ∧
        JudgedAsTold earlier

instance decidableJudgedAsTold : ∀ log, Decidable (JudgedAsTold log)
  | [] => isTrue trivial
  | effect :: earlier =>
      @instDecidableAnd (∀ judged ∈ effect.judges, ∀ told ∈ _, _) _ _
        (decidableJudgedAsTold earlier)

/-! ### The system -/

/-- What a run is about: the configuration, and the arithmetic and share checks
the session calls. -/
structure Proxy where
  config : StratumConfig
  floats : Floats
  checks : ShareChecks

/-- The capacity of the broadcast; a receiver that lags loses the oldest jobs. -/
def broadcastCapacity : Nat := 64

/-- The store, the session and the jobs broadcast to it that it has not taken. -/
structure Served where
  store : JobStore
  clock : Nat
  inbox : Ring broadcastCapacity UpstreamJob
  session : Session
  ending : Ending
  log : List Effect

inductive Happening where
  | publish (job : UpstreamJob)
  /-- A submit of another session. -/
  | otherSubmission (jobId nonce : String)
  | takeJob
  /-- A line of the miner, with the sampling draw. -/
  | request (draw : Bool) (request : Request)

namespace Served

variable (proxy : Proxy)

/-- A session that connects to a running proxy. -/
def connect (store : JobStore) (clock : Nat) : Served where
  store := store
  clock := clock
  inbox := .empty
  session := Session.new proxy.config clock
  ending := .keepOpen
  log := []

variable (served : Served)

def wait (elapsed : Nat) : Served := { served with clock := served.clock + elapsed }

def handled (handled : Handled) : Served :=
  { served with
    session := handled.session
    store := handled.store
    ending := handled.ending
    log := handled.effects.reverse ++ served.log }

def publish (job : UpstreamJob) : Served :=
  { served with
    store := served.store.publish served.clock job
    inbox := served.inbox.push job }

def otherSubmission (jobId nonce : String) : Served :=
  { served with
    store := (served.store.recordSubmission proxy.config.shareGrace served.clock jobId nonce).1 }

def takeJob : Served :=
  match served.inbox.pop with
  | none => served
  | some (job, rest) =>
      { served with inbox := rest }.handled
        (served.session.handleJob proxy.floats served.clock served.store job)

def request (draw : Bool) (request : Request) : Served :=
  served.handled (served.session.handleRequest proxy.config proxy.floats proxy.checks served.clock
    served.store draw request)

/-- A session that has ended does nothing any more. -/
def occur : Happening → Served
  | .publish job => served.publish job
  | .otherSubmission jobId nonce => served.otherSubmission proxy jobId nonce
  | .takeJob => if served.ending = .keepOpen then served.takeJob proxy else served
  | .request draw request =>
      if served.ending = .keepOpen then served.request proxy draw request else served

/-- Everything happens some time after what happened before. -/
def step (served : Served) (next : Nat × Happening) : Served :=
  (served.wait next.1).occur proxy next.2

/-- Serving a job leaves the difficulty at what is remembered for its id. -/
def Repeats (job : UpstreamJob) : Prop :=
  ∀ remembered ∈ advertisedDiff served.session.advertised job.jobId,
    ∀ next ∈ served.session.servedDiff proxy.floats served.clock job, next.2 = remembered

/-- A job that was served is remembered, or was last served at the floor. -/
def Remembers (jobId : String) : Prop :=
  (advertisedDiff served.session.advertised jobId).isSome = true ∨
    ∀ told ∈ lastTold jobId served.log, told = served.session.vardiff.min

/-- A job still remembered is served again only at the same difficulty, and a
submit names a job still remembered. -/
def ConsistentNow : Happening → Prop
  | .takeJob => ∀ taken ∈ served.inbox.pop, served.Repeats proxy taken.1
  | .request _ (.login (some (some _))) => ∀ job ∈ served.store.current, served.Repeats proxy job
  | .request _ (.submit (some params)) => served.Remembers params.jobId
  | _ => True

def Consistent (served : Served) (next : Nat × Happening) : Prop :=
  (served.wait next.1).ConsistentNow proxy next.2

instance (job : UpstreamJob) : Decidable (served.Repeats proxy job) :=
  inferInstanceAs (Decidable (∀ remembered ∈ _, ∀ next ∈ _, _))

instance (jobId : String) : Decidable (served.Remembers jobId) :=
  inferInstanceAs (Decidable (_ ∨ ∀ told ∈ _, _))

instance : ∀ happening, Decidable (served.ConsistentNow proxy happening)
  | .publish _ => isTrue trivial
  | .otherSubmission _ _ => isTrue trivial
  | .takeJob => inferInstanceAs (Decidable (∀ taken ∈ served.inbox.pop, _))
  | .request _ (.login (some (some _))) =>
      inferInstanceAs (Decidable (∀ job ∈ served.store.current, _))
  | .request _ (.login (some none)) => isTrue trivial
  | .request _ (.login none) => isTrue trivial
  | .request _ (.submit (some params)) =>
      inferInstanceAs (Decidable (served.Remembers params.jobId))
  | .request _ (.submit none) => isTrue trivial
  | .request _ .keepalived => isTrue trivial
  | .request _ .unknown => isTrue trivial

instance (next : Nat × Happening) : Decidable (Consistent proxy served next) :=
  inferInstanceAs (Decidable ((served.wait next.1).ConsistentNow proxy next.2))

end Served

/-! ### What is remembered -/

theorem advertisedDiff_noteAdvertised {advertised : AdvertisedRing} {jobId other : String}
    {diff remembered : Nat}
    (now : advertisedDiff (noteAdvertised advertised jobId diff) other = some remembered) :
    advertisedDiff advertised other = some remembered ∨ (other = jobId ∧ remembered = diff) := by
  unfold noteAdvertised at now
  split at now
  · exact Or.inl now
  · have room : 0 < advertisedCap := by decide
    obtain ⟨kept, suffix, pushed⟩ := advertised.push_items room (jobId, diff)
    rw [advertisedDiff, pushed, List.reverse_append, List.reverse_singleton,
      List.singleton_append, List.find?_cons] at now
    split at now
    · rename_i same
      cases now
      exact Or.inr ⟨(beq_iff_eq.1 same).symm, rfl⟩
    · obtain ⟨entry, found, rfl⟩ := Option.map_eq_some_iff.1 now
      left
      rw [advertisedDiff, Ring.find?_of_suffix suffix found]
      rfl

/-! ### What the log says -/

section Log

variable {newer log : List Effect}

theorem lastTold_append (silent : ∀ effect ∈ newer, effect.tells = none) (jobId : String) :
    lastTold jobId (newer ++ log) = lastTold jobId log := by
  induction newer with
  | nil => rfl
  | cons effect rest inductionHypothesis =>
      rw [List.cons_append, lastTold, silent effect (List.mem_cons_self ..)]
      apply inductionHypothesis
      intro other member
      exact silent other (List.mem_cons_of_mem _ member)

theorem judgedAsTold_append (silent : ∀ effect ∈ newer, effect.tells = none)
    (fair : ∀ effect ∈ newer, ∀ judged ∈ effect.judges, ∀ told ∈ lastTold judged.1 log,
      judged.2 = told)
    (before : JudgedAsTold log) : JudgedAsTold (newer ++ log) := by
  induction newer with
  | nil => exact before
  | cons effect rest inductionHypothesis =>
      have silentRest : ∀ other ∈ rest, other.tells = none :=
        fun other member => silent other (List.mem_cons_of_mem _ member)
      rw [List.cons_append, JudgedAsTold]
      refine ⟨?_, inductionHypothesis silentRest fun other member =>
        fair other (List.mem_cons_of_mem _ member)⟩
      intro judged judges told last
      rw [lastTold_append silentRest] at last
      exact fair effect (List.mem_cons_self ..) judged judges told last

theorem lastTold_cons {effect : Effect} {jobId : String} {difficulty : Nat}
    (tells : effect.tells = some (jobId, difficulty)) (other : String) :
    lastTold other (effect :: log) =
      if jobId = other then some difficulty else lastTold other log := by
  rw [lastTold, tells]

end Log

/-! ### The handlers -/

namespace Session

variable (config : StratumConfig) (floats : Floats) (checks : ShareChecks) (now : Nat)
  (session : Session) (store : JobStore)

variable {floats now session} in
theorem serve_eq_none {job : UpstreamJob}
    (retargeted : session.servedDiff floats now job = none) :
    session.serve floats now job = none := by
  rw [serve, retargeted]
  rfl

variable {floats now session} in
theorem serve_eq_some {job : UpstreamJob} {next : Vardiff × Nat}
    (retargeted : session.servedDiff floats now job = some next) :
    session.serve floats now job = some ({ session with
      vardiff := next.1
      advertised := noteAdvertised session.advertised job.jobId next.2 }, next.2) := by
  rw [serve, retargeted]
  rfl

variable {floats now session store} in
theorem handleLogin_eq_panicked {job : UpstreamJob} (address : Token.Address)
    (current : store.current = some job)
    (retargeted : session.servedDiff floats now job = none) :
    session.handleLogin floats now store (some (some address)) =
      { session := { session with miner := some address }, store, ending := .panicked } := by
  have panics : serve floats now { session with miner := some address } job = none :=
    serve_eq_none retargeted
  simp only [handleLogin, current, panics]

variable {floats now session store} in
theorem handleLogin_eq_served {job : UpstreamJob} {next : Vardiff × Nat}
    (address : Token.Address) (current : store.current = some job)
    (retargeted : session.servedDiff floats now job = some next) :
    session.handleLogin floats now store (some (some address)) =
      { session := { session with
          miner := some address
          vardiff := next.1
          advertised := noteAdvertised session.advertised job.jobId next.2 }
        store
        effects := [.login (some (job, next.2))] } := by
  have serves : serve floats now { session with miner := some address } job =
      some (_, next.2) := serve_eq_some retargeted
  simp only [handleLogin, current, serves]

theorem handleLogin_effects (params : Option (Option Token.Address)) {effect : Effect}
    (member : effect ∈ (session.handleLogin floats now store params).effects) :
    (∃ code message, effect = .error code message) ∨ ∃ job, effect = .login job := by
  unfold handleLogin at member
  split at member
  · cases member
  · exact Or.inl ⟨_, _, List.mem_singleton.1 member⟩
  · dsimp only at member
    split at member
    · exact Or.inr ⟨_, List.mem_singleton.1 member⟩
    · split at member
      · cases member
      · exact Or.inr ⟨_, List.mem_singleton.1 member⟩

theorem error_silent {code : Int} {message : String} {fits : String × Nat → Prop} :
    ∀ effect ∈ [Effect.error code message],
      effect.tells = none ∧ ∀ judged ∈ effect.judges, fits judged := by
  intro effect member
  rw [List.mem_singleton.1 member]
  exact ⟨rfl, nofun⟩

theorem settle_effects (address : Token.Address) (params : SubmitParams)
    (didVerify : Bool) (outcome : ShareOutcome) :
    let handled := session.settle now store address params didVerify outcome
    handled.session.advertised = session.advertised ∧
      ∀ effect ∈ handled.effects, effect.tells = none ∧
        ∀ judged ∈ effect.judges, judged = (params.jobId, session.checkDiff params.jobId) := by
  cases outcome with
  | accepted forwarded =>
      refine ⟨rfl, ?_⟩
      cases forwarded <;> simp [settle, Effect.tells, Effect.judges]
  | belowDifficulty | invalidHash | unknownJob | badBlob =>
      refine ⟨rfl, ?_⟩
      simp [settle, Effect.tells, Effect.judges]

/-- **A submit tells nothing and judges one share at one difficulty.** -/
theorem handleSubmit_effects (draw : Bool) (params : Option SubmitParams) :
    let handled := session.handleSubmit config checks now store draw params
    handled.session.advertised = session.advertised ∧
      ∀ effect ∈ handled.effects, effect.tells = none ∧
        ∀ judged ∈ effect.judges, ∃ named ∈ params,
          judged = (named.jobId, session.checkDiff named.jobId) := by
  unfold handleSubmit
  split
  · exact ⟨rfl, error_silent⟩
  · exact ⟨rfl, nofun⟩
  · rename_i address named _
    dsimp only
    split
    · unfold judge
      dsimp only
      split
      · refine ⟨rfl, ?_⟩
        simp [Effect.tells, Effect.judges]
      · rename_i outcome _
        obtain ⟨same, effects⟩ := session.settle_effects now
          (store.recordSubmission config.shareGrace now named.jobId named.nonce).1 address named
          (shouldVerify config session.verifiedCount draw) outcome
        refine ⟨same, fun effect member => ⟨(effects effect member).1, ?_⟩⟩
        intro judged judges
        exact ⟨named, rfl, (effects effect member).2 judged judges⟩
    all_goals exact ⟨rfl, error_silent⟩

end Session

/-! ### The invariant -/

/-- What is remembered is what was last told, and every share so far was judged at
what was last told. -/
structure Truthful (served : Served) : Prop where
  remembered : ∀ jobId difficulty,
    advertisedDiff served.session.advertised jobId = some difficulty →
      lastTold jobId served.log = some difficulty
  judged : JudgedAsTold served.log

namespace Truthful

variable {proxy : Proxy} {served : Served}

theorem connect (proxy : Proxy) (store : JobStore) (clock : Nat) :
    Truthful (Served.connect proxy store clock) :=
  ⟨nofun, trivial⟩

/-- A handler that serves a job. -/
theorem serve {job : UpstreamJob} {next : Vardiff × Nat} {handled : Handled} {effect : Effect}
    (truthful : Truthful served) (repeats : served.Repeats proxy job)
    (retargeted : served.session.servedDiff proxy.floats served.clock job = some next)
    (advertised : handled.session.advertised =
      noteAdvertised served.session.advertised job.jobId next.2)
    (effects : handled.effects = [effect])
    (tells : effect.tells = some (job.jobId, next.2)) (judges : effect.judges = none) :
    Truthful (served.handled handled) := by
  constructor
  · intro other remembered now
    rw [Served.handled, advertised] at now
    rw [Served.handled, effects, List.reverse_singleton, List.singleton_append,
      lastTold_cons tells]
    rcases advertisedDiff_noteAdvertised now with before | ⟨rfl, rfl⟩
    · by_cases same : job.jobId = other
      · subst same
        rw [if_pos rfl, repeats remembered before next retargeted]
      · rw [if_neg same]
        exact truthful.remembered other remembered before
    · rw [if_pos rfl]
  · rw [Served.handled, effects, List.reverse_singleton, List.singleton_append, JudgedAsTold,
      judges]
    exact ⟨nofun, truthful.judged⟩

/-- A handler that tells nothing and judges as told. -/
theorem quiet {handled : Handled} (truthful : Truthful served)
    (advertised : handled.session.advertised = served.session.advertised)
    (silent : ∀ effect ∈ handled.effects, effect.tells = none)
    (fair : ∀ effect ∈ handled.effects, ∀ judged ∈ effect.judges,
      ∀ told ∈ lastTold judged.1 served.log, judged.2 = told) :
    Truthful (served.handled handled) := by
  have silentLog : ∀ effect ∈ handled.effects.reverse, effect.tells = none :=
    fun effect member => silent effect (List.mem_reverse.1 member)
  constructor
  · intro jobId difficulty remembered
    rw [Served.handled, advertised] at remembered
    rw [Served.handled, lastTold_append silentLog]
    exact truthful.remembered jobId difficulty remembered
  · apply judgedAsTold_append silentLog _ truthful.judged
    intro effect member
    exact fair effect (List.mem_reverse.1 member)

theorem nothing {handled : Handled} (truthful : Truthful served)
    (advertised : handled.session.advertised = served.session.advertised)
    (none : handled.effects = []) : Truthful (served.handled handled) := by
  apply truthful.quiet advertised
  · intro effect member
    rw [none] at member
    cases member
  · intro effect member
    rw [none] at member
    cases member

theorem login (truthful : Truthful served) (params : Option (Option Token.Address))
    (repeats : ∀ address, params = some (some address) →
      ∀ job ∈ served.store.current, served.Repeats proxy job) :
    Truthful (served.handled
      (served.session.handleLogin proxy.floats served.clock served.store params)) := by
  match params with
  | none => exact truthful.nothing rfl rfl
  | some none =>
      apply truthful.quiet rfl <;> simp [Session.handleLogin, Effect.tells, Effect.judges]
  | some (some address) =>
      cases current : served.store.current with
      | none =>
          simp only [Session.handleLogin, current]
          apply truthful.quiet rfl <;> simp [Effect.tells, Effect.judges]
      | some job =>
          cases retargeted : served.session.servedDiff proxy.floats served.clock job with
          | none =>
              rw [Session.handleLogin_eq_panicked address current retargeted]
              exact truthful.nothing rfl rfl
          | some next =>
              rw [Session.handleLogin_eq_served address current retargeted]
              exact truthful.serve (repeats address rfl job current) retargeted rfl rfl rfl rfl

theorem takeJob (truthful : Truthful served)
    (repeats : ∀ taken ∈ served.inbox.pop, served.Repeats proxy taken.1) :
    Truthful (served.takeJob proxy) := by
  unfold Served.takeJob
  split
  · exact truthful
  · rename_i job rest inbox
    have repeatsJob : served.Repeats proxy job := repeats (job, rest) inbox
    have taken : Truthful { served with inbox := rest } :=
      ⟨truthful.remembered, truthful.judged⟩
    unfold Session.handleJob
    split
    · cases retargeted : served.session.servedDiff proxy.floats served.clock job with
      | none =>
          rw [Session.serve_eq_none retargeted]
          exact taken.nothing rfl rfl
      | some next =>
          rw [Session.serve_eq_some retargeted]
          exact taken.serve repeatsJob retargeted rfl rfl rfl rfl
    · exact taken.nothing rfl rfl

theorem submit (truthful : Truthful served) (draw : Bool) (params : Option SubmitParams)
    (remembers : ∀ named ∈ params, served.Remembers named.jobId) :
    Truthful (served.handled (served.session.handleSubmit proxy.config proxy.checks served.clock
      served.store draw params)) := by
  obtain ⟨advertised, effects⟩ := served.session.handleSubmit_effects proxy.config proxy.checks
    served.clock served.store draw params
  apply truthful.quiet advertised fun effect member => (effects effect member).1
  intro effect member judged judges told last
  obtain ⟨named, present, rfl⟩ := (effects effect member).2 judged judges
  dsimp only at last ⊢
  unfold Session.checkDiff
  cases known : advertisedDiff served.session.advertised named.jobId with
  | some difficulty =>
      have truth := truthful.remembered named.jobId difficulty known
      rw [truth] at last
      exact Option.some.inj last
  | none =>
      rcases remembers named present with remembered | atFloor
      · rw [known] at remembered
        cases remembered
      · exact (atFloor told last).symm

theorem request (truthful : Truthful served) (draw : Bool) (request : Request)
    (consistent : served.ConsistentNow proxy (.request draw request)) :
    Truthful (served.request proxy draw request) := by
  unfold Served.request Session.handleRequest
  cases request with
  | login params =>
      apply truthful.login params
      rintro address rfl
      exact consistent
  | submit params =>
      apply truthful.submit draw params
      rintro named present
      cases present
      exact consistent
  | keepalived =>
      apply truthful.quiet rfl <;> simp [Effect.tells, Effect.judges]
  | unknown => exact truthful.nothing rfl rfl

theorem wait (truthful : Truthful served) (elapsed : Nat) : Truthful (served.wait elapsed) :=
  ⟨truthful.remembered, truthful.judged⟩

theorem occur (truthful : Truthful served) {happening : Happening}
    (consistent : served.ConsistentNow proxy happening) :
    Truthful (served.occur proxy happening) := by
  cases happening with
  | publish job => exact ⟨truthful.remembered, truthful.judged⟩
  | otherSubmission jobId nonce => exact ⟨truthful.remembered, truthful.judged⟩
  | takeJob =>
      unfold Served.occur
      dsimp only
      split
      · exact truthful.takeJob consistent
      · exact truthful
  | request draw request =>
      unfold Served.occur
      dsimp only
      split
      · exact truthful.request draw request consistent
      · exact truthful

end Truthful

/-- **Shares are judged as told**, in every run of a session that serves a job it
remembers only at the remembered difficulty and gets submits only for jobs it
remembers. The session may connect at any time and to any store. -/
theorem judged_as_told (proxy : Proxy) (store : JobStore) (clock : Nat)
    (happenings : List (Nat × Happening))
    (consistent : Along (Served.step proxy) (Served.Consistent proxy)
      (Served.connect proxy store clock) happenings) :
    JudgedAsTold (run (Served.step proxy) (Served.connect proxy store clock) happenings).log := by
  have truthful := consistent.keeps Truthful
    (fun served next truthful consistent => (truthful.wait next.1).occur consistent)
    (Truthful.connect proxy store clock)
  exact truthful.judged

/-! ### A worked session -/

def roundDiv (dividend divisor : Nat) : Nat := (2 * dividend + divisor) / (2 * divisor)

/-- A target of 20 s a share and the default variance and factors. -/
def sampleFloats : Floats where
  idle gap := 26 * 10 ^ 9 < gap
  inBand window := 14 * 10 ^ 9 * window.length ≤ window.sum ∧
    window.sum ≤ 26 * 10 ^ 9 * window.length
  raw window current := roundDiv (20 * 10 ^ 9 * window.length * current) window.sum
  hi current := 2 * current
  lo current := roundDiv (7 * current) 10

/-- The hash of every share has difficulty 15000. -/
def sampleCheck (difficulty : Nat) : ShareOutcome :=
  if difficulty ≤ 15000 then .accepted false else .belowDifficulty

def sampleProxy : Proxy where
  config := {
    minShareDifficulty := 10000
    shareGrace := 60 * 10 ^ 9
    verificationWarmup := 5
    vardiffSampleSize := 16 }
  floats := sampleFloats
  checks := {
    verifyShare := fun _ difficulty _ _ => some (sampleCheck difficulty)
    acceptClaimedResult := fun _ difficulty _ _ => some (sampleCheck difficulty) }

def sampleJob (jobId : String) : UpstreamJob where
  jobId := jobId
  blobHex := String.ofList (List.replicate 152 '0')
  seedHex := String.ofList (List.replicate 64 'a')
  upstreamTargetHex := "ffffffff"
  upstreamDiff := 10 ^ 6
  height := some 100

def sampleRun (happenings : List (Nat × Happening)) : Served :=
  run (Served.step sampleProxy) (Served.connect sampleProxy JobStore.new 0) happenings

/-- A minute after the login the upstream, reconnecting, resends its job. The miner
is told a lower difficulty and meets it, and is turned away. -/
def jobResent : List (Nat × Happening) :=
  [(0, .publish (sampleJob "J")), (0, .takeJob), (0, .request true (.login (some (some 1)))),
    (60 * 10 ^ 9, .publish (sampleJob "J")), (0, .takeJob),
    (0, .request true (.submit (some ⟨"J", "00000001", ""⟩)))]

/-- The upstream rolls every second. After sixteen further jobs the session has
forgotten the first, which is still within its grace window. -/
def jobsRoll : List (Nat × Happening) :=
  [(0, .publish (sampleJob "J")), (0, .takeJob), (0, .request true (.login (some (some 1))))] ++
    (List.range 16).flatMap (fun roll =>
      [(10 ^ 9, .publish (sampleJob (String.ofList (List.replicate (roll + 1) 'K')))),
        (0, .takeJob)]) ++
    [(0, .request true (.submit (some ⟨"J", "00000001", ""⟩)))]

theorem judged_not_as_told :
    (sampleRun jobResent).log =
        [.error (-5) "below local difficulty", .check "J" 20000, .pushJob (sampleJob "J") 14000,
          .login (some (sampleJob "J", 20000))] ∧
      ¬ JudgedAsTold (sampleRun jobResent).log ∧
      lastTold "J" (sampleRun jobsRoll).log = some 20000 ∧
      .check "J" 10000 ∈ (sampleRun jobsRoll).log ∧
      ¬ JudgedAsTold (sampleRun jobsRoll).log := by
  decide +kernel

/-- A new job lowers the difficulty; the old one is still judged as it was told. -/
def jobChanges : List (Nat × Happening) :=
  [(0, .publish (sampleJob "J")), (0, .takeJob), (0, .request true (.login (some (some 1)))),
    (60 * 10 ^ 9, .publish (sampleJob "K")), (0, .takeJob),
    (0, .request true (.submit (some ⟨"K", "00000001", ""⟩))),
    (10 ^ 9, .request true (.submit (some ⟨"J", "00000002", ""⟩)))]

theorem judged_as_told_changes :
    (.check "K" 14000 ∈ (sampleRun jobChanges).log ∧
      .check "J" 20000 ∈ (sampleRun jobChanges).log) ∧
      JudgedAsTold (sampleRun jobChanges).log :=
  ⟨by decide +kernel, judged_as_told sampleProxy JobStore.new 0 jobChanges (by decide +kernel)⟩

end CrFaucet.Stratum
