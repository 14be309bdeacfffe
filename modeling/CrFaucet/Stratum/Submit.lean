import CrFaucet.Interaction.Pool
import CrFaucet.Stratum.Replay
import CrFaucet.Stratum.Session

/-!
Owns submits that are handled side by side: any number of sessions whose submit
handlers interleave at their awaits, against one job store.

`submit` is the handler of `Stratum.Session` command by command, with the replies the
outside may give: a share check that fails, a sink that does not take the credit, a
connection that is gone. Alone and with replies that succeed it is that handler.

Each thread handles one request in some state of its session; a restart is the next
one. What is known about the request at hand is its `Submission`.
-/

set_option autoImplicit false

namespace CrFaucet.Stratum

open Interaction
open Token (Address)

inductive Response where
  | ok
  | error (code : Int) (message : String)
deriving DecidableEq

inductive SubmitCommand where
  | recordSubmission (jobId nonce : String)
  /-- The draw of `should_verify`. -/
  | draw
  /-- `verify_share`, or `accept_claimed_result` if not `verify`. -/
  | check (verify : Bool) (job : UpstreamJob) (jobId : String) (difficulty : Nat)
      (nonce result : String)
  | now
  | credit (share : ShareAccepted)
  | submitUpstream (jobId nonce result : String)
  | respond (response : Response)

/-- `check` is `none` when the verifier or its task fails; `credit` and `respond` tell
whether they succeeded. -/
abbrev SubmitReply : SubmitCommand → Type
  | .recordSubmission _ _ => SubmissionOutcome
  | .draw => Bool
  | .check _ _ _ _ _ _ => Option ShareOutcome
  | .now => Nat
  | .credit _ => Bool
  | .submitUpstream _ _ _ => Unit
  | .respond _ => Bool

abbrev Handler (Result : Type) := Program SubmitCommand SubmitReply Result

def send (command : SubmitCommand) : Handler (SubmitReply command) := Program.call command

export Interaction.Program (obeys_call)

/-! ### The handler -/

/-- `write_line(wr, &resp).await?`, and how the session goes on after it. -/
def respond (session : Session) (response : Response) (ending : Ending) :
    Handler (Session × Ending) := do
  let written ← send (.respond response)
  return (session, if written then ending else .failed)

/-- An accepted share: credited, forwarded, answered. -/
def settleAccepted (session : Session) (address : Address) (params : SubmitParams)
    (didVerify forwarded : Bool) : Handler (Session × Ending) := do
  let now ← send .now
  let settled : Session := { session with
    verifiedCount :=
      if didVerify then Nat.min (session.verifiedCount + 1) (2 ^ 32 - 1)
      else session.verifiedCount
    vardiff := session.vardiff.onShare now }
  -- A sink that fails is only logged.
  let _ ← send (.credit {
    miner := address
    jobId := params.jobId
    difficulty := session.checkDiff params.jobId
    forwardedUpstream := forwarded })
  if forwarded then do
    let _ ← send (.submitUpstream params.jobId params.nonce params.result)
    respond settled .ok .keepOpen
  else respond settled .ok .keepOpen

def settleRejected (session : Session) (didVerify : Bool) (outcome : ShareOutcome) :
    Handler (Session × Ending) :=
  let kick := didVerify && session.verifiedCount == 0 && Session.kicks outcome
  respond { session with verifiedCount := 0 }
    (.error (Session.rejection outcome).1 (Session.rejection outcome).2)
    (if kick then .close else .keepOpen)

/-- From the reply of the share check on. -/
def settleChecked (session : Session) (address : Address) (params : SubmitParams)
    (didVerify : Bool) : Option ShareOutcome → Handler (Session × Ending)
  | none => return (session, .failed)
  | some (.accepted forwarded) => settleAccepted session address params didVerify forwarded
  | some outcome => settleRejected session didVerify outcome

def judgeShare (config : StratumConfig) (session : Session) (address : Address)
    (params : SubmitParams) (job : UpstreamJob) : Handler (Session × Ending) := do
  let draw ← send .draw
  let didVerify := shouldVerify config session.verifiedCount draw
  let checked ← send (.check didVerify job params.jobId (session.checkDiff params.jobId)
    params.nonce params.result)
  settleChecked session address params didVerify checked

def submit (config : StratumConfig) (session : Session) (params : Option SubmitParams) :
    Handler (Session × Ending) :=
  match session.miner, params with
  | none, _ => respond session (.error (-2) "not logged in") .keepOpen
  | some _, none => return (session, .failed)
  | some address, some params => do
      match ← send (.recordSubmission params.jobId params.nonce) with
      | .accepted job => judgeShare config session address params job
      | .duplicate => respond session (.error (-3) "duplicate share") .keepOpen
      | .unknownJob => respond session (.error (-4) "unknown job") .keepOpen
      | .stale => respond session (.error (-8) "stale share") .keepOpen

/-! ### The handler alone -/

/-- The store and the effects of one handler, at one time. -/
structure Alone where
  store : JobStore
  effects : List Effect

def Response.effect : Response → Effect
  | .ok => .ok
  | .error code message => .error code message

/-- The outside of `Session.handleSubmit`: nothing fails but the share checks. -/
def execAlone (config : StratumConfig) (checks : ShareChecks) (now : Nat) (draw : Bool)
    (alone : Alone) : (command : SubmitCommand) → Unit → Alone × SubmitReply command
  | .recordSubmission jobId nonce, _ =>
      let recorded := alone.store.recordSubmission config.shareGrace now jobId nonce
      ({ alone with store := recorded.1 }, recorded.2)
  | .draw, _ => (alone, draw)
  | .check verify job jobId difficulty nonce result, _ =>
      ({ alone with effects := alone.effects ++ [.check jobId difficulty] },
        if verify then checks.verifyShare job difficulty nonce result
        else checks.acceptClaimedResult job difficulty nonce result)
  | .now, _ => (alone, now)
  | .credit share, _ => ({ alone with effects := alone.effects ++ [.credit share] }, true)
  | .submitUpstream jobId nonce result, _ =>
      ({ alone with effects := alone.effects ++ [.submitUpstream jobId nonce result] }, ())
  | .respond response, _ => ({ alone with effects := alone.effects ++ [response.effect] }, true)

section Alone

variable (config : StratumConfig) (checks : ShareChecks) (now : Nat) (draw : Bool)
  (session : Session) (store : JobStore)

theorem settleChecked_alone (address : Address) (params : SubmitParams) (didVerify : Bool)
    (checked : Option ShareOutcome) :
    (settleChecked session address params didVerify checked).drive
        (execAlone config checks now draw)
        ⟨store, [.check params.jobId (session.checkDiff params.jobId)]⟩ (List.replicate 4 ()) =
      (let handled : Handled := match checked with
        | none =>
            { session, store, ending := .failed
              effects := [.check params.jobId (session.checkDiff params.jobId)] }
        | some outcome => session.settle now store address params didVerify outcome
       (⟨handled.store, handled.effects⟩, some (handled.session, handled.ending))) := by
  cases checked with
  | none => rfl
  | some outcome =>
      cases outcome with
      | accepted forwarded => cases forwarded <;> rfl
      | _ => rfl

/-- **Alone, the handler is `Session.handleSubmit`.** -/
theorem submit_alone (params : Option SubmitParams) :
    (submit config session params).drive (execAlone config checks now draw) ⟨store, []⟩
        (List.replicate 7 ()) =
      (let handled := session.handleSubmit config checks now store draw params
       (⟨handled.store, handled.effects⟩, some (handled.session, handled.ending))) := by
  unfold submit Session.handleSubmit
  cases session.miner with
  | none => rfl
  | some address =>
      cases params with
      | none => rfl
      | some params =>
          simp only [send, Program.call_bind, Program.drive, List.replicate, execAlone]
          cases (store.recordSubmission config.shareGrace now params.jobId params.nonce).2 with
          | accepted job =>
              exact settleChecked_alone config checks now draw session _ address params _ _
          | _ => rfl

end Alone

/-! ### Submits side by side -/

/-- What is known about the submit a thread handles. -/
structure Submission where
  recorded : Option (String × String × SubmissionOutcome) := none
  /-- The reply of the share check. -/
  checked : Option (Option ShareOutcome) := none
  /-- The sink took the share. -/
  credited : Bool := false
  responses : List Response := []
deriving DecidableEq

namespace Submission

/-- The share was checked and accepted. -/
def Accepted (submission : Submission) : Prop :=
  ∃ forwarded, submission.checked = some (some (.accepted forwarded))

/-- The store answered `Duplicate`. -/
def IsDuplicate (submission : Submission) : Prop :=
  ∃ jobId nonce, submission.recorded = some (jobId, nonce, .duplicate)

def Unanswered (submission : Submission) : Prop := submission.responses = []

/-- When a response may be sent. -/
def Answers (submission : Submission) : Response → Prop
  | .ok => submission.Accepted
  | .error code _ => submission.credited = false ∧ (code = -3 → submission.IsDuplicate)

end Submission

/-- Nothing is asked of the outside after the answer but to send it. -/
def submission : Discipline SubmitCommand SubmitReply Submission where
  start := {}
  permits stage
    | .recordSubmission _ _ => stage = {}
    | .check _ _ _ _ _ _ => stage.credited = false ∧ stage.Unanswered
    | .credit _ => stage.Accepted ∧ stage.Unanswered
    | .respond response => stage.Answers response ∧ stage.Unanswered
    | _ => True
  after stage
    | .recordSubmission jobId nonce, outcome =>
        { stage with recorded := some (jobId, nonce, outcome) }
    | .check _ _ _ _ _ _, outcome => { stage with checked := some outcome }
    | .credit _, taken => { stage with credited := taken }
    | .respond response, _ => { stage with responses := stage.responses ++ [response] }
    | _, _ => stage

section Walk

variable {stage : Submission}

theorem respond_obeys (session : Session) {response : Response} (ending : Ending)
    (answers : stage.Answers response) (unanswered : stage.Unanswered) :
    (respond session response ending).Obeys submission stage fun _ _ => True :=
  obeys_call (And.intro answers unanswered) fun _ => trivial

theorem settleAccepted_obeys (session : Session) (address : Address) (params : SubmitParams)
    (didVerify forwarded : Bool) (accepted : stage.Accepted) (unanswered : stage.Unanswered) :
    (settleAccepted session address params didVerify forwarded).Obeys submission stage
      fun _ _ => True := by
  apply obeys_call trivial
  intro now
  apply obeys_call (And.intro accepted unanswered)
  intro taken
  cases forwarded with
  | false => exact respond_obeys _ _ accepted unanswered
  | true =>
      apply obeys_call trivial
      intro _
      exact respond_obeys _ _ accepted unanswered

theorem rejection_ne_duplicate (outcome : ShareOutcome) :
    (Session.rejection outcome).1 ≠ -3 := by
  cases outcome with
  | accepted forwarded => exact (by decide : (0 : Int) ≠ -3)
  | _ => decide

theorem settleChecked_obeys (session : Session) (address : Address) (params : SubmitParams)
    (didVerify : Bool) {checked : Option ShareOutcome} (known : stage.checked = some checked)
    (uncredited : stage.credited = false) (unanswered : stage.Unanswered) :
    (settleChecked session address params didVerify checked).Obeys submission stage
      fun _ _ => True := by
  have rejects : ∀ outcome : ShareOutcome,
      (settleRejected session didVerify outcome).Obeys submission stage fun _ _ => True := by
    intro outcome
    apply respond_obeys _ _ _ unanswered
    exact ⟨uncredited, fun isThree => absurd isThree (rejection_ne_duplicate outcome)⟩
  cases checked with
  | none => trivial
  | some outcome =>
      cases outcome with
      | accepted forwarded =>
          exact settleAccepted_obeys session address params didVerify forwarded ⟨_, known⟩
            unanswered
      | _ => exact rejects _

theorem submit_obeys (config : StratumConfig) (session : Session) (params : Option SubmitParams) :
    (submit config session params).Obeys submission {} fun _ _ => True := by
  unfold submit
  cases session.miner with
  | none => exact respond_obeys _ _ ⟨rfl, fun isThree => absurd isThree (by decide)⟩ rfl
  | some address =>
      cases params with
      | none => trivial
      | some params =>
          apply obeys_call rfl
          intro outcome
          cases outcome with
          | accepted job =>
              apply obeys_call trivial
              intro draw
              apply obeys_call (And.intro rfl rfl)
              intro checked
              exact settleChecked_obeys session address params _ rfl rfl rfl
          | duplicate => exact respond_obeys _ _ ⟨rfl, fun _ => ⟨_, _, rfl⟩⟩ rfl
          | unknownJob =>
              exact respond_obeys _ _ ⟨rfl, fun isThree => absurd isThree (by decide)⟩ rfl
          | stale => exact respond_obeys _ _ ⟨rfl, fun isThree => absurd isThree (by decide)⟩ rfl

end Walk

/-- Everything the outside decides about one command, `elapsed` after the one before. -/
structure SubmitAnswer where
  elapsed : Nat := 0
  draw : Bool := false
  checked : Option ShareOutcome := none
  credited : Bool := true
  written : Bool := true

def execSubmit (grace : Nat) (traffic : Traffic) :
    (command : SubmitCommand) → SubmitAnswer → Traffic × SubmitReply command
  | .recordSubmission jobId nonce, answer =>
      let traffic := traffic.wait answer.elapsed
      (traffic.recordSubmission grace jobId nonce,
        (traffic.store.recordSubmission grace traffic.clock jobId nonce).2)
  | .draw, answer => (traffic.wait answer.elapsed, answer.draw)
  | .check _ _ _ _ _ _, answer => (traffic.wait answer.elapsed, answer.checked)
  | .now, answer => (traffic.wait answer.elapsed, traffic.clock + answer.elapsed)
  | .credit _, answer => (traffic.wait answer.elapsed, answer.credited)
  | .submitUpstream _ _ _, answer => (traffic.wait answer.elapsed, ())
  | .respond _, answer => (traffic.wait answer.elapsed, answer.written)

structure Publication where
  elapsed : Nat
  job : UpstreamJob

/-- Each thread handles one submit, in whatever state its session is then. -/
def stratum {Thread : Type} (config : StratumConfig)
    (requests : Thread → Session × Option SubmitParams) :
    Machine Thread Traffic SubmitCommand SubmitReply SubmitAnswer Publication where
  exec := fun _ traffic command answer => some (execSubmit config.shareGrace traffic command answer)
  event := fun traffic publication => (traffic.wait publication.elapsed).publish publication.job
  abandon := fun _ traffic => traffic
  main := fun thread => do
    let _ ← submit config (requests thread).1 (requests thread).2
    return ()

/-! ### What the store remembers -/

namespace Traffic

/-- Every nonce an entry holds was accepted under its id. -/
def Registered (traffic : Traffic) : Prop :=
  ∀ entry ∈ traffic.store.entries.items, ∀ nonce ∈ entry.seenNonces,
    (entry.job.jobId, nonce) ∈ traffic.accepted

variable {traffic : Traffic}

theorem Registered.publish (registered : traffic.Registered) (job : UpstreamJob) :
    (traffic.publish job).Registered := by
  obtain ⟨kept, suffix, published⟩ := traffic.store.publish_items traffic.clock job
  intro entry member
  have inRing : entry ∈ (traffic.store.publish traffic.clock job).entries.items := member
  rw [published, List.mem_append] at inRing
  rcases inRing with inKept | isNew
  · obtain ⟨earlier, inStore, same | superseded⟩ :=
      JobStore.mem_modifyLast_supersede (suffix.subset inKept)
    · rw [same]
      exact registered earlier inStore
    · rw [superseded, JobEntry.job_supersede, JobEntry.seenNonces_supersede]
      exact registered earlier inStore
  · rw [List.mem_singleton.1 isNew]
    intro nonce absent
    cases absent

theorem accepted_subset (traffic : Traffic) (grace : Nat) (jobId nonce : String) :
    traffic.accepted ⊆ (traffic.recordSubmission grace jobId nonce).accepted := by
  intro pair member
  unfold recordSubmission
  dsimp only
  split
  · exact List.mem_cons_of_mem _ member
  · exact member

theorem Registered.recordSubmission (registered : traffic.Registered) (grace : Nat)
    (jobId nonce : String) : (traffic.recordSubmission grace jobId nonce).Registered := by
  have grows := traffic.accepted_subset grace jobId nonce
  unfold Traffic.recordSubmission at grows ⊢
  rcases traffic.store.recordSubmission_cases grace traffic.clock jobId nonce with
    unknown | ⟨before, entry, after, store, split, rfl, _, changed, recorded⟩
  · rw [unknown]
    exact registered
  · rw [recorded] at grows ⊢
    intro other member
    dsimp only at member
    rw [changed, List.mem_append, List.mem_cons] at member
    have inStore : ∀ other ∈ traffic.store.entries.items, ∀ nonce ∈ other.seenNonces, _ :=
      fun other member nonce seen => grows (registered other member nonce seen)
    rw [split] at inStore
    rcases member with inBefore | rfl | inAfter
    · exact inStore other (List.mem_append_left _ inBefore)
    · have kept := inStore entry (List.mem_append_right _ List.mem_cons_self)
      rcases entry.record_cases grace traffic.clock traffic.store.currentHeight
          (toAsciiLowercase nonce) with
        ⟨_, answered⟩ | ⟨_, answered⟩ | ⟨_, _, answered⟩
      · rw [answered]
        intro nonce absent
        cases absent
      · rw [answered] at kept ⊢
        exact kept
      · rw [answered] at kept ⊢
        intro seen member
        rcases Finset.mem_insert.1 member with rfl | already
        · exact List.mem_cons_self
        · exact kept seen already
    · exact inStore other (List.mem_append_right _ (List.mem_cons_of_mem _ inAfter))

/-- **A duplicate was accepted before.** -/
theorem Registered.mem_of_duplicate (registered : traffic.Registered) {grace now : Nat}
    {jobId nonce : String}
    (duplicate : (traffic.store.recordSubmission grace now jobId nonce).2 = .duplicate) :
    (jobId, toAsciiLowercase nonce) ∈ traffic.accepted := by
  rcases traffic.store.recordSubmission_cases grace now jobId nonce with
    unknown | ⟨before, entry, after, store, split, rfl, _, _, recorded⟩
  · rw [unknown] at duplicate
    cases duplicate
  · rw [recorded] at duplicate
    rcases entry.record_cases grace now traffic.store.currentHeight (toAsciiLowercase nonce) with
      ⟨_, answered⟩ | ⟨seen, _⟩ | ⟨_, _, answered⟩
    · rw [answered] at duplicate
      cases duplicate
    · apply registered entry _ _ seen
      rw [split]
      exact List.mem_append_right _ List.mem_cons_self
    · rw [answered] at duplicate
      cases duplicate

end Traffic

/-! ### What an answer says -/

/-- What a submission says is so: only accepted shares are credited, every response
was one it may send, and a duplicate is a pair accepted before. -/
structure Submission.Truthful (accepted : List (String × String)) (submission : Submission) :
    Prop where
  credited : submission.credited = true → submission.Accepted
  answered : ∀ response ∈ submission.responses, submission.Answers response
  duplicate : ∀ jobId nonce, submission.recorded = some (jobId, nonce, .duplicate) →
    (jobId, toAsciiLowercase nonce) ∈ accepted

namespace Submission.Truthful

variable {accepted : List (String × String)} {stage : Submission}

theorem start (accepted : List (String × String)) : Truthful accepted {} :=
  ⟨nofun, nofun, nofun⟩

theorem mono {later : List (String × String)} (truthful : Truthful accepted stage)
    (grows : accepted ⊆ later) : Truthful later stage :=
  ⟨truthful.credited, truthful.answered,
    fun jobId nonce recorded => grows (truthful.duplicate jobId nonce recorded)⟩

/-- A submission that has not answered yet has only two things to say. -/
theorem of_unanswered (unanswered : stage.Unanswered)
    (credited : stage.credited = true → stage.Accepted)
    (duplicate : ∀ jobId nonce, stage.recorded = some (jobId, nonce, .duplicate) →
      (jobId, toAsciiLowercase nonce) ∈ accepted) : Truthful accepted stage := by
  refine ⟨credited, ?_, duplicate⟩
  intro response sent
  rw [unanswered] at sent
  cases sent

theorem respond {response : Response} (truthful : Truthful accepted stage)
    (answers : stage.Answers response) (unanswered : stage.Unanswered) :
    Truthful accepted { stage with responses := stage.responses ++ [response] } := by
  refine ⟨truthful.credited, ?_, truthful.duplicate⟩
  intro sent member
  dsimp only at member
  rw [unanswered, List.nil_append, List.mem_singleton] at member
  rw [member]
  cases response with
  | ok => exact answers
  | error code message => exact answers

end Submission.Truthful

theorem execSubmit_keeps {traffic : Traffic} (registered : traffic.Registered) (grace : Nat)
    (command : SubmitCommand) (answer : SubmitAnswer) :
    (execSubmit grace traffic command answer).1.Registered ∧
      traffic.accepted ⊆ (execSubmit grace traffic command answer).1.accepted := by
  cases command with
  | recordSubmission jobId nonce =>
      have waited : (traffic.wait answer.elapsed).Registered := registered
      exact ⟨waited.recordSubmission grace jobId nonce,
        (traffic.wait answer.elapsed).accepted_subset grace jobId nonce⟩
  | _ => exact ⟨registered, List.Subset.refl _⟩

/-- **The step lemma**: a permitted command leaves a truthful submission. -/
theorem Submission.Truthful.step {traffic : Traffic} {stage : Submission}
    (registered : traffic.Registered) (truthful : stage.Truthful traffic.accepted) (grace : Nat)
    {command : SubmitCommand} (permitted : submission.permits stage command)
    (answer : SubmitAnswer) :
    (submission.after stage command (execSubmit grace traffic command answer).2).Truthful
      (execSubmit grace traffic command answer).1.accepted := by
  have kept := truthful.mono (execSubmit_keeps registered grace command answer).2
  cases command with
  | recordSubmission jobId nonce =>
      have fresh : stage = {} := permitted
      subst fresh
      apply of_unanswered
      · rfl
      · intro credited
        cases credited
      · intro recordedId recordedNonce recorded
        simp only [submission, Option.some.injEq, Prod.mk.injEq] at recorded
        obtain ⟨rfl, rfl, duplicate⟩ := recorded
        have waited : (traffic.wait answer.elapsed).Registered := registered
        exact (execSubmit_keeps registered grace (.recordSubmission jobId nonce) answer).2
          (waited.mem_of_duplicate duplicate)
  | check verify job jobId difficulty nonce result =>
      apply of_unanswered
      · exact permitted.2
      · intro credited
        exact absurd credited (Bool.eq_false_iff.1 permitted.1)
      · exact kept.duplicate
  | credit share =>
      apply of_unanswered
      · exact permitted.2
      · exact fun _ => permitted.1
      · exact kept.duplicate
  | respond response => exact kept.respond permitted.1 permitted.2
  | draw => exact kept
  | now => exact kept
  | submitUpstream jobId nonce result => exact kept

section Runs

variable {Thread : Type} [DecidableEq Thread]

theorem truthful_invariant (config : StratumConfig)
    (requests : Thread → Session × Option SubmitParams) :
    Invariant (stratum config requests) submission (fun _ _ => True)
      (fun traffic stages => traffic.Registered ∧
        ∀ thread, (stages thread).Truthful traffic.accepted) where
  step := by
    intro pool thread answer command next traffic reply code permitted answered _ now
    have same : execSubmit config.shareGrace pool.world command answer = (traffic, reply) :=
      Option.some.inj answered
    have kept := execSubmit_keeps now.1 config.shareGrace command answer
    have own := Submission.Truthful.step now.1 (now.2 thread) config.shareGrace permitted answer
    rw [same] at kept own
    refine ⟨kept.1, (Function.forall_update_iff _ _).2 ⟨own, ?_⟩⟩
    intro other _
    exact (now.2 other).mono kept.2
  restart := by
    intro pool thread _ now
    refine ⟨now.1, (Function.forall_update_iff _ _).2 ⟨Submission.Truthful.start _, ?_⟩⟩
    intro other _
    exact now.2 other
  event := by
    intro pool publication _ now
    have waited : (pool.world.wait publication.elapsed).Registered := now.1
    exact ⟨waited.publish publication.job, now.2⟩

/-- **What an answer says about a submit.** In every run of any number of submits and
publishes, a credited submit is never answered with an error, one whose share was not
checked and accepted is neither credited nor answered OK, and a duplicate is answered
only for a pair that a submit before it claimed. -/
theorem submit_answers_say (config : StratumConfig)
    (requests : Thread → Session × Option SubmitParams)
    (actions : List (Action Thread SubmitAnswer Publication)) (thread : Thread) :
    let pool := run (Pool.move (stratum config requests) submission)
      (Pool.initial (stratum config requests) submission Traffic.start) actions
    let submit := pool.stage thread
    (submit.credited = true → ∀ response ∈ submit.responses, response = .ok) ∧
      (¬ submit.Accepted → submit.credited = false ∧ Response.ok ∉ submit.responses) ∧
      ∀ message, Response.error (-3) message ∈ submit.responses →
        ∃ jobId nonce, submit.recorded = some (jobId, nonce, .duplicate) ∧
          (jobId, toAsciiLowercase nonce) ∈ pool.world.accepted := by
  intro pool submit
  have mains : ∀ thread, ((stratum config requests).main thread).Obeys submission
      submission.start fun _ _ => True := by
    intro thread
    exact (submit_obeys config _ _).bind fun _ _ _ => trivial
  have along : Along (Pool.move (stratum config requests) submission) (fun _ _ => True)
      (Pool.initial (stratum config requests) submission Traffic.start) actions :=
    Along.of_forall_mem _ fun _ _ => trivial
  have truthful := (truthful_invariant config requests).run mains
    (Pool.initial_disciplined Traffic.start mains) along
    ⟨nofun, fun _ => Submission.Truthful.start _⟩
  have own : submit.Truthful pool.world.accepted := truthful.2 thread
  refine ⟨?_, ?_, ?_⟩
  · intro credited response sent
    cases response with
    | ok => rfl
    | error code message =>
        have uncredited := (own.answered _ sent).1
        rw [credited] at uncredited
        cases uncredited
  · intro unaccepted
    refine ⟨Bool.eq_false_iff.2 fun credited => unaccepted (own.credited credited), ?_⟩
    intro sent
    exact unaccepted (own.answered _ sent)
  · intro message sent
    obtain ⟨jobId, nonce, recorded⟩ := (own.answered _ sent).2 rfl
    exact ⟨jobId, nonce, recorded, own.duplicate jobId nonce recorded⟩

end Runs

/-! ### A rejected share keeps its pair -/

def sampleConfig : StratumConfig where
  minShareDifficulty := 1000
  shareGrace := 10 ^ 9
  verificationWarmup := 3
  vardiffSampleSize := 30

/-- Two sessions that are logged in submit the same pair. -/
def samePair : Machine Bool Traffic SubmitCommand SubmitReply SubmitAnswer Publication :=
  stratum sampleConfig fun second =>
    ({ Session.new sampleConfig 0 with miner := some (if second then 2 else 1) },
      some { jobId := "J", nonce := "deadbeef", result := "00" })

/-- The share of the first session is below its difficulty; then the other one
submits, with a share that would be accepted. -/
def rejectedThenValid : List (Action Bool SubmitAnswer Publication) :=
  [.event ⟨0, jobAt "J" (some 100)⟩] ++
    List.replicate 4 (.step false { checked := some .belowDifficulty }) ++
    List.replicate 7 (.step true { checked := some (.accepted false) })

theorem rejected_pair_answers_duplicate :
    let pool := run (Pool.move samePair submission)
      (Pool.initial samePair submission Traffic.start) rejectedThenValid
    (pool.stage false).responses = [.error (-5) "below local difficulty"] ∧
      (pool.stage false).credited = false ∧
      (pool.stage true).responses = [.error (-3) "duplicate share"] ∧
      (pool.stage true).credited = false := by
  decide

end CrFaucet.Stratum
