import CrFaucet.Stratum.Bounds

/-!
Owns the idle timeout of a miner session: the `select!` loop of `handle_one` with
the time at which each of its turns began.

Every turn makes a new timeout around the read of a line. A turn ends with a line
or with a broadcast job, so the timeout measures the time since either of them was
handled, and not since the last line. The two are the same as long as nothing was
received since that line and its handling took no time; `Traced.calm` follows that
along a run.

The events say when a line is read and when a job is received. A receiver that
lags also skips the push arm until the next line; such a run is one with fewer
receptions here. Does not own the bytes of a line.
-/

set_option autoImplicit false

namespace CrFaucet.Stratum

open Interaction

/-- A session with the time its present turn began and the time a line was last
read. A turn that begins in the future is one whose predecessor is still being
handled. -/
structure SessionLoop where
  served : Served
  turnStart : Nat
  lastRead : Nat

inductive LoopEvent where
  | publish (job : UpstreamJob)
  | otherSubmission (jobId nonce : String)
  /-- A line is read and handled for some time. `none` is a line that is not a
  request. -/
  | line (draw : Bool) (request : Option Request) (busy : Nat)
  /-- A broadcast job is received and handled for some time. -/
  | takeJob (busy : Nat)

def Effect.isPush : Effect → Bool
  | .pushJob _ _ => true
  | _ => false

namespace SessionLoop

section Loop

variable (proxy : Proxy) (idle : Nat) (loop : SessionLoop)

def connect (store : JobStore) (clock : Nat) : SessionLoop where
  served := Served.connect proxy store clock
  turnStart := clock
  lastRead := clock

def isOpen : Bool := loop.served.ending = .keepOpen

def wait (elapsed : Nat) : SessionLoop := { loop with served := loop.served.wait elapsed }

/-- `stratum idle timeout, closing`. -/
def close : SessionLoop := { loop with served := { loop.served with ending := .close } }

/-- The timeout of the present turn has run out. -/
def expire : SessionLoop :=
  if loop.isOpen ∧ loop.turnStart + idle < loop.served.clock then loop.close else loop

/-- The loop waits in `select!`. -/
def selecting : Bool := loop.isOpen ∧ loop.turnStart ≤ loop.served.clock

/-- A line is handled. -/
def answer (draw : Bool) : Option Request → Served
  -- `bad json from miner`
  | none => loop.served
  | some request => loop.served.request proxy draw request

/-- The read arm. A line that is there when the timeout runs out is still read. -/
def readLine (draw : Bool) (request : Option Request) (busy : Nat) : SessionLoop :=
  if loop.selecting then
    { served := loop.answer proxy draw request
      turnStart := loop.served.clock + busy
      lastRead := loop.served.clock }
  else loop

/-- The push arm. It is polled second, so a job that is there when the timeout runs
out is not received. -/
def takeJob (busy : Nat) : SessionLoop :=
  if loop.selecting then
    if loop.turnStart + idle ≤ loop.served.clock then loop.close
    else if loop.served.inbox.items = [] then loop
    else
      { loop with
        served := loop.served.takeJob proxy
        turnStart := loop.served.clock + busy }
  else loop

def occur : LoopEvent → SessionLoop
  | .publish job => { loop with served := loop.served.publish job }
  | .otherSubmission jobId nonce =>
      { loop with served := loop.served.otherSubmission proxy jobId nonce }
  | .line draw request busy => loop.readLine proxy draw request busy
  | .takeJob busy => loop.takeJob proxy idle busy

/-- Time passes, the timeout may run out, and then something happens. -/
def reach (elapsed : Nat) : SessionLoop := (loop.wait elapsed).expire idle

def step (loop : SessionLoop) (next : Nat × LoopEvent) : SessionLoop :=
  (loop.reach idle next.1).occur proxy idle next.2

/-! ### Silence -/

/-- How many jobs were pushed so far. -/
def pushes : Nat := loop.served.log.countP Effect.isPush

/-- A line was read within the timeout. -/
def Heard : Prop := loop.served.clock ≤ loop.lastRead + idle

instance : Decidable (loop.Heard idle) := inferInstanceAs (Decidable (_ ≤ _))

def Pushes (loop : SessionLoop) (next : Nat × LoopEvent) : Prop :=
  loop.pushes < (loop.step proxy idle next).pushes

def PushesWhileHeard (loop : SessionLoop) (next : Nat × LoopEvent) : Prop :=
  loop.Pushes proxy idle next → (loop.reach idle next.1).Heard idle

instance (next : Nat × LoopEvent) : Decidable (loop.PushesWhileHeard proxy idle next) :=
  inferInstanceAs (Decidable (_ < _ → _))

def OpenWhileHeard (loop : SessionLoop) (next : Nat × LoopEvent) : Prop :=
  (loop.reach idle next.1).isOpen → (loop.reach idle next.1).Heard idle

/-- A broadcast job is there for the push arm. -/
def Receives : Prop :=
  loop.selecting ∧ loop.served.clock < loop.turnStart + idle ∧ loop.served.inbox.items ≠ []

instance : Decidable (loop.Receives idle) := inferInstanceAs (Decidable (_ ∧ _ ∧ _))

variable {loop idle} in
theorem Receives.isOpen (receives : loop.Receives idle) : loop.isOpen := by
  have waiting := receives.1
  rw [selecting, decide_eq_true_iff] at waiting
  exact waiting.1

/-- Whether still no job was received since the last line and its handling took no
time, by what happens next. -/
def calmAfter (calm : Bool) : LoopEvent → Bool
  | .line _ _ busy => if loop.selecting then busy == 0 else calm
  | .takeJob _ => if loop.Receives idle then false else calm
  | .publish _ => calm
  | .otherSubmission _ _ => calm

end Loop

/-- A loop, and what the trace says of the time since the last line: `calm` if nothing
was received since then and the line took no time. -/
structure Traced where
  loop : SessionLoop
  calm : Bool

namespace Traced

variable (proxy : Proxy) (idle : Nat)

def connect (store : JobStore) (clock : Nat) : Traced :=
  ⟨SessionLoop.connect proxy store clock, true⟩

def step (traced : Traced) (next : Nat × LoopEvent) : Traced where
  loop := traced.loop.step proxy idle next
  calm := (traced.loop.reach idle next.1).calmAfter idle traced.calm next.2

/-- A job that a logged-in session receives is the first since the last line, and that
line took no time. -/
def ReceivesCalm (traced : Traced) (next : Nat × LoopEvent) : Prop :=
  ∀ busy, next.2 = .takeJob busy → (traced.loop.reach idle next.1).Receives idle →
    traced.loop.served.session.miner.isSome → traced.calm

end Traced

variable {proxy : Proxy} {idle : Nat} {loop : SessionLoop}

/-! ### The timeout -/

theorem clock_le_of_isOpen_expire (stillOpen : (loop.expire idle).isOpen) :
    (loop.expire idle).served.clock ≤ (loop.expire idle).turnStart + idle := by
  unfold expire at stillOpen ⊢
  split
  · rename_i expired
    rw [if_pos expired] at stillOpen
    cases stillOpen
  · rename_i running
    rw [if_neg running] at stillOpen
    exact Nat.le_of_not_lt fun late => running ⟨stillOpen, late⟩

theorem pushes_reach (elapsed : Nat) : (loop.reach idle elapsed).pushes = loop.pushes := by
  unfold reach expire
  split <;> rfl

variable (loop idle) in
theorem reach_turn (elapsed : Nat) :
    (loop.reach idle elapsed).turnStart = loop.turnStart ∧
      (loop.reach idle elapsed).lastRead = loop.lastRead ∧
      (loop.reach idle elapsed).served.session = loop.served.session := by
  unfold reach expire
  split <;> exact ⟨rfl, rfl, rfl⟩

theorem handleRequest_no_push (proxy : Proxy) (session : Session) (now : Nat) (store : JobStore)
    (draw : Bool) (request : Request) :
    ∀ effect ∈ (session.handleRequest proxy.config proxy.floats proxy.checks now store draw
      request).effects, effect.isPush = false := by
  intro effect member
  cases request with
  | login params =>
      rcases session.handleLogin_effects proxy.floats now store params member with
        ⟨_, _, rfl⟩ | ⟨_, rfl⟩
      · rfl
      · rfl
  | submit params =>
      have silent := ((session.handleSubmit_effects proxy.config proxy.checks now store draw
        params).2 effect member).1
      cases effect with
      | pushJob => cases silent
      | _ => rfl
  | keepalived =>
      rw [List.mem_singleton.1 member]
      rfl
  | unknown => cases member

/-- **What pushes a job**: the push arm, of a session that is logged in. -/
theorem receives_of_pushes {next : Nat × LoopEvent} (pushing : loop.Pushes proxy idle next) :
    (∃ busy, next.2 = .takeJob busy) ∧ (loop.reach idle next.1).Receives idle ∧
      loop.served.session.miner.isSome := by
  unfold Pushes step at pushing
  rw [← pushes_reach next.1] at pushing
  rw [← (reach_turn idle loop next.1).2.2]
  obtain ⟨elapsed, event⟩ := next
  dsimp only at pushing ⊢
  generalize loop.reach idle elapsed = reached at pushing ⊢
  cases event with
  | publish job => exact absurd pushing (Nat.lt_irrefl _)
  | otherSubmission jobId nonce => exact absurd pushing (Nat.lt_irrefl _)
  | line draw request busy =>
      refine absurd pushing (Nat.not_lt_of_le ?_)
      rw [occur, readLine]
      split
      · cases request with
        | none => exact Nat.le_refl _
        | some request =>
            have noPush := handleRequest_no_push proxy reached.served.session reached.served.clock
              reached.served.store draw request
            change List.countP _ (List.reverse _ ++ _) ≤ _
            rw [List.countP_append, List.countP_reverse, List.countP_eq_zero.2, Nat.zero_add]
            · exact Nat.le_refl _
            · intro effect member isPush
              rw [noPush effect member] at isPush
              cases isPush
      · exact Nat.le_refl _
  | takeJob busy =>
      refine ⟨⟨busy, rfl⟩, ?_⟩
      rw [occur, takeJob] at pushing
      split at pushing
      · rename_i selecting
        split at pushing
        · exact absurd pushing (Nat.lt_irrefl _)
        · rename_i early
          split at pushing
          · exact absurd pushing (Nat.lt_irrefl _)
          · rename_i ready
            refine ⟨⟨selecting, Nat.not_le.1 early, ready⟩, ?_⟩
            by_contra loggedOut
            refine absurd pushing (Nat.not_lt_of_le ?_)
            dsimp only [pushes, Served.takeJob]
            split
            · exact Nat.le_refl _
            · rw [Session.handleJob, if_neg loggedOut]
              exact Nat.le_refl _
      · exact absurd pushing (Nat.lt_irrefl _)

namespace Traced

variable {traced : Traced}

/-- A calm trace times the silence of the miner. -/
def Timed (traced : Traced) : Prop :=
  traced.calm → traced.loop.turnStart = traced.loop.lastRead

/-- **The step lemma.** -/
theorem Timed.step (timed : traced.Timed) (next : Nat × LoopEvent) :
    (traced.step proxy idle next).Timed := by
  obtain ⟨elapsed, event⟩ := next
  obtain ⟨turnStart, lastRead, _⟩ := reach_turn idle traced.loop elapsed
  have reached : traced.calm → (traced.loop.reach idle elapsed).turnStart =
      (traced.loop.reach idle elapsed).lastRead := by
    rw [turnStart, lastRead]
    exact timed
  unfold Timed Traced.step SessionLoop.step
  dsimp only
  cases event with
  | publish job => exact reached
  | otherSubmission jobId nonce => exact reached
  | line draw request busy =>
      simp only [calmAfter, occur, readLine]
      split
      · intro quick
        have instant : busy = 0 := beq_iff_eq.1 quick
        simp [instant]
      · exact reached
  | takeJob busy =>
      simp only [calmAfter, occur]
      split
      · exact nofun
      · rename_i unreceived
        rw [takeJob]
        split
        · rename_i selecting
          split
          · exact reached
          · rename_i early
            split
            · exact reached
            · rename_i ready
              exact absurd ⟨selecting, Nat.not_le.1 early, ready⟩ unreceived
        · exact reached

/-- While the trace is calm, an open session is one whose miner is heard. -/
theorem Timed.heard (timed : traced.Timed) (calm : traced.calm) (next : Nat × LoopEvent) :
    traced.loop.OpenWhileHeard idle next := by
  intro stillOpen
  obtain ⟨turnStart, lastRead, _⟩ := reach_turn idle traced.loop next.1
  have running := clock_le_of_isOpen_expire stillOpen
  have same := timed calm
  rw [Heard, lastRead, ← same, ← turnStart]
  exact running

end Traced

/-! ### A late push -/

theorem reach_eq_wait {elapsed : Nat}
    (early : loop.served.clock + elapsed ≤ loop.turnStart + idle) :
    loop.reach idle elapsed = loop.wait elapsed := by
  rw [reach, expire, if_neg]
  rintro ⟨-, late⟩
  exact Nat.not_lt_of_le early late

theorem handleJob_eq_pushed {session : Session} {store : JobStore} {now : Nat}
    {job : UpstreamJob} {next : Vardiff × Nat} (loggedIn : session.miner.isSome = true)
    (retargeted : session.servedDiff proxy.floats now job = some next) :
    session.handleJob proxy.floats now store job =
      { session := { session with
          vardiff := next.1
          advertised := noteAdvertised session.advertised job.jobId next.2 }
        store
        effects := [.pushJob job next.2] } := by
  rw [Session.handleJob, if_pos loggedIn, Session.serve_eq_some retargeted]

variable (loop) in
theorem takeJob_pushes {job : UpstreamJob} {rest : Ring broadcastCapacity UpstreamJob}
    (ordered : proxy.floats.Ordered) (isOpen : loop.served.ending = .keepOpen)
    (loggedIn : loop.served.session.miner.isSome = true)
    (popped : loop.served.inbox.pop = some (job, rest))
    (begun : loop.turnStart ≤ loop.served.clock)
    (early : loop.served.clock < loop.turnStart + idle) :
    let after := loop.takeJob proxy idle 0
    after.isOpen ∧ after.served.session.miner.isSome = true ∧ after.served.inbox = rest ∧
      after.turnStart = loop.served.clock ∧ after.served.clock = loop.served.clock ∧
      after.lastRead = loop.lastRead ∧ after.pushes = loop.pushes + 1 := by
  obtain ⟨next, retargeted⟩ := Option.isSome_iff_exists.1
    (Vardiff.retarget_isSome ordered
      (loop.served.session.vardiff.setUpstreamCap job.upstreamDiff) loop.served.clock)
  have selecting : loop.selecting = true := by
    rw [SessionLoop.selecting, decide_eq_true_iff]
    exact ⟨decide_eq_true isOpen, begun⟩
  have ready : loop.served.inbox.items ≠ [] := by
    rw [Ring.pop_items popped]
    exact List.cons_ne_nil _ _
  rw [takeJob, if_pos selecting, if_neg (Nat.not_le_of_lt early), if_neg ready, Served.takeJob,
    popped]
  dsimp only
  rw [handleJob_eq_pushed loggedIn retargeted]
  exact ⟨rfl, loggedIn, rfl, rfl, rfl, rfl, List.countP_cons_of_pos rfl⟩

/-- **A turn that began after the last line leaves room for a late push**: there is a time
at which a waiting job would be pushed to a miner that is not heard any more. -/
theorem pushes_unheard (ordered : proxy.floats.Ordered) (isOpen : loop.served.ending = .keepOpen)
    (loggedIn : loop.served.session.miner.isSome = true) (ready : loop.served.inbox.items ≠ [])
    (timeout : 0 < idle) (early : loop.served.clock < loop.turnStart + idle)
    (later : loop.lastRead + 1 < loop.turnStart) :
    ∃ elapsed, ¬ loop.PushesWhileHeard proxy idle (elapsed, .takeJob 0) := by
  -- just after the miner's own timeout, and not before the turn begins
  let time := max loop.served.clock (max (loop.lastRead + idle + 1) loop.turnStart)
  have notBefore : loop.served.clock ≤ time := Nat.le_max_left _ _
  have unheard : loop.lastRead + idle < time :=
    (Nat.le_max_left _ _).trans (Nat.le_max_right _ _)
  have begun : loop.turnStart ≤ time := (Nat.le_max_right _ _).trans (Nat.le_max_right _ _)
  have inTime : time < loop.turnStart + idle := by
    simp only [time, Nat.max_lt]
    omega
  obtain ⟨elapsed, clock⟩ := Nat.exists_eq_add_of_le notBefore
  rw [clock] at unheard begun inTime
  have reached : loop.reach idle elapsed = loop.wait elapsed := reach_eq_wait inTime.le
  obtain ⟨job, rest, popped⟩ := Ring.exists_pop ready
  refine ⟨elapsed, fun heardIfPushed => ?_⟩
  have pushed := (takeJob_pushes (loop.wait elapsed) ordered isOpen loggedIn popped begun
    inTime).2.2.2.2.2.2
  have pushing : loop.Pushes proxy idle (elapsed, .takeJob 0) := by
    rw [Pushes, step, reached]
    change loop.pushes < ((loop.wait elapsed).takeJob proxy idle 0).pushes
    rw [pushed]
    exact Nat.lt_succ_self _
  have heard := heardIfPushed pushing
  rw [reached] at heard
  exact Nat.not_lt_of_le heard unheard

end SessionLoop

/-! ### The property -/

/-- **When the timeout is about the miner.** In every timed run: while no job was received
since the last line and that line took no time, an open session is one whose miner was
heard within the timeout; if every job received is the first since a line that took no
time, jobs are pushed only to miners that are heard; and wherever the present turn began
later than the last line was read, there is a time at which a job that is waiting would be
pushed to a miner that is not. -/
theorem pushes_only_while_heard (proxy : Proxy) (idle : Nat) (store : JobStore) (clock : Nat)
    (events : List (Nat × LoopEvent)) :
    let start := SessionLoop.Traced.connect proxy store clock
    let along := Along (SessionLoop.Traced.step proxy idle)
    let last := (run (SessionLoop.Traced.step proxy idle) start events).loop
    along (fun traced next => traced.calm → traced.loop.OpenWhileHeard idle next) start events ∧
      (along (SessionLoop.Traced.ReceivesCalm idle) start events →
        along (fun traced next => traced.loop.PushesWhileHeard proxy idle next) start events) ∧
      (proxy.floats.Ordered → 0 < idle → last.served.ending = .keepOpen →
        last.served.session.miner.isSome → last.served.inbox.items ≠ [] →
        last.served.clock < last.turnStart + idle → last.lastRead + 1 < last.turnStart →
        ∃ elapsed, ¬ last.PushesWhileHeard proxy idle (elapsed, .takeJob 0)) := by
  have timed : Along (SessionLoop.Traced.step proxy idle) (fun traced _ => traced.Timed)
      (SessionLoop.Traced.connect proxy store clock) events :=
    Along.of_invariant (fun _ next timed => timed.step next) (fun _ => rfl) events
  refine ⟨?_, ?_, ?_⟩
  · exact timed.weaken fun _ next timed calm => timed.heard calm next
  · intro received
    refine (timed.and received).weaken ?_
    rintro traced next ⟨timed, received⟩ pushing
    obtain ⟨⟨busy, isTake⟩, receives, loggedIn⟩ := SessionLoop.receives_of_pushes pushing
    exact timed.heard (received busy isTake receives loggedIn) next receives.isOpen
  · intro ordered timeout isOpen loggedIn ready early later
    exact SessionLoop.pushes_unheard ordered isOpen loggedIn ready timeout early later

/-- A miner logs in and says no more; the upstream has a new job every 500 s. -/
def silentMiner : List (Nat × LoopEvent) :=
  [(0, .line true (some (.login (some (some 1)))) 0), (500 * 10 ^ 9, .publish (sampleJob "J")),
    (0, .takeJob 0), (500 * 10 ^ 9, .publish (sampleJob "K"))]

/-- With a timeout of 600 s, the second job is pushed 1000 s after the only line. -/
theorem silent_miner_is_pushed_to :
    let before := run (SessionLoop.step sampleProxy (600 * 10 ^ 9))
      (SessionLoop.connect sampleProxy JobStore.new 0) silentMiner
    before.lastRead = 0 ∧ before.served.clock = 1000 * 10 ^ 9 ∧ before.isOpen ∧
      (before.step sampleProxy (600 * 10 ^ 9) (0, .takeJob 0)).served.log.head? =
        some (.pushJob (sampleJob "K") 10000) ∧
      ¬ before.PushesWhileHeard sampleProxy (600 * 10 ^ 9) (0, .takeJob 0) := by
  decide +kernel

end CrFaucet.Stratum
