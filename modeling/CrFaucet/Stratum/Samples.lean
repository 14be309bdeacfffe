import CrFaucet.Stratum.Steps

/-!
Owns what the window of the difficulty controller is made of: which difficulty the share
behind each interval was judged at.

A watcher writes that difficulty beside every interval as it enters the window, and drops
what the controller drops; `Sampled.tagged` says that it keeps step. The controller
clears its window whenever its difficulty changes, but a share is judged at the
difficulty of its own job.
-/

set_option autoImplicit false

namespace CrFaucet.Stratum

open Interaction

/-- An interval, and the difficulty its share was judged at. -/
abbrev Sample := Nat × Nat

def creditedAt (effects : List Effect) : Option Nat :=
  effects.findSome? fun effect =>
    match effect with
    | .credit share => some share.difficulty
    | _ => none

def noteSample (_ : Session) (_ : Bool) (handled : Handled) (samples : List Sample) :
    List Sample :=
  let window := handled.session.vardiff.intervals.items
  match creditedAt handled.effects, window.getLast? with
  | some difficulty, some interval =>
      Ring.trim handled.session.vardiff.sampleSize (samples ++ [(interval, difficulty)])
  | _, _ => if window.isEmpty then [] else samples

/-- Every interval of the window is of a share judged at the present difficulty. -/
def Unmixed (session : Session) (samples : List Sample) : Prop :=
  ∀ sample ∈ samples, sample.2 = session.vardiff.current

/-- The shares a handler credits are judged at the present difficulty. -/
def CreditsAtCurrent (session : Session) (handled : Handled) : Prop :=
  ∀ share, .credit share ∈ handled.effects → share.difficulty = session.vardiff.current

namespace Served

variable (proxy : Proxy) (served : Served)

def checkOf (draw : Bool) (params : SubmitParams) (job : UpstreamJob) : Option ShareOutcome :=
  let checkDiff := served.session.checkDiff params.jobId
  if shouldVerify proxy.config served.session.verifiedCount draw then
    proxy.checks.verifyShare job checkDiff params.nonce params.result
  else proxy.checks.acceptClaimedResult job checkDiff params.nonce params.result

/-- The share of a submit will be accepted: the session is open and logged in, the store
takes the nonce for a job it knows, and the check passes. -/
def Accepts (draw : Bool) (params : SubmitParams) : Prop :=
  served.ending = .keepOpen ∧ served.session.miner.isSome ∧
    ∃ job, (served.store.recordSubmission proxy.config.shareGrace served.clock params.jobId
        params.nonce).2 = .accepted job ∧
      ∃ forwarded, served.checkOf proxy draw params job = some (.accepted forwarded)

/-- A submit whose share will be accepted names a job the ring remembers at the present
difficulty; a forgotten job counts as remembered at the floor. -/
def NamesCurrent : Happening → Prop
  | .request draw (.submit (some params)) => served.Accepts proxy draw params →
      (advertisedDiff served.session.advertised params.jobId).getD served.session.vardiff.min =
        served.session.vardiff.current
  | _ => True

end Served

/-! ### Which shares are credited -/

section Credits

variable {proxy : Proxy} {served : Served}

theorem creditsAtCurrent_of_none {session : Session} {handled : Handled}
    (noCredit : creditedAt handled.effects = none) : CreditsAtCurrent session handled := by
  intro share credited
  have absent := List.findSome?_eq_none_iff.1 noCredit _ credited
  cases absent

theorem credits_error (session : Session) (store : JobStore) (code : Int) (message : String) :
    CreditsAtCurrent session { session, store, effects := [.error code message] } :=
  creditsAtCurrent_of_none rfl

theorem handleJob_credits (session : Session) (floats : Floats) (now : Nat) (store : JobStore)
    (job : UpstreamJob) : CreditsAtCurrent session (session.handleJob floats now store job) := by
  intro share credited
  unfold Session.handleJob at credited
  split at credited
  · split at credited
    · cases credited
    · cases List.mem_singleton.1 credited
  · cases credited

theorem handleLogin_credits (session : Session) (floats : Floats) (now : Nat) (store : JobStore)
    (params : Option (Option Token.Address)) :
    CreditsAtCurrent session (session.handleLogin floats now store params) := by
  intro share credited
  rcases session.handleLogin_effects floats now store params credited with
    ⟨_, _, same⟩ | ⟨_, same⟩
  · cases same
  · cases same

theorem settle_credits (session : Session) (now : Nat) (store : JobStore)
    (address : Token.Address) (params : SubmitParams) (didVerify : Bool)
    (outcome : ShareOutcome) :
    CreditsAtCurrent session (session.settle now store address params didVerify outcome) ↔
      ((∃ forwarded, outcome = .accepted forwarded) →
        session.checkDiff params.jobId = session.vardiff.current) := by
  cases outcome with
  | accepted forwarded =>
      constructor
      · intro atCurrent _
        exact atCurrent ⟨address, params.jobId, session.checkDiff params.jobId, forwarded⟩
          (List.mem_cons_of_mem _ List.mem_cons_self)
      · intro atCurrent share credited
        rcases session.mem_settle_accepted now credited with same | same | ⟨_, same⟩ | same
        · cases same
        · cases same
          exact atCurrent ⟨forwarded, rfl⟩
        · cases same
        · cases same
  | belowDifficulty | invalidHash | unknownJob | badBlob =>
      refine iff_of_true ?_ nofun
      intro share credited
      rcases List.mem_cons.1 credited with same | credited
      · cases same
      · cases List.mem_singleton.1 credited

/-- A submit credits a share exactly if it accepts one, and then at the difficulty the
ring remembers. -/
theorem submit_credits (isOpen : served.ending = .keepOpen) (draw : Bool)
    (params : SubmitParams) :
    CreditsAtCurrent served.session (served.session.handleSubmit proxy.config proxy.checks
        served.clock served.store draw (some params)) ↔
      served.NamesCurrent proxy (.request draw (.submit (some params))) := by
  unfold Served.NamesCurrent Served.Accepts Session.handleSubmit
  cases miner : served.session.miner with
  | none =>
      refine iff_of_true (credits_error served.session _ _ _) ?_
      rintro ⟨_, loggedIn, _⟩
      cases loggedIn
  | some address =>
      dsimp only
      cases recorded : (served.store.recordSubmission proxy.config.shareGrace served.clock
          params.jobId params.nonce).2 with
      | accepted job =>
          have judged : CreditsAtCurrent served.session (served.session.judge proxy.config
              proxy.checks served.clock (served.store.recordSubmission proxy.config.shareGrace
                served.clock params.jobId params.nonce).1 address params draw job) ↔
              ((∃ forwarded, served.checkOf proxy draw params job = some (.accepted forwarded)) →
                served.session.checkDiff params.jobId = served.session.vardiff.current) := by
            unfold Session.judge Served.checkOf
            dsimp only
            generalize (if shouldVerify _ _ draw then _ else _ : Option ShareOutcome) = checked
            cases checked with
            | none =>
                refine iff_of_true (creditsAtCurrent_of_none rfl) ?_
                rintro ⟨_, accepted⟩
                cases accepted
            | some outcome =>
                simp only [settle_credits, Option.some.injEq]
          refine judged.trans ⟨?_, ?_⟩
          · rintro atCurrent ⟨_, _, other, same, accepted⟩
            cases same
            exact atCurrent accepted
          · intro atCurrent accepted
            exact atCurrent ⟨isOpen, rfl, job, rfl, accepted⟩
      | duplicate | unknownJob | stale =>
          refine iff_of_true (credits_error served.session _ _ _) ?_
          rintro ⟨_, _, _, accepted, _⟩
          cases accepted

/-- **What a happening credits**, from the state before it. -/
theorem credits_iff (happening : Happening) :
    (∀ handled ∈ served.call proxy happening, CreditsAtCurrent served.session handled) ↔
      served.NamesCurrent proxy happening := by
  have unserved : ∀ handled ∈ (none : Option Handled),
      CreditsAtCurrent served.session handled := by
    intro handled called
    cases called
  cases happening with
  | publish | otherSubmission => exact iff_of_true unserved trivial
  | takeJob =>
      refine iff_of_true ?_ trivial
      intro handled called
      simp only [Served.call] at called
      split at called
      · obtain ⟨taken, _, rfl⟩ := Option.map_eq_some_iff.1 called
        exact handleJob_credits _ _ _ _ _
      · cases called
  | request draw request =>
      by_cases isOpen : served.ending = .keepOpen
      · simp only [Served.call, if_pos isOpen, Option.mem_some_iff, forall_eq']
        cases request with
        | login params => exact iff_of_true (handleLogin_credits _ _ _ _ params) trivial
        | submit params =>
            cases params with
            | none =>
                refine iff_of_true ?_ trivial
                unfold Session.handleRequest Session.handleSubmit
                cases served.session.miner with
                | none => exact credits_error served.session _ _ _
                | some _ => exact creditsAtCurrent_of_none rfl
            | some params => exact submit_credits isOpen draw params
        | keepalived | unknown => exact iff_of_true (creditsAtCurrent_of_none rfl) trivial
      · have closed : served.call proxy (.request draw request) = none := if_neg isOpen
        rw [closed]
        refine iff_of_true unserved ?_
        unfold Served.NamesCurrent
        split
        · rintro ⟨open', _⟩
          exact absurd open' isOpen
        · trivial

end Credits

/-! ### The window -/

namespace Vardiff

variable {floats : Floats} {vardiff : Vardiff}

/-- The window is cleared, or neither it nor the difficulty changes. -/
structure Windowed (vardiff next : Vardiff) : Prop where
  sampleSize : next.sampleSize = vardiff.sampleSize
  lastSubmit : vardiff.lastSubmit.isSome = true → next.lastSubmit.isSome = true
  window : next.intervals.items = [] ∨
    (next.intervals.items = vardiff.intervals.items ∧ next.current = vardiff.current)

theorem setUpstreamCap_windowed (vardiff : Vardiff) (upstreamDiff : Nat) :
    Windowed vardiff (vardiff.setUpstreamCap upstreamDiff) ∧
      (vardiff.setUpstreamCap upstreamDiff).current ≤
        (vardiff.setUpstreamCap upstreamDiff).effectiveMax := by
  unfold setUpstreamCap
  dsimp only
  split
  · exact ⟨⟨rfl, id, Or.inl rfl⟩, Nat.le_refl _⟩
  · rename_i notAbove
    exact ⟨⟨rfl, id, Or.inr ⟨rfl, rfl⟩⟩, Nat.not_lt.1 notAbove⟩

/-- A retarget lowers a difficulty above the ceiling without clearing the window, but
none is after `set_upstream_cap`. -/
theorem retarget_windowed {now : Nat} {next : Vardiff × Nat}
    (below : vardiff.current ≤ vardiff.effectiveMax)
    (retargeted : vardiff.retarget floats now = some next) : Windowed vardiff next.1 := by
  have honored : Nat.min vardiff.current vardiff.effectiveMax = vardiff.current :=
    Nat.min_eq_left below
  unfold retarget retargetWithGap at retargeted
  dsimp only at retargeted
  split at retargeted
  · cases retargeted
    exact ⟨rfl, id, Or.inr ⟨rfl, honored⟩⟩
  · split at retargeted
    · cases retargeted
      exact ⟨rfl, id, Or.inr ⟨rfl, honored⟩⟩
    · obtain ⟨new, _, rfl⟩ := Option.map_eq_some_iff.1 retargeted
      split
      · refine ⟨rfl, ?_, Or.inl rfl⟩
        intro known
        dsimp only
        split
        · rfl
        · exact known
      · exact ⟨rfl, id, Or.inr ⟨rfl, honored⟩⟩

theorem Windowed.trans {first second third : Vardiff} (before : Windowed first second)
    (after : Windowed second third) : Windowed first third := by
  refine ⟨after.sampleSize.trans before.sampleSize,
    fun known => after.lastSubmit (before.lastSubmit known), ?_⟩
  rcases after.window with cleared | ⟨sameWindow, sameCurrent⟩
  · exact Or.inl cleared
  · rcases before.window with cleared | ⟨earlierWindow, earlierCurrent⟩
    · exact Or.inl (sameWindow.trans cleared)
    · exact Or.inr ⟨sameWindow.trans earlierWindow, sameCurrent.trans earlierCurrent⟩

end Vardiff

theorem Session.servedDiff_windowed {floats : Floats} {now : Nat} {session : Session}
    {job : UpstreamJob} {next : Vardiff × Nat}
    (retargeted : session.servedDiff floats now job = some next) :
    Vardiff.Windowed session.vardiff next.1 := by
  obtain ⟨capped, below⟩ := session.vardiff.setUpstreamCap_windowed job.upstreamDiff
  exact capped.trans (Vardiff.retarget_windowed below retargeted)

/-! ### The samples -/

/-- The watcher keeps step with the window. -/
structure Sampled (session : Session) (samples : List Sample) : Prop where
  tagged : samples.map Prod.fst = session.vardiff.intervals.items
  room : 0 < session.vardiff.sampleSize
  lastSubmit : session.vardiff.lastSubmit.isSome = true

namespace Sampled

variable {session : Session} {samples : List Sample} {draw : Bool} {handled : Handled}

theorem noteSample_eq (noCredit : creditedAt handled.effects = none) :
    noteSample session draw handled samples =
      if handled.session.vardiff.intervals.items.isEmpty then [] else samples := by
  rw [noteSample, noCredit]

theorem uncredited (sampled : Sampled session samples)
    (noCredit : creditedAt handled.effects = none)
    (windowed : Vardiff.Windowed session.vardiff handled.session.vardiff) :
    Sampled handled.session (noteSample session draw handled samples) ∧
      (Unmixed session samples → Unmixed handled.session
        (noteSample session draw handled samples)) := by
  have room : 0 < handled.session.vardiff.sampleSize := windowed.sampleSize ▸ sampled.room
  have lastSubmit := windowed.lastSubmit sampled.lastSubmit
  rw [noteSample_eq noCredit]
  by_cases empty : handled.session.vardiff.intervals.items = []
  · rw [empty]
    exact ⟨⟨empty.symm, room, lastSubmit⟩, fun _ => nofun⟩
  · have notEmpty : handled.session.vardiff.intervals.items.isEmpty = false :=
      List.isEmpty_eq_false_iff.2 empty
    rw [notEmpty]
    rcases windowed.window with cleared | ⟨sameWindow, sameCurrent⟩
    · exact absurd cleared empty
    · refine ⟨⟨sampled.tagged.trans sameWindow.symm, room, lastSubmit⟩, ?_⟩
      intro unmixed sample member
      exact (unmixed sample member).trans sameCurrent.symm

theorem onShare_items (vardiff : Vardiff) (now prev : Nat)
    (known : vardiff.lastSubmit = some prev) :
    (vardiff.onShare now).intervals.items = Ring.trim vardiff.sampleSize
        (vardiff.intervals.items ++ [Nat.max (now - prev) (10 ^ 6)]) ∧
      (vardiff.onShare now).sampleSize = vardiff.sampleSize ∧
      (vardiff.onShare now).current = vardiff.current ∧
      (vardiff.onShare now).lastSubmit = some now := by
  obtain ⟨current, min, max, upstreamCap, lastSubmit, sampleSize, intervals⟩ := vardiff
  subst known
  exact ⟨rfl, rfl, rfl, rfl⟩

theorem credited (sampled : Sampled session samples) {now : Nat} {store : JobStore}
    {address : Token.Address} {params : SubmitParams} {didVerify forwarded : Bool} :
    let handled := session.settle now store address params didVerify (.accepted forwarded)
    Sampled handled.session (noteSample session draw handled samples) ∧
      (Unmixed session samples → (Unmixed handled.session (noteSample session draw handled samples) ↔
        session.checkDiff params.jobId = session.vardiff.current)) := by
  obtain ⟨prev, known⟩ := Option.isSome_iff_exists.1 sampled.lastSubmit
  obtain ⟨items, sameSize, sameCurrent, lastSubmit⟩ := onShare_items session.vardiff now prev known
  generalize interval : Nat.max (now - prev) (10 ^ 6) = newest at items
  obtain ⟨kept, _, window⟩ := Ring.trim_append_singleton sampled.room
    session.vardiff.intervals.items newest
  obtain ⟨keptSamples, suffix, trimmed⟩ := Ring.trim_append_singleton sampled.room samples
    (newest, session.checkDiff params.jobId)
  have last : (session.vardiff.onShare now).intervals.items.getLast? = some newest := by
    rw [items, window, List.getLast?_append]
    rfl
  have noted : noteSample session draw
      (session.settle now store address params didVerify (.accepted forwarded)) samples =
        Ring.trim session.vardiff.sampleSize
          (samples ++ [(newest, session.checkDiff params.jobId)]) := by
    have isCredited : creditedAt (session.settle now store address params didVerify
        (.accepted forwarded)).effects = some (session.checkDiff params.jobId) := rfl
    have lastSettled : (session.settle now store address params didVerify
        (.accepted forwarded)).session.vardiff.intervals.items.getLast? = some newest := last
    rw [noteSample, isCredited, lastSettled]
    exact congrArg (fun size => Ring.trim size _) sameSize
  dsimp only
  rw [noted]
  refine ⟨⟨?_, ?_, ?_⟩, ?_⟩
  · rw [Ring.map_trim, List.map_append, sampled.tagged]
    exact items.symm
  · exact Nat.lt_of_lt_of_eq sampled.room sameSize.symm
  · exact congrArg Option.isSome lastSubmit
  · intro unmixed
    rw [trimmed]
    constructor
    · intro mixed
      exact (mixed _ (List.mem_append_right _ List.mem_cons_self)).trans sameCurrent
    · intro atCurrent sample member
      refine Eq.trans ?_ sameCurrent.symm
      rcases List.mem_append.1 member with old | new
      · exact unmixed sample (suffix.subset old)
      · rw [List.mem_singleton.1 new]
        exact atCurrent

theorem creditedAt_plain (plain : ∀ effect ∈ handled.effects, effect.Plain) :
    creditedAt handled.effects = none := by
  refine List.findSome?_eq_none_iff.2 ?_
  intro effect member
  cases effect with
  | credit share => cases (plain _ member).2
  | login | pushJob | ok | keepalived | error | check | submitUpstream => rfl

/-- **The step lemma.** The samples stay unmixed exactly if the credits are at the present
difficulty. -/
theorem comes {proxy : Proxy} {now : Nat} {store : JobStore} {offered : UpstreamJob → Prop}
    (comes : Comes proxy now session store offered draw handled)
    (sampled : Sampled session samples) :
    Sampled handled.session (noteSample session draw handled samples) ∧
      (Unmixed session samples → (Unmixed handled.session (noteSample session draw handled samples) ↔
        CreditsAtCurrent session handled)) := by
  have unchanged : Vardiff.Windowed session.vardiff session.vardiff :=
    ⟨rfl, id, Or.inr ⟨rfl, rfl⟩⟩
  have silent : creditedAt handled.effects = none →
      Vardiff.Windowed session.vardiff handled.session.vardiff →
      Sampled handled.session (noteSample session draw handled samples) ∧
        (Unmixed session samples →
          (Unmixed handled.session (noteSample session draw handled samples) ↔
            CreditsAtCurrent session handled)) := by
    intro noCredit windowed
    obtain ⟨kept, stays⟩ := sampled.uncredited noCredit windowed
    exact ⟨kept, fun unmixed => iff_of_true (stays unmixed) (creditsAtCurrent_of_none noCredit)⟩
  cases comes with
  | quiet miner left effects ending sameJobs plain calm =>
      exact silent (creditedAt_plain plain) unchanged
  | panicked miner job isOffered retargeted => exact silent rfl unchanged
  | served miner job next effect isOffered retargeted carries =>
      have windowed := Session.servedDiff_windowed retargeted
      rcases carries with rfl | rfl
      · exact silent rfl windowed
      · exact silent rfl windowed
  | errored params left sameJobs => exact silent rfl unchanged
  | settled address params job left outcome sameJobs known named =>
      cases outcome with
      | accepted forwarded =>
          obtain ⟨kept, stays⟩ := sampled.credited
          refine ⟨kept, fun unmixed => (stays unmixed).trans ?_⟩
          rw [settle_credits]
          exact ⟨fun atCurrent _ => atCurrent, fun atCurrent => atCurrent ⟨forwarded, rfl⟩⟩
      | belowDifficulty | invalidHash | unknownJob | badBlob => exact silent rfl unchanged

theorem connect (proxy : Proxy) (store : JobStore) (clock : Nat) :
    Sampled (Served.connect proxy store clock).session [] :=
  ⟨rfl, Nat.le_max_right _ 1, rfl⟩

end Sampled

/-! ### Whole runs -/

def UnmixedAfter (proxy : Proxy) (watched : Watched (List Sample)) (next : Nat × Happening) :
    Prop :=
  let after := Watched.step proxy noteSample watched next
  Unmixed after.served.session after.record

/-- The step submits no share that will be accepted for a job remembered at another
difficulty than the present one. -/
def NamesCurrentNow (proxy : Proxy) (watched : Watched (List Sample)) (next : Nat × Happening) :
    Prop :=
  (watched.served.wait next.1).NamesCurrent proxy next.2

theorem unmixedAfter_iff {proxy : Proxy} {watched : Watched (List Sample)}
    (sampled : Sampled watched.served.session watched.record)
    (unmixed : Unmixed watched.served.session watched.record) (next : Nat × Happening) :
    UnmixedAfter proxy watched next ↔ NamesCurrentNow proxy watched next := by
  rw [NamesCurrentNow, ← credits_iff]
  unfold UnmixedAfter Watched.step
  dsimp only
  cases (watched.served.wait next.1).occurs proxy next.2 with
  | outside noCall session _ _ _ =>
      rw [noCall, session]
      exact iff_of_true unmixed nofun
  | called handled isCall comes session _ _ _ =>
      rw [isCall, session]
      have exactly := (sampled.comes comes).2 unmixed
      constructor
      · intro stays other same
        cases same
        exact exactly.1 stays
      · intro atCurrent
        exact exactly.2 (atCurrent handled rfl)

/-- **When the window is unmixed.** In every run of a session the watcher's samples are
the window; and they are unmixed in every state of the run exactly if every share that was
accepted was for a job the ring then remembered at the controller's difficulty. -/
theorem samples_unmixed_iff (proxy : Proxy) (store : JobStore) (clock : Nat)
    (happenings : List (Nat × Happening)) :
    let start : Watched (List Sample) := ⟨Served.connect proxy store clock, []⟩
    let last := run (Watched.step proxy noteSample) start happenings
    last.record.map Prod.fst = last.served.session.vardiff.intervals.items ∧
      (Along (Watched.step proxy noteSample) (UnmixedAfter proxy) start happenings ↔
        Along (Watched.step proxy noteSample) (NamesCurrentNow proxy) start happenings) := by
  dsimp only
  have initially := Sampled.connect proxy store clock
  have sampledStep : ∀ (watched : Watched (List Sample)) next,
      Sampled watched.served.session watched.record →
        Sampled (Watched.step proxy noteSample watched next).served.session
          (Watched.step proxy noteSample watched next).record :=
    fun _ next before => Watched.step_keeps (fun comes before => (before.comes comes).1) before next
  refine ⟨?_, ?_⟩
  · have sampled : Sampled (run (Watched.step proxy noteSample) _ happenings).served.session _ :=
      Watched.keeps Sampled (fun comes before => (before.comes comes).1)
        ⟨Served.connect proxy store clock, []⟩ initially happenings
    exact sampled.tagged
  · apply Along.congr_keeping
      (fun watched => Sampled watched.served.session watched.record ∧
        Unmixed watched.served.session watched.record)
    · exact ⟨initially, nofun⟩
    · intro watched next holds
      exact unmixedAfter_iff holds.1 holds.2 next
    · intro watched next holds unmixed
      exact ⟨sampledStep watched next holds.1, unmixed⟩

/-- A proxy whose share checks accept every share. -/
def lenientProxy : Proxy := { sampleProxy with
  checks := {
    verifyShare := fun _ _ _ _ => some (.accepted false)
    acceptClaimedResult := fun _ _ _ _ => some (.accepted false) } }

/-- After a minute without shares a new job lowers the difficulty from 20000 to 14000. The
share that comes next is for the old job, in its grace window. -/
def lateShare : List (Nat × Happening) :=
  [(0, .publish (sampleJob "J")), (0, .takeJob), (0, .request true (.login (some (some 1)))),
    (60 * 10 ^ 9, .publish (sampleJob "K")), (0, .takeJob),
    (10 ^ 9, .request true (.submit (some ⟨"J", "00000001", ""⟩)))]

/-- The window of difficulty 14000 holds the interval of a share judged at 20000. -/
theorem samples_mixed :
    let last := run (Watched.step lenientProxy noteSample)
      ⟨Served.connect lenientProxy JobStore.new 0, []⟩ lateShare
    last.served.session.vardiff.current = 14000 ∧
      last.served.session.vardiff.intervals.items = [10 ^ 9] ∧
      last.record = [(10 ^ 9, 20000)] ∧ ¬ Unmixed last.served.session last.record := by
  have current : (run (Watched.step lenientProxy noteSample)
      ⟨Served.connect lenientProxy JobStore.new 0, []⟩
        lateShare).served.session.vardiff.current = 14000 := by
    decide +kernel
  have record : (run (Watched.step lenientProxy noteSample)
      ⟨Served.connect lenientProxy JobStore.new 0, []⟩ lateShare).record =
        [(10 ^ 9, 20000)] := by
    decide +kernel
  refine ⟨current, by decide +kernel, record, ?_⟩
  intro unmixed
  have same := unmixed (10 ^ 9, 20000) (record ▸ List.mem_cons_self)
  rw [current] at same
  exact absurd same (by decide)

end CrFaucet.Stratum
