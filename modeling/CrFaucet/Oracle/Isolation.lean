import Mathlib.Data.List.Induction
import CrFaucet.Oracle.CircuitLimit

/-!
Owns what throttled requests do to everybody else: nothing. From any schedule of requests inside
`CircuitLimiter::allow` the requests that are refused at their own gate can be taken out, together
with everything they did before, and the others still pass and are allowed as before.

Taking a request out moves the sweeps to other calls, since the counter counts fewer calls. The
two runs are therefore compared by a shadow: the second run starts a request only when the first
one has let it pass its gate, sweeps wherever its own counter says so, and keeps a limiter that no
later call can tell from the first one's.
-/

set_option autoImplicit false

namespace CrFaucet.Oracle

open Interaction TokenBucket

variable {Key Request : Type}

/-! ### The order of the locks -/

def Access.time : Access Key → ℚ
  | .sweep now => now
  | .gate _ now => now

/-- The locks of the map are taken in the order of the times. -/
def InTimeOrder (accesses : List (Access Key)) : Prop :=
  (accesses.map Access.time).Pairwise fun first second => first ≤ second

instance (accesses : List (Access Key)) : Decidable (InTimeOrder accesses) :=
  inferInstanceAs (Decidable ((accesses.map Access.time).Pairwise _))

/-- No access so far is after this time. -/
def AllBefore (accesses : List (Access Key)) (now : ℚ) : Prop :=
  ∀ access ∈ accesses, access.time ≤ now

theorem InTimeOrder.before {accesses more : List (Access Key)}
    (inOrder : InTimeOrder (accesses ++ more)) : InTimeOrder accesses := by
  rw [InTimeOrder, List.map_append, List.pairwise_append] at inOrder
  exact inOrder.1

theorem InTimeOrder.last {accesses : List (Access Key)} {access : Access Key}
    (inOrder : InTimeOrder (accesses ++ [access])) : AllBefore accesses access.time := by
  rw [InTimeOrder, List.map_append, List.pairwise_append] at inOrder
  intro earlier member
  exact inOrder.2.2 earlier.time (List.mem_map_of_mem member) access.time
    (List.mem_singleton_self _)

theorem AllBefore.last {accesses : List (Access Key)} {access : Access Key} {now : ℚ}
    (before : AllBefore (accesses ++ [access]) now) : access.time ≤ now :=
  before access (List.mem_append_right _ (List.mem_singleton_self _))

theorem exists_allBefore (accesses : List (Access Key)) : ∃ now, AllBefore accesses now := by
  induction accesses with
  | nil => exact ⟨0, fun _ impossible => by cases impossible⟩
  | cons access rest inductionHypothesis =>
      obtain ⟨now, before⟩ := inductionHypothesis
      refine ⟨max access.time now, ?_⟩
      intro other member
      rcases List.mem_cons.1 member with rfl | later
      · exact le_max_left _ _
      · exact (before other later).trans (le_max_right _ _)

/-! ### A refused gate -/

/-- **A refused use is not seen**: it refills the bucket, which the next use does anyway. -/
theorem Alike.refused [DecidableEq Key] {rates : LimiterRates} {now : ℚ}
    {first second : CircuitLimiter Key} (alike : Alike rates now first second) {key : Key}
    (refused : (first.gate rates key now).1 = false) :
    Alike rates now (first.gate rates key now).2 second where
  firstKept := first.gate_kept alike.firstKept key
  secondKept := alike.secondKept
  circuits := by
    intro other later after
    rw [← alike.circuits other later after]
    by_cases here : other = key
    · subst here
      change (use rates.perCircuit (first.circuits other) now).1 = false at refused
      have short : ¬1 ≤ (present rates.perCircuit (first.circuits other) now).tokens := by
        intro enough
        rw [use_of_one_le enough] at refused
        cases refused
      change present _ (Function.update first.circuits other _ other) later = _
      rw [Function.update_self, use_of_lt_one short]
      exact present_present rates.perCircuit_nonneg (alike.firstKept other) (le_refl now) after
    · simp only [CircuitLimiter.gate, Function.update_of_ne here]
  globals := alike.globals

/-! ### How far a request is -/

section Codes

variable (request : Key × ℚ)

def callCode : LimiterProgram Key Unit := do
  let _ ← allowProgram request.1 request.2
  return ()

def gateCode : LimiterProgram Key Unit := do
  let _ ← gateProgram request.1 request.2
  return ()

def sweepCode : LimiterProgram Key Unit := .ask (.sweep request.2) fun _ => gateCode request

def spendCode : LimiterProgram Key Unit := .ask (.spendGlobal request.2) fun _ => .done ()

def codeAfterGate (passed : Bool) : LimiterProgram Key Unit :=
  if passed then spendCode request else .done ()

def InStage : CallStage → LimiterProgram Key Unit → Prop
  | .pending, code => code = callCode request ∨ code = sweepCode request ∨ code = gateCode request
  | .passed, code => code = spendCode request
  | .refused, code => code = .done ()
  | .decided, code => code = .done ()

/-- After the counter a request sweeps or goes to its gate. -/
def codeAfterCount (calls : Nat) : LimiterProgram Key Unit :=
  if sweepDue calls then sweepCode request else gateCode request

theorem callCode_eq : callCode request = .ask .countCall (codeAfterCount request) := by
  have next : ∀ calls : Nat,
      (if sweepDue calls then
          Program.ask (.sweep request.2) fun _ => gateProgram request.1 request.2
        else gateProgram request.1 request.2 : LimiterProgram Key Bool).bind (fun _ => .done ()) =
        codeAfterCount request calls := by
    intro calls
    unfold codeAfterCount
    split
    · rfl
    · rfl
  exact congrArg (Program.ask LimiterCommand.countCall) (funext next)

theorem gateCode_eq :
    gateCode request = .ask (.gate request.1 request.2) (codeAfterGate request) := by
  have next : ∀ passed : Bool,
      (if passed then
          Program.ask (.spendGlobal request.2) fun allowed : Bool => .done allowed
        else .done false : LimiterProgram Key Bool).bind (fun _ => .done ()) =
        codeAfterGate request passed := by
    intro passed
    cases passed with
    | false => rfl
    | true => rfl
  exact congrArg (Program.ask (LimiterCommand.gate request.1 request.2)) (funext next)

variable {request}

/-- An answer brings a request from what is left in one stage to what is left in the next. -/
theorem InStage.answered {stage : CallStage} {command : LimiterCommand Key}
    {next : LimiterReply command → LimiterProgram Key Unit}
    (inStage : InStage request stage (.ask command next)) (reply : LimiterReply command) :
    InStage request (callWatch.after stage command reply) (next reply) := by
  cases stage with
  | pending =>
      rcases inStage with start | sweeping | gating
      · rw [callCode_eq] at start
        cases start
        change _ ∨ codeAfterCount request reply = _ ∨ codeAfterCount request reply = _
        unfold codeAfterCount
        split
        · exact Or.inr (Or.inl rfl)
        · exact Or.inr (Or.inr rfl)
      · cases sweeping
        exact Or.inr (Or.inr rfl)
      · rw [gateCode_eq] at gating
        cases gating
        cases (reply : Bool) with
        | false => rfl
        | true => rfl
  | passed =>
      cases inStage
      rfl
  | refused => cases inStage
  | decided => cases inStage

end Codes

section Shadows

variable [DecidableEq Key] [DecidableEq Request] {rates : LimiterRates}
  {requests : Request → Key × ℚ}

abbrev LimiterPool (Key Request : Type) :=
  Pool Request (LimiterWorld Key Request) (LimiterCommand Key) LimiterReply CallStage

def stepOf (rates : LimiterRates) (requests : Request → Key × ℚ) (pool : LimiterPool Key Request)
    (request : Request) : LimiterPool Key Request :=
  pool.move (limiterMachine rates requests) callWatch (.step request ())

/-- The pool after a schedule. -/
def stepsOf (rates : LimiterRates) (requests : Request → Key × ℚ)
    (pool : LimiterPool Key Request) (schedule : List Request) : LimiterPool Key Request :=
  run (stepOf rates requests) pool schedule

variable {pool shadow between after : LimiterPool Key Request} {request : Request}

theorem stepOf_of_code {command : LimiterCommand Key}
    {next : LimiterReply command → LimiterProgram Key Unit}
    (code : pool.code request = .ask command next) :
    stepOf rates requests pool request =
      { world := LimiterWorld.record
          { pool.world with limiter := (perform rates pool.world.limiter command).1 } request
          command (perform rates pool.world.limiter command).2
        code := Function.update pool.code request
          (next (perform rates pool.world.limiter command).2)
        stage := Function.update pool.stage request
          (callWatch.after (pool.stage request) command
            (perform rates pool.world.limiter command).2) } :=
  Pool.move_step_of_code code rfl

/-- What a step up to its gate makes of the pool; `gated` says whether the request has passed. -/
structure Opened (pool after : LimiterPool Key Request) (request : Request)
    (gated : Bool × CircuitLimiter Key) (code : LimiterProgram Key Unit) : Prop where
  limiter : after.world.limiter = gated.2
  passed : after.world.passed = noteIf gated.1 request pool.world.passed
  allowed : after.world.allowed = pool.world.allowed
  code : after.code = Function.update pool.code request code

/-- A request on its way to the gate changed the limiter and its own program. -/
abbrev Underway (pool after : LimiterPool Key Request) (request : Request)
    (limiter : CircuitLimiter Key) (code : LimiterProgram Key Unit) : Prop :=
  Opened pool after request (false, limiter) code

theorem at_count (code : pool.code request = callCode (requests request)) :
    Underway pool (stepOf rates requests pool request) request pool.world.limiter.countCall
      (codeAfterCount (requests request) pool.world.limiter.calls) := by
  rw [callCode_eq] at code
  rw [stepOf_of_code code]
  exact ⟨rfl, rfl, rfl, rfl⟩

theorem at_sweep (code : pool.code request = sweepCode (requests request)) :
    Underway pool (stepOf rates requests pool request) request
      (pool.world.limiter.sweep (requests request).2) (gateCode (requests request)) := by
  rw [stepOf_of_code code]
  exact ⟨rfl, rfl, rfl, rfl⟩

omit [DecidableEq Key] in
theorem Underway.limiter_eq {limiter : CircuitLimiter Key} {code : LimiterProgram Key Unit}
    (underway : Underway pool after request limiter code) : after.world.limiter = limiter :=
  underway.limiter

omit [DecidableEq Key] in
theorem Underway.code_self {limiter : CircuitLimiter Key} {code : LimiterProgram Key Unit}
    (underway : Underway pool after request limiter code) : after.code request = code := by
  rw [underway.code, Function.update_self]

omit [DecidableEq Key] in
theorem Underway.trans {limiter : CircuitLimiter Key} {gated : Bool × CircuitLimiter Key}
    {code next : LimiterProgram Key Unit} (first : Underway pool between request limiter code)
    (second : Opened between after request gated next) : Opened pool after request gated next where
  limiter := second.limiter
  passed := second.passed.trans (congrArg (noteIf gated.1 request) first.passed)
  allowed := second.allowed.trans first.allowed
  code := by rw [second.code, first.code, Function.update_idem]

variable (rates) in
/-- **Up to the gate**: a request that has not begun counts itself and sweeps if it is due. -/
theorem to_gate (start : pool.code request = callCode (requests request)) :
    ∃ steps : List Request, (∀ other ∈ steps, other = request) ∧
      Underway pool (stepsOf rates requests pool steps) request
        (pool.world.limiter.sweepIfDue sweepDue (requests request).2)
        (gateCode (requests request)) := by
  have counted : Underway pool (stepOf rates requests pool request) request _ _ := at_count start
  by_cases due : sweepDue pool.world.limiter.calls = true
  · have sweeping : codeAfterCount (requests request) pool.world.limiter.calls =
        sweepCode (requests request) := if_pos due
    have swept : pool.world.limiter.sweepIfDue sweepDue (requests request).2 =
        pool.world.limiter.countCall.sweep (requests request).2 := if_pos due
    refine ⟨[request, request], by simp, ?_⟩
    rw [swept, ← counted.limiter_eq]
    exact counted.trans (at_sweep (counted.code_self.trans sweeping))
  · have gating : codeAfterCount (requests request) pool.world.limiter.calls =
        gateCode (requests request) := if_neg due
    have unswept : pool.world.limiter.sweepIfDue sweepDue (requests request).2 =
        pool.world.limiter.countCall := if_neg due
    refine ⟨[request], by simp, ?_⟩
    rw [unswept, ← gating]
    exact counted

theorem at_gate (code : pool.code request = gateCode (requests request)) :
    Opened pool (stepOf rates requests pool request) request
      (pool.world.limiter.gate rates (requests request).1 (requests request).2)
      (codeAfterGate (requests request)
        (pool.world.limiter.gate rates (requests request).1 (requests request).2).1) := by
  rw [gateCode_eq] at code
  rw [stepOf_of_code code]
  exact ⟨rfl, rfl, rfl, rfl⟩

variable (rates) in
/-- **Through the gate**, from the beginning of the call. -/
theorem through_gate (start : pool.code request = callCode (requests request)) :
    ∃ steps : List Request, (∀ other ∈ steps, other = request) ∧
      Opened pool (stepsOf rates requests pool steps) request
        ((pool.world.limiter.sweepIfDue sweepDue (requests request).2).gate rates
          (requests request).1 (requests request).2)
        (codeAfterGate (requests request)
          ((pool.world.limiter.sweepIfDue sweepDue (requests request).2).gate rates
            (requests request).1 (requests request).2).1) := by
  obtain ⟨steps, own, underway⟩ := to_gate rates start
  have opened : Opened _ (stepOf rates requests (stepsOf rates requests pool steps) request) _ _
      _ := at_gate underway.code_self
  rw [underway.limiter_eq] at opened
  refine ⟨steps ++ [request], ?_, ?_⟩
  · intro other member
    rcases List.mem_append.1 member with before | last
    · exact own other before
    · exact List.mem_singleton.1 last
  · have last : stepsOf rates requests pool (steps ++ [request]) =
        stepOf rates requests (stepsOf rates requests pool steps) request := by
      rw [stepsOf, run_append]
      rfl
    rw [last]
    exact underway.trans opened

/-! ### The shadow -/

variable (rates requests) in
/-- A run without the requests that are refused, beside the run with them. -/
structure Shadows (pool shadow : LimiterPool Key Request) : Prop where
  alike : ∀ now, AllBefore pool.world.accesses now →
    Alike rates now pool.world.limiter shadow.world.limiter
  passed : shadow.world.passed = pool.world.passed
  allowed : shadow.world.allowed = pool.world.allowed
  /-- Before its gate opens, a request has not begun. -/
  pending : ∀ request, pool.stage request = .pending →
    shadow.code request = callCode (requests request)
  waiting : ∀ request, pool.stage request = .passed →
    shadow.code request = spendCode (requests request)

omit [DecidableEq Key] in
/-- The programs of the shadow still fit if it stands still and the request does not pass. -/
theorem Shadows.stages_stay (shadows : Shadows rates requests pool shadow) {moved : CallStage}
    (notPassed : moved ≠ .passed)
    (still : moved = .pending → pool.stage request = .pending) :
    (∀ other, Function.update pool.stage request moved other = .pending →
      shadow.code other = callCode (requests other)) ∧
    ∀ other, Function.update pool.stage request moved other = .passed →
      shadow.code other = spendCode (requests other) := by
  constructor
  · intro other stage
    rcases update_stage_cases stage with ⟨rfl, isPending⟩ | ⟨_, same⟩
    · exact shadows.pending other (still isPending)
    · exact shadows.pending other same
  · intro other stage
    rcases update_stage_cases stage with ⟨_, isPassed⟩ | ⟨_, same⟩
    · exact (notPassed isPassed).elim
    · exact shadows.waiting other same

theorem Shadows.count (shadows : Shadows rates requests pool shadow)
    (stage : pool.stage request = .pending)
    (code : pool.code request = callCode (requests request)) :
    Shadows rates requests (stepOf rates requests pool request) shadow := by
  rw [callCode_eq] at code
  rw [stepOf_of_code code, stage]
  obtain ⟨pending, waiting⟩ := shadows.stages_stay (show CallStage.pending ≠ .passed by decide)
    fun _ => stage
  exact ⟨fun now before => (shadows.alike now before).countCall, shadows.passed, shadows.allowed,
    pending, waiting⟩

theorem Shadows.sweep (shadows : Shadows rates requests pool shadow)
    (stage : pool.stage request = .pending)
    (code : pool.code request = sweepCode (requests request))
    (inOrder : InTimeOrder (stepOf rates requests pool request).world.accesses) :
    Shadows rates requests (stepOf rates requests pool request) shadow := by
  rw [stepOf_of_code code] at inOrder
  rw [stepOf_of_code code, stage]
  obtain ⟨pending, waiting⟩ := shadows.stages_stay (show CallStage.pending ≠ .passed by decide)
    fun _ => stage
  refine ⟨?_, shadows.passed, shadows.allowed, pending, waiting⟩
  intro now before
  have alike := shadows.alike (requests request).2 inOrder.last
  exact (alike.sweep (le_refl _)).wait before.last

/-- **A refused gate** leaves the shadow where it is. -/
theorem Shadows.refused (shadows : Shadows rates requests pool shadow)
    (stage : pool.stage request = .pending)
    (code : pool.code request = gateCode (requests request))
    (inOrder : InTimeOrder (stepOf rates requests pool request).world.accesses)
    (isRefused :
      (pool.world.limiter.gate rates (requests request).1 (requests request).2).1 = false) :
    Shadows rates requests (stepOf rates requests pool request) shadow := by
  rw [gateCode_eq] at code
  rw [stepOf_of_code code] at inOrder
  rw [stepOf_of_code code, stage]
  have alike := shadows.alike (requests request).2 inOrder.last
  change Shadows rates requests
    { world := LimiterWorld.record _ request (.gate _ _)
        (pool.world.limiter.gate rates (requests request).1 (requests request).2).1
      code := _
      stage := Function.update pool.stage request (.afterGate
        (pool.world.limiter.gate rates (requests request).1 (requests request).2).1) } shadow
  rw [isRefused]
  obtain ⟨pending, waiting⟩ := shadows.stages_stay (show CallStage.refused ≠ .passed by decide)
    (fun impossible : CallStage.refused = .pending => by cases impossible)
  refine ⟨?_, shadows.passed, shadows.allowed, pending, waiting⟩
  intro now before
  exact (alike.refused isRefused).wait before.last

/-- **A gate that opens** is opened by the shadow too, which begins the call there. -/
theorem Shadows.opened (shadows : Shadows rates requests pool shadow)
    (stage : pool.stage request = .pending)
    (code : pool.code request = gateCode (requests request))
    (inOrder : InTimeOrder (stepOf rates requests pool request).world.accesses)
    (opens : (pool.world.limiter.gate rates (requests request).1 (requests request).2).1 = true) :
    ∃ steps : List Request, (∀ other ∈ steps, other = request) ∧
      Shadows rates requests (stepOf rates requests pool request)
        (stepsOf rates requests shadow steps) := by
  obtain ⟨steps, own, through⟩ := through_gate rates (shadows.pending request stage)
  refine ⟨steps, own, ?_⟩
  rw [gateCode_eq] at code
  rw [stepOf_of_code code] at inOrder
  rw [stepOf_of_code code, stage]
  have alike := shadows.alike (requests request).2 inOrder.last
  obtain ⟨sameGate, gated⟩ :=
    (alike.symm.sweepIfDue (le_refl _) sweepDue).symm.gate (requests request).1
  rw [← sameGate, opens] at through
  change Shadows rates requests
    { world := LimiterWorld.record _ request (.gate _ _)
        (pool.world.limiter.gate rates (requests request).1 (requests request).2).1
      code := _
      stage := Function.update pool.stage request (.afterGate
        (pool.world.limiter.gate rates (requests request).1 (requests request).2).1) } _
  rw [opens]
  refine ⟨?_, ?_, through.allowed.trans shadows.allowed, ?_, ?_⟩
  · intro now before
    rw [through.limiter]
    exact gated.wait before.last
  · have passed := through.passed
    rw [← sameGate, opens, shadows.passed] at passed
    exact passed
  · intro other isPending
    rcases update_stage_cases isPending with ⟨_, impossible⟩ | ⟨different, same⟩
    · cases impossible
    · rw [through.code, Function.update_of_ne different]
      exact shadows.pending other same
  · intro other isPassed
    rw [through.code]
    rcases update_stage_cases isPassed with ⟨rfl, _⟩ | ⟨different, same⟩
    · exact Function.update_self ..
    · rw [Function.update_of_ne different]
      exact shadows.waiting other same

/-- **Spending** from the global bucket, which is the same in both. -/
theorem Shadows.spend (shadows : Shadows rates requests pool shadow)
    (stage : pool.stage request = .passed)
    (code : pool.code request = spendCode (requests request)) :
    Shadows rates requests (stepOf rates requests pool request)
      (stepOf rates requests shadow request) := by
  have shadowed := shadows.waiting request stage
  rw [stepOf_of_code code, stepOf_of_code shadowed, stage]
  obtain ⟨latest, before⟩ := exists_allBefore pool.world.accesses
  have sameAnswer : (perform rates pool.world.limiter (.spendGlobal (requests request).2)).2 =
      (perform rates shadow.world.limiter (.spendGlobal (requests request).2)).2 :=
    (shadows.alike latest before).spendGlobal.1
  rw [← sameAnswer]
  refine ⟨fun now before => (shadows.alike now before).spendGlobal.2, shadows.passed,
    congrArg (noteIf _ request) shadows.allowed, ?_, ?_⟩
  · intro other isPending
    rcases update_stage_cases isPending with ⟨_, impossible⟩ | ⟨different, same⟩
    · cases impossible
    · exact (Function.update_of_ne different ..).trans (shadows.pending other same)
  · intro other isPassed
    rcases update_stage_cases isPassed with ⟨_, impossible⟩ | ⟨different, same⟩
    · cases impossible
    · exact (Function.update_of_ne different ..).trans (shadows.waiting other same)

/-- **One step** of the run with everybody is none, one or a few steps of the shadow, all of a
request that has passed its gate. -/
theorem Shadows.step (shadows : Shadows rates requests pool shadow)
    (inStage : ∀ request, InStage (requests request) (pool.stage request) (pool.code request))
    (known : ∀ request, pool.stage request = .passed → request ∈ pool.world.passed)
    (request : Request)
    (inOrder : InTimeOrder (stepOf rates requests pool request).world.accesses) :
    ∃ steps : List Request,
      (∀ other ∈ steps, other ∈ (stepOf rates requests pool request).world.passed) ∧
      Shadows rates requests (stepOf rates requests pool request)
        (stepsOf rates requests shadow steps) := by
  have none : ∀ other ∈ ([] : List Request),
      other ∈ (stepOf rates requests pool request).world.passed := by
    intro other impossible
    cases impossible
  have ended : pool.code request = .done () → stepOf rates requests pool request = pool := by
    intro code
    rw [stepOf, Pool.move, code]
  have here := inStage request
  cases stage : pool.stage request with
  | pending =>
      rw [stage] at here
      rcases here with start | sweeping | gating
      · exact ⟨[], none, shadows.count stage start⟩
      · exact ⟨[], none, shadows.sweep stage sweeping inOrder⟩
      · cases opens : (pool.world.limiter.gate rates (requests request).1
            (requests request).2).1 with
        | false => exact ⟨[], none, shadows.refused stage gating inOrder opens⟩
        | true =>
            obtain ⟨steps, own, after⟩ := shadows.opened stage gating inOrder opens
            refine ⟨steps, ?_, after⟩
            intro other member
            rw [own other member, (at_gate gating).passed, opens]
            exact List.mem_cons_self ..
  | passed =>
      rw [stage] at here
      refine ⟨[request], ?_, shadows.spend stage here⟩
      intro other member
      rw [List.mem_singleton.1 member, stepOf_of_code here]
      exact known request stage
  | refused =>
      rw [stage] at here
      rw [ended here] at none ⊢
      exact ⟨[], none, shadows⟩
  | decided =>
      rw [stage] at here
      rw [ended here] at none ⊢
      exact ⟨[], none, shadows⟩

end Shadows

/-! ### Every schedule -/

section Schedules

variable [DecidableEq Key] [DecidableEq Request] (rates : LimiterRates)
  (requests : Request → Key × ℚ) (start : ℚ)

theorem afterSchedule_append (schedule more : List Request) :
    afterSchedule rates requests start (schedule ++ more) =
      stepsOf rates requests (afterSchedule rates requests start schedule) more := by
  rw [afterSchedule, List.map_append, run_append, stepsOf]
  exact List.foldl_map

theorem afterSchedule_inStage (schedule : List Request) (request : Request) :
    InStage (requests request) ((afterSchedule rates requests start schedule).stage request)
      ((afterSchedule rates requests start schedule).code request) := by
  have along : Along (Pool.move (limiterMachine rates requests) callWatch) (fun _ _ => True)
      (Pool.initial (limiterMachine rates requests) callWatch
        { limiter := .new rates start, accesses := [], passed := [], allowed := [] })
      (schedule.map fun request => .step request ()) :=
    Along.of_forall_mem _ fun _ _ => trivial
  refine along.keeps (fun pool => ∀ request,
    InStage (requests request) (pool.stage request) (pool.code request)) ?_ ?_ request
  · intro pool action inStage _
    exact Pool.forall_move (fun request code stage => InStage (requests request) stage code)
      inStage (fun _ _ _ _ reply here => here.answered reply) (fun _ => Or.inl rfl) action
  · exact fun _ => Or.inl rfl

theorem stepOf_keeps (pool : LimiterPool Key Request) (request : Request) :
    (∃ more, (stepOf rates requests pool request).world.accesses = pool.world.accesses ++ more) ∧
      ∀ other ∈ pool.world.passed, other ∈ (stepOf rates requests pool request).world.passed := by
  rcases Pool.move_step_cases (limiterMachine rates requests) callWatch pool request () with
    same | ⟨command, next, world, reply, code, _, _⟩
  · rw [stepOf, same]
    exact ⟨⟨[], (List.append_nil _).symm⟩, fun _ member => member⟩
  · rw [stepOf_of_code code]
    cases command with
    | countCall => exact ⟨⟨[], (List.append_nil _).symm⟩, fun _ member => member⟩
    | sweep now => exact ⟨⟨[.sweep now], rfl⟩, fun _ member => member⟩
    | gate key now =>
        exact ⟨⟨[.gate key now], rfl⟩, fun _ member => mem_noteIf.2 (Or.inr member)⟩
    | spendGlobal now => exact ⟨⟨[], (List.append_nil _).symm⟩, fun _ member => member⟩

/-- **Every schedule has a shadow** of requests that pass their gate. -/
theorem exists_shadow (schedule : List Request)
    (inOrder : InTimeOrder (afterSchedule rates requests start schedule).world.accesses) :
    ∃ without : List Request,
      (∀ request ∈ without,
        request ∈ (afterSchedule rates requests start schedule).world.passed) ∧
      Shadows rates requests (afterSchedule rates requests start schedule)
        (afterSchedule rates requests start without) := by
  induction schedule using List.reverseRecOn with
  | nil =>
      refine ⟨[], ?_, fun now _ => Alike.new rates now start, rfl, rfl, fun _ _ => rfl, ?_⟩
      · intro request impossible
        cases impossible
      · intro request impossible
        cases impossible
  | append_singleton schedule request inductionHypothesis =>
      have last : afterSchedule rates requests start (schedule ++ [request]) =
          stepOf rates requests (afterSchedule rates requests start schedule) request :=
        afterSchedule_append rates requests start schedule [request]
      rw [last] at inOrder ⊢
      obtain ⟨⟨more, recorded⟩, passedStay⟩ :=
        stepOf_keeps rates requests (afterSchedule rates requests start schedule) request
      obtain ⟨without, passed, shadows⟩ := inductionHypothesis (recorded ▸ inOrder).before
      have books := (afterSchedule_invariant rates requests start schedule).books
      obtain ⟨steps, stepsPassed, after⟩ := shadows.step
        (afterSchedule_inStage rates requests start schedule)
        (fun request stage => (books.waiting request stage).1) request inOrder
      refine ⟨without ++ steps, ?_, ?_⟩
      · intro other member
        rcases List.mem_append.1 member with earlier | now
        · exact passedStay other (passed other earlier)
        · exact stepsPassed other now
      · rw [afterSchedule_append]
        exact after

/-- **Throttled requests are not felt.** Any schedule that takes the locks of the map in the order
of the times can be run without the requests that are refused at their own gate: the same requests
pass, the same requests are allowed, and no later calls are answered differently. -/
theorem throttled_requests_are_not_felt (schedule : List Request)
    (inOrder : InTimeOrder (afterSchedule rates requests start schedule).world.accesses) :
    ∃ without : List Request,
      (∀ request ∈ without,
        request ∈ (afterSchedule rates requests start schedule).world.passed) ∧
      (afterSchedule rates requests start without).world.passed =
        (afterSchedule rates requests start schedule).world.passed ∧
      (afterSchedule rates requests start without).world.allowed =
        (afterSchedule rates requests start schedule).world.allowed ∧
      ∀ (now : ℚ) (calls : List (Key × ℚ)),
        AllBefore (afterSchedule rates requests start schedule).world.accesses now →
        (∀ call ∈ calls, now ≤ call.2) →
        (calls.Pairwise fun earlier later => earlier.2 ≤ later.2) →
        CircuitLimiter.answers (fun limiter => limiter.allow rates)
            (afterSchedule rates requests start without).world.limiter calls =
          CircuitLimiter.answers (fun limiter => limiter.allow rates)
            (afterSchedule rates requests start schedule).world.limiter calls := by
  obtain ⟨without, passed, shadows⟩ := exists_shadow rates requests start schedule inOrder
  refine ⟨without, passed, shadows.passed, shadows.allowed, ?_⟩
  intro now calls before ahead callsInOrder
  exact ((shadows.alike now before).answers sweepDue sweepDue callsInOrder ahead).symm

end Schedules

/-- Three requests at once: two of one circuit, of which the rate lets one pass, and one of
another. -/
def crowd : Nat → Bool × ℚ
  | 0 => (true, 0)
  | 1 => (true, 0)
  | _ => (false, 0)

/-- Request 1 is counted first, so it is the one that sweeps; request 0 is at the gate before
it. -/
def crowdSchedule : List Nat := [1, 0, 1, 0, 1, 0, 1, 2, 2, 2]

theorem throttled_requests_are_not_felt_crowd :
    (afterSchedule (.ofSettings 1 10) crowd 0 crowdSchedule).stage 1 = .refused ∧
      (afterSchedule (.ofSettings 1 10) crowd 0 crowdSchedule).world.allowed = [2, 0] ∧
      ∃ without : List Nat, 1 ∉ without ∧
        (afterSchedule (.ofSettings 1 10) crowd 0 without).world.allowed = [2, 0] := by
  have stage : (afterSchedule (.ofSettings 1 10) crowd 0 crowdSchedule).stage 1 = .refused := by
    decide +kernel
  have allowed :
      (afterSchedule (.ofSettings 1 10) crowd 0 crowdSchedule).world.allowed = [2, 0] := by
    decide +kernel
  have notPassed : 1 ∉ (afterSchedule (.ofSettings 1 10) crowd 0 crowdSchedule).world.passed := by
    decide +kernel
  obtain ⟨without, among, _, sameAllowed, _⟩ := throttled_requests_are_not_felt (.ofSettings 1 10)
    crowd 0 crowdSchedule (by decide +kernel)
  exact ⟨stage, allowed, without, fun member => notPassed (among 1 member),
    sameAllowed.trans allowed⟩

end CrFaucet.Oracle
