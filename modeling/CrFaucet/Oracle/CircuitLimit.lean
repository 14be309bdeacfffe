import Mathlib.Data.List.Perm.Subperm
import CrFaucet.Interaction.Pool
import CrFaucet.Oracle.Limiter

/-!
Owns the per-circuit limit under concurrency: any number of requests inside
`CircuitLimiter::allow`, each taking its locks one after the other and any other moving in
between.

A request's time is read before it takes a lock, so the order of the locks need not be the
order of the times. `refill` sets `last` to whatever time comes, also to an earlier one; the
time between the two is then paid out again. The limit holds for a circuit whose bucket is
touched, by its requests and by sweeps, in the order of the times.

Seen from one circuit, the accesses to the map are touches of one slot: the limiter's bucket
and passes are those of `TokenBucket.Meter`, and the bound is the one proved there.
-/

set_option autoImplicit false

namespace CrFaucet.Oracle

open Interaction TokenBucket

/-! ### A call as a program -/

/-- What a call does under one lock, or to the counter. -/
inductive LimiterCommand (Key : Type) where
  | countCall
  | sweep (now : ℚ)
  | gate (key : Key) (now : ℚ)
  | spendGlobal (now : ℚ)

def LimiterReply {Key : Type} : LimiterCommand Key → Type
  | .countCall => Nat
  | .sweep _ => Unit
  | .gate _ _ => Bool
  | .spendGlobal _ => Bool

abbrev LimiterProgram (Key Result : Type) := Program (LimiterCommand Key) LimiterReply Result

section Calls

variable {Key : Type} (key : Key) (now : ℚ)

def gateProgram : LimiterProgram Key Bool :=
  .ask (.gate key now) fun passed : Bool =>
    if passed then .ask (.spendGlobal now) fun allowed : Bool => .done allowed else .done false

def allowProgram : LimiterProgram Key Bool :=
  .ask .countCall fun calls : Nat =>
    if sweepDue calls then .ask (.sweep now) fun _ => gateProgram key now else gateProgram key now

variable [DecidableEq Key] (rates : LimiterRates)

def perform (limiter : CircuitLimiter Key) :
    (command : LimiterCommand Key) → CircuitLimiter Key × LimiterReply command
  | .countCall => (limiter.countCall, limiter.calls)
  | .sweep now => (limiter.sweep now, ())
  | .gate key now => ((limiter.gate rates key now).2, (limiter.gate rates key now).1)
  | .spendGlobal now => ((limiter.spendGlobal now).2, (limiter.spendGlobal now).1)

theorem drive_allowProgram (limiter : CircuitLimiter Key) :
    (allowProgram key now).drive (fun limiter command (_ : Unit) => perform rates limiter command)
        limiter [(), (), (), ()] =
      ((limiter.allow rates key now).2, some (limiter.allow rates key now).1) := by
  by_cases due : sweepDue limiter.calls = true
  · have swept : limiter.sweepIfDue sweepDue now = limiter.countCall.sweep now := if_pos due
    cases passes : ((limiter.countCall.sweep now).gate rates key now).1 <;>
      simp [allowProgram, gateProgram, Program.drive, perform, due, CircuitLimiter.allow,
        CircuitLimiter.allowWith, swept, passes]
  · have counted : limiter.sweepIfDue sweepDue now = limiter.countCall := if_neg due
    cases passes : (limiter.countCall.gate rates key now).1 <;>
      simp [allowProgram, gateProgram, Program.drive, perform, due, CircuitLimiter.allow,
        CircuitLimiter.allowWith, counted, passes]

end Calls

/-! ### Requests side by side -/

inductive Access (Key : Type) where
  | sweep (now : ℚ)
  | gate (key : Key) (now : ℚ)

/-- The limiter, and as ghosts the accesses in lock order, the requests that passed their gate
and the requests that were allowed. -/
structure LimiterWorld (Key Request : Type) where
  limiter : CircuitLimiter Key
  accesses : List (Access Key)
  passed : List Request
  allowed : List Request

/-- How far a request is. -/
inductive CallStage where
  | pending
  | passed
  | refused
  | decided
deriving DecidableEq

section Requests

variable {Key Request : Type}

def noteIf (through : Bool) (request : Request) (noted : List Request) : List Request :=
  if through then request :: noted else noted

def CallStage.afterGate (passed : Bool) : CallStage := if passed then .passed else .refused

/-- The ghosts of one command. -/
def LimiterWorld.record (world : LimiterWorld Key Request) (request : Request) :
    (command : LimiterCommand Key) → LimiterReply command → LimiterWorld Key Request
  | .countCall, _ => world
  | .sweep now, _ => { world with accesses := world.accesses ++ [.sweep now] }
  | .gate key now, passed =>
      { world with
        accesses := world.accesses ++ [.gate key now]
        passed := noteIf passed request world.passed }
  | .spendGlobal _, allowed =>
      { world with
        allowed := noteIf allowed request world.allowed }

/-- A refused request stays refused. -/
def callWatch : Discipline (LimiterCommand Key) LimiterReply CallStage where
  start := .pending
  permits
    | .pending, .spendGlobal _ => False
    | .pending, _ => True
    | .passed, .spendGlobal _ => True
    | _, _ => False
  after
    | .refused, _, _ => .refused
    | _, .gate _ _, passed => .afterGate passed
    | _, .spendGlobal _, _ => .decided
    | stage, _, _ => stage

variable [DecidableEq Key] (rates : LimiterRates) (requests : Request → Key × ℚ)

def limiterMachine :
    Machine Request (LimiterWorld Key Request) (LimiterCommand Key) LimiterReply Unit Empty where
  exec := fun request world command _ =>
    some ((LimiterWorld.record { world with limiter := (perform rates world.limiter command).1 }
      request command (perform rates world.limiter command).2),
      (perform rates world.limiter command).2)
  event := fun world _ => world
  abandon := fun _ world => world
  main := fun request => do
    let _ ← allowProgram (requests request).1 (requests request).2
    return ()

variable [DecidableEq Request]

/-- The limiter after the requests took their next command in the order of `schedule`. -/
def afterSchedule (start : ℚ) (schedule : List Request) :
    Pool Request (LimiterWorld Key Request) (LimiterCommand Key) LimiterReply CallStage :=
  run (Pool.move (limiterMachine rates requests) callWatch)
    (Pool.initial (limiterMachine rates requests) callWatch
      { limiter := .new rates start, accesses := [], passed := [], allowed := [] })
    (schedule.map fun request => .step request ())

end Requests

section Counting

variable {Key Request : Type} [DecidableEq Key]

def Access.touch (key : Key) : Access Key → Option (Touch ℚ)
  | .sweep now => some (.sweep now)
  | .gate other now => if other = key then some (.use now) else none

def touchesOf (key : Key) (accesses : List (Access Key)) : List (Touch ℚ) :=
  accesses.filterMap (Access.touch key)

/-- The circuit's bucket is touched in the order of the times. -/
def InOrder (key : Key) (accesses : List (Access Key)) : Prop :=
  ((touchesOf key accesses).map Touch.time).Pairwise fun first second => first ≤ second

/-- The allowed requests of a circuit with a time in the interval. -/
def allowedWithin (requests : Request → Key × ℚ) (key : Key) (start stop : ℚ)
    (allowed : List Request) : Nat :=
  allowed.countP fun request =>
    (requests request).1 = key && (start ≤ (requests request).2 && (requests request).2 ≤ stop)

end Counting

/-! ### What the program asks -/

section Asked

variable {Key Request : Type} [DecidableEq Key] {rates : LimiterRates}
  {requests : Request → Key × ℚ}

/-- A request opens no gate but its own. -/
def ownGate (requests : Request → Key × ℚ) (request : Request) : LimiterCommand Key → Prop
  | .gate key now => (key, now) = requests request
  | _ => True

omit [DecidableEq Key] in
theorem gateProgram_obeys (key : Key) (now : ℚ) :
    (gateProgram key now).Obeys callWatch .pending fun _ _ => True := by
  refine ⟨trivial, ?_⟩
  intro passed
  cases passed with
  | false => trivial
  | true => exact ⟨trivial, fun _ => trivial⟩

theorem main_obeys (request : Request) :
    ((limiterMachine rates requests).main request).Obeys callWatch .pending fun _ _ => True := by
  have allow : (allowProgram (requests request).1 (requests request).2).Obeys callWatch .pending
      fun _ _ => True := by
    refine ⟨trivial, ?_⟩
    intro calls
    dsimp only
    split
    · exact ⟨trivial, fun _ => gateProgram_obeys _ _⟩
    · exact gateProgram_obeys _ _
  exact allow.bind fun _ _ _ => trivial

theorem main_asks (request : Request) :
    ((limiterMachine rates requests).main request).Asks (ownGate requests request) := by
  have gate : (gateProgram (requests request).1 (requests request).2).Asks
      (ownGate requests request) := by
    refine ⟨rfl, ?_⟩
    intro passed
    cases passed with
    | false => trivial
    | true => exact ⟨trivial, fun _ => trivial⟩
  have allow : (allowProgram (requests request).1 (requests request).2).Asks
      (ownGate requests request) := by
    refine ⟨trivial, ?_⟩
    intro calls
    dsimp only
    split
    · exact ⟨trivial, fun _ => gate⟩
    · exact gate
  exact allow.bind fun _ _ _ => trivial

end Asked

/-! ### The books -/

section Books

variable {Key Request : Type} [DecidableEq Request]

/-- Who is allowed passed, and nobody twice. -/
structure Books (passed allowed : List Request) (stages : Request → CallStage) : Prop where
  pending : ∀ request, stages request = .pending → request ∉ passed
  waiting : ∀ request, stages request = .passed → request ∈ passed ∧ request ∉ allowed
  passedOnce : passed.Nodup
  allowedOnce : allowed.Nodup
  known : ∀ request ∈ allowed, request ∈ passed

variable {passed allowed : List Request} {stages : Request → CallStage} {request : Request}

omit [DecidableEq Request] in
theorem mem_noteIf {through : Bool} {other : Request} {noted : List Request} :
    other ∈ noteIf through request noted ↔
      (through = true ∧ other = request) ∨ other ∈ noted := by
  cases through <;> simp [noteIf]

omit [DecidableEq Request] in
theorem not_mem_noteIf {through : Bool} {other : Request} {noted : List Request}
    (different : other ≠ request) (absent : other ∉ noted) :
    other ∉ noteIf through request noted := by
  rw [mem_noteIf]
  rintro (⟨_, isRequest⟩ | member)
  · exact different isRequest
  · exact absent member

omit [DecidableEq Request] in
theorem nodup_noteIf (through : Bool) {noted : List Request} (new : request ∉ noted)
    (once : noted.Nodup) : (noteIf through request noted).Nodup := by
  cases through with
  | false => exact once
  | true => exact List.nodup_cons.2 ⟨new, once⟩

theorem update_stage_cases {other : Request} {moved wanted : CallStage}
    (stage : Function.update stages request moved other = wanted) :
    (other = request ∧ moved = wanted) ∨ (other ≠ request ∧ stages other = wanted) := by
  by_cases same : other = request
  · subst same
    rw [Function.update_self] at stage
    exact Or.inl ⟨rfl, stage⟩
  · rw [Function.update_of_ne same] at stage
    exact Or.inr ⟨same, stage⟩

theorem Books.stay (books : Books passed allowed stages) (stage : CallStage)
    (same : stage = stages request) :
    Books passed allowed (Function.update stages request stage) := by
  rw [same, Function.update_eq_self]
  exact books

theorem Books.gate (books : Books passed allowed stages) (pending : stages request = .pending)
    (through : Bool) :
    Books (noteIf through request passed) allowed
      (Function.update stages request (.afterGate through)) := by
  have new : request ∉ passed := books.pending request pending
  have notAllowed : request ∉ allowed := fun member => new (books.known request member)
  refine ⟨?_, ?_, nodup_noteIf through new books.passedOnce, books.allowedOnce, ?_⟩
  · intro other stage
    rcases update_stage_cases stage with ⟨_, moved⟩ | ⟨different, still⟩
    · cases through <;> cases moved
    · exact not_mem_noteIf different (books.pending other still)
  · intro other stage
    rw [mem_noteIf]
    rcases update_stage_cases stage with ⟨rfl, moved⟩ | ⟨_, still⟩
    · cases through with
      | false => cases moved
      | true => exact ⟨Or.inl ⟨rfl, rfl⟩, notAllowed⟩
    · exact ⟨Or.inr (books.waiting other still).1, (books.waiting other still).2⟩
  · intro other member
    exact mem_noteIf.2 (Or.inr (books.known other member))

theorem Books.spend (books : Books passed allowed stages) (waiting : stages request = .passed)
    (through : Bool) :
    Books passed (noteIf through request allowed)
      (Function.update stages request .decided) := by
  obtain ⟨isPassed, new⟩ := books.waiting request waiting
  refine ⟨?_, ?_, books.passedOnce, nodup_noteIf through new books.allowedOnce, ?_⟩
  · intro other stage
    rcases update_stage_cases stage with ⟨_, moved⟩ | ⟨_, still⟩
    · cases moved
    · exact books.pending other still
  · intro other stage
    rcases update_stage_cases stage with ⟨_, moved⟩ | ⟨different, still⟩
    · cases moved
    · obtain ⟨member, notYet⟩ := books.waiting other still
      exact ⟨member, not_mem_noteIf different notYet⟩
  · intro other member
    rcases mem_noteIf.1 member with ⟨_, rfl⟩ | old
    · exact isPassed
    · exact books.known other old

omit [DecidableEq Request] in
theorem Books.countP_le (books : Books passed allowed stages) (counts : Request → Bool) :
    allowed.countP counts ≤ passed.countP counts := by
  have within : allowed.Subperm passed :=
    List.subperm_of_subset books.allowedOnce fun request member => books.known request member
  exact within.countP_le counts

end Books

/-! ### One circuit's view -/

section View

variable {Key Request : Type} [DecidableEq Key] (rates : LimiterRates)
  (requests : Request → Key × ℚ)

/-- The slot of a circuit after the accesses so far. -/
def slotView (key : Key) (accesses : List (Access Key)) : Meter ℚ :=
  run (Meter.step rates.perCircuit) Meter.start (touchesOf key accesses)

/-- The bucket of a circuit and the times of its passes are those of its slot. -/
structure Viewed (key : Key) (world : LimiterWorld Key Request) : Prop where
  bucket : world.limiter.circuits key = (slotView rates key world.accesses).slot
  passes : (world.passed.filter fun request => (requests request).1 = key).map
    (fun request => (requests request).2) = (slotView rates key world.accesses).passes

variable {rates requests} {key other : Key} {now : ℚ} {accesses : List (Access Key)}

theorem slotView_touch {access : Access Key} {touch : Touch ℚ}
    (touches : access.touch key = some touch) :
    slotView rates key (accesses ++ [access]) =
      (slotView rates key accesses).step rates.perCircuit touch := by
  rw [slotView, touchesOf, List.filterMap_append, run_append]
  simp only [List.filterMap_cons, touches, List.filterMap_nil]
  rfl

theorem slotView_pass_by {access : Access Key} (passesBy : access.touch key = none) :
    slotView rates key (accesses ++ [access]) = slotView rates key accesses := by
  rw [slotView, touchesOf, List.filterMap_append, run_append]
  simp only [List.filterMap_cons, passesBy, List.filterMap_nil]
  rfl

variable {world : LimiterWorld Key Request}

theorem Viewed.sweep (viewed : Viewed rates requests key world) (request : Request) (now : ℚ) :
    Viewed rates requests key
      (LimiterWorld.record { world with limiter := world.limiter.sweep now } request
        (.sweep now) ()) where
  bucket := by
    change TokenBucket.sweep (world.limiter.circuits key) now = _
    rw [viewed.bucket]
    change _ = (slotView rates key (world.accesses ++ [.sweep now])).slot
    rw [slotView_touch rfl]
    rfl
  passes := by
    change _ = (slotView rates key (world.accesses ++ [.sweep now])).passes
    rw [slotView_touch rfl]
    exact viewed.passes

theorem Viewed.gate_own (viewed : Viewed rates requests key world) {request : Request}
    (own : (key, now) = requests request) :
    Viewed rates requests key
      (LimiterWorld.record { world with limiter := (world.limiter.gate rates key now).2 } request
        (.gate key now) (world.limiter.gate rates key now).1) := by
  have touches : (Access.gate key now).touch key = some (Touch.use now) := if_pos rfl
  constructor
  · change Function.update world.limiter.circuits key _ key =
      (slotView rates key (world.accesses ++ [.gate key now])).slot
    rw [slotView_touch touches, Function.update_self, viewed.bucket]
    rfl
  · change ((noteIf _ request world.passed).filter _).map _ =
      (slotView rates key (world.accesses ++ [.gate key now])).passes
    rw [slotView_touch touches]
    change _ = if _ then now :: (slotView rates key world.accesses).passes
      else (slotView rates key world.accesses).passes
    rw [← viewed.passes, ← viewed.bucket]
    change ((noteIf (use rates.perCircuit (world.limiter.circuits key) now).1 request
      world.passed).filter _).map _ = _
    cases (use rates.perCircuit (world.limiter.circuits key) now).1 with
    | false => rfl
    | true =>
        have isOwn : (requests request).1 = key := by rw [← own]
        have isNow : (requests request).2 = now := by rw [← own]
        simp [noteIf, isOwn, isNow]

theorem Viewed.gate_other (viewed : Viewed rates requests key world) {request : Request}
    (own : (other, now) = requests request) (different : ¬other = key) :
    Viewed rates requests key
      (LimiterWorld.record { world with limiter := (world.limiter.gate rates other now).2 } request
        (.gate other now) (world.limiter.gate rates other now).1) := by
  have passesBy : (Access.gate other now).touch key = none := if_neg different
  constructor
  · change Function.update world.limiter.circuits other _ key =
      (slotView rates key (world.accesses ++ [.gate other now])).slot
    rw [slotView_pass_by passesBy, Function.update_of_ne (Ne.symm different)]
    exact viewed.bucket
  · change ((noteIf _ request world.passed).filter _).map _ =
      (slotView rates key (world.accesses ++ [.gate other now])).passes
    rw [slotView_pass_by passesBy, ← viewed.passes]
    have notOwn : ¬(requests request).1 = key := by
      rw [← own]
      exact different
    cases (world.limiter.gate rates other now).1 <;> simp [noteIf, notOwn]

theorem Viewed.gate (viewed : Viewed rates requests key world) {request : Request}
    (own : (other, now) = requests request) :
    Viewed rates requests key
      (LimiterWorld.record { world with limiter := (world.limiter.gate rates other now).2 } request
        (.gate other now) (world.limiter.gate rates other now).1) := by
  by_cases same : other = key
  · subst same
    exact viewed.gate_own own
  · exact viewed.gate_other own same

end View

/-! ### Every schedule -/

section Schedules

variable {Key Request : Type} [DecidableEq Key] [DecidableEq Request] (rates : LimiterRates)
  (requests : Request → Key × ℚ)

/-- The books are in order and every circuit is as its slot. -/
structure LimiterInvariant (world : LimiterWorld Key Request) (stages : Request → CallStage) :
    Prop where
  books : Books world.passed world.allowed stages
  viewed : ∀ key, Viewed rates requests key world

variable {rates requests}

/-- **One command.** -/
theorem LimiterInvariant.command {world : LimiterWorld Key Request}
    {stages : Request → CallStage} (invariant : LimiterInvariant rates requests world stages)
    {request : Request} {command : LimiterCommand Key}
    (permitted : callWatch.permits (stages request) command)
    (own : ownGate requests request command) :
    LimiterInvariant rates requests
      (LimiterWorld.record { world with limiter := (perform rates world.limiter command).1 }
        request command (perform rates world.limiter command).2)
      (Function.update stages request
        (callWatch.after (stages request) command (perform rates world.limiter command).2)) := by
  obtain ⟨books, viewed⟩ := invariant
  cases stage : stages request with
  | pending =>
      rw [stage] at permitted
      cases command with
      | countCall =>
          exact ⟨books.stay _ stage.symm, fun key => ⟨(viewed key).bucket, (viewed key).passes⟩⟩
      | sweep now =>
          exact ⟨books.stay _ stage.symm, fun key => (viewed key).sweep request now⟩
      | gate key now => exact ⟨books.gate stage _, fun other => (viewed other).gate own⟩
      | spendGlobal now => exact permitted.elim
  | passed =>
      rw [stage] at permitted
      cases command with
      | spendGlobal now =>
          exact ⟨books.spend stage _, fun key => ⟨(viewed key).bucket, (viewed key).passes⟩⟩
      | countCall | sweep now | gate key now => exact permitted.elim
  | refused | decided =>
      rw [stage] at permitted
      cases command <;> exact permitted.elim

/-- A request takes its next command; no call is given up half-way. -/
def Taking (requests : Request → Key × ℚ)
    (pool : Pool Request (LimiterWorld Key Request) (LimiterCommand Key) LimiterReply CallStage)
    (action : Action Request Unit Empty) : Prop :=
  pool.Asked (ownGate requests) action ∧ ∃ request, action = .step request ()

theorem limiterInvariant :
    Invariant (limiterMachine rates requests) callWatch (Taking requests)
      (LimiterInvariant rates requests) where
  step := by
    intro pool request answer command next world reply code permitted answered taking invariant
    cases Option.some.inj answered
    exact invariant.command permitted (taking.1 command next code)
  restart := by
    intro pool request taking
    obtain ⟨_, _, impossible⟩ := taking
    cases impossible
  event := by
    intro pool event
    cases event

omit [DecidableEq Request] in
theorem limiterInvariant_start (start : ℚ) :
    LimiterInvariant rates requests
      { limiter := .new rates start, accesses := [], passed := [], allowed := [] }
      (fun _ => .pending) where
  books := {
    pending := fun _ _ => List.not_mem_nil
    waiting := by
      intro request stage
      cases stage
    passedOnce := List.nodup_nil
    allowedOnce := List.nodup_nil
    known := by
      intro request member
      cases member }
  viewed := fun _ => ⟨rfl, rfl⟩

theorem schedule_taking (start : ℚ) (schedule : List Request) :
    Along (Pool.move (limiterMachine rates requests) callWatch) (Taking requests)
      (Pool.initial (limiterMachine rates requests) callWatch
        { limiter := .new rates start, accesses := [], passed := [], allowed := [] })
      (schedule.map fun request => .step request ()) := by
  refine Along.and (Pool.Asking.along (Pool.initial_asking _ main_asks) main_asks _) ?_
  refine Along.of_forall_mem _ ?_
  intro action member
  obtain ⟨request, _, same⟩ := List.mem_map.1 member
  exact ⟨request, same.symm⟩

variable (rates requests) in
/-- **Every schedule.** -/
theorem afterSchedule_invariant (start : ℚ) (schedule : List Request) :
    LimiterInvariant rates requests (afterSchedule rates requests start schedule).world
      (afterSchedule rates requests start schedule).stage :=
  limiterInvariant.run main_obeys (Pool.initial_disciplined _ main_obeys)
    (schedule_taking start schedule) (limiterInvariant_start start)

variable (rates requests) in
theorem afterSchedule_disciplined (start : ℚ) (schedule : List Request) :
    (afterSchedule rates requests start schedule).Disciplined callWatch :=
  (Pool.initial_disciplined _ main_obeys).run main_obeys _

omit [DecidableEq Request] in
theorem Viewed.within {key : Key} {world : LimiterWorld Key Request}
    (viewed : Viewed rates requests key world) (start stop : ℚ) :
    allowedWithin requests key start stop world.passed =
      TokenBucket.within start stop (slotView rates key world.accesses).passes := by
  rw [← viewed.passes, TokenBucket.within, List.countP_map, List.countP_filter]
  refine List.countP_congr ?_
  intro request _
  simp only [Bool.and_eq_true, decide_eq_true_eq, Function.comp_apply]
  tauto

/-- **A refused request** does not reach the global bucket, at the gate or after it. -/
theorem refused_leaves_global
    {pool : Pool Request (LimiterWorld Key Request) (LimiterCommand Key) LimiterReply CallStage}
    (disciplined : pool.Disciplined callWatch) {request : Request}
    (refused : (pool.move (limiterMachine rates requests) callWatch
      (.step request ())).stage request = .refused) :
    (pool.move (limiterMachine rates requests) callWatch
        (.step request ())).world.limiter.globalBucket =
      pool.world.limiter.globalBucket := by
  rcases Pool.move_step_cases (limiterMachine rates requests) callWatch pool request () with
    same | ⟨command, next, world, reply, code, answered, moved⟩
  · rw [same]
  · have obeys := disciplined request
    rw [code] at obeys
    rw [moved] at refused ⊢
    change Function.update pool.stage request _ request = .refused at refused
    rw [Function.update_self] at refused
    cases Option.some.inj answered
    cases command with
    | countCall | sweep now | gate key now => rfl
    | spendGlobal now =>
        -- Only a request that passed asks this, and then it is decided.
        have permitted := obeys.1
        cases stage : pool.stage request with
        | passed =>
            rw [stage] at refused
            cases refused
        | pending | refused | decided =>
            rw [stage] at permitted
            exact permitted.elim

end Schedules

/-- **The per-circuit limit under concurrency.** Whatever the order of the locks, a circuit whose
bucket is touched in the order of the times gets at most `rate * (1 + length)` requests through in
any interval; and in any case a request its gate refuses leaves the global bucket as it was. -/
theorem circuit_limit_holds_in_time_order {Key Request : Type} [DecidableEq Key]
    [DecidableEq Request] (rates : LimiterRates) (requests : Request → Key × ℚ) (start : ℚ)
    (schedule : List Request) :
    (∀ key, InOrder key (afterSchedule rates requests start schedule).world.accesses →
      ∀ first length : ℚ, 0 ≤ length →
        (allowedWithin requests key first (first + length)
            (afterSchedule rates requests start schedule).world.allowed : ℚ) ≤
          rates.perCircuit * (1 + length)) ∧
    ∀ request,
      (afterSchedule rates requests start (schedule ++ [request])).stage request = .refused →
      (afterSchedule rates requests start
          (schedule ++ [request])).world.limiter.globalBucket =
        (afterSchedule rates requests start schedule).world.limiter.globalBucket := by
  constructor
  · intro key inOrder first length nonneg
    obtain ⟨books, viewed⟩ := afterSchedule_invariant rates requests start schedule
    have passed : allowedWithin requests key first (first + length)
        (afterSchedule rates requests start schedule).world.allowed ≤
        allowedWithin requests key first (first + length)
          (afterSchedule rates requests start schedule).world.passed := books.countP_le _
    rw [(viewed key).within] at passed
    have bound := Meter.within_run_le rates.perCircuit_nonneg inOrder
      (show first ≤ first + length by linarith)
    rw [add_sub_cancel_left] at bound
    exact (Nat.cast_le.2 passed).trans bound
  · intro request refused
    have last : afterSchedule rates requests start (schedule ++ [request]) =
        (afterSchedule rates requests start schedule).move (limiterMachine rates requests)
          callWatch (.step request ()) := by
      rw [afterSchedule, List.map_append, run_append]
      rfl
    rw [last] at refused ⊢
    exact refused_leaves_global (afterSchedule_disciplined rates requests start schedule) refused

/-- Four requests of one circuit; the third read the clock before the second and came later to
the lock. -/
def lateRequest : Nat → Unit × ℚ
  | 1 => ((), 1)
  | 3 => ((), 1)
  | _ => ((), 0)

/-- One after the other; the first also sweeps, the third is refused at its gate. -/
def lateSchedule : List Nat := [0, 0, 0, 0, 1, 1, 1, 2, 2, 3, 3, 3]

theorem late_request_refills_twice :
    (allowedWithin lateRequest () 1 (1 + 0)
        (afterSchedule (.ofSettings 1 10) lateRequest 0 lateSchedule).world.allowed : ℚ) >
      (LimiterRates.ofSettings 1 10).perCircuit * (1 + 0) := by
  decide +kernel

end CrFaucet.Oracle
