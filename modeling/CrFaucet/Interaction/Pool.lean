import Mathlib.Logic.Function.Basic
import CrFaucet.Interaction.Program
import CrFaucet.Interaction.Run

/-!
Owns any number of programs running side by side against one shared world.

Commands are atomic: one action lets one thread ask its next command and the
outside answer it. Between two commands any other thread may move, any event
of the outside may happen, and any thread may be thrown away and started
afresh. A restart models a crash at an arbitrary point, a request that is
dropped, and the next round of a service loop alike: the thread keeps nothing
but what it wrote to the world.

The stage of each thread under a discipline is carried along as a ghost: it is
computed from the commands and replies and never read by `exec`.

`Invariant.run` is the proof rule: a predicate on the world and on the stages
of all threads that survives every permitted command, every restart and every
event holds in every state of every run.
-/

set_option autoImplicit false

namespace CrFaucet.Interaction

/-- The world programs run against. `exec` is `none` while a thread has to
wait, for instance on a lock. -/
structure Machine (Thread World Command : Type) (Reply : Command → Type)
    (Answer Event : Type) where
  exec : Thread → World → (command : Command) → Answer → Option (World × Reply command)
  event : World → Event → World
  /-- What the world forgets when a thread goes away: the locks it held. -/
  abandon : Thread → World → World
  main : Thread → Program Command Reply Unit

/-- One move of the whole system. -/
inductive Action (Thread Answer Event : Type) where
  | step (thread : Thread) (answer : Answer)
  | restart (thread : Thread)
  | event (event : Event)

/-- The world, what each thread still has to do, and the ghost stages. -/
structure Pool (Thread World Command : Type) (Reply : Command → Type) (Stage : Type) where
  world : World
  code : Thread → Program Command Reply Unit
  stage : Thread → Stage

variable {Thread World Command Answer Event Stage : Type} {Reply : Command → Type}
  [DecidableEq Thread]

namespace Pool

variable (machine : Machine Thread World Command Reply Answer Event)
  (discipline : Discipline Command Reply Stage)

/-- Every thread at the beginning of its program. -/
def initial (world : World) : Pool Thread World Command Reply Stage where
  world := world
  code := machine.main
  stage := fun _ => discipline.start

/-- One action. A finished or waiting thread does not move. -/
def move (pool : Pool Thread World Command Reply Stage) :
    Action Thread Answer Event → Pool Thread World Command Reply Stage
  | .step thread answer =>
      match pool.code thread with
      | .done _ => pool
      | .ask command next =>
          match machine.exec thread pool.world command answer with
          | none => pool
          | some (world, reply) =>
              { world := world
                code := Function.update pool.code thread (next reply)
                stage := Function.update pool.stage thread
                  (discipline.after (pool.stage thread) command reply) }
  | .restart thread =>
      { world := machine.abandon thread pool.world
        code := Function.update pool.code thread (machine.main thread)
        stage := Function.update pool.stage thread discipline.start }
  | .event event => { pool with world := machine.event pool.world event }

/-- What a thread is about to ask. -/
def next? (pool : Pool Thread World Command Reply Stage) (thread : Thread) : Option Command :=
  match pool.code thread with
  | .done _ => none
  | .ask command _ => some command

/-- Every thread still obeys the discipline from its present stage on. -/
def Disciplined (pool : Pool Thread World Command Reply Stage) : Prop :=
  ∀ thread, (pool.code thread).Obeys discipline (pool.stage thread) fun _ _ => True

variable {machine discipline} {pool : Pool Thread World Command Reply Stage} {thread : Thread}

omit [DecidableEq Thread] in
theorem initial_disciplined (world : World)
    (mains : ∀ thread, (machine.main thread).Obeys discipline discipline.start fun _ _ => True) :
    (initial machine discipline world).Disciplined discipline := mains

variable (machine discipline) in
/-- **Inversion of a step.** Either nothing happened, or the thread asked its
next command and everything that changed is known. -/
theorem move_step_cases (pool : Pool Thread World Command Reply Stage) (thread : Thread)
    (answer : Answer) :
    move machine discipline pool (.step thread answer) = pool ∨
      ∃ command next world reply, pool.code thread = .ask command next ∧
        machine.exec thread pool.world command answer = some (world, reply) ∧
        move machine discipline pool (.step thread answer) =
          { world := world
            code := Function.update pool.code thread (next reply)
            stage := Function.update pool.stage thread
              (discipline.after (pool.stage thread) command reply) } := by
  cases code : pool.code thread with
  | done result => exact Or.inl (by simp only [move, code])
  | ask command next =>
      cases answered : machine.exec thread pool.world command answer with
      | none => exact Or.inl (by simp only [move, code, answered])
      | some outcome =>
          exact Or.inr ⟨command, next, outcome.1, outcome.2, rfl, answered,
            by simp only [move, code, answered]⟩

theorem move_step_of_code {answer : Answer} {command : Command}
    {next : Reply command → Program Command Reply Unit} {world : World} {reply : Reply command}
    (code : pool.code thread = .ask command next)
    (answered : machine.exec thread pool.world command answer = some (world, reply)) :
    move machine discipline pool (.step thread answer) =
      { world := world
        code := Function.update pool.code thread (next reply)
        stage := Function.update pool.stage thread
          (discipline.after (pool.stage thread) command reply) } := by
  simp only [move, code, answered]

/-- What is said of every thread's program and stage is kept by a move, if it is kept by the
answer to a command and holds where a thread starts. -/
theorem forall_move (holds : Thread → Program Command Reply Unit → Stage → Prop)
    (before : ∀ thread, holds thread (pool.code thread) (pool.stage thread))
    (answers : ∀ thread command next stage reply, holds thread (.ask command next) stage →
      holds thread (next reply) (discipline.after stage command reply))
    (mains : ∀ thread, holds thread (machine.main thread) discipline.start)
    (action : Action Thread Answer Event) :
    ∀ thread, holds thread ((pool.move machine discipline action).code thread)
      ((pool.move machine discipline action).stage thread) := by
  cases action with
  | step thread answer =>
      rcases move_step_cases machine discipline pool thread answer with
        same | ⟨command, next, world, reply, code, _, moved⟩
      · rw [same]
        exact before
      · rw [moved]
        intro other
        by_cases same : other = thread
        · subst same
          have here := before other
          rw [code] at here
          simpa using answers other command next _ reply here
        · simpa [same] using before other
  | restart thread =>
      intro other
      by_cases same : other = thread
      · subst same
        simpa [Pool.move] using mains other
      · simpa [Pool.move, same] using before other
  | event event => exact before

theorem Disciplined.move (disciplined : pool.Disciplined discipline)
    (mains : ∀ thread, (machine.main thread).Obeys discipline discipline.start fun _ _ => True)
    (action : Action Thread Answer Event) :
    (pool.move machine discipline action).Disciplined discipline :=
  forall_move (fun _ code stage => code.Obeys discipline stage fun _ _ => True) disciplined
    (fun _ _ _ _ reply obeys => obeys.2 reply) mains action

theorem Disciplined.run (disciplined : pool.Disciplined discipline)
    (mains : ∀ thread, (machine.main thread).Obeys discipline discipline.start fun _ _ => True)
    (actions : List (Action Thread Answer Event)) :
    (Interaction.run (Pool.move machine discipline) pool actions).Disciplined discipline := by
  have along : Along (Pool.move machine discipline) (fun _ _ => True) pool actions :=
    Along.of_forall_mem pool fun _ _ => trivial
  exact along.keeps (Disciplined discipline)
    (fun _ action disciplined _ => disciplined.move mains action) disciplined

/-! ### The stages are only watched -/

/-- The same world and the same programs, whatever the stages. -/
structure Alike {Other : Type} (pool : Pool Thread World Command Reply Stage)
    (other : Pool Thread World Command Reply Other) : Prop where
  world : pool.world = other.world
  code : pool.code = other.code

variable {Other : Type} {watcher : Discipline Command Reply Other}
  {other : Pool Thread World Command Reply Other}

theorem Alike.move (alike : pool.Alike other) (action : Action Thread Answer Event) :
    (pool.move machine discipline action).Alike (other.move machine watcher action) := by
  obtain ⟨sameWorld, sameCode⟩ := alike
  cases action with
  | step thread answer =>
      simp only [Pool.move]
      rw [← sameWorld, ← sameCode]
      cases pool.code thread with
      | done result => exact ⟨sameWorld, sameCode⟩
      | ask command next =>
          dsimp only
          cases machine.exec thread pool.world command answer with
          | none => exact ⟨sameWorld, sameCode⟩
          | some outcome => exact ⟨rfl, rfl⟩
  | restart thread =>
      simp only [Pool.move]
      rw [← sameWorld, ← sameCode]
      exact ⟨rfl, rfl⟩
  | event event =>
      simp only [Pool.move]
      rw [← sameWorld, ← sameCode]
      exact ⟨rfl, rfl⟩

theorem Alike.run (alike : pool.Alike other) (actions : List (Action Thread Answer Event)) :
    (Interaction.run (Pool.move machine discipline) pool actions).Alike
      (Interaction.run (Pool.move machine watcher) other actions) := by
  induction actions generalizing pool other with
  | nil => exact alike
  | cons action rest inductionHypothesis => exact inductionHypothesis (alike.move action)

omit [DecidableEq Thread] in
theorem Alike.next_eq (alike : pool.Alike other) (thread : Thread) :
    pool.next? thread = other.next? thread := by
  obtain ⟨world, code, stage⟩ := pool
  obtain ⟨_, sameCode⟩ := alike
  cases sameCode
  rfl

omit [DecidableEq Thread] in
theorem Disciplined.permits_next (disciplined : pool.Disciplined discipline) {command : Command}
    (next : pool.next? thread = some command) :
    discipline.permits (pool.stage thread) command := by
  have obeys := disciplined thread
  delta next? at next
  cases code : pool.code thread with
  | done result =>
      rw [code] at next
      cases next
  | ask asked rest =>
      rw [code] at next obeys
      cases next
      exact obeys.1

omit [DecidableEq Thread] in
theorem next_of_code {command : Command} {rest : Reply command → Program Command Reply Unit}
    (code : pool.code thread = .ask command rest) : pool.next? thread = some command := by
  delta next?
  rw [code]

omit [DecidableEq Thread] in
theorem next_of_done {result : Unit} (code : pool.code thread = .done result) :
    pool.next? thread = none := by
  delta next?
  rw [code]

omit [DecidableEq Thread] in
theorem code_of_next_none (ended : pool.next? thread = none) : pool.code thread = .done () := by
  delta next? at ended
  cases code : pool.code thread with
  | done result => rfl
  | ask command rest =>
      rw [code] at ended
      cases ended

/-! ### Which commands each thread asks -/

/-- Every thread still keeps to the commands it is allowed. -/
def Asking (allowed : Thread → Command → Prop) (pool : Pool Thread World Command Reply Stage) :
    Prop :=
  ∀ thread, (pool.code thread).Asks (allowed thread)

/-- The command a step asks is one the thread is allowed. -/
def Asked (allowed : Thread → Command → Prop) (pool : Pool Thread World Command Reply Stage) :
    Action Thread Answer Event → Prop
  | .step thread _ => ∀ command next, pool.code thread = .ask command next →
      allowed thread command
  | _ => True

variable {allowed : Thread → Command → Prop}

omit [DecidableEq Thread] in
theorem initial_asking (world : World)
    (mains : ∀ thread, (machine.main thread).Asks (allowed thread)) :
    (initial machine discipline world).Asking allowed := mains

omit [DecidableEq Thread] in
theorem Asking.asked (asking : pool.Asking allowed) (action : Action Thread Answer Event) :
    pool.Asked allowed action := by
  cases action with
  | step thread answer =>
      intro command next code
      have asks := asking thread
      rw [code] at asks
      exact asks.1
  | _ => trivial

theorem Asking.move (asking : pool.Asking allowed)
    (mains : ∀ thread, (machine.main thread).Asks (allowed thread))
    (action : Action Thread Answer Event) :
    (pool.move machine discipline action).Asking allowed :=
  forall_move (fun thread code _ => code.Asks (allowed thread)) asking
    (fun _ _ _ _ reply asks => asks.2 reply) mains action

theorem Asking.along (asking : pool.Asking allowed)
    (mains : ∀ thread, (machine.main thread).Asks (allowed thread))
    (actions : List (Action Thread Answer Event)) :
    Along (Pool.move machine discipline) (Asked allowed) pool actions := by
  have kept : Along (Pool.move machine discipline) (fun pool _ => pool.Asking allowed) pool
      actions :=
    Along.of_invariant (fun _ action now => now.move mains action) asking actions
  exact kept.weaken fun _ action now => now.asked action

end Pool

/-- A predicate on the world and the stages that every admitted action keeps.
`meets` is the condition imposed on the actions of the run. -/
structure Invariant (machine : Machine Thread World Command Reply Answer Event)
    (discipline : Discipline Command Reply Stage)
    (meets : Pool Thread World Command Reply Stage → Action Thread Answer Event → Prop)
    (holds : World → (Thread → Stage) → Prop) : Prop where
  step : ∀ (pool : Pool Thread World Command Reply Stage) thread answer command next world reply,
    pool.code thread = .ask command next →
    discipline.permits (pool.stage thread) command →
    machine.exec thread pool.world command answer = some (world, reply) →
    meets pool (.step thread answer) →
    holds pool.world pool.stage →
    holds world (Function.update pool.stage thread
      (discipline.after (pool.stage thread) command reply))
  restart : ∀ (pool : Pool Thread World Command Reply Stage) thread,
    meets pool (.restart thread) →
    holds pool.world pool.stage →
    holds (machine.abandon thread pool.world)
      (Function.update pool.stage thread discipline.start)
  event : ∀ (pool : Pool Thread World Command Reply Stage) event,
    meets pool (.event event) →
    holds pool.world pool.stage →
    holds (machine.event pool.world event) pool.stage

namespace Invariant

variable {machine : Machine Thread World Command Reply Answer Event}
  {discipline : Discipline Command Reply Stage}
  {meets : Pool Thread World Command Reply Stage → Action Thread Answer Event → Prop}
  {holds : World → (Thread → Stage) → Prop}

theorem move (invariant : Invariant machine discipline meets holds)
    {pool : Pool Thread World Command Reply Stage} {action : Action Thread Answer Event}
    (disciplined : pool.Disciplined discipline) (admitted : meets pool action)
    (now : holds pool.world pool.stage) :
    holds (pool.move machine discipline action).world
      (pool.move machine discipline action).stage := by
  cases action with
  | step thread answer =>
      rcases Pool.move_step_cases machine discipline pool thread answer with
        same | ⟨command, next, world, reply, code, answered, moved⟩
      · rw [same]
        exact now
      · rw [moved]
        have obeys := disciplined thread
        rw [code] at obeys
        exact invariant.step pool thread answer command next world reply code obeys.1 answered
          admitted now
  | restart thread => exact invariant.restart pool thread admitted now
  | event event => exact invariant.event pool event admitted now

/-- **The pool rule.** From disciplined programs and an invariant that holds
initially, the invariant holds at the end of every admitted run. -/
theorem run (invariant : Invariant machine discipline meets holds)
    (mains : ∀ thread, (machine.main thread).Obeys discipline discipline.start fun _ _ => True)
    {pool : Pool Thread World Command Reply Stage}
    (disciplined : pool.Disciplined discipline)
    {actions : List (Action Thread Answer Event)}
    (along : Along (Pool.move machine discipline) meets pool actions)
    (initially : holds pool.world pool.stage) :
    holds (Interaction.run (Pool.move machine discipline) pool actions).world
      (Interaction.run (Pool.move machine discipline) pool actions).stage := by
  have both := along.keeps
    (fun pool => holds pool.world pool.stage ∧ pool.Disciplined discipline)
    (fun pool action now admitted =>
      ⟨invariant.move now.2 admitted now.1, now.2.move mains action⟩)
    ⟨initially, disciplined⟩
  exact both.1

end Invariant

end CrFaucet.Interaction
