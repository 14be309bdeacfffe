import Mathlib.Data.List.Basic

/-!
Owns programs that act on the outside only through typed commands, and a
Hoare-style discipline over them.

A program is a finite tree: it ends with a result, or asks a command and goes
on with whatever reply comes back. Every reply is possible, so a statement
about a program covers every failure pattern of the outside at once.

A discipline watches the commands of one program. Its stage is a function of
the commands asked and the replies received so far; a command is permitted or
not in a stage. `Obeys` is the weakest precondition of that reading: every
command the program can ever ask is permitted in the stage in which it asks
it, and the program ends in a stage and with a result that satisfy the
postcondition.

Does not own the meaning of commands; see `Interaction.Pool` for programs
that run side by side against one shared world.
-/

set_option autoImplicit false

namespace CrFaucet.Interaction

/-- A program over commands with typed replies. -/
inductive Program (Command : Type) (Reply : Command → Type) (Result : Type) : Type where
  | done (result : Result)
  | ask (command : Command) (next : Reply command → Program Command Reply Result)

namespace Program

variable {Command : Type} {Reply : Command → Type} {Result Other : Type}

/-- Sequencing: run `first`, hand its result to `next`. -/
def bind : Program Command Reply Result → (Result → Program Command Reply Other) →
    Program Command Reply Other
  | .done result, next => next result
  | .ask command rest, next => .ask command fun reply => (rest reply).bind next

instance : Monad (Program Command Reply) where
  pure := .done
  bind := .bind

/-- Ask one command and return its reply. -/
def call (command : Command) : Program Command Reply (Reply command) :=
  .ask command .done

@[simp] theorem pure_eq (result : Result) :
    (pure result : Program Command Reply Result) = .done result := rfl

@[simp] theorem call_bind (command : Command)
    (next : Reply command → Program Command Reply Other) :
    ((call command : Program Command Reply (Reply command)) >>= next) =
      .ask command next := rfl

/-- A program running alone, with one answer of the outside to each command.
Without a result, the answers ran out. -/
def drive {World Answer : Type}
    (exec : World → (command : Command) → Answer → World × Reply command) :
    Program Command Reply Result → World → List Answer → World × Option Result
  | .done result, world, _ => (world, some result)
  | .ask _ _, world, [] => (world, none)
  | .ask command next, world, answer :: rest =>
      (next (exec world command answer).2).drive exec (exec world command answer).1 rest

/-- The same where a command may have to wait. Without a result, one would wait for
ever, or the answers ran out. -/
def attempt {World Answer : Type}
    (exec : World → (command : Command) → Answer → Option (World × Reply command)) :
    Program Command Reply Result → World → List Answer → Option (World × Result)
  | .done result, world, _ => some (world, result)
  | .ask _ _, _, [] => none
  | .ask command next, world, answer :: rest =>
      match exec world command answer with
      | none => none
      | some (after, reply) => (next reply).attempt exec after rest

/-- An attempt that ends, one command at a time. -/
theorem attempt_ask {World Answer : Type}
    {exec : World → (command : Command) → Answer → Option (World × Reply command)}
    {command : Command} {next : Reply command → Program Command Reply Result}
    {world after : World} {answer : Answer} {rest : List Answer} {result : Result}
    (ends : (Program.ask command next).attempt exec world (answer :: rest) =
      some (after, result)) :
    ∃ between reply, exec world command answer = some (between, reply) ∧
      (next reply).attempt exec between rest = some (after, result) := by
  unfold attempt at ends
  split at ends
  · cases ends
  · rename_i between reply answered
    exact ⟨between, reply, answered, ends⟩

end Program

/-- Watches the commands of one program: the stage it is in, which commands
are permitted there, and how a reply moves it. -/
structure Discipline (Command : Type) (Reply : Command → Type) (Stage : Type) where
  start : Stage
  permits : Stage → Command → Prop
  after : Stage → (command : Command) → Reply command → Stage

namespace Program

variable {Command : Type} {Reply : Command → Type} {Result Other Stage : Type}

/-- Every command of the program is permitted when it is asked, whatever the
replies, and the program ends as `post` says. -/
def Obeys (discipline : Discipline Command Reply Stage) :
    Stage → Program Command Reply Result → (Stage → Result → Prop) → Prop
  | stage, .done result, post => post stage result
  | stage, .ask command next, post =>
      discipline.permits stage command ∧
        ∀ reply, (next reply).Obeys discipline (discipline.after stage command reply) post

variable {discipline : Discipline Command Reply Stage} {stage : Stage}
  {post post' : Stage → Result → Prop}

theorem Obeys.weaken {program : Program Command Reply Result}
    (obeys : program.Obeys discipline stage post)
    (implies : ∀ stage result, post stage result → post' stage result) :
    program.Obeys discipline stage post' := by
  induction program generalizing stage with
  | done result => exact implies _ _ obeys
  | ask command next inductionHypothesis =>
      exact ⟨obeys.1, fun reply => inductionHypothesis reply (obeys.2 reply)⟩

theorem obeys_call {command : Command} {next : Reply command → Program Command Reply Result}
    (permitted : discipline.permits stage command)
    (continues : ∀ reply, (next reply).Obeys discipline (discipline.after stage command reply)
      post) :
    (call command >>= next).Obeys discipline stage post :=
  ⟨permitted, continues⟩

/-- **The sequencing rule.** -/
theorem Obeys.bind {first : Program Command Reply Result}
    {next : Result → Program Command Reply Other} {last : Stage → Other → Prop}
    (obeys : first.Obeys discipline stage post)
    (continues : ∀ stage result, post stage result →
      (next result).Obeys discipline stage last) :
    (first >>= next).Obeys discipline stage last := by
  induction first generalizing stage with
  | done result => exact continues _ _ obeys
  | ask command rest inductionHypothesis =>
      exact ⟨obeys.1, fun reply => inductionHypothesis reply (obeys.2 reply)⟩

end Program

def Discipline.prod {Command : Type} {Reply : Command → Type} {Stage Other : Type}
    (first : Discipline Command Reply Stage) (second : Discipline Command Reply Other) :
    Discipline Command Reply (Stage × Other) where
  start := (first.start, second.start)
  permits := fun stage command => first.permits stage.1 command ∧ second.permits stage.2 command
  after := fun stage command reply =>
    (first.after stage.1 command reply, second.after stage.2 command reply)

theorem Program.Obeys.prod {Command : Type} {Reply : Command → Type} {Result Stage Other : Type}
    {first : Discipline Command Reply Stage} {second : Discipline Command Reply Other}
    {stage : Stage} {other : Other} {program : Program Command Reply Result}
    {post : Stage → Result → Prop} {post' : Other → Result → Prop}
    (obeys : program.Obeys first stage post) (obeys' : program.Obeys second other post') :
    program.Obeys (first.prod second) (stage, other) fun stages result =>
      post stages.1 result ∧ post' stages.2 result := by
  induction program generalizing stage other with
  | done result => exact ⟨obeys, obeys'⟩
  | ask command next inductionHypothesis =>
      refine ⟨⟨obeys.1, obeys'.1⟩, fun reply => ?_⟩
      exact inductionHypothesis reply (obeys.2 reply) (obeys'.2 reply)

/-- Watches nothing but which commands are asked. -/
def Discipline.only {Command : Type} {Reply : Command → Type} (allowed : Command → Prop) :
    Discipline Command Reply Unit where
  start := ()
  permits := fun _ command => allowed command
  after := fun _ _ _ => ()

namespace Program

variable {Command : Type} {Reply : Command → Type} {Result Stage : Type}

/-- Every command the program can ask is allowed. -/
abbrev Asks (allowed : Command → Prop) (program : Program Command Reply Result) : Prop :=
  program.Obeys (Discipline.only allowed) () fun _ _ => True

/-- A program whose commands all keep to some stages obeys the discipline there. -/
theorem Asks.obeys {allowed : Command → Prop} {program : Program Command Reply Result}
    (asks : program.Asks allowed) {discipline : Discipline Command Reply Stage}
    {stays : Stage → Prop}
    (permitted : ∀ stage command, stays stage → allowed command →
      discipline.permits stage command)
    (kept : ∀ stage command reply, stays stage → allowed command →
      stays (discipline.after stage command reply))
    {stage : Stage} (now : stays stage) :
    program.Obeys discipline stage fun stage _ => stays stage := by
  induction program generalizing stage with
  | done result => exact now
  | ask command next inductionHypothesis =>
      refine ⟨permitted stage command now asks.1, fun reply => ?_⟩
      exact inductionHypothesis reply (asks.2 reply) (kept stage command reply now asks.1)

end Program

end CrFaucet.Interaction
