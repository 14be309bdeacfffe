import CrFaucet.Interaction.Program

/-!
Owns transcripts of a program: the commands it asked with the replies it got, up to
any point. A statement about every transcript is a statement about every pattern
of replies.

`Obeys` speaks about the commands a program can ask; `Obeys.permits_of_transcript`
reads it on a transcript, and `Discipline.history` is the discipline whose stage is
the transcript itself. `Program.decode` puts a program behind a translation of
replies, for an outside that answers in another format.

Does not own what the replies mean.
-/

set_option autoImplicit false

namespace CrFaucet.Interaction

/-- A command and the reply it got. -/
abbrev Exchange (Command : Type) (Reply : Command → Type) : Type :=
  (command : Command) × Reply command

namespace Program

variable {Command : Type} {Reply : Command → Type} {Result Other Stage : Type}

/-- The exchanges lead from one program to what is left of it. -/
inductive Leads : Program Command Reply Result → List (Exchange Command Reply) →
    Program Command Reply Result → Prop where
  | nil (program : Program Command Reply Result) : Leads program [] program
  | cons {command : Command} {next : Reply command → Program Command Reply Result}
      {exchanges : List (Exchange Command Reply)} {rest : Program Command Reply Result}
      (reply : Reply command) (leads : Leads (next reply) exchanges rest) :
      Leads (.ask command next) (⟨command, reply⟩ :: exchanges) rest

/-- The exchanges are the first ones of the program, with some pattern of replies. -/
def Transcript (program : Program Command Reply Result)
    (exchanges : List (Exchange Command Reply)) : Prop :=
  ∃ rest, program.Leads exchanges rest

section Rules

variable {program : Program Command Reply Result} {exchanges : List (Exchange Command Reply)}

theorem Transcript.eq_nil {result : Result}
    (transcript : (Program.done result : Program Command Reply Result).Transcript exchanges) :
    exchanges = [] := by
  obtain ⟨_, leads⟩ := transcript
  cases leads
  rfl

theorem Transcript.of_ask {command : Command} {next : Reply command → Program Command Reply Result}
    (transcript : (Program.ask command next).Transcript exchanges) :
    exchanges = [] ∨ ∃ reply rest, exchanges = ⟨command, reply⟩ :: rest ∧
      (next reply).Transcript rest := by
  obtain ⟨rest, leads⟩ := transcript
  cases leads with
  | nil => exact .inl rfl
  | cons reply leads => exact .inr ⟨reply, _, rfl, rest, leads⟩

theorem Transcript.of_bind {first : Program Command Reply Result}
    {next : Result → Program Command Reply Other}
    (transcript : (first >>= next).Transcript exchanges) :
    first.Transcript exchanges ∨ ∃ earlier later result, exchanges = earlier ++ later ∧
      first.Leads earlier (.done result) ∧ (next result).Transcript later := by
  induction first generalizing exchanges with
  | done result => exact .inr ⟨[], exchanges, result, rfl, .nil _, transcript⟩
  | ask command continues inductionHypothesis =>
      obtain ⟨rest, leads⟩ := transcript
      cases leads with
      | nil => exact .inl ⟨_, .nil _⟩
      | cons reply leads =>
          cases inductionHypothesis reply ⟨rest, leads⟩ with
          | inl inside =>
              obtain ⟨rest, leads⟩ := inside
              exact .inl ⟨rest, .cons reply leads⟩
          | inr through =>
              obtain ⟨earlier, later, result, rfl, ends, onwards⟩ := through
              exact .inr ⟨_ :: earlier, later, result, rfl, .cons reply ends, onwards⟩

/-- What a discipline permits, it permitted at every exchange of a transcript, in the
stage that the exchanges before lead to. -/
theorem Obeys.permits_of_transcript {discipline : Discipline Command Reply Stage}
    {stage : Stage} {post : Stage → Result → Prop} (obeys : program.Obeys discipline stage post)
    {before after : List (Exchange Command Reply)} {exchange : Exchange Command Reply}
    (transcript : program.Transcript (before ++ exchange :: after)) :
    discipline.permits
      (before.foldl (fun stage exchange => discipline.after stage exchange.1 exchange.2) stage)
      exchange.1 := by
  obtain ⟨rest, leads⟩ := transcript
  induction before generalizing program stage with
  | nil =>
      cases leads with
      | cons reply _ => exact obeys.1
  | cons first before inductionHypothesis =>
      cases leads with
      | cons reply leads => exact inductionHypothesis (obeys.2 reply) leads

end Rules

end Program

/-- Remembers every exchange; a command is permitted by the exchanges before it. -/
def Discipline.history {Command : Type} {Reply : Command → Type}
    (permits : List (Exchange Command Reply) → Command → Prop) :
    Discipline Command Reply (List (Exchange Command Reply)) where
  start := []
  permits := permits
  after := fun exchanges command reply => exchanges ++ [⟨command, reply⟩]

namespace Program

variable {Command : Type} {Reply Wire : Command → Type} {Result : Type}

section History

variable {permits permits' : List (Exchange Command Reply) → Command → Prop}
  {program : Program Command Reply Result} {post : List (Exchange Command Reply) → Result → Prop}

theorem Obeys.of_history
    (obeys : program.Obeys (Discipline.history permits) [] post)
    {before after : List (Exchange Command Reply)} {exchange : Exchange Command Reply}
    (transcript : program.Transcript (before ++ exchange :: after)) :
    permits before exchange.1 := by
  have remembered : ∀ (exchanges : List (Exchange Command Reply))
      (stage : List (Exchange Command Reply)),
      exchanges.foldl (fun stage exchange =>
        (Discipline.history permits).after stage exchange.1 exchange.2) stage =
          stage ++ exchanges := by
    intro exchanges
    induction exchanges with
    | nil => exact fun stage => (List.append_nil stage).symm
    | cons exchange rest inductionHypothesis =>
        intro stage
        rw [List.foldl_cons, inductionHypothesis]
        exact List.append_assoc stage [exchange] rest
  have permitted := obeys.permits_of_transcript transcript
  rwa [remembered before [], List.nil_append] at permitted

/-- What is permitted may depend on more than the discipline asks, as long as the
exchanges so far begin with those the program began with. -/
theorem Obeys.of_stronger {stage : List (Exchange Command Reply)}
    (obeys : program.Obeys (Discipline.history permits) stage post)
    (implies : ∀ before command, stage <+: before → permits before command →
      permits' before command) :
    program.Obeys (Discipline.history permits') stage fun after result =>
      stage <+: after ∧ post after result := by
  induction program generalizing stage with
  | done result => exact ⟨List.prefix_rfl, obeys⟩
  | ask command next inductionHypothesis =>
      refine ⟨implies stage command List.prefix_rfl obeys.1, fun reply => ?_⟩
      have longer : stage <+: stage ++ [⟨command, reply⟩] := List.prefix_append _ _
      refine (inductionHypothesis reply (obeys.2 reply) ?_).weaken ?_
      · intro before command extends_ permitted
        exact implies before command (longer.trans extends_) permitted
      · rintro after result ⟨extends_, ends⟩
        exact ⟨longer.trans extends_, ends⟩

end History

variable (read : (command : Command) → Wire command → Reply command)

/-- The program behind an outside that answers in another format. -/
def decode :
    Program Command Reply Result → Program Command Wire Result
  | .done result => .done result
  | .ask command next => .ask command fun reply => (next (read command reply)).decode

def decodeExchange (exchange : Exchange Command Wire) : Exchange Command Reply :=
  ⟨exchange.1, read exchange.1 exchange.2⟩

variable {read} {command : Command} {reply : Reply command}

theorem decodeExchange_eq {exchange : Exchange Command Wire}
    (reads : decodeExchange read exchange = ⟨command, reply⟩) :
    ∃ raw, exchange = ⟨command, raw⟩ ∧ read command raw = reply := by
  obtain ⟨asked, raw⟩ := exchange
  cases reads
  exact ⟨raw, rfl, rfl⟩

theorem map_decodeExchange_eq_cons {exchanges : List (Exchange Command Wire)}
    {rest : List (Exchange Command Reply)}
    (reads : exchanges.map (decodeExchange read) = ⟨command, reply⟩ :: rest) :
    ∃ raw wireRest, exchanges = ⟨command, raw⟩ :: wireRest ∧ read command raw = reply ∧
      wireRest.map (decodeExchange read) = rest := by
  obtain ⟨exchange, wireRest, rfl, first, restReads⟩ := List.map_eq_cons_iff.1 reads
  obtain ⟨raw, rfl, readsTo⟩ := decodeExchange_eq first
  exact ⟨raw, wireRest, rfl, readsTo, restReads⟩

theorem Transcript.of_decode {program : Program Command Reply Result}
    {exchanges : List (Exchange Command Wire)}
    (transcript : (program.decode read).Transcript exchanges) :
    program.Transcript (exchanges.map (decodeExchange read)) := by
  obtain ⟨rest, leads⟩ := transcript
  induction program generalizing exchanges with
  | done result =>
      cases leads with
      | nil => exact ⟨_, .nil _⟩
  | ask command next inductionHypothesis =>
      cases leads with
      | nil => exact ⟨_, .nil _⟩
      | cons reply leads =>
          obtain ⟨rest, leads⟩ := inductionHypothesis (read command reply) leads
          exact ⟨rest, .cons _ leads⟩

end Program

end CrFaucet.Interaction
