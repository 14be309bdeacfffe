import CrFaucet.Interaction.Run

/-!
Owns reading lines from a transport that delivers a byte stream in chunks, by a reader that is
one arm of a choice: a poll takes what has arrived; if that does not end a line and the other
arm is ready, the other arm is taken and the reader is made anew.

A reader made anew has none of the bytes the old one took. `lost` collects them; it is a ghost.
A line may be required to end within a cap, and to be text; a reader that meets the cap, or a
line that is no text, ends.

`Following` is the invariant of a reader that lost nothing: what it holds, what waits and what
is still to come are together the lines that are left.

Does not own what is done with a line, or the end of the stream.
-/

set_option autoImplicit false

namespace CrFaucet

open Interaction

structure LineFormat (Byte : Type) where
  newline : Byte
  cap : Option Nat
  isText : List Byte → Bool
  cap_pos : ∀ bound ∈ cap, 0 < bound

structure LineReader (Byte : Type) where
  /-- Arrived and not yet taken. -/
  waiting : List Byte
  /-- Taken by the pending read. -/
  held : List Byte
  lines : List (List Byte)
  ended : Bool
  lost : List Byte
deriving DecidableEq

/-- What can happen to a reader. -/
inductive ReadAction (Byte : Type) where
  | arrive (chunk : List Byte)
  | poll (otherReady : Bool)

namespace LineReader

variable {Byte : Type} [DecidableEq Byte]

def start : LineReader Byte := ⟨[], [], [], false, []⟩

/-- Up to and including the first newline, and the rest. -/
def cutLine (newline : Byte) : List Byte → Option (List Byte × List Byte)
  | [] => none
  | byte :: rest =>
      if byte = newline then some ([byte], rest)
      else (cutLine newline rest).map fun parts => (byte :: parts.1, parts.2)

variable (format : LineFormat Byte)

/-- What a read may take: the cap counts the bytes it holds already. -/
def visible (reader : LineReader Byte) : List Byte :=
  match format.cap with
  | none => reader.waiting
  | some cap => reader.waiting.take (cap - reader.held.length)

/-- The read is at its cap. -/
def full (taken : List Byte) : Bool :=
  match format.cap with
  | none => false
  | some cap => cap ≤ taken.length

/-- A read that found the end of a line. -/
def finish (reader : LineReader Byte) (line : List Byte) (waiting : List Byte) :
    LineReader Byte :=
  if format.isText line then
    { reader with waiting := waiting, held := [], lines := reader.lines ++ [line] }
  else { reader with waiting := waiting, held := [], ended := true }

/-- A read that took all there was and has no line yet. -/
def suspend (reader : LineReader Byte) (otherReady : Bool) (taken : List Byte) :
    LineReader Byte :=
  if otherReady then { reader with waiting := [], held := [], lost := reader.lost ++ taken }
  else { reader with waiting := [], held := taken }

def poll (reader : LineReader Byte) (otherReady : Bool) : LineReader Byte :=
  if reader.ended then reader
  else
    match cutLine format.newline (reader.visible format) with
    | some (front, _) =>
        reader.finish format (reader.held ++ front) (reader.waiting.drop front.length)
    | none =>
        if full format (reader.held ++ reader.visible format) then
          { reader with held := [], ended := true }
        else reader.suspend otherReady (reader.held ++ reader.waiting)

def step (reader : LineReader Byte) : ReadAction Byte → LineReader Byte
  | .arrive chunk => { reader with waiting := reader.waiting ++ chunk }
  | .poll otherReady => reader.poll format otherReady

/-- What has arrived neither ends a line nor fills the read. -/
structure Pending (reader : LineReader Byte) : Prop where
  running : reader.ended = false
  unfinished : format.newline ∉ reader.visible format
  below : full format (reader.held ++ reader.visible format) = false

instance (reader : LineReader Byte) : Decidable (Pending format reader) :=
  decidable_of_iff (reader.ended = false ∧ format.newline ∉ reader.visible format ∧
      full format (reader.held ++ reader.visible format) = false)
    ⟨fun ⟨running, unfinished, below⟩ => ⟨running, unfinished, below⟩,
      fun pending => ⟨pending.running, pending.unfinished, pending.below⟩⟩

/-- The other arm is not taken while the read is pending with a part of a line. -/
def DropsNothing (reader : LineReader Byte) : ReadAction Byte → Prop
  | .arrive _ => True
  | .poll otherReady =>
      otherReady = true → Pending format reader → reader.held ++ reader.waiting = []

instance (reader : LineReader Byte) :
    ∀ action, Decidable (DropsNothing format reader action)
  | .arrive _ => inferInstanceAs (Decidable True)
  | .poll _ => inferInstanceAs (Decidable (_ → _ → _))

end LineReader

def ReadAction.bytes {Byte : Type} : ReadAction Byte → List Byte
  | .arrive chunk => chunk
  | .poll _ => []

/-- A line: its newline is its last byte and its only one. -/
def IsLine {Byte : Type} (newline : Byte) (line : List Byte) : Prop :=
  ∃ body, newline ∉ body ∧ line = body ++ [newline]

def WellSent {Byte : Type} (format : LineFormat Byte) (sent : List (List Byte)) : Prop :=
  ∀ line ∈ sent, IsLine format.newline line ∧ ∀ cap ∈ format.cap, line.length ≤ cap

namespace LineReader

variable {Byte : Type} [DecidableEq Byte]

/-! ### Lines of a stream -/

section Stream

variable {newline : Byte}

theorem cutLine_some {bytes front rest : List Byte}
    (cut : cutLine newline bytes = some (front, rest)) :
    ∃ body, newline ∉ body ∧ front = body ++ [newline] ∧ bytes = front ++ rest := by
  induction bytes generalizing front rest with
  | nil => cases cut
  | cons byte bytes inductionHypothesis =>
      rw [cutLine] at cut
      split at cut
      · rename_i isNewline
        cases cut
        exact ⟨[], List.not_mem_nil, by rw [isNewline]; rfl, rfl⟩
      · rename_i other
        obtain ⟨parts, later, same⟩ := Option.map_eq_some_iff.1 cut
        cases same
        obtain ⟨body, absent, isFront, whole⟩ := inductionHypothesis later
        refine ⟨byte :: body, ?_, ?_, ?_⟩
        · rw [List.mem_cons]
          rintro (same | member)
          · exact other same.symm
          · exact absent member
        · rw [isFront]
          rfl
        · rw [whole]
          rfl

theorem cutLine_none {bytes : List Byte} (none : cutLine newline bytes = none) :
    newline ∉ bytes := by
  induction bytes with
  | nil => exact List.not_mem_nil
  | cons byte bytes inductionHypothesis =>
      rw [cutLine] at none
      split at none
      · cases none
      · rename_i other
        rw [List.mem_cons]
        rintro (same | member)
        · exact other same.symm
        · exact inductionHypothesis (Option.map_eq_none_iff.1 none) member

omit [DecidableEq Byte] in
theorem append_newline_inj {first second rest other : List Byte} (absent : newline ∉ first)
    (absentToo : newline ∉ second)
    (same : first ++ newline :: rest = second ++ newline :: other) :
    first = second ∧ rest = other := by
  induction first generalizing second with
  | nil =>
      cases second with
      | nil => exact ⟨rfl, (List.cons.inj same).2⟩
      | cons byte second =>
          exact (absentToo (List.mem_cons.2 (Or.inl (List.cons.inj same).1))).elim
  | cons byte first inductionHypothesis =>
      cases second with
      | nil => exact (absent (List.mem_cons.2 (Or.inl (List.cons.inj same).1.symm))).elim
      | cons other second =>
          obtain ⟨sameByte, sameRest⟩ := List.cons.inj same
          obtain ⟨sameBody, sameTail⟩ := inductionHypothesis
            (fun member => absent (List.mem_cons_of_mem _ member))
            (fun member => absentToo (List.mem_cons_of_mem _ member)) sameRest
          exact ⟨by rw [sameByte, sameBody], sameTail⟩

omit [DecidableEq Byte] in
theorem length_lt_of_flatten {taken rest line : List Byte} {lines : List (List Byte)}
    (absent : newline ∉ taken) (isLine : IsLine newline line)
    (same : taken ++ rest = (line :: lines).flatten) : taken.length < line.length := by
  obtain ⟨body, _, rfl⟩ := isLine
  by_contra long
  have inside : newline ∈ taken := by
    have prefixed : (body ++ [newline]) <+: taken := by
      refine List.prefix_of_prefix_length_le ?_ (List.prefix_append taken rest) (by omega)
      rw [same, List.flatten_cons]
      exact List.prefix_append ..
    exact prefixed.subset (by simp)
  exact absent inside

end Stream

/-! ### What a poll does -/

section Poll

variable {format : LineFormat Byte} {reader : LineReader Byte}

omit [DecidableEq Byte] in
theorem visible_initial : reader.visible format <+: reader.waiting := by
  unfold visible
  split
  · exact List.prefix_refl _
  · exact List.take_prefix ..

omit [DecidableEq Byte] in
theorem visible_eq (below : full format (reader.held ++ reader.visible format) = false) :
    reader.visible format = reader.waiting := by
  unfold full visible at *
  cases bound : format.cap with
  | none => rfl
  | some cap =>
      simp only [bound, List.length_append, List.length_take, decide_eq_false_iff_not] at below
      exact List.take_of_length_le (by omega)

omit [DecidableEq Byte] in
theorem full_iff {taken : List Byte} :
    full format taken = true ↔ ∃ cap ∈ format.cap, cap ≤ taken.length := by
  unfold full
  cases format.cap <;> simp

theorem poll_of_ended (format : LineFormat Byte) (ended : reader.ended = true)
    (otherReady : Bool) : reader.poll format otherReady = reader :=
  if_pos ended

/-- **The three ways a poll ends.** -/
theorem poll_cases (format : LineFormat Byte) (running : reader.ended = false)
    (otherReady : Bool) :
    (format.newline ∈ reader.visible format ∧ ∃ body rest, format.newline ∉ body ∧
      reader.waiting = body ++ format.newline :: rest ∧
      reader.poll format otherReady =
        reader.finish format (reader.held ++ (body ++ [format.newline])) rest) ∨
    (format.newline ∉ reader.visible format ∧
      full format (reader.held ++ reader.visible format) = true ∧
      reader.poll format otherReady = { reader with held := [], ended := true }) ∨
    (Pending format reader ∧ format.newline ∉ reader.waiting ∧
      reader.poll format otherReady =
        reader.suspend otherReady (reader.held ++ reader.waiting)) := by
  unfold poll
  rw [running, if_neg Bool.false_ne_true]
  cases cut : cutLine format.newline (reader.visible format) with
  | some parts =>
      obtain ⟨front, tail⟩ := parts
      obtain ⟨body, absent, isFront, whole⟩ := cutLine_some cut
      obtain ⟨more, all⟩ := @visible_initial Byte format reader
      have waiting : reader.waiting = body ++ format.newline :: (tail ++ more) := by
        rw [← all, whole, isFront]
        simp
      have visible : format.newline ∈ reader.visible format := by simp [whole, isFront]
      refine Or.inl ⟨visible, body, tail ++ more, absent, waiting, ?_⟩
      have rest : reader.waiting.drop front.length = tail ++ more := by
        rw [← all, whole, List.append_assoc, List.drop_left]
      dsimp only
      rw [rest, isFront]
  | none =>
      have absent := cutLine_none cut
      cases atCap : full format (reader.held ++ reader.visible format) with
      | true => exact Or.inr (Or.inl ⟨absent, rfl, rfl⟩)
      | false =>
          have pending : Pending format reader := ⟨running, absent, atCap⟩
          rw [visible_eq atCap] at absent
          exact Or.inr (Or.inr ⟨pending, absent, rfl⟩)

/-- **What a poll loses**: what a pending read would have held, if the other arm is taken. -/
theorem lost_poll (format : LineFormat Byte) (reader : LineReader Byte) (otherReady : Bool) :
    (reader.poll format otherReady).lost = reader.lost ++
      if otherReady = true ∧ Pending format reader then reader.held ++ reader.waiting else [] := by
  cases running : reader.ended with
  | true =>
      have ready : ¬(otherReady = true ∧ Pending format reader) := fun both =>
        absurd (running.symm.trans both.2.running) nofun
      rw [poll_of_ended format running, if_neg ready, List.append_nil]
  | false =>
      rcases poll_cases format running otherReady with
        ⟨ends, body, waiting, _, _, polled⟩ | ⟨_, atCap, polled⟩ | ⟨pending, _, polled⟩
      · rw [polled, if_neg fun both => both.2.unfinished ends, List.append_nil, finish]
        split <;> rfl
      · have ready : ¬(otherReady = true ∧ Pending format reader) := fun both =>
          absurd (atCap.symm.trans both.2.below) nofun
        rw [polled, if_neg ready, List.append_nil]
      · rw [polled, suspend]
        cases otherReady with
        | true =>
            rw [if_pos rfl, if_pos ⟨rfl, pending⟩]
        | false =>
            rw [if_neg Bool.false_ne_true, if_neg fun both => Bool.false_ne_true both.1,
              List.append_nil]

theorem dropsNothing_iff {action : ReadAction Byte} :
    DropsNothing format reader action ↔ (reader.step format action).lost = reader.lost := by
  cases action with
  | arrive chunk => exact ⟨fun _ => rfl, fun _ => trivial⟩
  | poll otherReady =>
      change (_ → _ → _) ↔ (reader.poll format otherReady).lost = reader.lost
      rw [lost_poll, List.append_right_eq_self, ← and_imp]
      split
      · rename_i both
        exact ⟨fun nothing => nothing both, fun nothing _ => nothing⟩
      · rename_i neither
        exact ⟨fun _ => rfl, fun _ both => absurd both neither⟩

end Poll

/-! ### A reader that loses nothing -/

/-- What is held, waiting and coming renders the lines that are left of `sent`. -/
structure Following (format : LineFormat Byte) (sent : List (List Byte)) (coming : List Byte)
    (reader : LineReader Byte) : Prop where
  running : reader.ended = false
  unfinished : format.newline ∉ reader.held
  left : ∃ rest, sent = reader.lines ++ rest ∧
    reader.held ++ reader.waiting ++ coming = rest.flatten

section Follow

variable {format : LineFormat Byte} {sent : List (List Byte)} {coming : List Byte}
  {reader : LineReader Byte}

theorem Following.arrive {chunk : List Byte}
    (following : Following format sent (chunk ++ coming) reader) :
    Following format sent coming (reader.step format (.arrive chunk)) := by
  obtain ⟨rest, sentLines, stream⟩ := following.left
  refine ⟨following.running, following.unfinished, rest, sentLines, ?_⟩
  change reader.held ++ (reader.waiting ++ chunk) ++ coming = _
  simpa using stream

omit [DecidableEq Byte] in
theorem Following.finish (wellSent : WellSent format sent)
    (texts : ∀ line ∈ sent, format.isText line = true)
    (following : Following format sent coming reader) {body waiting : List Byte}
    (absent : format.newline ∉ body)
    (isWaiting : reader.waiting = body ++ format.newline :: waiting) :
    Following format sent coming
      (reader.finish format (reader.held ++ (body ++ [format.newline])) waiting) := by
  obtain ⟨rest, sentLines, stream⟩ := following.left
  obtain ⟨line, more, rfl⟩ : ∃ line more, rest = line :: more := by
    cases rest with
    | nil => simp [isWaiting] at stream
    | cons line more => exact ⟨line, more, rfl⟩
  have member : line ∈ sent := by simp [sentLines]
  obtain ⟨lineBody, absentToo, isLine⟩ := (wellSent line member).1
  have split : (reader.held ++ body) ++ format.newline :: (waiting ++ coming) =
      lineBody ++ format.newline :: more.flatten := by
    rw [isWaiting, List.flatten_cons, isLine] at stream
    simpa using stream
  obtain ⟨sameBody, sameRest⟩ :=
    append_newline_inj (List.not_mem_append following.unfinished absent) absentToo split
  have whole : reader.held ++ (body ++ [format.newline]) = line := by
    rw [isLine, ← sameBody, List.append_assoc]
  rw [whole, LineReader.finish, if_pos (texts line member)]
  refine ⟨following.running, List.not_mem_nil, more, ?_, sameRest⟩
  rw [sentLines]
  simp

omit [DecidableEq Byte] in
theorem Following.below_cap (wellSent : WellSent format sent)
    (following : Following format sent coming reader)
    (absent : format.newline ∉ reader.visible format) :
    full format (reader.held ++ reader.visible format) = false := by
  obtain ⟨rest, sentLines, stream⟩ := following.left
  obtain ⟨hidden, all⟩ := @visible_initial Byte format reader
  have initial : reader.held ++ reader.visible format ++ (hidden ++ coming) = rest.flatten := by
    rw [← stream, ← all]
    simp
  by_contra atCap
  rw [Bool.not_eq_false] at atCap
  obtain ⟨cap, isCap, long⟩ := full_iff.1 atCap
  cases rest with
  | nil =>
      have empty : reader.held ++ reader.visible format = [] := by
        rw [List.flatten_nil, List.append_eq_nil_iff] at initial
        exact initial.1
      have positive := format.cap_pos cap isCap
      rw [empty, List.length_nil] at long
      omega
  | cons line more =>
      have fits := wellSent line (by simp [sentLines])
      have inside := length_lt_of_flatten (List.not_mem_append following.unfinished absent) fits.1
        initial
      have short := fits.2 cap isCap
      omega

omit [DecidableEq Byte] in
/-- A read that stays pending keeps what it took. -/
theorem Following.suspend (following : Following format sent coming reader)
    (absent : format.newline ∉ reader.waiting) {otherReady : Bool}
    (drops : (reader.suspend otherReady (reader.held ++ reader.waiting)).lost = reader.lost) :
    Following format sent coming
      (reader.suspend otherReady (reader.held ++ reader.waiting)) := by
  obtain ⟨rest, sentLines, stream⟩ := following.left
  cases otherReady with
  | true =>
      have nothing : reader.held ++ reader.waiting = [] := List.append_right_eq_self.1 drops
      refine ⟨following.running, List.not_mem_nil, rest, sentLines, ?_⟩
      rw [← stream, nothing]
      rfl
  | false =>
      refine ⟨following.running, List.not_mem_append following.unfinished absent, rest,
        sentLines, ?_⟩
      change (reader.held ++ reader.waiting) ++ [] ++ coming = _
      rw [List.append_nil]
      exact stream

/-- **One action.** -/
theorem Following.step (wellSent : WellSent format sent)
    (texts : ∀ line ∈ sent, format.isText line = true) {action : ReadAction Byte}
    (following : Following format sent (action.bytes ++ coming) reader)
    (drops : DropsNothing format reader action) :
    Following format sent coming (reader.step format action) := by
  cases action with
  | arrive chunk => exact following.arrive
  | poll otherReady =>
      have drops : (reader.poll format otherReady).lost = reader.lost := dropsNothing_iff.1 drops
      change Following format sent coming (reader.poll format otherReady)
      rcases poll_cases format following.running otherReady with
        ⟨_, body, waiting, absent, isWaiting, polled⟩ | ⟨absent, atCap, _⟩ | ⟨_, absent, polled⟩
      · rw [polled]
        exact Following.finish wellSent texts following absent isWaiting
      · have below := Following.below_cap wellSent following absent
        rw [below] at atCap
        cases atCap
      · rw [polled] at drops ⊢
        exact Following.suspend following absent drops

/-- **Every run.** -/
theorem Following.run (wellSent : WellSent format sent)
    (texts : ∀ line ∈ sent, format.isText line = true) {actions : List (ReadAction Byte)}
    (following : Following format sent (actions.flatMap ReadAction.bytes) reader)
    (drops : Along (LineReader.step format) (DropsNothing format) reader actions) :
    Following format sent [] (Interaction.run (LineReader.step format) reader actions) := by
  induction actions generalizing reader with
  | nil => exact following
  | cons action rest inductionHypothesis =>
      exact inductionHypothesis (Following.step wellSent texts following drops.1) drops.2

omit [DecidableEq Byte] in
theorem Following.lines_eq (wellSent : WellSent format sent)
    (following : Following format sent [] reader) (taken : reader.waiting = []) :
    reader.lines = sent := by
  obtain ⟨rest, sentLines, stream⟩ := following.left
  rw [taken, List.append_nil, List.append_nil] at stream
  cases rest with
  | nil =>
      rw [sentLines, List.append_nil]
  | cons line more =>
      obtain ⟨⟨body, _, isLine⟩, _⟩ := wellSent line (by simp [sentLines])
      have inside : format.newline ∈ reader.held := by
        rw [stream, List.flatten_cons, isLine]
        simp
      exact (following.unfinished inside).elim

end Follow

/-! ### Every byte is accounted for -/

section Account

variable {format : LineFormat Byte} {reader : LineReader Byte}

/-- Lines are text, and no byte is counted twice. -/
structure Accounted (format : LineFormat Byte) (arrived : Nat) (reader : LineReader Byte) :
    Prop where
  texts : ∀ line ∈ reader.lines, format.isText line = true
  bytes : reader.lines.flatten.length + reader.lost.length + reader.held.length +
    reader.waiting.length ≤ arrived

section Accounts

variable {arrived : Nat} (accounted : Accounted format arrived reader)
include accounted

omit [DecidableEq Byte] in
theorem Accounted.finish {line waiting : List Byte}
    (fits : line.length + waiting.length = reader.held.length + reader.waiting.length) :
    Accounted format arrived (reader.finish format line waiting) := by
  have bytes := accounted.bytes
  unfold LineReader.finish
  split
  · rename_i isText
    constructor
    · intro other member
      rcases List.mem_append.1 member with old | new
      · exact accounted.texts other old
      · rw [List.mem_singleton.1 new]
        exact isText
    · simp only [List.flatten_append, List.flatten_singleton, List.length_append,
        List.length_nil]
      omega
  · refine ⟨accounted.texts, ?_⟩
    simp only [List.length_nil]
    omega

omit [DecidableEq Byte] in
theorem Accounted.suspend (otherReady : Bool) :
    Accounted format arrived (reader.suspend otherReady (reader.held ++ reader.waiting)) := by
  have bytes := accounted.bytes
  cases otherReady with
  | false =>
      refine ⟨accounted.texts, ?_⟩
      simp only [LineReader.suspend, Bool.false_eq_true, if_false, List.length_append,
        List.length_nil]
      omega
  | true =>
      refine ⟨accounted.texts, ?_⟩
      simp only [LineReader.suspend, if_true, List.length_append, List.length_nil]
      omega

theorem Accounted.poll (otherReady : Bool) :
    Accounted format arrived (reader.poll format otherReady) := by
  cases running : reader.ended with
  | true =>
      rw [poll_of_ended format running]
      exact accounted
  | false =>
      rcases poll_cases format running otherReady with
        ⟨_, body, waiting, _, isWaiting, polled⟩ | ⟨_, _, polled⟩ | ⟨_, _, polled⟩
      · rw [polled]
        apply accounted.finish
        rw [isWaiting]
        simp only [List.length_append, List.length_cons, List.length_nil]
        omega
      · have bytes := accounted.bytes
        rw [polled]
        refine ⟨accounted.texts, ?_⟩
        simp only [List.length_nil]
        omega
      · rw [polled]
        exact accounted.suspend otherReady

theorem Accounted.step (action : ReadAction Byte) :
    Accounted format (arrived + action.bytes.length) (reader.step format action) := by
  cases action with
  | arrive chunk =>
      have bytes := accounted.bytes
      refine ⟨accounted.texts, ?_⟩
      simp only [LineReader.step, ReadAction.bytes, List.length_append]
      omega
  | poll otherReady => exact accounted.poll otherReady

end Accounts

theorem Accounted.run {arrived : Nat} (accounted : Accounted format arrived reader)
    (actions : List (ReadAction Byte)) :
    Accounted format (arrived + (actions.flatMap ReadAction.bytes).length)
      (Interaction.run (LineReader.step format) reader actions) := by
  induction actions generalizing reader arrived with
  | nil => exact accounted
  | cons action rest inductionHypothesis =>
      rw [List.flatMap_cons, List.length_append, ← Nat.add_assoc]
      exact inductionHypothesis (accounted.step action)

theorem lost_step (reader : LineReader Byte) (action : ReadAction Byte) :
    ∃ more, (reader.step format action).lost = reader.lost ++ more := by
  cases action with
  | arrive chunk => exact ⟨[], (List.append_nil _).symm⟩
  | poll otherReady => exact ⟨_, lost_poll format reader otherReady⟩

theorem lost_run (reader : LineReader Byte) (actions : List (ReadAction Byte)) :
    ∃ more, (Interaction.run (LineReader.step format) reader actions).lost =
      reader.lost ++ more := by
  induction actions generalizing reader with
  | nil => exact ⟨[], (List.append_nil _).symm⟩
  | cons action rest inductionHypothesis =>
      obtain ⟨now, first⟩ := @lost_step Byte _ format reader action
      obtain ⟨later, then_⟩ := inductionHypothesis (reader.step format action)
      exact ⟨now ++ later, by rw [← List.append_assoc, ← first]; exact then_⟩

/-- A run that lost nothing in the end lost nothing at any step. -/
theorem along_of_lost {actions : List (ReadAction Byte)}
    (nothing : (Interaction.run (LineReader.step format) reader actions).lost = reader.lost) :
    Along (LineReader.step format) (DropsNothing format) reader actions := by
  induction actions generalizing reader with
  | nil => trivial
  | cons action rest inductionHypothesis =>
      obtain ⟨now, first⟩ := @lost_step Byte _ format reader action
      obtain ⟨later, final⟩ := @lost_run Byte _ format (reader.step format action) rest
      have none : now ++ later = [] := by
        have whole : reader.lost ++ (now ++ later) = reader.lost := by
          rw [← List.append_assoc, ← first, ← final]
          exact nothing
        exact List.append_right_eq_self.1 whole
      rw [List.append_eq_nil_iff] at none
      rw [none.1, List.append_nil] at first
      refine ⟨dropsNothing_iff.2 first, inductionHypothesis ?_⟩
      rw [final, none.2, List.append_nil]

end Account

/-- **When the lines read are the lines sent**: exactly if they are text and no step drops
bytes. All of `sent` arrives, in any chunks, and all of it is taken in the end. -/
theorem lines_eq_sent_iff {format : LineFormat Byte} {sent : List (List Byte)}
    {actions : List (ReadAction Byte)} (wellSent : WellSent format sent)
    (arrives : actions.flatMap ReadAction.bytes = sent.flatten)
    (taken : (Interaction.run (LineReader.step format) start actions).waiting = []) :
    (Interaction.run (LineReader.step format) start actions).lines = sent ↔
      (∀ line ∈ sent, format.isText line = true) ∧
        Along (LineReader.step format) (DropsNothing format) start actions := by
  constructor
  · intro same
    have fresh : Accounted format 0 start :=
      ⟨fun _ member => absurd member List.not_mem_nil, Nat.le_refl _⟩
    obtain ⟨texts, bytes⟩ := fresh.run actions
    rw [same] at texts bytes
    rw [arrives] at bytes
    have nothing : (Interaction.run (LineReader.step format) start actions).lost = [] :=
      List.length_eq_zero_iff.1 (by omega)
    exact ⟨texts, along_of_lost nothing⟩
  · intro both
    have following : Following format sent (actions.flatMap ReadAction.bytes) start :=
      ⟨rfl, List.not_mem_nil, sent, rfl, by rw [arrives]; rfl⟩
    exact (Following.run wellSent both.1 following both.2).lines_eq wellSent taken

end LineReader

end CrFaucet
