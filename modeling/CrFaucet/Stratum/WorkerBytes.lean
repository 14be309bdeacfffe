import Mathlib.Data.List.Basic
import CrFaucet.Interaction.Run

/-!
Owns `WORKER_SEQ`: the worker byte that each miner session takes when `handle_one`
starts and keeps until it returns.

The counter is one atomic byte for the whole process, so the sessions of a run
take their bytes one after another. Sessions are numbered in that order; the
source has no such number. Does not own how a byte is stamped into a blob.
-/

set_option autoImplicit false

namespace CrFaucet.Stratum

open Interaction

structure OpenSession where
  number : Nat
  workerByte : UInt8
deriving DecidableEq

/-- The counter, how many sessions have taken a byte so far, and those still open. -/
structure WorkerBytes where
  workerSeq : UInt8
  taken : Nat
  sessions : List OpenSession

inductive SessionEvent where
  | opens
  | closes (number : Nat)

namespace WorkerBytes

def start : WorkerBytes where
  workerSeq := 0
  taken := 0
  sessions := []

variable (bytes : WorkerBytes)

/-- `WORKER_SEQ.fetch_add(1, Ordering::Relaxed)`, which wraps. -/
def opens : WorkerBytes where
  workerSeq := bytes.workerSeq + 1
  taken := bytes.taken + 1
  sessions := ⟨bytes.taken, bytes.workerSeq⟩ :: bytes.sessions

def closes (number : Nat) : WorkerBytes :=
  { bytes with sessions := bytes.sessions.filter fun session => session.number ≠ number }

def step (bytes : WorkerBytes) : SessionEvent → WorkerBytes
  | .opens => bytes.opens
  | .closes number => bytes.closes number

/-- Every two open sessions have different worker bytes. -/
def Disjoint : Prop :=
  bytes.sessions.Pairwise fun one other => one.workerByte ≠ other.workerByte

/-- Every open session is among the last 256 that took a byte. -/
def Recent : Prop := ∀ session ∈ bytes.sessions, bytes.taken ≤ session.number + 256

def AtMost256 : Prop := bytes.sessions.length ≤ 256

instance : Decidable bytes.Disjoint := inferInstanceAs (Decidable (List.Pairwise _ _))

instance : Decidable bytes.AtMost256 := inferInstanceAs (Decidable (_ ≤ _))

/-- After every event. -/
def Always (holds : WorkerBytes → Prop) (events : List SessionEvent) : Prop :=
  Along step (fun bytes event => holds (bytes.step event)) start events

instance (holds : WorkerBytes → Prop) [DecidablePred holds] (events : List SessionEvent) :
    Decidable (Always holds events) :=
  inferInstanceAs (Decidable (Along _ _ _ _))

/-! ### The numbers behind the bytes -/

/-- A session's byte is its number modulo 256. -/
structure Numbered (bytes : WorkerBytes) : Prop where
  counter : bytes.workerSeq = UInt8.ofNat bytes.taken
  byte : ∀ session ∈ bytes.sessions, session.workerByte = UInt8.ofNat session.number
  earlier : ∀ session ∈ bytes.sessions, session.number < bytes.taken
  distinct : bytes.sessions.Pairwise fun one other => one.number ≠ other.number

variable {bytes}

namespace Numbered

theorem start : Numbered start := ⟨rfl, nofun, nofun, List.Pairwise.nil⟩

theorem opens (numbered : bytes.Numbered) : bytes.opens.Numbered where
  counter := by
    rw [WorkerBytes.opens, numbered.counter, UInt8.ofNat_add]
    rfl
  byte := by
    intro session member
    rcases List.mem_cons.1 member with rfl | older
    · exact numbered.counter
    · exact numbered.byte session older
  earlier := by
    intro session member
    rcases List.mem_cons.1 member with rfl | older
    · exact Nat.lt_succ_self _
    · exact Nat.lt_succ_of_lt (numbered.earlier session older)
  distinct := by
    refine List.Pairwise.cons ?_ numbered.distinct
    intro session member
    exact Nat.ne_of_gt (numbered.earlier session member)

theorem closes (numbered : bytes.Numbered) (number : Nat) : (bytes.closes number).Numbered where
  counter := numbered.counter
  byte := fun session member => numbered.byte session (List.mem_of_mem_filter member)
  earlier := fun session member => numbered.earlier session (List.mem_of_mem_filter member)
  distinct := numbered.distinct.filter _

theorem step (numbered : bytes.Numbered) (event : SessionEvent) : (bytes.step event).Numbered := by
  cases event with
  | opens => exact numbered.opens
  | closes number => exact numbered.closes number

theorem disjoint (numbered : bytes.Numbered) (recent : bytes.Recent) : bytes.Disjoint := by
  apply numbered.distinct.imp_of_mem
  intro one other isOpen otherOpen different same
  rw [numbered.byte one isOpen, numbered.byte other otherOpen, ← UInt8.toNat_inj,
    UInt8.toNat_ofNat', UInt8.toNat_ofNat'] at same
  have early := numbered.earlier one isOpen
  have otherEarly := numbered.earlier other otherOpen
  have near := recent one isOpen
  have otherNear := recent other otherOpen
  omega

end Numbered

/-! ### One event -/

theorem recent_of_disjoint_opens (numbered : bytes.Numbered) (recent : bytes.Recent)
    (disjoint : bytes.opens.Disjoint) : bytes.opens.Recent := by
  intro session member
  rcases List.mem_cons.1 member with rfl | older
  · dsimp only [opens]
    omega
  · have near := recent session older
    have notOldest : bytes.taken ≠ session.number + 256 := by
      intro oldest
      apply (List.pairwise_cons.1 disjoint).1 session older
      rw [numbered.counter, numbered.byte session older, oldest, UInt8.ofNat_add]
      exact UInt8.add_zero _
    dsimp only [opens]
    omega

theorem Recent.closes (recent : bytes.Recent) (number : Nat) : (bytes.closes number).Recent :=
  fun session member => recent session (List.mem_of_mem_filter member)

/-- While the open sessions are recent, an event keeps the bytes apart exactly when
it keeps the sessions recent. -/
theorem disjoint_step_iff_recent_step (numbered : bytes.Numbered) (recent : bytes.Recent)
    (event : SessionEvent) : (bytes.step event).Disjoint ↔ (bytes.step event).Recent := by
  constructor
  · intro disjoint
    cases event with
    | opens => exact recent_of_disjoint_opens numbered recent disjoint
    | closes number => exact recent.closes number
  · exact (numbered.step event).disjoint

end WorkerBytes

/-! ### The property -/

/-- **When the nonce slices are disjoint.** In every sequence of sessions opening
and closing, the open sessions have different worker bytes exactly when no session
stays open until the 256th after it opens. How many are open does not matter. -/
theorem worker_bytes_disjoint_iff (events : List SessionEvent) :
    WorkerBytes.Always WorkerBytes.Disjoint events ↔
      WorkerBytes.Always WorkerBytes.Recent events := by
  apply Along.congr_keeping (fun bytes => bytes.Numbered ∧ bytes.Recent) events
    ⟨WorkerBytes.Numbered.start, nofun⟩
  · rintro bytes event ⟨numbered, recent⟩
    exact WorkerBytes.disjoint_step_iff_recent_step numbered recent event
  · rintro bytes event ⟨numbered, recent⟩ disjoint
    exact ⟨numbered.step event,
      (WorkerBytes.disjoint_step_iff_recent_step numbered recent event).1 disjoint⟩

/-- One session stays; 255 others come and go, and then another comes. -/
def longSession : List SessionEvent :=
  [.opens] ++ (List.range 255).flatMap (fun other => [.opens, .closes (other + 1)]) ++ [.opens]

theorem long_session_shares_its_byte :
    WorkerBytes.Always WorkerBytes.AtMost256 longSession ∧
      (run WorkerBytes.step WorkerBytes.start longSession).sessions = [⟨256, 0⟩, ⟨0, 0⟩] ∧
      ¬ WorkerBytes.Always WorkerBytes.Disjoint longSession := by
  decide +kernel

end CrFaucet.Stratum
