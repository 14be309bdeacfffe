import CrFaucet.LineReader

/-!
Owns the framing of lines in the two loops of `stratum_proxy`: `handle_one` reads a miner's
lines against job broadcasts, `run_session_io` reads the upstream's against queued submits.

Both are a biased `select!` whose first arm makes a new `read_line` on every turn. A turn that
takes the other arm drops the pending read together with the bytes it had taken, so the next
read begins in the middle of a line.

A miner's line is capped, the upstream's is not; both have to be UTF-8.
-/

set_option autoImplicit false

namespace CrFaucet.Stratum

open Interaction

/-- `handle_one` and `run_session_io`. -/
inductive ReadLoop where
  | session
  | upstream
deriving DecidableEq

def maxStratumLineBytes : Nat := 16 * 1024

def isUtf8 (bytes : List UInt8) : Bool := ByteArray.validateUTF8 ⟨bytes.toArray⟩

def ReadLoop.format : ReadLoop → LineFormat UInt8
  | .session => {
      newline := 10
      cap := some maxStratumLineBytes
      isText := isUtf8
      cap_pos := by
        intro bound isCap
        cases isCap
        decide }
  | .upstream => {
      newline := 10
      cap := none
      isText := isUtf8
      cap_pos := by
        intro bound isCap
        cases isCap }

/-- The reader of a loop after chunks arrived and turns were taken. -/
def readAlong (loop : ReadLoop) (actions : List (ReadAction UInt8)) : LineReader UInt8 :=
  run (LineReader.step loop.format) .start actions

/-- **When the lines parsed are the lines sent**: exactly if they are UTF-8 and the other arm is
never taken while a part of a line is held. -/
theorem lines_parsed_are_lines_sent_iff (loop : ReadLoop) (sent : List (List UInt8))
    (actions : List (ReadAction UInt8)) (wellSent : WellSent loop.format sent)
    (arrives : actions.flatMap ReadAction.bytes = sent.flatten)
    (taken : (readAlong loop actions).waiting = []) :
    (readAlong loop actions).lines = sent ↔
      (∀ line ∈ sent, isUtf8 line = true) ∧
        Along (LineReader.step loop.format) (LineReader.DropsNothing loop.format) .start
          actions := by
  have exactly := LineReader.lines_eq_sent_iff wellSent arrives taken
  cases loop with
  | session => exact exactly
  | upstream => exact exactly

/-- The line `ab`. -/
def shortLine : List UInt8 := [97, 98, 10]

theorem shortLine_isLine : IsLine 10 shortLine := ⟨[97, 98], by decide, rfl⟩

theorem shortLine_wellSent (loop : ReadLoop) : WellSent loop.format [shortLine] := by
  intro line member
  rw [List.mem_singleton.1 member]
  cases loop with
  | session =>
      refine ⟨shortLine_isLine, ?_⟩
      intro cap isCap
      cases isCap
      decide
  | upstream =>
      refine ⟨shortLine_isLine, ?_⟩
      intro cap isCap
      cases isCap

/-- A line in two chunks, and a broadcast once it is complete. -/
def calmRead : List (ReadAction UInt8) :=
  [.arrive [97], .poll false, .arrive [98, 10], .poll true]

theorem calmRead_parses :
    (readAlong .session calmRead).lines = [shortLine] :=
  (lines_parsed_are_lines_sent_iff .session [shortLine] calmRead (shortLine_wellSent .session) rfl
    (by decide +kernel)).2 ⟨by decide +kernel, by decide +kernel⟩

/-- The same line with the broadcast, or the submit, between its chunks. -/
def brokenRead : List (ReadAction UInt8) :=
  [.arrive [97], .poll true, .arrive [98, 10], .poll false]

theorem pending_read_loses_bytes :
    brokenRead.flatMap ReadAction.bytes = [shortLine].flatten ∧
      ∀ loop : ReadLoop, WellSent loop.format [shortLine] ∧
        (readAlong loop brokenRead).waiting = [] ∧
        (readAlong loop brokenRead).lines = [[98, 10]] ∧
        (readAlong loop brokenRead).lost = [97] := by
  refine ⟨rfl, ?_⟩
  intro loop
  refine ⟨shortLine_wellSent loop, ?_⟩
  cases loop with
  | session => decide +kernel
  | upstream => decide +kernel

end CrFaucet.Stratum
