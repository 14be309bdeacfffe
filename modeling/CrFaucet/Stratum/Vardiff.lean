import Mathlib.Algebra.GroupWithZero.Nat
import CrFaucet.Ring

/-!
Owns `stratum_proxy::vardiff`: the difficulty a session serves.

Intervals are kept as the durations they are made of. What the source computes
from them in `f64` is a function of those durations and of the present
difficulty, and is left open in `Floats`; nothing here depends on how it rounds.
-/

set_option autoImplicit false

namespace CrFaucet.Stratum

def u64Max : Nat := 2 ^ 64 - 1

/-- The floating-point results of one controller, whose target time, variance and
factors are fixed. A window is a list of durations in nanoseconds. -/
structure Floats where
  /-- `gap_secs > t_max`. -/
  idle : Nat → Bool
  /-- `avg >= t_min && avg <= t_max` for the average of a window. -/
  inBand : List Nat → Bool
  /-- `raw.round() as u64` for a window and the present difficulty. -/
  raw : List Nat → Nat → Nat
  hi : Nat → Nat
  lo : Nat → Nat

structure Vardiff where
  current : Nat
  min : Nat
  max : Nat
  upstreamCap : Nat
  lastSubmit : Option Nat
  sampleSize : Nat
  /-- Inter-share times at the current difficulty. -/
  intervals : Ring sampleSize Nat

namespace Vardiff

def new (now min initial max sampleSize : Nat) : Vardiff where
  current := Nat.max initial min
  min := min
  max := max
  upstreamCap := u64Max
  lastSubmit := some now
  sampleSize := Nat.max sampleSize 1
  intervals := .empty

variable (vardiff : Vardiff)

def effectiveMax : Nat := Nat.max (Nat.min vardiff.max vardiff.upstreamCap) vardiff.min

def setUpstreamCap (upstreamDiff : Nat) : Vardiff :=
  let capped := { vardiff with upstreamCap := upstreamDiff }
  if capped.effectiveMax < capped.current then
    { capped with current := capped.effectiveMax, intervals := .empty }
  else capped

/-- `dt.max(0.001)` seconds. -/
def pushInterval (dt : Nat) : Vardiff :=
  { vardiff with intervals := vardiff.intervals.push (Nat.max dt (10 ^ 6)) }

def onShare (now : Nat) : Vardiff :=
  let pushed := match vardiff.lastSubmit with
    | some prev => vardiff.pushInterval (now - prev)
    | none => vardiff
  { pushed with lastSubmit := some now }

/-- `Ord::clamp`, which panics when the bounds are the wrong way round. -/
def clamp (value lo hi : Nat) : Option Nat :=
  if lo ≤ hi then some (Nat.min (Nat.max value lo) hi) else none

/-- The durations a retarget averages over; `none` leaves the difficulty alone. -/
def window (idle : Bool) (gap : Nat) : Option (List Nat) :=
  if idle then some (vardiff.intervals.items ++ [gap])
  else if vardiff.intervals.items.length < vardiff.sampleSize then none
  else if vardiff.intervals.items.isEmpty then none
  else some vardiff.intervals.items

/-- The difficulty a retarget out of the dead-band arrives at. -/
def newDifficulty (floats : Floats) (averaged : List Nat) : Option Nat := do
  let bounded ← clamp (floats.raw averaged vardiff.current) (floats.lo vardiff.current)
    (floats.hi vardiff.current)
  clamp bounded vardiff.min vardiff.effectiveMax

/-- `retarget_with_gap`; `none` is a panic. -/
def retargetWithGap (floats : Floats) (now gap : Nat) : Option (Vardiff × Nat) :=
  let honored := { vardiff with current := Nat.min vardiff.current vardiff.effectiveMax }
  let idle := floats.idle gap
  match honored.window idle gap with
  | none => some (honored, honored.current)
  | some averaged =>
      if floats.inBand averaged then some (honored, honored.current)
      else
        (honored.newDifficulty floats averaged).map fun new =>
          if new ≠ honored.current then
            ({ honored with
              current := new
              intervals := .empty
              lastSubmit := if idle then some now else honored.lastSubmit }, new)
          else (honored, honored.current)

def retarget (floats : Floats) (now : Nat) : Option (Vardiff × Nat) :=
  vardiff.retargetWithGap floats now ((vardiff.lastSubmit.map fun prev => now - prev).getD 0)

end Vardiff

end CrFaucet.Stratum
