import Mathlib.Algebra.Order.Ring.Rat
import Mathlib.Logic.Function.Basic
import CrFaucet.TokenBucket

/-!
Owns `CircuitLimiter` of `crossroads_oracle::server`: a token bucket for each Tor circuit, one
for everybody, and the sweep that forgets circuits whose bucket is full.

Times are seconds and tokens are exact; both are rational numbers. The map of circuits is a
function, so a sweep is the same in whatever order the entries are visited.

`Alike` relates two limiters that may have been swept at different calls. It says nothing about
which circuits they remember, only that no later call finds a difference.
-/

set_option autoImplicit false

namespace CrFaucet.Oracle

open TokenBucket

/-- The two rates, as `OracleState::new` makes them. -/
structure LimiterRates where
  perCircuit : ℚ
  global : ℚ
  perCircuit_ge : 1 ≤ perCircuit
  global_ge : 1 ≤ global

def LimiterRates.ofSettings (rateLimitPerSec globalRateLimitPerSec : Nat) : LimiterRates where
  perCircuit := (max rateLimitPerSec 1 : Nat)
  global := (max (max globalRateLimitPerSec rateLimitPerSec) 1 : Nat)
  perCircuit_ge := Nat.one_le_cast.2 (le_max_right _ _)
  global_ge := Nat.one_le_cast.2 (le_max_right _ _)

theorem LimiterRates.perCircuit_nonneg (rates : LimiterRates) : 0 ≤ rates.perCircuit :=
  zero_le_one.trans rates.perCircuit_ge

structure CircuitLimiter (Key : Type) where
  circuits : Key → Option (TokenBucket ℚ)
  globalBucket : TokenBucket ℚ
  calls : Nat

def sweepEvery : Nat := 256

/-- `calls.fetch_add(1) % SWEEP_EVERY == 0`. -/
def sweepDue (calls : Nat) : Bool := calls % sweepEvery == 0

namespace CircuitLimiter

variable {Key : Type}

def new (rates : LimiterRates) (now : ℚ) : CircuitLimiter Key where
  circuits := fun _ => none
  globalBucket := fresh rates.global now
  calls := 0

def countCall (limiter : CircuitLimiter Key) : CircuitLimiter Key :=
  { limiter with calls := limiter.calls + 1 }

def sweep (limiter : CircuitLimiter Key) (now : ℚ) : CircuitLimiter Key :=
  { limiter with circuits := fun key => TokenBucket.sweep (limiter.circuits key) now }

/-- The start of a call: count it, and sweep at the calls that are `due`. -/
def sweepIfDue (due : Nat → Bool) (limiter : CircuitLimiter Key) (now : ℚ) :
    CircuitLimiter Key :=
  if due limiter.calls then limiter.countCall.sweep now else limiter.countCall

def spendGlobal (limiter : CircuitLimiter Key) (now : ℚ) : Bool × CircuitLimiter Key :=
  ((limiter.globalBucket.allow now).1,
    { limiter with globalBucket := (limiter.globalBucket.allow now).2 })

variable [DecidableEq Key]

def gate (rates : LimiterRates) (limiter : CircuitLimiter Key) (key : Key) (now : ℚ) :
    Bool × CircuitLimiter Key :=
  let used := use rates.perCircuit (limiter.circuits key) now
  (used.1, { limiter with circuits := Function.update limiter.circuits key (some used.2) })

/-- A call. The gate comes first, so that a throttled circuit does not touch the global bucket. -/
def allowWith (due : Nat → Bool) (rates : LimiterRates) (limiter : CircuitLimiter Key)
    (key : Key) (now : ℚ) : Bool × CircuitLimiter Key :=
  let gated := (limiter.sweepIfDue due now).gate rates key now
  if gated.1 then gated.2.spendGlobal now else (false, gated.2)

def allow (rates : LimiterRates) (limiter : CircuitLimiter Key) (key : Key) (now : ℚ) :
    Bool × CircuitLimiter Key :=
  limiter.allowWith sweepDue rates key now

/-- The same limiter with the periodic sweep removed. -/
def allowUnswept (rates : LimiterRates) (limiter : CircuitLimiter Key) (key : Key) (now : ℚ) :
    Bool × CircuitLimiter Key :=
  limiter.allowWith (fun _ => false) rates key now

def answers (call : CircuitLimiter Key → Key → ℚ → Bool × CircuitLimiter Key)
    (limiter : CircuitLimiter Key) : List (Key × ℚ) → List Bool
  | [] => []
  | (key, now) :: rest =>
      (call limiter key now).1 :: answers call (call limiter key now).2 rest

theorem gate_kept {rates : LimiterRates} {now : ℚ} (limiter : CircuitLimiter Key)
    (kept : ∀ key, ∀ bucket ∈ limiter.circuits key, Kept rates.perCircuit now bucket) (key : Key) :
    ∀ other, ∀ bucket ∈ (limiter.gate rates key now).2.circuits other,
      Kept rates.perCircuit now bucket := by
  intro other bucket found
  by_cases here : other = key
  · subst here
    simp only [gate, Function.update_self] at found
    cases found
    exact kept_use rates.perCircuit_nonneg (kept other) (le_refl now)
  · simp only [gate, Function.update_of_ne here] at found
    exact kept other bucket found

end CircuitLimiter

/-! ### Two limiters no call can tell apart -/

/-- Alike for every call from `latest` on. -/
structure Alike {Key : Type} (rates : LimiterRates) (latest : ℚ)
    (first second : CircuitLimiter Key) : Prop where
  firstKept : ∀ key, ∀ bucket ∈ first.circuits key, Kept rates.perCircuit latest bucket
  secondKept : ∀ key, ∀ bucket ∈ second.circuits key, Kept rates.perCircuit latest bucket
  circuits : ∀ key now, latest ≤ now →
    present rates.perCircuit (first.circuits key) now =
      present rates.perCircuit (second.circuits key) now
  globals : first.globalBucket = second.globalBucket

namespace Alike

variable {Key : Type} {rates : LimiterRates} {latest now : ℚ} {first second : CircuitLimiter Key}

theorem symm (alike : Alike rates latest first second) : Alike rates latest second first where
  firstKept := alike.secondKept
  secondKept := alike.firstKept
  circuits := fun key now order => (alike.circuits key now order).symm
  globals := alike.globals.symm

theorem new (rates : LimiterRates) (latest now : ℚ) :
    Alike rates latest (CircuitLimiter.new rates now : CircuitLimiter Key) (.new rates now) where
  firstKept := by
    intro key bucket absent
    cases absent
  secondKept := by
    intro key bucket absent
    cases absent
  circuits := fun _ _ _ => rfl
  globals := rfl

theorem wait (alike : Alike rates latest first second) (order : latest ≤ now) :
    Alike rates now first second where
  firstKept := fun key bucket present => (alike.firstKept key bucket present).wait order
  secondKept := fun key bucket present => (alike.secondKept key bucket present).wait order
  circuits := fun key later after => alike.circuits key later (order.trans after)
  globals := alike.globals

/-- Counting calls is not seen. -/
theorem countCall (alike : Alike rates latest first second) :
    Alike rates latest first.countCall second := { alike with }

/-- **Sweeping one of two** that are alike. -/
theorem sweep (alike : Alike rates latest first second) (order : latest ≤ now) :
    Alike rates now (first.sweep now) second where
  firstKept := fun key => kept_sweep rates.perCircuit_nonneg (alike.firstKept key) order
  secondKept := (alike.wait order).secondKept
  circuits := by
    intro key later after
    change present _ (TokenBucket.sweep (first.circuits key) now) later = _
    rw [present_sweep rates.perCircuit_nonneg (alike.firstKept key) order after]
    exact alike.circuits key later (order.trans after)
  globals := alike.globals

theorem sweepIfDue (alike : Alike rates latest first second) (order : latest ≤ now)
    (due : Nat → Bool) : Alike rates now (first.sweepIfDue due now) second := by
  unfold CircuitLimiter.sweepIfDue
  split
  · exact alike.countCall.sweep order
  · exact (alike.wait order).countCall

theorem spendGlobal (alike : Alike rates latest first second) :
    (first.spendGlobal now).1 = (second.spendGlobal now).1 ∧
      Alike rates latest (first.spendGlobal now).2 (second.spendGlobal now).2 := by
  have globals := alike.globals
  constructor
  · simp only [CircuitLimiter.spendGlobal, globals]
  · exact { alike with
      globals := by simp only [CircuitLimiter.spendGlobal, globals] }

variable [DecidableEq Key]

/-- **The gate** reads what is present and nothing else. -/
theorem gate (alike : Alike rates now first second) (key : Key) :
    (first.gate rates key now).1 = (second.gate rates key now).1 ∧
      Alike rates now (first.gate rates key now).2 (second.gate rates key now).2 := by
  have same : use rates.perCircuit (first.circuits key) now =
      use rates.perCircuit (second.circuits key) now :=
    use_congr (alike.circuits key now (le_refl now))
  have sameAnswer : (first.gate rates key now).1 = (second.gate rates key now).1 :=
    congrArg (fun used : Bool × TokenBucket ℚ => used.1) same
  refine ⟨sameAnswer, first.gate_kept alike.firstKept key, second.gate_kept alike.secondKept key,
    ?_, alike.globals⟩
  intro other later after
  by_cases here : other = key
  · subst here
    simp only [CircuitLimiter.gate, Function.update_self, same]
  · simp only [CircuitLimiter.gate, Function.update_of_ne here]
    exact alike.circuits other later after

/-- **One call**, whatever sweeps the two have due. -/
theorem allowWith (alike : Alike rates latest first second) (order : latest ≤ now) (key : Key)
    (due dueToo : Nat → Bool) :
    (first.allowWith due rates key now).1 = (second.allowWith dueToo rates key now).1 ∧
      Alike rates now (first.allowWith due rates key now).2
        (second.allowWith dueToo rates key now).2 := by
  have ready := ((alike.sweepIfDue order due).symm.sweepIfDue (le_refl now) dueToo).symm
  obtain ⟨sameGate, gated⟩ := ready.gate key
  unfold CircuitLimiter.allowWith
  dsimp only
  rw [← sameGate]
  split
  · exact gated.spendGlobal
  · exact ⟨rfl, gated⟩

/-- **Every sequence of calls in order of time.** -/
theorem answers (alike : Alike rates latest first second) (due dueToo : Nat → Bool)
    {calls : List (Key × ℚ)}
    (inOrder : calls.Pairwise fun earlier later => earlier.2 ≤ later.2)
    (ahead : ∀ call ∈ calls, latest ≤ call.2) :
    CircuitLimiter.answers (fun limiter => limiter.allowWith due rates) first calls =
      CircuitLimiter.answers (fun limiter => limiter.allowWith dueToo rates) second calls := by
  induction calls generalizing latest first second with
  | nil => rfl
  | cons call rest inductionHypothesis =>
      obtain ⟨key, now⟩ := call
      rw [List.pairwise_cons] at inOrder
      have order : latest ≤ now := ahead (key, now) (List.mem_cons_self ..)
      obtain ⟨sameAnswer, next⟩ := alike.allowWith order key due dueToo
      have later := inductionHypothesis next inOrder.2 inOrder.1
      simp only [CircuitLimiter.answers, sameAnswer, later]

end Alike

/-- **Idle eviction is lossless.** -/
theorem idle_eviction_is_lossless {Key : Type} [DecidableEq Key] (rates : LimiterRates) (start : ℚ)
    (calls : List (Key × ℚ))
    (inOrder : calls.Pairwise fun earlier later => earlier.2 ≤ later.2) :
    CircuitLimiter.answers (fun limiter => limiter.allow rates) (.new rates start) calls =
      CircuitLimiter.answers (fun limiter => limiter.allowUnswept rates) (.new rates start)
        calls := by
  cases calls with
  | nil => rfl
  | cons call rest =>
      refine (Alike.new rates call.2 start).answers sweepDue (fun _ => false) inOrder ?_
      intro other member
      rcases List.mem_cons.1 member with rfl | later
      · exact le_refl _
      · exact (List.pairwise_cons.1 inOrder).1 other later

/-- One circuit spends its burst and waits. Another makes so many calls that the sweep comes round,
and then the first comes back. -/
def overtaken : List (Bool × ℚ) := [(false, 0), (false, 0)] ++ List.replicate 255 (true, 2)

/-- At the last of these calls the sweep forgets the circuit that waits. It is then answered as if it
were remembered. -/
theorem returning_circuit_answers :
    CircuitLimiter.answers (fun (limiter : CircuitLimiter Bool) key now =>
        let called := (limiter.allow (.ofSettings 1 10) key now).2
        ((called.circuits false).isNone, called)) (.new (.ofSettings 1 10) 0) overtaken =
        List.replicate 256 false ++ [true] ∧
      CircuitLimiter.answers (fun limiter => limiter.allow (.ofSettings 1 10))
          (.new (.ofSettings 1 10) 0) (overtaken ++ [(false, 2), (false, 2)]) =
        [true, false, true] ++ List.replicate 254 false ++ [true, false] ∧
      CircuitLimiter.answers (fun limiter => limiter.allow (.ofSettings 1 10))
          (.new (.ofSettings 1 10) 0) (overtaken ++ [(false, 2), (false, 2)]) =
        CircuitLimiter.answers (fun limiter => limiter.allowUnswept (.ofSettings 1 10))
          (.new (.ofSettings 1 10) 0) (overtaken ++ [(false, 2), (false, 2)]) := by
  refine ⟨by decide +kernel, by decide +kernel, ?_⟩
  exact idle_eviction_is_lossless (.ofSettings 1 10) 0 _ (by decide +kernel)

end CrFaucet.Oracle
