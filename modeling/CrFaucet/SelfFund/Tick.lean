import CrFaucet.SelfFund.Planning
import CrFaucet.SerdeJson

/-!
Owns `Target::tick` of `mining_pool::self_fund`: whether a top-up is due, which term it buys, what
is remembered of it, and how long the loop sleeps after it.

A tick is a function of what it reads and of what becomes of its submission. The two are told
apart there: appd may report an error for a transaction that lands.

Does not own the cross-check of instances at the start, or `set_instance`; the clock is whatever
each tick reads.
-/

set_option autoImplicit false

namespace CrFaucet.SelfFund

open Instances (Value)

structure SelfFundConfig where
  safetyWindowSecs : Nat
  maxTopupTerm : Nat
  minTopupIntervalSecs : Nat
  reserveFloorWei : String
  forceFirstTopup : Bool

def SelfFundConfig.default : SelfFundConfig where
  safetyWindowSecs := 1200
  maxTopupTerm := 2
  minTopupIntervalSecs := 600
  reserveFloorWei := ""
  forceFirstTopup := false

/-- The floor as `run` reads it: zero for a text that is no `u128`. -/
def reserveFloor (text : String) : Nat :=
  (SerdeJson.parseU128 (String.ofList (Utf8.trim text.toList))).getD 0

/-- What the loop remembers between ticks. -/
structure FundState where
  lastTopup : Nat
  forcedDone : Bool
deriving DecidableEq

def FundState.initial : FundState := ⟨0, false⟩

/-- The reply to a query. -/
inductive Reading where
  | failed
  | undecodable
  | value (record : Value)

structure SubmitOutcome where
  /-- appd reported success. -/
  reported : Bool
  /-- The transaction is on the chain. -/
  landed : Bool
deriving DecidableEq

/-- What a tick meets. -/
structure TickInput where
  now : Nat
  instanceRecord : Reading
  balances : Reading
  /-- When the submission is made, if there is one. -/
  sentAt : Nat
  outcome : SubmitOutcome

inductive TickError where
  /-- `decoding roflmarket.Instance CBOR`. -/
  | undecodable
  | submitFailed
deriving DecidableEq

structure Ticked where
  state : FundState
  /-- The term and the count of a top-up. -/
  submitted : Option (Nat × Nat)
  result : Except TickError (Option Nat)

section Tick

variable (config : SelfFundConfig) (rates : PerSecond) (state : FundState) (input : TickInput)

/-- The instance as far as it was read; a reply that cannot be decoded ends the tick. -/
def readInstance : Except TickError (Option InstanceInfo) :=
  match input.instanceRecord with
  | .failed => .ok none
  | .undecodable => .error .undecodable
  | .value record => .ok (some (parseInstance record))

def readBalance : Option Nat :=
  match input.balances with
  | .value record => some (parseNativeBalance record)
  | _ => none

def runway (info : Option InstanceInfo) : Option Nat :=
  (info.bind InstanceInfo.paidUntil).map fun paidUntil => paidUntil - input.now

def forced : Bool := config.forceFirstTopup && !state.forcedDone

/-- The last top-up is an interval ago. -/
def rested : Bool := config.minTopupIntervalSecs ≤ input.now - state.lastTopup

/-- Before the guard. -/
def wanted (left : Option Nat) : Bool :=
  match left with
  | some left => forced config state || left < config.safetyWindowSecs
  | none => forced config state || rested config state input

/-- A top-up is due: it is wanted, and the guard does not hold it back. -/
def due (left : Option Nat) : Bool :=
  wanted config state input left && (forced config state || rested config state input)

/-- The term to buy; `none` if the reserve is too low. Without prices or balance, one hour. -/
def chooseTerm (info : Option InstanceInfo) : Option (Nat × Nat) :=
  match readBalance input, info.map InstanceInfo.terms with
  | some balance, some terms =>
      if terms.isEmpty then some (1, 1)
      else planTopup rates balance (reserveFloor config.reserveFloorWei) terms config.maxTopupTerm
  | _, _ => some (1, 1)

/-- From a chosen term on. Only a reported success is remembered. -/
def submit (left : Option Nat) (topup : Nat × Nat) : Ticked :=
  if input.outcome.reported then
    { state := ⟨input.now, true⟩, submitted := some topup, result := .ok left }
  else { state, submitted := some topup, result := .error .submitFailed }

def tick : Ticked :=
  match readInstance input with
  | .error error => { state, submitted := none, result := .error error }
  | .ok info =>
      let left := runway input info
      if due config state input left then
        match chooseTerm config rates input info with
        | none => { state, submitted := none, result := .ok left }
        | some topup => submit state input left topup
      else { state, submitted := none, result := .ok left }

end Tick

/-! ### The sleep between two ticks -/

/-- The two bounds of the sleep. -/
structure CheckIntervals where
  minCheckIntervalSecs : Nat
  maxCheckIntervalSecs : Nat

namespace CheckIntervals

def default : CheckIntervals where
  minCheckIntervalSecs := 120
  maxCheckIntervalSecs := 3600

variable (intervals : CheckIntervals)

/-- `cfg.min_check_interval_secs.max(1)`. -/
def shortest : Nat := max intervals.minCheckIntervalSecs 1

def longest : Nat := max intervals.maxCheckIntervalSecs intervals.shortest

end CheckIntervals

/-- A quarter of the runway, between the bounds; the shortest sleep if it is not known. -/
def adaptiveSleep (intervals : CheckIntervals) : Option Nat → Nat
  | some runway => max intervals.shortest (min (runway / 4) intervals.longest)
  | none => intervals.shortest

/-- The sleep after a tick; one that failed comes back soon. -/
def sleepAfter (intervals : CheckIntervals) : Except TickError (Option Nat) → Nat
  | .ok runway => adaptiveSleep intervals runway
  | .error _ => intervals.shortest

theorem shortest_le_sleepAfter (intervals : CheckIntervals)
    (result : Except TickError (Option Nat)) :
    intervals.shortest ≤ sleepAfter intervals result := by
  cases result with
  | error error => exact Nat.le_refl _
  | ok left =>
      cases left with
      | none => exact Nat.le_refl _
      | some left => exact Nat.le_max_left ..

/-! ### What a tick can do -/

/-- The tick has a balance and at least one price to plan with. -/
def HasRead (input : TickInput) : Prop :=
  (readBalance input).isSome ∧ ∃ info, readInstance input = .ok (some info) ∧ info.terms ≠ []

/-- A term is planned with what was read, or it is the hour of the fallback. -/
def Chosen (config : SelfFundConfig) (rates : PerSecond) (input : TickInput)
    (topup : Nat × Nat) : Prop :=
  (topup = (1, 1) ∧ ¬HasRead input) ∨
    ∃ balance record, readBalance input = some balance ∧
      readInstance input = .ok (some record) ∧
      planTopup rates balance (reserveFloor config.reserveFloorWei) record.terms
        config.maxTopupTerm = some topup

section Shape

variable (config : SelfFundConfig) (rates : PerSecond) (state : FundState) (input : TickInput)

/-- A top-up is chosen that the guard lets through. -/
structure Submits (info : Option InstanceInfo) (topup : Nat × Nat) : Prop where
  read : readInstance input = .ok info
  guarded : forced config state = true ∨ rested config state input = true
  chosen : chooseTerm config rates input info = some topup

/-- **Inversion of a tick.** It cannot read, has nothing to do or cannot pay, or it submits one
top-up and remembers it if it is reported. -/
inductive TickShape : Ticked → Prop where
  | unread (error : TickError) (read : readInstance input = .error error) :
      TickShape { state, submitted := none, result := .error error }
  | idle (info : Option InstanceInfo) (read : readInstance input = .ok info)
      (notDue : due config state input (runway input info) = false) :
      TickShape { state, submitted := none, result := .ok (runway input info) }
  | poor (info : Option InstanceInfo) (read : readInstance input = .ok info)
      (none : chooseTerm config rates input info = none) :
      TickShape { state, submitted := .none, result := .ok (runway input info) }
  | refused (info : Option InstanceInfo) (topup : Nat × Nat)
      (submits : Submits config rates state input info topup)
      (failed : input.outcome.reported = false) :
      TickShape { state, submitted := some topup, result := .error .submitFailed }
  | reported (info : Option InstanceInfo) (topup : Nat × Nat)
      (submits : Submits config rates state input info topup)
      (worked : input.outcome.reported = true) :
      TickShape
        { state := ⟨input.now, true⟩, submitted := some topup, result := .ok (runway input info) }

theorem tick_shape : TickShape config rates state input (tick config rates state input) := by
  unfold tick
  cases read : readInstance input with
  | error error => exact .unread error read
  | ok info =>
      dsimp only
      split
      · rename_i isDue
        cases chosen : chooseTerm config rates input info with
        | none => exact .poor info read chosen
        | some topup =>
            have guarded := Bool.or_eq_true_iff.1 (Bool.and_eq_true_iff.1 isDue).2
            dsimp only [submit]
            split
            · exact .reported info topup ⟨read, guarded, chosen⟩ ‹_›
            · exact .refused info topup ⟨read, guarded, chosen⟩ (eq_false_of_ne_true ‹_›)
      · rename_i notDue
        exact .idle info read (eq_false_of_ne_true notDue)

end Shape

section Cases

variable {config : SelfFundConfig} {rates : PerSecond} {state : FundState} {input : TickInput}

theorem chooseTerm_cases {info : Option InstanceInfo} {topup : Nat × Nat}
    (read : readInstance input = .ok info)
    (chosen : chooseTerm config rates input info = some topup) :
    Chosen config rates input topup := by
  unfold chooseTerm at chosen
  cases balance : readBalance input with
  | none =>
      rw [balance] at chosen
      cases chosen
      refine Or.inl ⟨rfl, fun hasRead => ?_⟩
      rw [HasRead, balance] at hasRead
      exact Bool.false_ne_true hasRead.1
  | some amount =>
      cases info with
      | none =>
          rw [balance] at chosen
          cases chosen
          refine Or.inl ⟨rfl, fun ⟨_, record, isRecord, _⟩ => ?_⟩
          rw [read] at isRecord
          cases isRecord
      | some record =>
          rw [balance, Option.map_some] at chosen
          dsimp only at chosen
          split at chosen
          · rename_i empty
            cases chosen
            refine Or.inl ⟨rfl, fun ⟨_, other, isOther, listed⟩ => ?_⟩
            rw [read] at isOther
            cases isOther
            exact listed (List.isEmpty_iff.1 empty)
          · exact Or.inr ⟨amount, record, balance, read, chosen⟩

theorem submitted_cases {topup : Nat × Nat}
    (submitted : (tick config rates state input).submitted = some topup) :
    Chosen config rates input topup := by
  have shape := tick_shape config rates state input
  generalize tick config rates state input = ticked at shape submitted
  cases shape with
  | unread | idle | poor => cases submitted
  | refused info _ submits | reported info _ submits =>
      cases submitted
      exact chooseTerm_cases submits.read submits.chosen

/-- **Whatever is chosen is one hour, month or year.** -/
theorem Chosen.range {term count : Nat} (chosen : Chosen config rates input (term, count)) :
    (1 ≤ term ∧ term ≤ 3) ∧ count = 1 := by
  rcases chosen with ⟨hour, _⟩ | ⟨balance, record, _, _, planned⟩
  · cases hour
    decide
  · obtain ⟨one, range, _⟩ := planTopup_eq_some planned
    exact ⟨range, one⟩

theorem tick_blind (noRecord : input.instanceRecord = .failed)
    (isRested : rested config state input = true) :
    tick config rates state input = submit state input none (1, 1) := by
  have read : readInstance input = .ok none := by rw [readInstance, noRecord]
  have isDue : due config state input (runway input none) = true := by
    simp [due, wanted, runway, isRested]
  have chosen : chooseTerm config rates input none = some (1, 1) := by
    unfold chooseTerm
    split
    · rename_i terms
      cases terms
    · rfl
  unfold tick
  rw [read]
  dsimp only
  rw [if_pos isDue, chosen]
  rfl

end Cases

/-- A tick that reads nothing, and whose top-up lands. -/
def blindTick (now sentAt : Nat) (reported : Bool) : TickInput where
  now
  instanceRecord := .failed
  balances := .failed
  sentAt
  outcome := ⟨reported, true⟩

end CrFaucet.SelfFund
