import CrFaucet.Interaction.Run
import CrFaucet.SelfFund.Tick

/-!
Owns the runaway guard: how far apart the top-ups of one process are submitted that land on the
chain.

The guard counts from the time a tick read at its start, and it remembers a top-up only if appd
reports success. An `Environment` says whether a transaction may land that was reported as an
error, whether time may pass between the reading of the clock and the submission, and whether the
clock may lag behind what the loop sleeps. The guard keeps an interval above zero in every run of an
environment exactly if neither of the first two may happen, or if the shortest sleep is as long as
the interval and the clock keeps up with it.

Does not own a restart of the process, which forgets everything.
-/

set_option autoImplicit false

namespace CrFaucet.SelfFund

open Interaction

/-- A run so far: the last moment of its clock, and when the top-ups that landed were submitted,
newest first. -/
structure FundHistory where
  state : FundState
  clock : Nat
  /-- Before the next tick. -/
  sleepSecs : Nat
  landings : List Nat

namespace FundHistory

def initial (intervals : CheckIntervals) : FundHistory where
  state := .initial
  clock := 0
  sleepSecs := intervals.shortest
  landings := []

variable (config : SelfFundConfig) (intervals : CheckIntervals) (rates : PerSecond)
  (history : FundHistory) (input : TickInput)

/-- A sleep and a tick. -/
def step : FundHistory :=
  let ticked := tick config rates history.state input
  { state := ticked.state
    clock := input.sentAt
    sleepSecs := sleepAfter intervals ticked.result
    landings :=
      if ticked.submitted.isSome && input.outcome.landed then input.sentAt :: history.landings
      else history.landings }

theorem state_step :
    (history.step config intervals rates input).state =
      (tick config rates history.state input).state :=
  rfl

theorem landings_step :
    (history.step config intervals rates input).landings =
      if (tick config rates history.state input).submitted.isSome && input.outcome.landed then
        input.sentAt :: history.landings
      else history.landings :=
  rfl

end FundHistory

/-- What may happen around a tick. -/
structure Environment where
  /-- A transaction may land although appd reports an error. -/
  losesReports : Bool
  /-- The clock may move on between the start of a tick and its submission. -/
  takesTime : Bool
  /-- The clock may move on by less than the loop sleeps. -/
  lags : Bool

/-- The clock does not go back, and the rest is as the environment has it. -/
structure Environment.Admits (environment : Environment) (history : FundHistory)
    (input : TickInput) : Prop where
  after : history.clock ≤ input.now
  sent : input.now ≤ input.sentAt
  reports : input.outcome.landed = true → input.outcome.reported = false →
    environment.losesReports = true
  time : input.now < input.sentAt → environment.takesTime = true
  slept : input.now < history.clock + history.sleepSecs → environment.lags = true

instance (environment : Environment) (history : FundHistory) (input : TickInput) :
    Decidable (environment.Admits history input) :=
  decidable_of_iff
    (history.clock ≤ input.now ∧ input.now ≤ input.sentAt ∧
      (input.outcome.landed = true → input.outcome.reported = false →
        environment.losesReports = true) ∧
      (input.now < input.sentAt → environment.takesTime = true) ∧
      (input.now < history.clock + history.sleepSecs → environment.lags = true))
    ⟨fun ⟨after, sent, reports, time, slept⟩ => ⟨after, sent, reports, time, slept⟩,
      fun ⟨after, sent, reports, time, slept⟩ => ⟨after, sent, reports, time, slept⟩⟩

/-- Any two landings are an interval apart. -/
def Spaced (interval : Nat) (landings : List Nat) : Prop :=
  landings.Pairwise fun later earlier => earlier + interval ≤ later

instance (interval : Nat) (landings : List Nat) : Decidable (Spaced interval landings) :=
  inferInstanceAs (Decidable (List.Pairwise _ _))

/-- In every run of the environment. -/
def GuardHolds (config : SelfFundConfig) (intervals : CheckIntervals) (rates : PerSecond)
    (environment : Environment) : Prop :=
  ∀ inputs,
    Along (FundHistory.step config intervals rates) environment.Admits (.initial intervals) inputs →
      Spaced config.minTopupIntervalSecs
        (run (FundHistory.step config intervals rates) (.initial intervals) inputs).landings

/-- The sleep alone keeps the interval. -/
def SleepCovers (config : SelfFundConfig) (intervals : CheckIntervals)
    (environment : Environment) : Prop :=
  config.minTopupIntervalSecs = 0 ∨
    environment.lags = false ∧ config.minTopupIntervalSecs ≤ intervals.shortest

/-- Nothing is submitted later than it is remembered, or not remembered. -/
def Remembers (environment : Environment) : Prop :=
  environment.losesReports = false ∧ environment.takesTime = false

/-! ### When the guard holds -/

section Holds

variable {config : SelfFundConfig} {intervals : CheckIntervals} {rates : PerSecond}
  {environment : Environment} {history : FundHistory} {input : TickInput}

theorem FundHistory.step_cases (config : SelfFundConfig) (intervals : CheckIntervals)
    (rates : PerSecond) (history : FundHistory) (input : TickInput) :
    ((history.step config intervals rates input).state = history.state ∧
        (history.step config intervals rates input).landings = history.landings) ∨
      ((forced config history.state = true ∨ rested config history.state input = true) ∧
        (history.step config intervals rates input).state =
          (if input.outcome.reported then ⟨input.now, true⟩ else history.state) ∧
        (history.step config intervals rates input).landings =
          if input.outcome.landed then input.sentAt :: history.landings
          else history.landings) := by
  rw [state_step, landings_step]
  have shape := tick_shape config rates history.state input
  generalize tick config rates history.state input = ticked at shape
  cases shape with
  | unread | idle | poor => exact Or.inl ⟨rfl, rfl⟩
  | refused info topup submits failed => exact Or.inr ⟨submits.guarded, by rw [failed]; rfl, rfl⟩
  | reported info topup submits worked => exact Or.inr ⟨submits.guarded, by rw [worked]; rfl, rfl⟩

/-- The landings so far are spaced and past, and the loop sleeps. If that is not enough, it
remembers a moment no earlier than any of them, and the forced top-up is behind it. -/
structure Guarded (config : SelfFundConfig) (intervals : CheckIntervals)
    (environment : Environment) (history : FundHistory) : Prop where
  spaced : Spaced config.minTopupIntervalSecs history.landings
  past : ∀ landing ∈ history.landings, landing ≤ history.clock
  sleeps : intervals.shortest ≤ history.sleepSecs
  remembered : ¬SleepCovers config intervals environment → ∀ landing ∈ history.landings,
    landing ≤ history.state.lastTopup ∧ history.state.forcedDone = true

theorem Guarded.initial (config : SelfFundConfig) (intervals : CheckIntervals)
    (environment : Environment) :
    Guarded config intervals environment (.initial intervals) where
  spaced := List.Pairwise.nil
  past := by
    intro landing member
    cases member
  sleeps := Nat.le_refl _
  remembered := by
    intro _ landing member
    cases member

theorem Guarded.of_landings_eq (before : Guarded config intervals environment history)
    (admits : environment.Admits history input) {next : FundHistory}
    (clock : next.clock = input.sentAt) (sleeps : intervals.shortest ≤ next.sleepSecs)
    (landings : next.landings = history.landings)
    (state : next.state = history.state ∨ next.state = ⟨input.now, true⟩) :
    Guarded config intervals environment next := by
  have after := admits.after
  have sent := admits.sent
  refine ⟨by rw [landings]; exact before.spaced, ?_, sleeps, ?_⟩
  · intro landing member
    rw [landings] at member
    have past := before.past landing member
    omega
  · intro bare landing member
    rw [landings] at member
    rcases state with same | fresh
    · rw [same]
      exact before.remembered bare landing member
    · rw [fresh]
      exact ⟨Nat.le_trans (before.past landing member) after, rfl⟩

/-- The guard itself, or the sleep: what has landed is an interval before the next submission. -/
theorem Guarded.apart (before : Guarded config intervals environment history)
    (admits : environment.Admits history input)
    (guarded : forced config history.state = true ∨ rested config history.state input = true) :
    ∀ landing ∈ history.landings, landing + config.minTopupIntervalSecs ≤ input.sentAt := by
  intro landing member
  have after := admits.after
  have sent := admits.sent
  have past := before.past landing member
  by_cases covers : SleepCovers config intervals environment
  · rcases covers with none | ⟨keepsUp, short⟩
    · omega
    · have slept : history.clock + history.sleepSecs ≤ input.now := by
        by_contra early
        have lags := admits.slept (Nat.lt_of_not_le early)
        exact Bool.false_ne_true (keepsUp.symm.trans lags)
      have sleeps := before.sleeps
      omega
  · obtain ⟨before, done⟩ := before.remembered covers landing member
    rcases guarded with isForced | isRested
    · simp [forced, done] at isForced
    · have rest : config.minTopupIntervalSecs ≤ input.now - history.state.lastTopup := by
        simpa [rested] using isRested
      rcases Nat.eq_zero_or_pos config.minTopupIntervalSecs with none | positive
      · exact absurd (Or.inl none) covers
      · omega

theorem Guarded.of_landed (before : Guarded config intervals environment history)
    (admits : environment.Admits history input)
    (faithful : SleepCovers config intervals environment ∨ Remembers environment)
    (guarded : forced config history.state = true ∨ rested config history.state input = true)
    (landed : input.outcome.landed = true) {next : FundHistory}
    (clock : next.clock = input.sentAt) (sleeps : intervals.shortest ≤ next.sleepSecs)
    (landings : next.landings = input.sentAt :: history.landings)
    (state : next.state = if input.outcome.reported then ⟨input.now, true⟩ else history.state) :
    Guarded config intervals environment next := by
  have after := admits.after
  have sent := admits.sent
  refine ⟨?_, ?_, sleeps, ?_⟩
  · rw [landings]
    exact List.Pairwise.cons (before.apart admits guarded) before.spaced
  · intro landing member
    rw [landings] at member
    rw [clock]
    rcases List.mem_cons.1 member with rfl | member
    · exact Nat.le_refl _
    · have past := before.past landing member
      omega
  · intro bare landing member
    obtain ⟨keeps, instant⟩ := faithful.resolve_left bare
    -- The environment loses no report and takes no time: the loop remembers this very moment.
    have reported : input.outcome.reported = true := by
      by_contra lost
      have loses := admits.reports landed (eq_false_of_ne_true lost)
      exact Bool.false_ne_true (keeps.symm.trans loses)
    have atOnce : input.sentAt ≤ input.now := by
      by_contra later
      have takes := admits.time (Nat.lt_of_not_le later)
      exact Bool.false_ne_true (instant.symm.trans takes)
    rw [landings] at member
    rw [state, reported, if_pos rfl]
    rcases List.mem_cons.1 member with rfl | member
    · exact ⟨atOnce, rfl⟩
    · exact ⟨Nat.le_trans (before.past landing member) after, rfl⟩

theorem Guarded.step (before : Guarded config intervals environment history)
    (admits : environment.Admits history input)
    (faithful : SleepCovers config intervals environment ∨ Remembers environment) :
    Guarded config intervals environment (history.step config intervals rates input) := by
  have sleeps := shortest_le_sleepAfter intervals (tick config rates history.state input).result
  rcases history.step_cases config intervals rates input with
    ⟨state, landings⟩ | ⟨guarded, state, landings⟩
  · exact before.of_landings_eq admits rfl sleeps landings (Or.inl state)
  · cases landed : input.outcome.landed with
    | true =>
        rw [landed, if_pos rfl] at landings
        exact before.of_landed admits faithful guarded landed rfl sleeps landings state
    | false =>
        rw [landed, if_neg Bool.false_ne_true] at landings
        refine before.of_landings_eq admits rfl sleeps landings ?_
        cases reported : input.outcome.reported with
        | true => exact Or.inr (by rw [state, reported, if_pos rfl])
        | false => exact Or.inl (by rw [state, reported, if_neg Bool.false_ne_true])

theorem guardHolds_of_faithful (rates : PerSecond)
    (faithful : SleepCovers config intervals environment ∨ Remembers environment) :
    GuardHolds config intervals rates environment := by
  intro inputs along
  have kept := along.keeps (Guarded config intervals environment)
    (fun _ _ before admits => before.step admits faithful)
    (Guarded.initial config intervals environment)
  exact kept.spaced

end Holds

/-! ### When it does not -/

section Breaks

variable {config : SelfFundConfig} {intervals : CheckIntervals} {rates : PerSecond}
  {environment : Environment}

/-- A tick that reads nothing submits once the interval is past, and the loop sleeps the shortest
time after it. -/
theorem step_blindTick (config : SelfFundConfig) (intervals : CheckIntervals) (rates : PerSecond)
    (history : FundHistory) {now sentAt : Nat} {reported : Bool}
    (interval : history.state.lastTopup + config.minTopupIntervalSecs ≤ now) :
    history.step config intervals rates (blindTick now sentAt reported) =
      ⟨if reported then ⟨now, true⟩ else history.state, sentAt, intervals.shortest,
        sentAt :: history.landings⟩ := by
  have isRested : rested config history.state (blindTick now sentAt reported) = true := by
    have rest : config.minTopupIntervalSecs ≤ now - history.state.lastTopup := by omega
    exact decide_eq_true rest
  rw [FundHistory.step, tick_blind rfl isRested]
  cases reported with
  | true => rfl
  | false => rfl

/-- How soon after a tick that reads nothing the next one may come. -/
def gap (intervals : CheckIntervals) (environment : Environment) : Nat :=
  if environment.lags then 0 else intervals.shortest

theorem gap_lt (bare : ¬SleepCovers config intervals environment) :
    gap intervals environment < config.minTopupIntervalSecs := by
  obtain ⟨some, uncovered⟩ := not_or.1 bare
  unfold gap
  cases lags : environment.lags with
  | true => exact Nat.pos_of_ne_zero some
  | false => exact Nat.lt_of_not_le fun short => uncovered ⟨lags, short⟩

def firstTick (config : SelfFundConfig) (intervals : CheckIntervals) : Nat :=
  max config.minTopupIntervalSecs intervals.shortest

/-- Two ticks as soon after each other as may be. The first takes `delay`. -/
def twoTicks (config : SelfFundConfig) (intervals : CheckIntervals) (environment : Environment)
    (delay : Nat) (reported : Bool) : List TickInput :=
  [blindTick (firstTick config intervals) (firstTick config intervals + delay) reported,
    blindTick (firstTick config intervals + delay + gap intervals environment)
      (firstTick config intervals + delay + gap intervals environment) true]

section TwoTicks

variable {delay : Nat} {reported : Bool}
  (second : reported = true → config.minTopupIntervalSecs ≤ delay)

theorem step_firstTick (rates : PerSecond) :
    FundHistory.step config intervals rates (.initial intervals)
        (blindTick (firstTick config intervals) (firstTick config intervals + delay) reported) =
      ⟨if reported then ⟨firstTick config intervals, true⟩ else .initial,
        firstTick config intervals + delay, intervals.shortest,
        [firstTick config intervals + delay]⟩ := by
  apply step_blindTick
  change 0 + config.minTopupIntervalSecs ≤ max config.minTopupIntervalSecs intervals.shortest
  omega

include second

/-- Both top-ups land, since what is remembered of the first does not hold the second back. -/
theorem landings_twoTicks (rates : PerSecond) :
    (run (FundHistory.step config intervals rates) (.initial intervals)
      (twoTicks config intervals environment delay reported)).landings =
        [firstTick config intervals + delay + gap intervals environment,
          firstTick config intervals + delay] := by
  change (FundHistory.step config intervals rates
    (FundHistory.step config intervals rates (.initial intervals) _) _).landings = _
  rw [step_firstTick, step_blindTick]
  cases reported with
  | true =>
      have enough := second rfl
      change firstTick config intervals + config.minTopupIntervalSecs ≤ _
      omega
  | false =>
      change 0 + config.minTopupIntervalSecs ≤
        max config.minTopupIntervalSecs intervals.shortest + delay + gap intervals environment
      omega

theorem not_guardHolds_of_twoTicks (rates : PerSecond)
    (bare : ¬SleepCovers config intervals environment)
    (reports : reported = false → environment.losesReports = true)
    (time : 0 < delay → environment.takesTime = true) :
    ¬GuardHolds config intervals rates environment := by
  intro holds
  have along : Along (FundHistory.step config intervals rates) environment.Admits
      (.initial intervals) (twoTicks config intervals environment delay reported) := by
    refine ⟨⟨Nat.zero_le _, Nat.le_add_right _ _, fun _ => reports, ?_, ?_⟩, ?_, trivial⟩
    · intro moved
      exact time (Nat.pos_of_lt_add_right moved)
    · intro early
      change max config.minTopupIntervalSecs intervals.shortest < 0 + intervals.shortest at early
      omega
    · rw [step_firstTick]
      refine ⟨Nat.le_add_right _ _, Nat.le_refl _, nofun, fun moved => ?_, fun early => ?_⟩
      · exact absurd moved (Nat.lt_irrefl _)
      · -- The gap is the sleep, unless the clock lags.
        change firstTick config intervals + delay + gap intervals environment <
          firstTick config intervals + delay + intervals.shortest at early
        by_contra keepsUp
        rw [gap, if_neg keepsUp] at early
        exact absurd early (Nat.lt_irrefl _)
  have spaced := holds _ along
  rw [landings_twoTicks second rates] at spaced
  have apart := List.rel_of_pairwise_cons spaced (List.mem_singleton.2 rfl)
  have short := gap_lt bare
  omega

end TwoTicks

end Breaks

/-- **The runaway guard keeps its interval in every run exactly if** the sleep between two ticks
does, or no report is lost and no time passes inside a tick. -/
theorem guardHolds_iff (config : SelfFundConfig) (intervals : CheckIntervals) (rates : PerSecond)
    (environment : Environment) :
    GuardHolds config intervals rates environment ↔
      SleepCovers config intervals environment ∨ Remembers environment := by
  refine ⟨fun holds => ?_, guardHolds_of_faithful rates⟩
  by_cases covers : SleepCovers config intervals environment
  · exact Or.inl covers
  · refine Or.inr ⟨?_, ?_⟩
    · -- The first report is lost, and the second tick comes as soon as it may.
      by_contra loses
      have forgotten : false = true → config.minTopupIntervalSecs ≤ 0 := nofun
      exact not_guardHolds_of_twoTicks forgotten rates covers
        (fun _ => Bool.not_eq_false _ ▸ loses) (fun moved => absurd moved (Nat.lt_irrefl 0)) holds
    · -- The first submission comes an interval after the moment that is remembered.
      by_contra takes
      have late : true = true → config.minTopupIntervalSecs ≤ config.minTopupIntervalSecs :=
        fun _ => Nat.le_refl _
      have reported : true = false → environment.losesReports = true := nofun
      exact not_guardHolds_of_twoTicks late rates covers reported
        (fun _ => Bool.not_eq_false _ ▸ takes) holds

/-- Two ticks two minutes apart, in each of which the queries fail. Both top-ups land; the first
was reported as an error. -/
theorem lostReport_pays_twice :
    Along (FundHistory.step .default .default .exact) (Environment.Admits ⟨true, false, false⟩)
        (.initial .default)
        [blindTick 1760000000 1760000000 false, blindTick 1760000120 1760000120 true] ∧
      (run (FundHistory.step .default .default .exact) (.initial .default)
        [blindTick 1760000000 1760000000 false,
          blindTick 1760000120 1760000120 true]).landings = [1760000120, 1760000000] ∧
      ¬Spaced SelfFundConfig.default.minTopupIntervalSecs [1760000120, 1760000000] := by
  decide +kernel

end CrFaucet.SelfFund
