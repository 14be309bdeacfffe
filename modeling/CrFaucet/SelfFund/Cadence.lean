import CrFaucet.Interaction.Run
import CrFaucet.SelfFund.Tick

/-!
Owns the loop of `mining_pool::self_fund::run` around its ticks: how long it sleeps, and that the
rent it pays does not run out.

The sleep follows the runway that was read before the top-up, so a tick that has just bought a month
still comes back soon. A tick that fails sleeps the shortest time. The chain is the end of the paid
time, which a top-up that lands moves on by its term.

What the loop has to be granted is a `Tolerance`: by how much a tick may be late or take time, how
many ticks in a row may fail, and how many top-ups in a row may be reported and not land. The last
are dear: appd reports a call that reverts like any other, the loop remembers it as a top-up, and
the guard holds the next one back. `Tolerance.Fits` says which settings leave room for it.

Does not own the boot before the loop, or the price of a term.
-/

set_option autoImplicit false

namespace CrFaucet.SelfFund

open Interaction

/-! ### The loop -/

/-- For how long a top-up pays. -/
def paidSecs (topup : Nat × Nat) : Nat := (termSecs.lookup topup.1).getD 0 * topup.2

/-- The loop between two ticks. -/
structure RentLoop where
  fund : FundState
  sleepSecs : Nat
  /-- When the last tick ended. -/
  clock : Nat
  /-- On the chain. -/
  paidUntil : Nat
  /-- How many ticks in a row have failed. -/
  failures : Nat
  /-- How many top-ups in a row were reported and did not land. -/
  misses : Nat
deriving DecidableEq

namespace RentLoop

/-- Before the first sleep. -/
def boot (intervals : CheckIntervals) (clock paidUntil : Nat) : RentLoop where
  fund := .initial
  sleepSecs := intervals.shortest
  clock := clock
  paidUntil := paidUntil
  failures := 0
  misses := 0

/-- What a tick makes of the paid time. -/
def extended (paidUntil : Nat) (submitted : Option (Nat × Nat)) (landed : Bool) : Nat :=
  match submitted with
  | some topup => if landed then paidUntil + paidSecs topup else paidUntil
  | none => paidUntil

/-- The misses after a submission. One that is not reported counts as a failure instead. -/
def missed (misses : Nat) (submitted : Option (Nat × Nat)) (outcome : SubmitOutcome) : Nat :=
  if submitted.isSome ∧ outcome.reported then
    if outcome.landed then 0 else misses + 1
  else misses

/-- A sleep and a tick. -/
def step (config : SelfFundConfig) (intervals : CheckIntervals) (rates : PerSecond)
    (loop : RentLoop) (input : TickInput) : RentLoop :=
  let ticked := tick config rates loop.fund input
  { fund := ticked.state
    sleepSecs := sleepAfter intervals ticked.result
    clock := input.sentAt
    paidUntil := extended loop.paidUntil ticked.submitted input.outcome.landed
    failures :=
      match ticked.result with
      | .ok _ => 0
      | .error _ => loop.failures + 1
    misses := missed loop.misses ticked.submitted input.outcome }

end RentLoop

/-! ### What the loop is granted -/

structure Tolerance where
  /-- By how much a tick may start late, and how long it may take. -/
  late : Nat
  /-- How many ticks in a row may fail. -/
  faults : Nat
  /-- How many top-ups in a row may be reported and not land. -/
  misses : Nat

namespace Tolerance

variable (tolerance : Tolerance) (intervals : CheckIntervals) (config : SelfFundConfig)

/-- From one tick to the next, if it fails. -/
def round : Nat := intervals.shortest + 2 * tolerance.late

/-- What all the failures may take. -/
def reserve : Nat := tolerance.faults * tolerance.round intervals

/-- From a top-up that does not land to the next one: the guard, and then a sleep within the window
and the failures that may follow. -/
def retry : Nat :=
  config.minTopupIntervalSecs + max intervals.shortest (config.safetyWindowSecs / 4) +
    3 * tolerance.late + tolerance.reserve intervals

/-- What the misses may take that may still follow. -/
def rest (misses : Nat) : Nat :=
  (tolerance.misses - misses) * tolerance.retry intervals config

/-- What all the failures and misses may take. -/
def slack : Nat :=
  tolerance.reserve intervals + tolerance.misses * tolerance.retry intervals config

/-- The settings leave room: an hour can be bought, the guard does not hold back a top-up that is
needed, and neither the shortest sleep nor a quarter of the runway oversleeps the window. -/
structure Fits : Prop where
  hourly : 1 ≤ config.maxTopupTerm
  guard : config.safetyWindowSecs + config.minTopupIntervalSecs ≤ 3600
  window : intervals.shortest + 3 * tolerance.late + tolerance.slack intervals config ≤
    config.safetyWindowSecs
  quarter : 12 * tolerance.late + 4 * tolerance.slack intervals config ≤
    3 * config.safetyWindowSecs

/-- What each tick meets. The clock is right and the tick punctual, what is read of the chain is so,
an hour can be paid above the floor, and no more ticks fail in a row, and no more top-ups that are
reported do not land, than are tolerated. -/
structure Grants (rates : PerSecond) (loop : RentLoop) (input : TickInput) : Prop where
  slept : loop.clock + loop.sleepSecs ≤ input.now
  punctual : input.now ≤ loop.clock + loop.sleepSecs + tolerance.late
  ordered : input.now ≤ input.sentAt
  quick : input.sentAt ≤ input.now + tolerance.late
  record : ∀ info paidUntil, readInstance input = .ok (some info) →
    info.paidUntil = some paidUntil → paidUntil = loop.paidUntil
  funded : ∀ info balance, readInstance input = .ok (some info) →
    readBalance input = some balance → info.terms ≠ [] →
    ∃ price, info.terms.lookup 1 = some price ∧ 0 < price ∧
      price + reserveFloor config.reserveFloorWei ≤ balance
  lands : (tick config rates loop.fund input).submitted.isSome →
    input.outcome.reported = true → input.outcome.landed = false → loop.misses < tolerance.misses
  rare : ∀ error, (tick config rates loop.fund input).result = .error error →
    loop.failures < tolerance.faults

end Tolerance

/-! ### An hour can be bought -/

section Hourly

variable {config : SelfFundConfig} {rates : PerSecond} {input : TickInput}

theorem chooseTerm_ne_none {info : Option InstanceInfo} (hourly : 1 ≤ config.maxTopupTerm)
    (funded : ∀ record balance, info = some record → readBalance input = some balance →
      record.terms ≠ [] → ∃ price, record.terms.lookup 1 = some price ∧ 0 < price ∧
        price + reserveFloor config.reserveFloorWei ≤ balance) :
    chooseTerm config rates input info ≠ none := by
  unfold chooseTerm
  split
  · rename_i balance terms isBalance isTerms
    split
    · exact Option.some_ne_none _
    · rename_i listed
      obtain ⟨record, rfl, rfl⟩ := Option.map_eq_some_iff.1 isTerms
      have nonempty : record.terms ≠ [] := fun empty => listed (List.isEmpty_iff.2 empty)
      obtain ⟨price, hour, positive, payable⟩ := funded record balance rfl isBalance nonempty
      exact planTopup_ne_none hourly hour positive payable
  · exact Option.some_ne_none _

/-- Every top-up pays for an hour at least. -/
theorem Chosen.hour_le {topup : Nat × Nat} (chosen : Chosen config rates input topup) :
    3600 ≤ paidSecs topup := by
  obtain ⟨term, count⟩ := topup
  obtain ⟨⟨least, most⟩, rfl⟩ := chosen.range
  have terms : term = 1 ∨ term = 2 ∨ term = 3 := by omega
  rcases terms with rfl | rfl | rfl
  · decide
  · decide
  · decide

end Hourly

/-! ### The rent does not run out -/

section PaidAhead

variable {config : SelfFundConfig} {intervals : CheckIntervals} {rates : PerSecond}
  {tolerance : Tolerance} {loop next : RentLoop} {input : TickInput}

/-- The time is paid until the next tick has ended, and after it for as many failures and misses as
may still follow. The top-up the loop remembers bought an hour at least; if it did not land, there
is time for the next one. -/
structure PaidAhead (intervals : CheckIntervals) (config : SelfFundConfig) (tolerance : Tolerance)
    (loop : RentLoop) : Prop where
  ahead : loop.clock + loop.sleepSecs + 2 * tolerance.late +
    (tolerance.faults - loop.failures) * tolerance.round intervals +
    tolerance.rest intervals config loop.misses ≤ loop.paidUntil
  topped : loop.misses = 0 → loop.fund.lastTopup + 3600 ≤ loop.paidUntil
  retries : loop.misses ≠ 0 → loop.fund.lastTopup + tolerance.retry intervals config +
    tolerance.rest intervals config loop.misses ≤ loop.paidUntil

/-- One of those that may still follow is used up. -/
theorem sub_mul_of_lt {count most : Nat} (within : count < most) (each : Nat) :
    (most - count) * each = (most - (count + 1)) * each + each := by
  have split : most - count = most - (count + 1) + 1 := by omega
  rw [split, Nat.succ_mul]

/-- The misses still to come are among all. -/
theorem rest_le (intervals : CheckIntervals) (config : SelfFundConfig) (tolerance : Tolerance)
    (misses : Nat) :
    tolerance.reserve intervals + tolerance.rest intervals config misses ≤
      tolerance.slack intervals config :=
  Nat.add_le_add_left (Nat.mul_le_mul_right _ (Nat.sub_le _ _)) _

theorem adaptiveSleep_le (intervals : CheckIntervals) (left : Nat) :
    adaptiveSleep intervals (some left) ≤ max intervals.shortest (left / 4) := by
  simp only [adaptiveSleep]
  omega

/-- A tick never takes paid time away. -/
theorem RentLoop.le_extended (paidUntil : Nat) (submitted : Option (Nat × Nat)) (landed : Bool) :
    paidUntil ≤ extended paidUntil submitted landed := by
  unfold extended
  split
  · split
    · exact Nat.le_add_right _ _
    · exact Nat.le_refl _
  · exact Nat.le_refl _

/-- The runway is what is left of the paid time, where it is known. -/
theorem Tolerance.Grants.left_eq (grants : tolerance.Grants config rates loop input)
    {info : Option InstanceInfo} (read : readInstance input = .ok info) {left : Nat}
    (known : runway input info = some left) : left = loop.paidUntil - input.now := by
  obtain ⟨paidUntil, isPaid, rfl⟩ := Option.map_eq_some_iff.1 known
  obtain ⟨record, rfl, isRecord⟩ := Option.bind_eq_some_iff.1 isPaid
  rw [grants.record record paidUntil read isRecord]

/-- The whole tick fits in the time that is paid, and the misses that may follow. -/
theorem PaidAhead.now_le (paid : PaidAhead intervals config tolerance loop)
    (grants : tolerance.Grants config rates loop input) :
    input.now + tolerance.late + tolerance.rest intervals config loop.misses ≤ loop.paidUntil := by
  have ahead := paid.ahead
  have punctual := grants.punctual
  omega

/-- A tick that fails uses up one of the failures. -/
theorem PaidAhead.fail (paid : PaidAhead intervals config tolerance loop)
    (grants : tolerance.Grants config rates loop input)
    (tolerated : loop.failures < tolerance.faults) (sleepSecs : next.sleepSecs = intervals.shortest)
    (clock : next.clock = input.sentAt) (failures : next.failures = loop.failures + 1)
    (misses : next.misses = loop.misses) (fund : next.fund = loop.fund)
    (later : loop.paidUntil ≤ next.paidUntil) : PaidAhead intervals config tolerance next := by
  have ahead := paid.ahead
  have punctual := grants.punctual
  have quick := grants.quick
  refine ⟨?_, ?_, ?_⟩
  · have oneLess := sub_mul_of_lt tolerated (tolerance.round intervals)
    have round : tolerance.round intervals = intervals.shortest + 2 * tolerance.late := rfl
    rw [clock, sleepSecs, misses, failures]
    omega
  · intro none
    rw [fund]
    exact Nat.le_trans (paid.topped (misses ▸ none)) later
  · intro some
    rw [fund, misses]
    exact Nat.le_trans (paid.retries (misses ▸ some)) later

/-- A tick that succeeds starts anew. -/
theorem PaidAhead.of_room (grants : tolerance.Grants config rates loop input)
    (clock : next.clock = input.sentAt) (failures : next.failures = 0) {misses : Nat}
    (isMisses : next.misses = misses)
    (room : input.now + next.sleepSecs + 3 * tolerance.late + tolerance.reserve intervals +
      tolerance.rest intervals config misses ≤ next.paidUntil)
    (topped : misses = 0 → next.fund.lastTopup + 3600 ≤ next.paidUntil)
    (retries : misses ≠ 0 → next.fund.lastTopup + tolerance.retry intervals config +
      tolerance.rest intervals config misses ≤ next.paidUntil) :
    PaidAhead intervals config tolerance next := by
  subst isMisses
  have quick := grants.quick
  refine ⟨?_, topped, retries⟩
  rw [clock, failures, Nat.sub_zero]
  have reserve : tolerance.reserve intervals = tolerance.faults * tolerance.round intervals := rfl
  omega

/-- Above the window there is room for a sleep and all that may follow it. Within it, or where it is
not known, the sleep is short. -/
theorem PaidAhead.far_or_near (fits : tolerance.Fits intervals config)
    (paid : PaidAhead intervals config tolerance loop)
    (grants : tolerance.Grants config rates loop input) {info : Option InstanceInfo}
    (read : readInstance input = .ok info) :
    input.now + adaptiveSleep intervals (runway input info) + 3 * tolerance.late +
        tolerance.slack intervals config ≤ loop.paidUntil ∨
      adaptiveSleep intervals (runway input info) ≤
          max intervals.shortest (config.safetyWindowSecs / 4) ∧
        ∀ left, runway input info = some left → left < config.safetyWindowSecs := by
  cases known : runway input info with
  | none => exact Or.inr ⟨Nat.le_max_left _ _, fun _ absent => by cases absent⟩
  | some left =>
      have isLeft := grants.left_eq read known
      have sleep := adaptiveSleep_le intervals left
      rcases Nat.lt_or_ge left config.safetyWindowSecs with near | far
      · refine Or.inr ⟨by omega, ?_⟩
        rintro _ ⟨⟩
        exact near
      · have inTime := paid.now_le grants
        have window := fits.window
        have quarter := fits.quarter
        exact Or.inl (by omega)

/-- A tick that has nothing to do has found the window ahead of it, or it is held back: its last
top-up has bought an hour not long ago, or did not land and leaves time for the next. -/
theorem PaidAhead.idle (fits : tolerance.Fits intervals config)
    (paid : PaidAhead intervals config tolerance loop)
    (grants : tolerance.Grants config rates loop input) {info : Option InstanceInfo}
    (read : readInstance input = .ok info)
    (notDue : due config loop.fund input (runway input info) = false) :
    input.now + adaptiveSleep intervals (runway input info) + 3 * tolerance.late +
      tolerance.reserve intervals + tolerance.rest intervals config loop.misses ≤
        loop.paidUntil := by
  have rest := rest_le intervals config tolerance loop.misses
  rcases paid.far_or_near fits grants read with far | ⟨sleep, near⟩
  · omega
  · have held : input.now < loop.fund.lastTopup + config.minTopupIntervalSecs := by
      by_contra free
      have isRested : rested config loop.fund input = true := decide_eq_true (by omega)
      have isWanted : wanted config loop.fund input (runway input info) = true := by
        cases known : runway input info with
        | none => simp [wanted, isRested]
        | some left => simp [wanted, near left known]
      simp [due, isRested, isWanted] at notDue
    by_cases none : loop.misses = 0
    · -- the guard holds it back, but it has bought an hour
      have topped := paid.topped none
      have guard := fits.guard
      have window := fits.window
      have quarter := fits.quarter
      omega
    · have retries := paid.retries none
      unfold Tolerance.retry at retries
      omega

/-- A top-up that lands pays for the next sleep, which follows from the runway before it. -/
theorem PaidAhead.bought (fits : tolerance.Fits intervals config)
    (paid : PaidAhead intervals config tolerance loop)
    (grants : tolerance.Grants config rates loop input) {info : Option InstanceInfo}
    (read : readInstance input = .ok info) {bought : Nat} (hour : 3600 ≤ bought) :
    input.now + adaptiveSleep intervals (runway input info) + 3 * tolerance.late +
      tolerance.slack intervals config ≤ loop.paidUntil + bought := by
  have inTime := paid.now_le grants
  have guard := fits.guard
  have window := fits.window
  have quarter := fits.quarter
  rcases paid.far_or_near fits grants read with far | ⟨sleep, _⟩
  · omega
  · omega

/-- A top-up that does not land leaves time for the next one, and for the sleep before it. -/
theorem PaidAhead.missed (fits : tolerance.Fits intervals config)
    (paid : PaidAhead intervals config tolerance loop)
    (grants : tolerance.Grants config rates loop input) {info : Option InstanceInfo}
    (read : readInstance input = .ok info) (tolerated : loop.misses < tolerance.misses) :
    input.now + adaptiveSleep intervals (runway input info) + 3 * tolerance.late +
        tolerance.reserve intervals + tolerance.rest intervals config (loop.misses + 1) ≤
          loop.paidUntil ∧
      input.now + tolerance.retry intervals config +
        tolerance.rest intervals config (loop.misses + 1) ≤ loop.paidUntil := by
  have inTime := paid.now_le grants
  have oneLess : tolerance.rest intervals config loop.misses =
      tolerance.rest intervals config (loop.misses + 1) + tolerance.retry intervals config :=
    sub_mul_of_lt tolerated _
  refine ⟨?_, by omega⟩
  rcases paid.far_or_near fits grants read with far | ⟨sleep, _⟩
  · have rest := rest_le intervals config tolerance (loop.misses + 1)
    omega
  · have retry : tolerance.retry intervals config = config.minTopupIntervalSecs +
        max intervals.shortest (config.safetyWindowSecs / 4) + 3 * tolerance.late +
          tolerance.reserve intervals := rfl
    omega

/-- **The step lemma.** -/
theorem PaidAhead.step (fits : tolerance.Fits intervals config)
    (paid : PaidAhead intervals config tolerance loop)
    (grants : tolerance.Grants config rates loop input) :
    PaidAhead intervals config tolerance (loop.step config intervals rates input) := by
  have rare := grants.rare
  have lands := grants.lands
  have shape := tick_shape config rates loop.fund input
  unfold RentLoop.step
  generalize ticked : tick config rates loop.fund input = outcome at shape rare lands
  cases shape with
  | unread error read =>
      exact paid.fail grants (rare error rfl) rfl rfl rfl rfl rfl (Nat.le_refl _)
  | idle info read notDue =>
      exact .of_room grants rfl rfl rfl (paid.idle fits grants read notDue) paid.topped paid.retries
  | poor info read none =>
      refine absurd none (chooseTerm_ne_none fits.hourly ?_)
      rintro record balance rfl
      exact grants.funded record balance read
  | refused info topup submits failed =>
      have same : RentLoop.missed loop.misses (some topup) input.outcome = loop.misses := by
        simp [RentLoop.missed, failed]
      have later := RentLoop.le_extended loop.paidUntil (some topup) input.outcome.landed
      exact paid.fail grants (rare _ rfl) rfl rfl rfl same rfl later
  | reported info topup submits worked =>
      cases landed : input.outcome.landed with
      | true =>
          have none : RentLoop.missed loop.misses (some topup) input.outcome = 0 := by
            simp [RentLoop.missed, worked, landed]
          have hour := (chooseTerm_cases submits.read submits.chosen).hour_le
          have room := paid.bought fits grants submits.read hour
          have inTime := paid.now_le grants
          refine .of_room grants rfl rfl none ?_ ?_ (fun some => absurd rfl some)
          · exact Nat.add_assoc _ _ _ ▸ room
          · intro _
            change input.now + 3600 ≤ loop.paidUntil + paidSecs topup
            omega
      | false =>
          have one : RentLoop.missed loop.misses (some topup) input.outcome = loop.misses + 1 := by
            simp [RentLoop.missed, worked, landed]
          obtain ⟨room, next⟩ := paid.missed fits grants submits.read (lands rfl worked landed)
          exact .of_room grants rfl rfl one room (fun none => absurd none (Nat.succ_ne_zero _))
            fun _ => next

end PaidAhead

/-- **The rent does not run out.** From any boot with enough time paid, with settings that leave
room for the tolerance, in every run that keeps to the tolerance: whatever the ticks can or cannot
read and whichever top-ups do not land, the time is paid until the tick to come has ended, however
late it is. -/
theorem rent_never_lapses (config : SelfFundConfig) (intervals : CheckIntervals)
    (rates : PerSecond) (tolerance : Tolerance) (fits : tolerance.Fits intervals config)
    (clock paidUntil : Nat)
    (paid : clock + intervals.shortest + 2 * tolerance.late + tolerance.slack intervals config ≤
      paidUntil)
    (hour : 3600 ≤ paidUntil) (inputs : List TickInput)
    (granted : Along (RentLoop.step config intervals rates) (tolerance.Grants config rates)
      (RentLoop.boot intervals clock paidUntil) inputs) (loop : RentLoop)
    (reached : loop = run (RentLoop.step config intervals rates)
      (RentLoop.boot intervals clock paidUntil) inputs) :
    loop.clock + loop.sleepSecs + 2 * tolerance.late ≤ loop.paidUntil := by
  have initially : PaidAhead intervals config tolerance
      (RentLoop.boot intervals clock paidUntil) := by
    refine ⟨?_, ?_, fun some => absurd rfl some⟩
    · change clock + intervals.shortest + 2 * tolerance.late + tolerance.reserve intervals +
        tolerance.rest intervals config 0 ≤ paidUntil
      have slack : tolerance.slack intervals config =
          tolerance.reserve intervals + tolerance.rest intervals config 0 := rfl
      omega
    · change 0 = 0 → 0 + 3600 ≤ paidUntil
      omega
  have kept := granted.keeps (PaidAhead intervals config tolerance)
    (fun _ _ paid grants => paid.step fits grants) initially
  rw [← reached] at kept
  have ahead := kept.ahead
  omega

/-! A boot with the default settings and a clock that is never late: the first tick reads a runway
within the window, and its top-up is reported but reverts. The guard holds the next three ticks
back; the fifth buys an hour. -/

def oneRevert : Tolerance where
  late := 0
  faults := 0
  misses := 1

theorem oneRevert_fits : oneRevert.Fits .default .default where
  hourly := by decide
  guard := by decide
  window := by decide
  quarter := by decide

/-- Without reverts, the same settings allow for a minute and for two failures in a row. -/
example : Tolerance.Fits ⟨60, 2, 0⟩ .default .default :=
  ⟨by decide, by decide, by decide, by decide⟩

/-- A tick that reads how far the rent is paid, and no prices. -/
def readingTick (now paidUntil : Nat) (landed : Bool) : TickInput where
  now
  instanceRecord := .value (.map [(.text "paid_until", .integer paidUntil)])
  balances := .failed
  sentAt := now
  outcome := ⟨true, landed⟩

/-- What such a tick is granted, if it is on time. -/
theorem readingTick_grants {config : SelfFundConfig} {rates : PerSecond} {tolerance : Tolerance}
    {loop : RentLoop} {now paidUntil : Nat} {landed : Bool}
    (onTime : loop.clock + loop.sleepSecs = now)
    (isSo : (parseInstance (.map [(.text "paid_until", .integer paidUntil)])).paidUntil =
      some loop.paidUntil)
    (tolerated : landed = false → loop.misses < tolerance.misses) :
    tolerance.Grants config rates loop (readingTick now paidUntil landed) where
  slept := Nat.le_of_eq onTime
  punctual := onTime ▸ Nat.le_add_right _ _
  ordered := Nat.le_refl _
  quick := Nat.le_add_right _ _
  record := by
    intro info other read isPaid
    cases read
    rw [isSo] at isPaid
    exact (Option.some.inj isPaid).symm
  funded := by
    intro info balance read isBalance
    cases isBalance
  lands := fun _ _ => tolerated
  rare := by
    intro error failed
    have shape := tick_shape config rates loop.fund (readingTick now paidUntil landed)
    generalize tick config rates loop.fund _ = ticked at shape failed
    cases shape with
    | unread error read => cases read
    | refused info topup submits unreported => cases unreported
    | idle | poor | reported => cases failed

def revertedTicks : List TickInput :=
  [readingTick 1760000120 1760001100 false, readingTick 1760000365 1760001100 true,
    readingTick 1760000548 1760001100 true, readingTick 1760000686 1760001100 true,
    readingTick 1760000806 1760001100 true]

theorem rent_never_lapses_reverted :
    run (RentLoop.step .default .default .exact) (.boot .default 1760000000 1760001100)
        revertedTicks = ⟨⟨1760000806, true⟩, 120, 1760000806, 1760004700, 0, 0⟩ ∧
      1760000806 + 120 + 2 * 0 ≤ 1760004700 := by
  have granted : Along (RentLoop.step .default .default .exact)
      (oneRevert.Grants .default .exact) (.boot .default 1760000000 1760001100)
      revertedTicks :=
    ⟨readingTick_grants (by decide) (by decide) (by decide),
      readingTick_grants (by decide) (by decide) (by decide),
      readingTick_grants (by decide) (by decide) (by decide),
      readingTick_grants (by decide) (by decide) (by decide),
      readingTick_grants (by decide) (by decide) (by decide), trivial⟩
  have loop : run (RentLoop.step .default .default .exact)
      (.boot .default 1760000000 1760001100) revertedTicks =
        ⟨⟨1760000806, true⟩, 120, 1760000806, 1760004700, 0, 0⟩ := by decide
  exact ⟨loop, rent_never_lapses .default .default .exact oneRevert oneRevert_fits
    1760000000 1760001100 (by decide) (by decide) revertedTicks granted _ loop.symm⟩

end CrFaucet.SelfFund
