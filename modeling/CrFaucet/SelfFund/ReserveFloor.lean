import CrFaucet.SelfFund.Tick

/-!
Owns the reserve floor: whether a submitted top-up leaves in the reservoir what `reserve_floor_wei`
says.

A planned top-up leaves it. The fallback of one hour is submitted without a look at the floor, and
any tick may fall back; so the floor is safe exactly while an hour can be paid above it. The floor
is the number the text of the configuration stands for. A number that is no `u128` is read as zero.

Does not own the balance and the prices, which stay as they are during a tick.
-/

set_option autoImplicit false

namespace CrFaucet.SelfFund

/-- The reservoir's balance and what each term costs. -/
structure Chain where
  balance : Nat
  prices : Nat → Option Nat
  fits : balance < 2 ^ 128

/-- What was read is so. -/
structure Chain.Truthful (chain : Chain) (input : TickInput) : Prop where
  prices : ∀ info, readInstance input = .ok (some info) →
    ∀ term price, info.terms.lookup term = some price → chain.prices term = some price
  balance : ∀ balance, readBalance input = some balance → balance = chain.balance

/-- The number `reserve_floor_wei` stands for. -/
def writtenFloor (text : String) : Nat :=
  (SerdeJson.decimal (String.ofList (Utf8.trim text.toList))).getD 0

/-- The term has a price, and the reservoir can pay it and keep the floor. -/
def Chain.LeavesFloor (chain : Chain) (floor : Nat) (topup : Nat × Nat) : Prop :=
  ∃ price, chain.prices topup.1 = some price ∧ price * topup.2 + floor ≤ chain.balance

/-- Every submitted top-up leaves the floor, whatever was read. -/
def FloorKept (config : SelfFundConfig) (rates : PerSecond) (chain : Chain) : Prop :=
  ∀ state input topup, chain.Truthful input →
    (tick config rates state input).submitted = some topup →
      chain.LeavesFloor (writtenFloor config.reserveFloorWei) topup

/-- Every top-up leaves the floor that was submitted with prices and balance read. -/
def FloorKeptWhenRead (config : SelfFundConfig) (rates : PerSecond) (chain : Chain) : Prop :=
  ∀ state input topup, chain.Truthful input → HasRead input →
    (tick config rates state input).submitted = some topup →
      chain.LeavesFloor (writtenFloor config.reserveFloorWei) topup

section Floor

variable {config : SelfFundConfig} {rates : PerSecond} {chain : Chain} {state : FundState}
  {input : TickInput} {topup : Nat × Nat}

theorem reserveFloor_eq {text : String} (fits : writtenFloor text < 2 ^ 128) :
    reserveFloor text = writtenFloor text := by
  rw [writtenFloor] at fits ⊢
  rw [reserveFloor, SerdeJson.parseU128_eq]
  cases read : SerdeJson.decimal (String.ofList (Utf8.trim text.toList)) with
  | none => rfl
  | some floor =>
      rw [read, Option.getD_some] at fits
      rw [Option.filter_some, if_pos (decide_eq_true fits)]

theorem leavesFloor_of_planned (truthful : chain.Truthful input)
    (fits : writtenFloor config.reserveFloorWei < 2 ^ 128) {balance : Nat} {record : InstanceInfo}
    (isBalance : readBalance input = some balance)
    (isRecord : readInstance input = .ok (some record))
    (planned : planTopup rates balance (reserveFloor config.reserveFloorWei) record.terms
      config.maxTopupTerm = some topup) :
    chain.LeavesFloor (writtenFloor config.reserveFloorWei) topup := by
  obtain ⟨one, _, _, price, listed, payable⟩ := planTopup_eq_some planned
  refine ⟨price, truthful.prices record isRecord _ _ listed, ?_⟩
  rw [one, Nat.mul_one, ← reserveFloor_eq fits, ← truthful.balance balance isBalance]
  exact payable

/-- A tick submits what leaves the floor, or the hour of the fallback. -/
theorem leavesFloor_or_fallback (truthful : chain.Truthful input)
    (fits : writtenFloor config.reserveFloorWei < 2 ^ 128)
    (submitted : (tick config rates state input).submitted = some topup) :
    (topup = (1, 1) ∧ ¬HasRead input) ∨
      chain.LeavesFloor (writtenFloor config.reserveFloorWei) topup := by
  refine (submitted_cases submitted).imp_right ?_
  intro ⟨balance, record, isBalance, isRecord, planned⟩
  exact leavesFloor_of_planned truthful fits isBalance isRecord planned

theorem floorKeptWhenRead (config : SelfFundConfig) (rates : PerSecond) (chain : Chain)
    (fits : writtenFloor config.reserveFloorWei < 2 ^ 128) :
    FloorKeptWhenRead config rates chain := by
  intro state input topup truthful hasRead submitted
  rcases leavesFloor_or_fallback truthful fits submitted with ⟨_, unread⟩ | leaves
  · exact absurd hasRead unread
  · exact leaves

theorem truthful_blindTick (chain : Chain) (now sentAt : Nat) (reported : Bool) :
    chain.Truthful (blindTick now sentAt reported) where
  prices := by
    intro info read
    cases read
  balance := by
    intro balance read
    cases read

theorem floorKept_iff_hour (config : SelfFundConfig) (rates : PerSecond) (chain : Chain) :
    FloorKept config rates chain ↔
      chain.LeavesFloor (writtenFloor config.reserveFloorWei) (1, 1) := by
  constructor
  · intro kept
    -- The first tick of a process whose queries fail, once the clock is past the interval.
    let interval := config.minTopupIntervalSecs
    have isRested : rested config .initial (blindTick interval interval true) = true :=
      decide_eq_true (Nat.le_refl interval)
    exact kept .initial _ _ (truthful_blindTick chain interval interval true)
      (congrArg Ticked.submitted (tick_blind rfl isRested))
  · intro hour state input topup truthful submitted
    have fits : writtenFloor config.reserveFloorWei < 2 ^ 128 := by
      obtain ⟨price, _, payable⟩ := hour
      have fits := chain.fits
      omega
    rcases leavesFloor_or_fallback truthful fits submitted with ⟨fallback, _⟩ | leaves
    · rw [fallback]
      exact hour
    · exact leaves

end Floor

/-- **The floor is kept exactly while the reservoir can pay an hour above it.** Where prices and
balance were read it is kept in any case, if it is a `u128`. -/
theorem floor_kept_iff_hour_is_affordable (config : SelfFundConfig) (rates : PerSecond)
    (chain : Chain) :
    (FloorKept config rates chain ↔
        chain.LeavesFloor (writtenFloor config.reserveFloorWei) (1, 1)) ∧
      (writtenFloor config.reserveFloorWei < 2 ^ 128 → FloorKeptWhenRead config rates chain) :=
  ⟨floorKept_iff_hour config rates chain, floorKeptWhenRead config rates chain⟩

def flooredConfig : SelfFundConfig := { SelfFundConfig.default with reserveFloorWei := "5" }

def lowReservoir : Chain where
  balance := 12
  prices term := if term = 1 then some 10 else none
  fits := by decide

/-- No query is answered; the hour is submitted, and would leave two. -/
theorem blindTick_spends_floor :
    lowReservoir.Truthful (blindTick 1760000000 1760000000 true) ∧
      (tick flooredConfig .exact .initial
        (blindTick 1760000000 1760000000 true)).submitted = some (1, 1) ∧
      lowReservoir.prices 1 = some 10 ∧
      ¬10 + writtenFloor flooredConfig.reserveFloorWei ≤ lowReservoir.balance :=
  ⟨truthful_blindTick _ _ _ _, by decide +kernel, rfl, by decide +kernel⟩

end CrFaucet.SelfFund
