import Mathlib.Algebra.Order.Field.Rat
import Mathlib.Data.Rat.Cast.Order
import Mathlib.Data.Rat.Floor
import Mathlib.Tactic.Linarith
import Mathlib.Tactic.NormNum
import CrFaucet.Issuance.Commands

/-!
Owns the pay-per-share rates: the formula of `pool_core::pps`, the cache of
`pool_core::cache` that the `pps-rate` task publishes to, and the issuing services
running against that cache.

A tick publishes with two stores, the net rate and then the fee rate; there is one
`pps-rate` task, so ticks do not overlap. Rates are exact numbers. How a tick comes
by its inputs is left out: any inputs may be published at any time.

Ghosts: which tick each half of the cache comes from, what a thread loaded, and the
shares whose both halves were loaded. No command reads them.
-/

set_option autoImplicit false

namespace CrFaucet.Issuance

open Interaction
open Token (Address)

/-! ### The formula -/

structure PpsInputs where
  blockRewardAtomic : ℚ
  networkDifficulty : ℚ
  upstreamFee : ℚ
  poolFee : ℚ
  riskBuffer : ℚ
  operationalCostAtomicPerSecond : ℚ
  poolHashrate : ℚ
deriving DecidableEq

structure PpsBreakdown where
  rawPerDiff : ℚ
  afterMargin : ℚ
  opCostTerm : ℚ
  rate : ℚ
  feePerDiff : ℚ
deriving DecidableEq

def compute (inputs : PpsInputs) : PpsBreakdown :=
  let net := max inputs.networkDifficulty 1
  let hash := max inputs.poolHashrate 1
  let rawPerDiff := inputs.blockRewardAtomic * (1 - inputs.upstreamFee) / net
  let afterMargin := rawPerDiff * (1 - inputs.poolFee - inputs.riskBuffer)
  let opCostTerm := inputs.operationalCostAtomicPerSecond / hash
  { rawPerDiff
    afterMargin
    opCostTerm
    rate := max (afterMargin - opCostTerm) 0
    feePerDiff := rawPerDiff * max inputs.poolFee 0 }

/-- Amounts are not negative and the fees are probabilities. -/
structure PpsInputs.Documented (inputs : PpsInputs) : Prop where
  reward : 0 ≤ inputs.blockRewardAtomic
  upstream : inputs.upstreamFee ≤ 1
  pool : 0 ≤ inputs.poolFee ∧ inputs.poolFee ≤ 1
  risk : 0 ≤ inputs.riskBuffer
  cost : 0 ≤ inputs.operationalCostAtomicPerSecond

/-- The net rate and the fee come out of the raw rate. -/
structure PpsBreakdown.Covered (breakdown : PpsBreakdown) : Prop where
  rate : 0 ≤ breakdown.rate
  fee : 0 ≤ breakdown.feePerDiff
  both : breakdown.rate + breakdown.feePerDiff ≤ breakdown.rawPerDiff

theorem PpsInputs.Documented.covered {inputs : PpsInputs} (documented : inputs.Documented) :
    (compute inputs).Covered := by
  have net : (0 : ℚ) < max inputs.networkDifficulty 1 := lt_max_of_lt_right one_pos
  have hash : (0 : ℚ) < max inputs.poolHashrate 1 := lt_max_of_lt_right one_pos
  have raw : 0 ≤ (compute inputs).rawPerDiff :=
    div_nonneg (mul_nonneg documented.reward (sub_nonneg.2 documented.upstream)) net.le
  have cost : 0 ≤ (compute inputs).opCostTerm := div_nonneg documented.cost hash.le
  have fee : (compute inputs).feePerDiff = (compute inputs).rawPerDiff * inputs.poolFee := by
    change (compute inputs).rawPerDiff * max inputs.poolFee 0 = _
    rw [max_eq_left documented.pool.1]
  have margin : (compute inputs).afterMargin =
      (compute inputs).rawPerDiff - (compute inputs).rawPerDiff * inputs.poolFee -
        (compute inputs).rawPerDiff * inputs.riskBuffer := by
    change (compute inputs).rawPerDiff * (1 - inputs.poolFee - inputs.riskBuffer) = _
    ring
  have kept : 0 ≤ (compute inputs).rawPerDiff * inputs.riskBuffer :=
    mul_nonneg raw documented.risk
  refine ⟨le_max_right _ _, fee ▸ mul_nonneg raw documented.pool.1, ?_⟩
  have swept : (compute inputs).rawPerDiff * inputs.poolFee ≤ (compute inputs).rawPerDiff :=
    mul_le_of_le_one_right raw documented.pool.2
  have rate : (compute inputs).rate ≤
      (compute inputs).rawPerDiff - (compute inputs).rawPerDiff * inputs.poolFee := by
    change max ((compute inputs).afterMargin - (compute inputs).opCostTerm) 0 ≤ _
    apply max_le
    · linarith only [margin, kept, cost]
    · linarith only [swept]
  linarith only [rate, fee]

/-! ### Casts -/

/-- `x as i64`: towards zero, and to the nearest end of the range. -/
def castI64 (x : ℚ) : Int := max (-2 ^ 63) (min (x.num.tdiv x.den) i64Max)

theorem castI64_le {x : ℚ} (nonneg : 0 ≤ x) : (castI64 x : ℚ) ≤ x := by
  have floor : x.num.tdiv x.den = ⌊x⌋ := by
    rw [Int.tdiv_eq_ediv_of_nonneg (Rat.num_nonneg.2 nonneg)]
    exact Rat.floor_def'.symm
  have low : (0 : Int) ≤ ⌊x⌋ := Int.floor_nonneg.2 nonneg
  have below : castI64 x ≤ ⌊x⌋ := by
    rw [castI64, floor]
    omega
  exact (Int.cast_le.2 below).trans (Int.floor_le x)

/-! ### The cache -/

structure RateCache where
  bits : ℚ
  feeBits : ℚ
  setAtUnix : Int

namespace RateCache

def new : RateCache := ⟨0, 0, 0⟩

def get (cache : RateCache) : ℚ := cache.bits

def feeRate (cache : RateCache) : ℚ := cache.feeBits

def set (cache : RateCache) (rate : ℚ) (nowUnix : Int) : RateCache :=
  { cache with bits := rate, setAtUnix := nowUnix }

def setFeeRate (cache : RateCache) (feePerDiff : ℚ) : RateCache :=
  { cache with feeBits := feePerDiff }

end RateCache

/-- A publication, numbered; the cache starts out as if tick 0 had published zeros. -/
structure Tick where
  number : Nat
  inputs : Option PpsInputs
deriving DecidableEq

def Tick.breakdown (tick : Tick) : PpsBreakdown :=
  tick.inputs.elim ⟨0, 0, 0, 0, 0⟩ compute

/-! ### Shares -/

/-- A share whose net rate was loaded. -/
structure Load where
  difficulty : Nat
  credit : Int
  tick : Tick
  /-- A tick had stored its net rate and not yet its fee rate. -/
  halfway : Bool
  /-- The stores of a fee rate since then. -/
  stores : Nat
deriving DecidableEq

/-- A share whose fee rate was loaded too. -/
structure Share extends Load where
  fee : Int
  feeTick : Tick
deriving DecidableEq

structure RateWorld (Thread : Type) where
  pool : World Thread
  cache : RateCache
  netTick : Tick
  feeTick : Tick
  loads : Thread → Option Load
  shares : List Share

variable {Thread Signature : Type}

namespace RateWorld

/-- Nothing published. -/
def fresh (pool : World Thread) : RateWorld Thread where
  pool := pool
  cache := .new
  netTick := ⟨0, none⟩
  feeTick := ⟨0, none⟩
  loads := fun _ => none
  shares := []

/-- Between the two stores of a tick. -/
def halfway (world : RateWorld Thread) : Bool := world.netTick.number ≠ world.feeTick.number

variable [DecidableEq Thread]

/-- `rate.get() * difficulty` of `thread`. -/
def loadRate (world : RateWorld Thread) (thread : Thread) (difficulty : Nat) :
    RateWorld Thread × Int :=
  let credit := castI64 (world.cache.get * difficulty)
  ({ world with loads := Function.update world.loads thread (some {
      difficulty, credit, tick := world.netTick, halfway := world.halfway, stores := 0 }) },
    credit)

omit [DecidableEq Thread] in
/-- `rate.fee_rate() * difficulty` of `thread`. -/
def loadFeeRate (world : RateWorld Thread) (thread : Thread) (difficulty : Nat) :
    RateWorld Thread × Int :=
  let fee := castI64 (world.cache.feeRate * difficulty)
  ({ world with shares := world.shares ++
      (world.loads thread).toList.map fun load => { load with fee, feeTick := world.feeTick } },
    fee)

/-- One command: the two loads read the cache, everything else is as before. -/
def exec (site : Site Signature) (thread : Thread) (world : RateWorld Thread) :
    (command : Command Signature) → Answer Signature →
      Option (RateWorld Thread × Reply command)
  | .credit difficulty, _ => some (world.loadRate thread difficulty)
  | .fee difficulty, _ => some (world.loadFeeRate thread difficulty)
  | command, answer =>
      (Issuance.exec site thread world.pool command answer).map fun done =>
        ({ world with pool := done.1 }, done.2)

end RateWorld

/-! ### Ticks -/

inductive RateEvent (Signature : Type) where
  | pool (event : Event Signature)
  /-- A tick stores its net rate. -/
  | set (inputs : PpsInputs) (nowUnix : Int)
  /-- The tick goes on and stores its fee rate. -/
  | setFeeRate

namespace RateWorld

/-- The next tick begins when the last one is through. -/
def set (world : RateWorld Thread) (inputs : PpsInputs) (nowUnix : Int) : RateWorld Thread :=
  if world.halfway then world
  else
    { world with
      cache := world.cache.set (compute inputs).rate nowUnix
      netTick := ⟨world.netTick.number + 1, some inputs⟩ }

def setFeeRate (world : RateWorld Thread) : RateWorld Thread :=
  if world.halfway then
    { world with
      cache := world.cache.setFeeRate world.netTick.breakdown.feePerDiff
      feeTick := world.netTick
      loads := fun thread => (world.loads thread).map fun load =>
        { load with stores := load.stores + 1 } }
  else world

def occur (site : Site Signature) (world : RateWorld Thread) :
    RateEvent Signature → RateWorld Thread
  | .pool event => { world with pool := world.pool.occur site.ecdsa event }
  | .set inputs nowUnix => world.set inputs nowUnix
  | .setFeeRate => world.setFeeRate

end RateWorld

/-- The issuing services, against the cache. -/
def Deployment.rateMachine [DecidableEq Thread] (deployment : Deployment Thread Signature) :
    Machine Thread (RateWorld Thread) (Command Signature) Reply (Answer Signature)
      (RateEvent Signature) where
  exec := RateWorld.exec deployment.site
  event := RateWorld.occur deployment.site
  abandon := fun thread world => { world with pool := abandon thread world.pool }
  main := deployment.program

end CrFaucet.Issuance
