import CrFaucet.Issuance.Rates

/-!
Owns when the credit and the fee of a share come from one tick.

The accountant loads the net rate, goes to Redis, and then loads the fee rate. The two
come from one tick exactly when no tick stores its fee rate in between, apart from the
one that had already stored its net rate. Then credit and fee together stay within
what the share earned; otherwise they need not.
-/

set_option autoImplicit false

namespace CrFaucet.Issuance

open Interaction
open Token (Address)

variable {Thread Signature : Type}

/-! ### A fee is loaded after its credit -/

/-- The difficulty of the share whose net rate was loaded. -/
def loadsDiscipline : Discipline (Command Signature) Reply (Option Nat) where
  start := none
  permits
    | stage, .fee difficulty => stage = some difficulty
    | _, _ => True
  after
    | _, .credit difficulty, _ => some difficulty
    | stage, _, _ => stage

theorem credit_loads (miner : Address) (difficulty : Nat) (stage : Option Nat) :
    (credit miner difficulty : Service Signature _).Obeys loadsDiscipline stage
      fun _ _ => True := by
  apply obeys_call trivial
  intro credit
  dsimp only
  split
  · trivial
  · split
    · trivial
    · apply obeys_call trivial
      intro reply
      cases reply with
      | none => trivial
      | some _ =>
          apply obeys_call rfl
          intro fee
          split
          · apply obeys_call trivial
            intro reply
            cases reply with
            | none => trivial
            | some _ => trivial
          · trivial

theorem asks_loads {Result : Type} {allowed : Command Signature → Prop}
    {program : Service Signature Result} (asks : program.Asks allowed)
    (loadsNone : ∀ difficulty, ¬ allowed (.fee difficulty)) (stage : Option Nat) :
    program.Obeys loadsDiscipline stage fun _ _ => True := by
  apply asks.obeys
  · intro stage command _ may
    cases command with
    | fee difficulty => exact absurd may (loadsNone difficulty)
    | _ => trivial
  · intro _ _ _ _ _
    trivial
  · trivial

theorem Deployment.loads [DecidableEq Thread] (deployment : Deployment Thread Signature)
    (thread : Thread) :
    (deployment.rateMachine.main thread).Obeys loadsDiscipline none fun _ _ => True := by
  have asks := deployment.asks thread
  change (deployment.program thread).Obeys _ _ _
  cases role : deployment.role thread with
  | credit miner difficulty =>
      rw [Deployment.program, role]
      exact (credit_loads miner difficulty none).bind fun _ _ _ => trivial
  | _ =>
      rw [role] at asks
      exact asks_loads asks (fun _ sends => sends) none

/-! ### What the ghosts say -/

/-- The fee stores that have to follow a load: one if a tick was halfway. -/
def Load.owed (load : Load) : Nat := if load.halfway then 1 else 0

/-- A load names the tick its credit comes from, and keeps count of the stores. -/
structure Load.Sound (load : Load) (netTick feeTick : Tick) : Prop where
  credit : load.credit = castI64 (load.tick.breakdown.rate * load.difficulty)
  counted : feeTick.number + load.owed = load.tick.number + load.stores
  past : load.tick.number ≤ netTick.number
  net : load.tick.number = netTick.number → load.tick = netTick
  fee : load.tick.number = feeTick.number → load.tick = feeTick

/-- What is known about a share once both halves are loaded. -/
structure Share.Sound (share : Share) : Prop where
  credit : share.credit = castI64 (share.tick.breakdown.rate * share.difficulty)
  fee : share.fee = castI64 (share.feeTick.breakdown.feePerDiff * share.difficulty)
  oneTick : share.tick = share.feeTick ↔ share.stores = share.owed

structure RateWorld.Sound (world : RateWorld Thread) : Prop where
  bits : world.cache.bits = world.netTick.breakdown.rate
  feeBits : world.cache.feeBits = world.feeTick.breakdown.feePerDiff
  inOrder : world.netTick = world.feeTick ∨ world.netTick.number = world.feeTick.number + 1
  loads : ∀ thread load, world.loads thread = some load →
    load.Sound world.netTick world.feeTick
  shares : ∀ share ∈ world.shares, share.Sound

/-- A thread that has loaded the net rate of a share has it in its ghost. -/
def Loaded (world : RateWorld Thread) (stage : Thread → Option Nat) : Prop :=
  ∀ thread difficulty, stage thread = some difficulty →
    ∃ load, world.loads thread = some load ∧ load.difficulty = difficulty

namespace RateWorld.Sound

variable {world : RateWorld Thread} (sound : world.Sound)

include sound

theorem halfway_iff : world.halfway = true ↔ world.netTick.number = world.feeTick.number + 1 := by
  unfold halfway
  rw [decide_eq_true_eq]
  rcases sound.inOrder with same | next
  · rw [same]
    omega
  · omega

theorem fresh_load (difficulty : Nat) :
    Load.Sound {
        difficulty := difficulty
        credit := castI64 (world.cache.get * difficulty)
        tick := world.netTick
        halfway := world.halfway
        stores := 0 }
      world.netTick world.feeTick := by
  have halfway := sound.halfway_iff
  refine ⟨?_, ?_, le_rfl, fun _ => rfl, ?_⟩
  · rw [RateCache.get, sound.bits]
  · rcases sound.inOrder with same | next
    · have through : world.halfway = false := by
        rw [Bool.eq_false_iff, Ne, halfway, same]
        omega
      simp [Load.owed, through, same]
    · simp [Load.owed, halfway.mpr next, next]
  · intro numbers
    rcases sound.inOrder with same | next
    · exact same
    · dsimp only at numbers
      omega

theorem loadRate [DecidableEq Thread] (thread : Thread) (difficulty : Nat) :
    (world.loadRate thread difficulty).1.Sound := by
  refine ⟨sound.bits, sound.feeBits, sound.inOrder, ?_, sound.shares⟩
  intro other load found
  by_cases same : other = thread
  · subst same
    simp only [RateWorld.loadRate, Function.update_self, Option.some.injEq] at found
    exact found ▸ sound.fresh_load difficulty
  · simp only [RateWorld.loadRate, Function.update_of_ne same] at found
    exact sound.loads other load found

/-- The two halves come from one tick exactly when every owed store, and no other,
came in between. -/
theorem share_sound {thread : Thread} {load : Load} (found : world.loads thread = some load) :
    Share.Sound { load with
      fee := castI64 (world.cache.feeRate * load.difficulty), feeTick := world.feeTick } := by
  have loaded := sound.loads thread load found
  have counted := loaded.counted
  refine ⟨loaded.credit, by rw [RateCache.feeRate, sound.feeBits], ?_, ?_⟩
  · intro same
    have numbers : load.tick.number = world.feeTick.number := congrArg Tick.number same
    change load.stores = load.owed
    omega
  · intro stores
    apply loaded.fee
    change load.stores = load.owed at stores
    omega

theorem loadFeeRate {thread : Thread} {load : Load} (found : world.loads thread = some load) :
    (world.loadFeeRate thread load.difficulty).1.Sound := by
  refine ⟨sound.bits, sound.feeBits, sound.inOrder, sound.loads, ?_⟩
  intro share member
  simp only [RateWorld.loadFeeRate, found, Option.toList_some, List.map_cons, List.map_nil,
    List.mem_append, List.mem_singleton] at member
  rcases member with earlier | new
  · exact sound.shares share earlier
  · subst new
    exact sound.share_sound found

theorem set (inputs : PpsInputs) (nowUnix : Int) : (world.set inputs nowUnix).Sound := by
  unfold RateWorld.set
  split
  · exact sound
  · rename_i through
    have same : world.netTick = world.feeTick := by
      rcases sound.inOrder with same | next
      · exact same
      · exact absurd (sound.halfway_iff.mpr next) through
    refine ⟨rfl, sound.feeBits, Or.inr (by simp [same]), ?_, sound.shares⟩
    intro thread load found
    have loaded := sound.loads thread load found
    have past := loaded.past
    refine ⟨loaded.credit, loaded.counted, Nat.le_succ_of_le past, ?_, loaded.fee⟩
    intro numbers
    dsimp only at numbers
    omega

theorem setFeeRate : world.setFeeRate.Sound := by
  unfold RateWorld.setFeeRate
  split
  · rename_i halfway
    have next := sound.halfway_iff.mp halfway
    refine ⟨sound.bits, rfl, Or.inl rfl, ?_, sound.shares⟩
    intro thread load found
    simp only [Option.map_eq_some_iff] at found
    obtain ⟨load, found, rfl⟩ := found
    have loaded := sound.loads thread load found
    have counted := loaded.counted
    refine ⟨loaded.credit, ?_, loaded.past, loaded.net, loaded.net⟩
    change world.netTick.number + load.owed = load.tick.number + (load.stores + 1)
    omega
  · exact sound

end RateWorld.Sound

/-! ### Every run -/

section Runs

variable [DecidableEq Thread] (deployment : Deployment Thread Signature)

theorem rate_invariant :
    Invariant deployment.rateMachine loadsDiscipline (fun _ _ => True)
      fun world stage => world.Sound ∧ Loaded world stage where
  step pool thread answer command next world reply _ permitted answered _ now := by
    obtain ⟨sound, loaded⟩ := now
    have unmoved : Loaded pool.world
        (Function.update pool.stage thread (pool.stage thread)) := by
      rwa [Function.update_eq_self]
    change RateWorld.exec deployment.site thread pool.world command answer =
      some (world, reply) at answered
    cases command with
    | credit difficulty =>
        cases answered
        refine ⟨sound.loadRate thread difficulty, ?_⟩
        intro other known stage
        by_cases same : other = thread
        · subst same
          simp only [loadsDiscipline, Function.update_self, Option.some.injEq] at stage
          exact ⟨_, Function.update_self .., stage⟩
        · rw [Function.update_of_ne same] at stage
          obtain ⟨load, found, shown⟩ := loaded other known stage
          exact ⟨load, by simp only [Function.update_of_ne same, found], shown⟩
    | fee difficulty =>
        cases answered
        obtain ⟨load, found, rfl⟩ := loaded thread difficulty permitted
        exact ⟨sound.loadFeeRate found, unmoved⟩
    | _ =>
        simp only [RateWorld.exec, Option.map_eq_some_iff] at answered
        obtain ⟨done, _, same⟩ := answered
        cases same
        exact ⟨⟨sound.bits, sound.feeBits, sound.inOrder, sound.loads, sound.shares⟩, unmoved⟩
  restart pool thread _ now := by
    obtain ⟨sound, loaded⟩ := now
    refine ⟨⟨sound.bits, sound.feeBits, sound.inOrder, sound.loads, sound.shares⟩, ?_⟩
    intro other difficulty stage
    by_cases same : other = thread
    · subst same
      simp [loadsDiscipline] at stage
    · rw [Function.update_of_ne same] at stage
      exact loaded other difficulty stage
  event pool event _ now := by
    obtain ⟨sound, loaded⟩ := now
    cases event with
    | pool event =>
        exact ⟨⟨sound.bits, sound.feeBits, sound.inOrder, sound.loads, sound.shares⟩, loaded⟩
    | set inputs nowUnix =>
        refine ⟨sound.set inputs nowUnix, ?_⟩
        change Loaded (pool.world.set inputs nowUnix) pool.stage
        unfold RateWorld.set
        split
        · exact loaded
        · exact loaded
    | setFeeRate =>
        refine ⟨sound.setFeeRate, ?_⟩
        change Loaded pool.world.setFeeRate pool.stage
        unfold RateWorld.setFeeRate
        split
        · intro thread difficulty stage
          obtain ⟨load, found, same⟩ := loaded thread difficulty stage
          exact ⟨{ load with stores := load.stores + 1 }, by simp [found], same⟩
        · exact loaded

/-- The inputs of the tick are as documented; the initial zeros are. -/
def Tick.Documented (tick : Tick) : Prop := ∀ inputs ∈ tick.inputs, inputs.Documented

theorem Tick.Documented.covered {tick : Tick} (documented : tick.Documented) :
    tick.breakdown.Covered := by
  unfold Tick.breakdown
  cases inputs : tick.inputs with
  | none => exact ⟨le_rfl, le_rfl, by simp⟩
  | some inputs' => exact (documented inputs' inputs).covered

/-- Credit and fee from one tick stay within what the share earned. -/
theorem Share.Sound.within {share : Share} (sound : share.Sound)
    (same : share.tick = share.feeTick) (documented : share.tick.Documented) :
    (share.credit + share.fee : ℚ) ≤ share.difficulty * share.tick.breakdown.rawPerDiff := by
  obtain ⟨rate, fee, both⟩ := documented.covered
  have difficulty : (0 : ℚ) ≤ share.difficulty := Nat.cast_nonneg _
  have credited : (share.credit : ℚ) ≤ share.tick.breakdown.rate * share.difficulty := by
    rw [sound.credit]
    exact castI64_le (mul_nonneg rate difficulty)
  have accrued : (share.fee : ℚ) ≤ share.tick.breakdown.feePerDiff * share.difficulty := by
    rw [sound.fee, ← same]
    exact castI64_le (mul_nonneg fee difficulty)
  calc (share.credit + share.fee : ℚ)
      ≤ share.tick.breakdown.rate * share.difficulty +
          share.tick.breakdown.feePerDiff * share.difficulty := add_le_add credited accrued
    _ = (share.tick.breakdown.rate + share.tick.breakdown.feePerDiff) * share.difficulty :=
        (add_mul ..).symm
    _ ≤ share.tick.breakdown.rawPerDiff * share.difficulty :=
        mul_le_mul_of_nonneg_right both difficulty
    _ = share.difficulty * share.tick.breakdown.rawPerDiff := mul_comm _ _

/-- **Credit and fee of a share come from one tick exactly when** the fee rates stored
between its two loads are the one of a tick that was halfway at the first load, or none
if no tick was. Then they do not exceed what the share earned at that tick. -/
theorem credit_and_fee_from_one_tick_iff (pool : World Thread)
    (actions : List (Action Thread (Answer Signature) (RateEvent Signature))) (share : Share)
    (credited : share ∈ (run (Pool.move deployment.rateMachine loadsDiscipline)
      (Pool.initial deployment.rateMachine loadsDiscipline (.fresh pool)) actions).world.shares) :
    share.credit = castI64 (share.tick.breakdown.rate * share.difficulty) ∧
    share.fee = castI64 (share.feeTick.breakdown.feePerDiff * share.difficulty) ∧
    (share.tick = share.feeTick ↔ share.stores = if share.halfway then 1 else 0) ∧
    (share.tick = share.feeTick → share.tick.Documented →
      (share.credit + share.fee : ℚ) ≤ share.difficulty * share.tick.breakdown.rawPerDiff) := by
  have initially : (RateWorld.fresh pool).Sound ∧
      Loaded (RateWorld.fresh pool) fun _ => none := by
    refine ⟨⟨rfl, rfl, Or.inl rfl, fun _ _ found => ?_, fun _ member => ?_⟩,
      fun _ _ stage => ?_⟩
    · cases found
    · cases member
    · cases stage
  have along : Along (Pool.move deployment.rateMachine loadsDiscipline) (fun _ _ => True)
      (Pool.initial deployment.rateMachine loadsDiscipline (.fresh pool)) actions :=
    Along.of_forall_mem _ fun _ _ => trivial
  obtain ⟨sound, _⟩ := (rate_invariant deployment).run deployment.loads
    (Pool.initial_disciplined _ deployment.loads) along initially
  have shown := sound.shares share credited
  exact ⟨shown.credit, shown.fee, shown.oneTick, shown.within⟩

end Runs

/-! ### Two ticks in one share -/

def oneShare : Deployment Unit Unit where
  site := {
    lua := .unbounded
    ecdsa := { voucher := fun _ _ => none, permit := fun _ _ => none }
    feeSwapper := 50
    app := 51
    pair := 52 }
  signer := 9
  feeSwap := {
    rentFloorWei := none
    minSwapAtomic := 0
    maxSwapAtomic := 0
    slippageBps := 0
    minSwapGasMultiple := 0 }
  mintableFee := fun _ _ _ => 0
  role := fun _ => .credit 1 1000

/-- A raw rate of 2 per unit of difficulty. -/
def inputsAt (poolFee : ℚ) : PpsInputs where
  blockRewardAtomic := 600
  networkDifficulty := 300
  upstreamFee := 0
  poolFee := poolFee
  riskBuffer := 0
  operationalCostAtomicPerSecond := 0
  poolHashrate := 1

/-- A tick from its first to its second store. -/
def publish (poolFee : ℚ) : List (Action Unit (Answer Unit) (RateEvent Unit)) :=
  [.event (.set (inputsAt poolFee) 0), .event .setFeeRate]

def creditMiner : List (Action Unit (Answer Unit) (RateEvent Unit)) :=
  [.step () {}, .step () {}]

def loadFee : List (Action Unit (Answer Unit) (RateEvent Unit)) := [.step () {}]

def sharesAfter (actions : List (Action Unit (Answer Unit) (RateEvent Unit))) : List Share :=
  (run (Pool.move oneShare.rateMachine loadsDiscipline)
    (Pool.initial oneShare.rateMachine loadsDiscipline
      (.fresh (.genesis (Token.deployed 7 9 0)))) actions).world.shares

/-- The net rate is loaded between the two stores of a tick, the fee rate after them. -/
def halfwayRun : List (Action Unit (Answer Unit) (RateEvent Unit)) :=
  [.event (.set (inputsAt (1 / 2)) 0)] ++ creditMiner ++ [.event .setFeeRate] ++ loadFee

def halfwayShare : Share where
  difficulty := 1000
  credit := 1000
  tick := ⟨1, some (inputsAt (1 / 2))⟩
  halfway := true
  stores := 1
  fee := 1000
  feeTick := ⟨1, some (inputsAt (1 / 2))⟩

theorem credit_and_fee_from_one_tick_iff_halfway :
    halfwayShare ∈ sharesAfter halfwayRun ∧ halfwayShare.tick = halfwayShare.feeTick ∧
      (halfwayShare.credit + halfwayShare.fee : ℚ) ≤
        halfwayShare.difficulty * halfwayShare.tick.breakdown.rawPerDiff := by
  have credited : halfwayShare ∈ sharesAfter halfwayRun := by decide +kernel
  have documented : halfwayShare.tick.Documented := by
    intro inputs used
    obtain rfl : inputsAt (1 / 2) = inputs := Option.some.inj used
    exact ⟨by decide +kernel, by decide +kernel, by decide +kernel, le_rfl, le_rfl⟩
  obtain ⟨_, _, oneTick, within⟩ := credit_and_fee_from_one_tick_iff oneShare
    (.genesis (Token.deployed 7 9 0)) halfwayRun halfwayShare credited
  have same := oneTick.mpr rfl
  exact ⟨credited, same, within same documented⟩

/-- The pool fee rises to one half between the two loads: the miner is credited all
that the share earned, and half of it again accrues as fee. -/
theorem credit_and_fee_exceed_raw : ∃ share ∈
    sharesAfter (publish 0 ++ creditMiner ++ publish (1 / 2) ++ loadFee),
      share.tick ≠ share.feeTick ∧
      (share.difficulty * share.tick.breakdown.rawPerDiff : ℚ) < share.credit + share.fee ∧
      (share.difficulty * share.feeTick.breakdown.rawPerDiff : ℚ) < share.credit + share.fee := by
  decide +kernel

end CrFaucet.Issuance
