import CrFaucet.Issuance.Solvency

/-!
Owns what a restore makes of credit that was added after a loss.

A restore merges by maximum while a credit adds. Credit added to the fresh key before
the first restore disappears in the maximum; from then on the key is above the
voucher, restores change nothing and every credit counts.
-/

set_option autoImplicit false

namespace CrFaucet.Issuance

open Interaction
open Redemption (Outcome)
open Token (Address)

variable {Thread Signature : Type}

/-! ### What one command does to the key -/

/-- `bal:earned` of the miner. -/
def World.earnedBy (world : World Thread) (miner : Address) : Int :=
  (world.balances.earned miner).getD 0

section Effects

variable {site : Site Signature} {world : World Thread} {answer : Answer Signature}
  {miner : Address}

/-- Between the two worlds the miner was credited at most: the key grew with the total. -/
structure CreditedOnly (world after : World Thread) (miner : Address) : Prop where
  offset : after.earnedBy miner - after.credited miner =
    world.earnedBy miner - world.credited miner
  grows : world.earnedBy miner ≤ after.earnedBy miner

theorem CreditedOnly.of_same {after : World Thread}
    (earned : after.earnedBy miner = world.earnedBy miner)
    (credited : after.credited miner = world.credited miner) : CreditedOnly world after miner :=
  ⟨by rw [earned, credited], earned.ge⟩

variable [DecidableEq Thread] {thread : Thread} {command : Command Signature}
  {result : World Thread × Reply command} {stage : Stage}

theorem exec_restore {cumulative : Int} {after : World Thread} {reply : Option (Int × Int)}
    (exact : world.balances.Exact miner cumulative) (carriedOut : answer.outcome ≠ .refused)
    (done : exec site thread world (.restoreCumulative miner cumulative) answer =
      some (after, reply)) :
    after.earnedBy miner = max (world.earnedBy miner) cumulative ∧
      after.credited miner = world.credited miner := by
  have merged := Balances.restoreScript_eq site.lua exact.1 exact.2.1 exact.2.2
  cases done
  unfold Outcome.perform World.earnedBy
  cases outcome : answer.outcome with
  | ok | lost => simp [merged]
  | refused => exact absurd outcome carriedOut

theorem exec_creditedOnly (permitted : permits stage command)
    (done : exec site thread world command answer = some result)
    (noRestore : ∀ cumulative, command = .restoreCumulative miner cumulative →
      answer.outcome = .refused) :
    CreditedOnly world result.1 miner := by
  cases command with
  | lock owner =>
      simp only [exec] at done
      split at done
      · cases done
      · cases done
        exact .of_same rfl rfl
  | setLastVoucher user value =>
      cases done
      rcases world.onBalances_cases answer fun balances =>
          (balances.setLastVoucher user value, some ()) with same | done
      · rw [same]
        exact .of_same rfl rfl
      · rw [done]
        exact .of_same rfl rfl
  | restoreCumulative user cumulative =>
      cases done
      by_cases other : user = miner
      · subst other
        have refused := noRestore cumulative rfl
        unfold World.onBalances Outcome.perform
        rw [refused]
        exact .of_same rfl rfl
      · have untouched : ((world.balances.restoreScript site.lua user cumulative).1.earned
            miner) = world.balances.earned miner := Function.update_of_ne (Ne.symm other) ..
        rcases world.onBalances_cases answer
            (·.restoreScript site.lua user cumulative) with same | done
        · rw [same]
          exact .of_same rfl rfl
        · rw [done]
          exact .of_same (congrArg (Option.getD · 0) untouched) rfl
  | sign voucher =>
      cases done
      unfold World.sign
      split <;> exact .of_same rfl rfl
  | addEarned owner deltaAtomic =>
      cases done
      rcases world.addEarned_cases answer owner deltaAtomic with unchanged | ⟨total, sum, added⟩
      · rw [unchanged]
        exact .of_same rfl rfl
      · rw [added]
        by_cases own : owner = miner
        · subst own
          have positive : 0 < deltaAtomic := permitted
          constructor
          · simp only [World.earnedBy, Function.update_self, Option.getD_some]
            omega
          · simp only [World.earnedBy, Function.update_self, Option.getD_some]
            omega
        · refine .of_same ?_ (Function.update_of_ne (Ne.symm own) ..)
          simp only [World.earnedBy, Function.update_of_ne (Ne.symm own)]
  | addFeeAccrued deltaAtomic =>
      cases done
      rcases world.addFeeAccrued_cases answer deltaAtomic with unchanged | ⟨total, sum, added⟩
      · rw [unchanged]
        exact .of_same rfl rfl
      · rw [added]
        exact .of_same rfl rfl
  | _ =>
      cases done
      exact .of_same rfl rfl

end Effects

/-! ### Runs after a loss -/

/-- The miner's key is not lost again. -/
def Event.KeepsKey (miner : Address) : Event Signature → Prop
  | .wipe => False
  | .evictEarned owner => owner ≠ miner
  | _ => True

theorem occur_creditedOnly {site : Site Signature} {world : World Thread} {miner : Address}
    {event : Event Signature} (keeps : event.KeepsKey miner) :
    CreditedOnly world (world.occur site.ecdsa event) miner := by
  cases event with
  | evictEarned owner =>
      refine .of_same ?_ rfl
      exact congrArg (Option.getD · 0) (Function.update_of_ne (Ne.symm keeps) ..)
  | evictLastVoucher owner => exact .of_same rfl rfl
  | wipe => exact keeps.elim
  | l2 sender call => exact .of_same rfl rfl

section Runs

variable [DecidableEq Thread] (deployment : Deployment Thread Signature) (miner : Address)

/-- The state of the system. -/
abbrev IssuancePool (Thread Signature : Type) :=
  Pool Thread (World Thread) (Command Signature) Reply Stage

/-- The amount of the miner that an action restores, if it carries out a restore. -/
def restored? (pool : IssuancePool Thread Signature) :
    Action Thread (Answer Signature) (Event Signature) → Option Int
  | .step thread answer =>
      match pool.code thread with
      | .ask (.restoreCumulative owner amount) _ =>
          if owner = miner ∧ answer.outcome ≠ .refused then some amount else none
      | _ => none
  | _ => none

def KeepsKey : Action Thread (Answer Signature) (Event Signature) → Prop
  | .event event => event.KeepsKey miner
  | _ => True

/-- Restores of the miner are restores of one voucher, and the amounts are small enough
for Lua. -/
def RestoresOnly (voucher : Int) (pool : IssuancePool Thread Signature)
    (action : Action Thread (Answer Signature) (Event Signature)) : Prop :=
  ∀ amount ∈ restored? miner pool action,
    amount = voucher ∧ pool.world.balances.Exact miner amount

def AfterLoss (voucher : Int) (pool : IssuancePool Thread Signature)
    (action : Action Thread (Answer Signature) (Event Signature)) : Prop :=
  KeepsKey miner action ∧ RestoresOnly miner voucher pool action

instance : ∀ action : Action Thread (Answer Signature) (Event Signature),
    Decidable (KeepsKey miner action) := by
  intro action
  cases action with
  | event event =>
      cases event with
      | wipe => exact isFalse id
      | evictEarned owner => exact inferInstanceAs (Decidable (owner ≠ miner))
      | _ => exact isTrue trivial
  | _ => exact isTrue trivial

instance (voucher : Int) (pool : IssuancePool Thread Signature)
    (action : Action Thread (Answer Signature) (Event Signature)) :
    Decidable (AfterLoss miner voucher pool action) :=
  inferInstanceAs (Decidable (KeepsKey miner action ∧ ∀ amount ∈ restored? miner pool action, _))

variable {deployment miner}

omit [DecidableEq Thread] in
theorem restored?_step {pool : IssuancePool Thread Signature} {thread : Thread}
    {answer : Answer Signature} {amount : Int}
    {next : Reply (.restoreCumulative miner amount) → Service Signature Unit}
    (code : pool.code thread = .ask (.restoreCumulative miner amount) next)
    (carriedOut : answer.outcome ≠ .refused) :
    restored? miner pool (.step thread answer) = some amount := by
  simp [restored?, code, carriedOut]

omit [DecidableEq Thread] in
theorem restored?_eq_some {pool : IssuancePool Thread Signature}
    {action : Action Thread (Answer Signature) (Event Signature)} {amount : Int}
    (restores : restored? miner pool action = some amount) :
    ∃ thread answer next, action = .step thread answer ∧ answer.outcome ≠ .refused ∧
      pool.code thread = .ask (.restoreCumulative miner amount) next := by
  cases action with
  | step thread answer =>
      simp only [restored?] at restores
      split at restores
      · rename_i owner asked next code
        rw [Option.ite_none_right_eq_some, Option.some.injEq] at restores
        obtain ⟨⟨rfl, carriedOut⟩, rfl⟩ := restores
        exact ⟨thread, answer, next, rfl, carriedOut, code⟩
      · cases restores
  | restart thread => cases restores
  | event event => cases restores

theorem creditedOnly_of_unrestored {pool : IssuancePool Thread Signature} {thread : Thread}
    {answer : Answer Signature} {command : Command Signature}
    {next : Reply command → Service Signature Unit} {world : World Thread}
    {reply : Reply command} (code : pool.code thread = .ask command next)
    (permitted : deployment.discipline.permits (pool.stage thread) command)
    (answered : deployment.machine.exec thread pool.world command answer = some (world, reply))
    (unrestored : restored? miner pool (.step thread answer) = none) :
    CreditedOnly pool.world world miner := by
  apply exec_creditedOnly permitted answered
  rintro cumulative rfl
  by_contra carriedOut
  rw [restored?_step code carriedOut] at unrestored
  cases unrestored

/-- While nothing is restored, the key and the total grow together. -/
theorem unrestored_invariant (offset : Int) :
    Invariant deployment.machine deployment.discipline
      (fun pool action => KeepsKey miner action ∧ restored? miner pool action = none)
      fun world _ => 0 ≤ world.earnedBy miner ∧
        world.earnedBy miner - world.credited miner = offset where
  step pool thread answer command next world reply code permitted answered meets now := by
    have effect : CreditedOnly pool.world world miner :=
      creditedOnly_of_unrestored code permitted answered meets.2
    exact ⟨now.1.trans effect.grows, effect.offset.trans now.2⟩
  restart _ _ _ now := now
  event pool event meets now := by
    have effect : CreditedOnly pool.world (deployment.machine.event pool.world event) miner :=
      occur_creditedOnly meets.1
    exact ⟨now.1.trans effect.grows, effect.offset.trans now.2⟩

/-- Once the key is above the voucher, restoring it changes nothing. -/
theorem restored_invariant (voucher offset : Int) :
    Invariant deployment.machine deployment.discipline (AfterLoss miner voucher)
      fun world _ => voucher ≤ world.earnedBy miner ∧
        world.earnedBy miner - world.credited miner = offset where
  step pool thread answer command next world reply code permitted answered meets now := by
    obtain ⟨above, now⟩ := now
    cases restores : restored? miner pool (.step thread answer) with
    | some amount =>
      obtain ⟨rfl, exact⟩ := meets.2 amount restores
      obtain ⟨_, _, next', same, carriedOut, asked⟩ := restored?_eq_some restores
      cases same
      rw [code] at asked
      cases asked
      have answered : exec deployment.site thread pool.world (.restoreCumulative miner amount)
          answer = some (world, reply) := answered
      obtain ⟨merged, total⟩ := exec_restore exact carriedOut answered
      rw [max_eq_left above] at merged
      exact ⟨above.trans merged.ge, by rw [merged, total]; exact now⟩
    | none =>
      have effect : CreditedOnly pool.world world miner :=
        creditedOnly_of_unrestored code permitted answered restores
      exact ⟨above.trans effect.grows, effect.offset.trans now⟩
  restart _ _ _ now := now
  event pool event meets now := by
    have effect : CreditedOnly pool.world (deployment.machine.event pool.world event) miner :=
      occur_creditedOnly meets.1
    exact ⟨now.1.trans effect.grows, effect.offset.trans now.2⟩

/-- The step that restores first: the key is the maximum of what it held and the voucher. -/
theorem first_restore {pool : IssuancePool Thread Signature} {voucher : Int}
    {action : Action Thread (Answer Signature) (Event Signature)}
    (disciplined : pool.Disciplined deployment.discipline)
    (restores : restored? miner pool action = some voucher)
    (exact : pool.world.balances.Exact miner voucher) :
    0 < voucher ∧
      (pool.move deployment.machine deployment.discipline action).world.earnedBy miner =
        max (pool.world.earnedBy miner) voucher ∧
      (pool.move deployment.machine deployment.discipline action).world.credited miner =
        pool.world.credited miner := by
  obtain ⟨thread, answer, next, rfl, carriedOut, asked⟩ := restored?_eq_some restores
  have obeys := disciplined thread
  rw [asked] at obeys
  have positive : 0 < voucher := obeys.1.1
  let after := pool.world.onBalances answer
    (·.restoreScript deployment.site.lua miner voucher)
  have answered : exec deployment.site thread pool.world (.restoreCumulative miner voucher)
      answer = some (after.1, after.2) := rfl
  have moved : (pool.move deployment.machine deployment.discipline
      (.step thread answer)).world = after.1 := by
    simp only [Pool.move, asked]
    rfl
  rw [moved]
  exact ⟨positive, exec_restore exact carriedOut answered⟩

/-- The state after a run of the whole system. -/
def Deployment.reach (deployment : Deployment Thread Signature) (world : World Thread)
    (actions : List (Action Thread (Answer Signature) (Event Signature))) :
    IssuancePool Thread Signature :=
  run (Pool.move deployment.machine deployment.discipline)
    (Pool.initial deployment.machine deployment.discipline world) actions

/-- **A restore costs no credit exactly when it comes first.** The key is lost after
`history` and first restored by `first`. However credits and restores of the voucher
follow each other, the key ends up at the voucher and all credit since the loss if and
only if none was added between the loss and the first restore. -/
theorem restore_keeps_credit_iff (world : World Thread)
    (history before after : List (Action Thread (Answer Signature) (Event Signature)))
    (first : Action Thread (Answer Signature) (Event Signature)) (voucher : Int)
    (lost : (deployment.reach world history).world.balances.earned miner = none)
    (along : Along (Pool.move deployment.machine deployment.discipline)
      (AfterLoss miner voucher) (deployment.reach world history) (before ++ first :: after))
    (unrestored : Along (Pool.move deployment.machine deployment.discipline)
      (fun pool action => restored? miner pool action = none)
      (deployment.reach world history) before)
    (restores : restored? miner (deployment.reach world (history ++ before)) first =
      some voucher) :
    (deployment.reach world (history ++ (before ++ first :: after))).world.earnedBy miner =
        voucher +
          ((deployment.reach world (history ++ (before ++ first :: after))).world.credited miner -
            (deployment.reach world history).world.credited miner : Int) ↔
      (deployment.reach world (history ++ before)).world.credited miner =
        (deployment.reach world history).world.credited miner := by
  set lostAt := deployment.reach world history with lostAt_eq
  have disciplined : lostAt.Disciplined deployment.discipline :=
    (Pool.initial_disciplined world deployment.obeys).run deployment.obeys history
  have beforeRun : deployment.reach world (history ++ before) =
      run (Pool.move deployment.machine deployment.discipline) lostAt before := run_append ..
  have wholeRun : deployment.reach world (history ++ (before ++ first :: after)) =
      run (Pool.move deployment.machine deployment.discipline)
        ((run (Pool.move deployment.machine deployment.discipline) lostAt before).move
          deployment.machine deployment.discipline first) after := by
    rw [Deployment.reach, run_append, run_append]
    rfl
  rw [beforeRun] at restores ⊢
  rw [wholeRun]
  set reached := run (Pool.move deployment.machine deployment.discipline) lostAt before
  obtain ⟨alongBefore, meetsFirst, alongAfter⟩ := Along.append.mp along
  -- Up to the first restore the key holds exactly the credit since the loss.
  have nothing : lostAt.world.earnedBy miner = 0 := by
    rw [World.earnedBy, lost]
    rfl
  have held : 0 ≤ reached.world.earnedBy miner ∧
      reached.world.earnedBy miner - reached.world.credited miner =
        -(lostAt.world.credited miner : Int) :=
    (unrestored_invariant _).run deployment.obeys disciplined
      ((alongBefore.weaken fun _ _ meets => meets.1).and unrestored)
      (by rw [nothing]; omega)
  -- The first restore takes the maximum, and what it leaves is above the voucher.
  have reachedDisciplined : reached.Disciplined deployment.discipline :=
    disciplined.run deployment.obeys before
  obtain ⟨_, exact⟩ := meetsFirst.2 voucher restores
  obtain ⟨positive, merged, total⟩ := first_restore reachedDisciplined restores exact
  obtain ⟨_, final⟩ := (restored_invariant voucher
    (max (reached.world.earnedBy miner) voucher - reached.world.credited miner)).run
    deployment.obeys (reachedDisciplined.move deployment.obeys first) alongAfter
    ⟨merged ▸ le_max_right _ _, by rw [merged, total]⟩
  omega

end Runs

/-! ### Mining on before restoring -/

inductive MinerThread where
  | share
  | request
  | restore
deriving DecidableEq

/-- Miner 1 submits shares, asks for a voucher of everything, and later restores the one
of 100. A signature is its signer. -/
def oneMiner : Deployment MinerThread Address where
  site := {
    lua := .unbounded
    ecdsa := { voucher := fun _ sig => some sig, permit := fun _ sig => some sig }
    feeSwapper := 50
    app := 51
    pair := 52 }
  signer := 9
  feeSwap := {
    rentFloorWei := none
    minSwapAtomic := 0
    maxSwapAtomic := 0
    slippageBps := 0
    minSwapGasMultiple := 0 }
  mintableFee := fun _ _ _ => 0
  role
    | .share => .credit 1 1000
    | .request => .issue 1 none
    | .restore => .restore 1 100 5 9

abbrev MinerAction := Action MinerThread (Answer Address) (Event Address)

/-- A share that is worth `amount`. -/
def shareOf (amount : Int) : List MinerAction :=
  .restart .share :: List.replicate 3 (.step .share { credit := amount })

/-- All of 100 is earned and covered by a voucher; then Redis loses its keys. -/
def coveredAndLost : List MinerAction :=
  shareOf 100 ++ List.replicate 7 (.step .request { time := 5, signature := some 9 }) ++
    [.event .wipe]

def restoreAsked : List MinerAction := List.replicate 2 (.step .restore {})

def genesisWorld : World MinerThread := .genesis (Token.deployed 7 9 0)

theorem restore_keeps_credit_iff_first :
    (oneMiner.reach genesisWorld
      (coveredAndLost ++ (restoreAsked ++ .step .restore {} :: shareOf 40))).world.earnedBy 1 =
      100 + 40 := by
  have lost : (oneMiner.reach genesisWorld coveredAndLost).world.balances.earned 1 = none := by
    decide +kernel
  have along : Along (Pool.move oneMiner.machine oneMiner.discipline) (AfterLoss 1 100)
      (oneMiner.reach genesisWorld coveredAndLost)
      (restoreAsked ++ .step .restore {} :: shareOf 40) := by
    decide +kernel
  have unrestored : Along (Pool.move oneMiner.machine oneMiner.discipline)
      (fun pool action => restored? 1 pool action = none)
      (oneMiner.reach genesisWorld coveredAndLost) restoreAsked := by
    decide +kernel
  have restores : restored? 1 (oneMiner.reach genesisWorld (coveredAndLost ++ restoreAsked))
      (.step .restore {}) = some 100 := by
    decide +kernel
  have credited : (oneMiner.reach genesisWorld
      (coveredAndLost ++ (restoreAsked ++ .step .restore {} :: shareOf 40))).world.credited 1 =
      140 := by
    decide +kernel
  have creditedBefore : (oneMiner.reach genesisWorld coveredAndLost).world.credited 1 = 100 := by
    decide +kernel
  have whole := (restore_keeps_credit_iff genesisWorld coveredAndLost restoreAsked (shareOf 40)
    (.step .restore {}) 100 lost along unrestored restores).mpr (by decide +kernel)
  rw [credited, creditedBefore] at whole
  exact whole

/-- A share of 40 is credited between the loss and the restore: it is swallowed. -/
theorem restore_swallows_credit :
    (oneMiner.reach genesisWorld coveredAndLost).world.balances.earned 1 = none ∧
    Along (Pool.move oneMiner.machine oneMiner.discipline) (AfterLoss 1 100)
      (oneMiner.reach genesisWorld coveredAndLost)
      (shareOf 40 ++ restoreAsked ++ [.step .restore {}]) ∧
    (oneMiner.reach genesisWorld
      (coveredAndLost ++ (shareOf 40 ++ restoreAsked ++ [.step .restore {}]))).world.credited 1 =
        (oneMiner.reach genesisWorld coveredAndLost).world.credited 1 + 40 ∧
    (oneMiner.reach genesisWorld
      (coveredAndLost ++ (shareOf 40 ++ restoreAsked ++ [.step .restore {}]))).world.earnedBy 1 =
        100 := by
  decide +kernel

end CrFaucet.Issuance
