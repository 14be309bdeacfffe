import CrFaucet.Instances.Fleet

/-!
Owns the promise of strict counting: of the instances whose registrations are live, at
most one has got past the guard.

The fleet refines a census: registering is joining, and an instance passes at the moment
its query is evaluated with nobody else registered, long before it reads the answer.
-/

set_option autoImplicit false

namespace CrFaucet.Instances

open Interaction

/-! ### Past the guard -/

/-- It has returned, or its answer will let it return. -/
def Phase.Passed : Phase → Prop
  | .returned => True
  | .asked _ registrations => ∃ nodes, liveNodeIds registrations = some nodes ∧ nodes.length ≤ 1
  | _ => False

section Guard

variable {cfg : SingleActiveConfig} {phase : Phase} {happening : Happening}

theorem poll_passed (counting : cfg.nodeAware = false) {errors : Nat} {nodes : Option (List Value)}
    (few : nodes = none → errors + 1 < maxErrors) (passed : (Phase.poll cfg errors nodes).Passed) :
    ∃ ids, nodes = some ids ∧ ids.length ≤ 1 := by
  cases nodes with
  | none =>
      simp only [Phase.poll, if_neg (Nat.not_le.mpr (few rfl))] at passed
      exact False.elim passed
  | some ids =>
      simp only [Phase.poll, counting] at passed
      cases decision : decide ids false with
      | proceed => exact ⟨ids, rfl, decide_strict_eq_proceed.mp decision⟩
      | standDown reason =>
          rw [decision] at passed
          exact False.elim passed
      | skipped reason => exact absurd decision (decide_ne_skipped ids false reason)

theorem not_passed_poll_none (counting : cfg.nodeAware = false) {errors : Nat}
    (few : errors + 1 < maxErrors) : ¬(Phase.poll cfg errors none).Passed := by
  intro passed
  obtain ⟨ids, wrong, _⟩ := poll_passed counting (fun _ => few) passed
  cases wrong

/-- **Where a pass comes from.** Only the evaluation of a query makes one. -/
theorem next_passed (enabled : cfg.enabled = true) (counting : cfg.nodeAware = false)
    (few : phase.outcome happening = some false → phase.errors + 1 < maxErrors)
    (passed : (phase.next cfg true happening).Passed) :
    phase.Passed ∨ ∃ registrations, happening = .query registrations ∧
      (Phase.asked phase.errors registrations).Passed := by
  cases phase with
  | booting =>
      cases happening with
      | start =>
          simp [Phase.next, Phase.enter, enabled, Phase.Passed] at passed
      | wake | query _ | answer | fail => exact Or.inl passed
  | sleeping secs errors =>
      cases happening with
      | wake => exact False.elim passed
      | start | query _ | answer | fail => exact Or.inl passed
  | asking errors =>
      cases happening with
      | query registrations => exact Or.inr ⟨registrations, rfl, passed⟩
      | fail => exact absurd passed (not_passed_poll_none counting (few rfl))
      | start | wake | answer => exact Or.inl passed
  | asked errors registrations =>
      cases happening with
      | answer =>
          have answered : liveNodeIds registrations = none → errors + 1 < maxErrors := by
            intro failed
            apply few
            rw [Phase.outcome, failed]
            rfl
          exact Or.inl (poll_passed counting answered passed)
      | fail => exact absurd passed (not_passed_poll_none counting (few rfl))
      | start | wake | query _ => exact Or.inl passed
  | returned => exact Or.inl trivial

theorem poll_errors (cfg : SingleActiveConfig) (errors : Nat) (nodes : Option (List Value)) :
    (Phase.poll cfg errors nodes).errors ≤ inARow errors (some nodes.isSome) := by
  cases nodes with
  | none =>
      simp only [Phase.poll]
      split
      · exact Nat.zero_le _
      · exact Nat.le_refl _
  | some ids =>
      simp only [Phase.poll]
      split <;> exact Nat.le_refl _

/-- The loop counts no more errors than there were failures in a row. -/
theorem next_errors (cfg : SingleActiveConfig) (socketExists : Bool) (phase : Phase)
    (happening : Happening) :
    (phase.next cfg socketExists happening).errors ≤
      inARow phase.errors (phase.outcome happening) := by
  cases phase with
  | booting =>
      cases happening with
      | start =>
          simp only [Phase.next, Phase.enter]
          split
          · exact Nat.zero_le _
          · split <;> exact Nat.zero_le _
      | wake | query _ | answer | fail => exact Nat.le_refl _
  | sleeping secs errors => cases happening <;> exact Nat.le_refl _
  | asking errors =>
      cases happening with
      | fail => exact poll_errors cfg errors none
      | start | wake | query _ | answer => exact Nat.le_refl _
  | asked errors registrations =>
      cases happening with
      | answer => exact poll_errors cfg errors (liveNodeIds registrations)
      | fail => exact poll_errors cfg errors none
      | start | wake | query _ => exact Nat.le_refl _
  | returned => cases happening <;> exact Nat.le_refl _

end Guard

/-! ### The fleet as a census -/

namespace Fleet

variable {Instance : Type}

def census (fleet : Fleet Instance) : Census Instance where
  live := {member | member ∈ fleet.live}
  joined := {member | fleet.registered member = true}
  passed := {member | (fleet.phase member).Passed}

/-- No instance has counted more errors than its queries failed in a row. -/
def Counted (fleet : Fleet Instance) : Prop :=
  ∀ member, (fleet.phase member).errors ≤ fleet.failures member

variable [DecidableEq Instance] {site : Site Instance} {fleet : Fleet Instance}

/-! ### One action -/

theorem Counted.step (counted : fleet.Counted) (action : Action Instance) :
    (fleet.step site action).Counted := by
  cases action with
  | register member =>
      unfold Fleet.step
      dsimp only
      split <;> exact counted
  | crash member => exact counted
  | expire member => exact counted
  | move member move =>
      unfold Fleet.step
      dsimp only
      split
      · exact counted
      · rename_i happening _
        unfold advance
        split
        · exact counted
        · intro other
          by_cases same : other = member
          · subst same
            have bound := next_errors (site.cfg other) (site.socketExists other)
              (fleet.phase other) happening
            have before := counted other
            simp only [Function.update_self]
            cases ended : (fleet.phase other).outcome happening with
            | none =>
                rw [ended] at bound
                exact bound.trans before
            | some answered =>
                rw [ended] at bound
                cases answered with
                | true => exact bound
                | false => exact bound.trans (Nat.succ_le_succ before)
          · simp only [Function.update_of_ne same]
            exact counted other

omit [DecidableEq Instance] in
theorem live_subsingleton {errors : Nat}
    (passed : (Phase.asked errors (fleet.appInstances site)).Passed) :
    fleet.census.live.Subsingleton := by
  obtain ⟨nodes, ids, few⟩ := passed
  simp only [appInstances, liveNodeIds, Option.some.injEq] at ids
  rw [← ids, List.length_map, List.length_map] at few
  intro first firstLive second secondLive
  match live : fleet.live with
  | [] =>
      change first ∈ fleet.live at firstLive
      rw [live] at firstLive
      cases firstLive
  | [sole] =>
      change first ∈ fleet.live at firstLive
      change second ∈ fleet.live at secondLive
      rw [live, List.mem_singleton] at firstLive secondLive
      rw [firstLive, secondLive]
  | _ :: _ :: _ =>
      rw [live] at few
      simp at few

/-- **A move of one process** passes at most when its query is evaluated, and then as the
only one registered. -/
theorem advance_refines (strict : site.Strict) (counted : fleet.Counted) {member : Instance}
    {move : Move} {happening : Happening}
    (happens : fleet.happening site member move = some happening)
    (few : (fleet.advance site member happening).failures member < maxErrors) :
    Census.Step fleet.census (fleet.advance site member happening).census := by
  by_cases crashed : fleet.crashed member
  · rw [advance, if_pos crashed]
    exact .shrink subset_rfl subset_rfl
  · rw [advance, if_neg crashed] at few ⊢
    simp only [Function.update_self] at few
    have fewer : (fleet.phase member).outcome happening = some false →
        (fleet.phase member).errors + 1 < maxErrors := by
      intro failed
      rw [failed] at few
      exact (Nat.succ_le_succ (counted member)).trans_lt few
    have cause := next_passed (strict.enabled member) (strict.counting member) fewer
    rw [strict.socket member] at *
    generalize (fleet.phase member).next (site.cfg member) true happening = after at cause ⊢
    by_cases before : after.Passed → (fleet.phase member).Passed
    · apply Census.Step.shrink subset_rfl
      intro other passed
      change (Function.update fleet.phase member after other).Passed at passed
      by_cases same : other = member
      · subst same
        rw [Function.update_self] at passed
        exact before passed
      · rw [Function.update_of_ne same] at passed
        exact passed
    · obtain ⟨nowPassed, notBefore⟩ := Classical.not_imp.mp before
      obtain ⟨registrations, rfl, alone⟩ := (cause nowPassed).resolve_left notBefore
      obtain ⟨registered, rfl⟩ : fleet.registered member = true ∧
          fleet.appInstances site = registrations := by
        cases move with
        | query => simpa [Fleet.happening] using happens
        | start | wake | answer | fail => cases happens
      have joined : member ∈ fleet.census.joined := registered
      apply Census.Step.pass member joined (live_subsingleton alone)
      intro other passed
      change (Function.update fleet.phase member after other).Passed at passed
      by_cases same : other = member
      · exact Or.inl same
      · rw [Function.update_of_ne same] at passed
        exact Or.inr passed

theorem census_register (fleet : Fleet Instance) (member : Instance) :
    ({ fleet with
      live := fleet.live ++ [member]
      registered := Function.update fleet.registered member true } : Fleet Instance).census =
    { fleet.census with
      live := insert member fleet.census.live
      joined := insert member fleet.census.joined } := by
  have live : {other | other ∈ fleet.live ++ [member]} = insert member fleet.census.live := by
    ext other
    simp only [Fleet.census, List.mem_append, List.mem_singleton, Set.mem_insert_iff]
    exact Or.comm
  have joined : {other | Function.update fleet.registered member true other = true} =
      insert member fleet.census.joined := by
    ext other
    by_cases same : other = member
    · simp [same]
    · simp [Fleet.census, same]
  simp only [Fleet.census] at live joined ⊢
  rw [live, joined]

/-- **Every action is a step of the census.** -/
theorem step_refines (strict : site.Strict) (counted : fleet.Counted) {action : Action Instance}
    (few : fleet.FewFailures site action) :
    Census.Step fleet.census (fleet.step site action).census := by
  cases action with
  | register member =>
      by_cases registered : fleet.registered member = true
      · rw [step, if_pos registered]
        exact .shrink subset_rfl subset_rfl
      · have new : member ∉ fleet.census.joined := registered
        rw [step, if_neg registered, census_register]
        exact .join member new
  | move member move =>
      cases happens : fleet.happening site member move with
      | none =>
          simp only [step, happens]
          exact .shrink subset_rfl subset_rfl
      | some happening =>
          simp only [FewFailures, step, happens] at few ⊢
          exact advance_refines strict counted happens few
  | crash member => exact .shrink subset_rfl subset_rfl
  | expire member =>
      apply Census.Step.shrink
      · intro other member
        exact List.mem_of_mem_filter member
      · exact subset_rfl

/-! ### Whole runs -/

/-- What holds in every state of a run. -/
structure Guarded (fleet : Fleet Instance) : Prop where
  counted : fleet.Counted
  exclusive : fleet.census.Exclusive

omit [DecidableEq Instance] in
theorem Guarded.initial : (Fleet.initial : Fleet Instance).Guarded where
  counted := fun _ => Nat.le_refl 0
  exclusive := ⟨fun _ passed => False.elim passed, fun _ passed => False.elim passed.2⟩

theorem guarded_run (strict : site.Strict) {actions : List (Action Instance)}
    (few : Along (Fleet.step site) (Fleet.FewFailures site) Fleet.initial actions) :
    (run (Fleet.step site) Fleet.initial actions).Guarded := by
  apply few.keeps Guarded
  · intro fleet action guarded few
    exact ⟨guarded.counted.step action,
      (step_refines strict guarded.counted few).keeps_exclusive guarded.exclusive⟩
  · exact Guarded.initial

end Fleet

/-- **Mutual exclusion of pool instances.** However instances boot, register, query, crash
and expire, of those whose registrations are live at most one has returned from
`await_sole_instance`. -/
theorem sole_active_instance {Instance : Type} [DecidableEq Instance] (site : Site Instance)
    (strict : site.Strict) (actions : List (Action Instance))
    (few : Along (Fleet.step site) (Fleet.FewFailures site) Fleet.initial actions)
    (first second : Instance) :
    let fleet := run (Fleet.step site) Fleet.initial actions
    first ∈ fleet.live → second ∈ fleet.live →
      fleet.phase first = .returned → fleet.phase second = .returned → first = second := by
  intro fleet firstLive secondLive firstReturned secondReturned
  have passed : ∀ member, fleet.phase member = .returned → member ∈ fleet.census.passed := by
    intro member returned
    change (fleet.phase member).Passed
    rw [returned]
    trivial
  exact (Fleet.guarded_run strict few).exclusive.sole ⟨firstLive, passed first firstReturned⟩
    ⟨secondLive, passed second secondReturned⟩

/-- Instances with the default configuration, each on its own node. -/
def defaultSite : Site Nat where
  cfg := fun _ => {}
  socketExists := fun _ => true
  registration := fun node => .map [(.text "node_id", .integer node)]

/-- An instance from its registration to its first answer. -/
def bootAndAsk (member : Nat) : List (Action Nat) :=
  .register member :: [.start, .wake, .query, .answer].map (.move member)

/-- A second instance boots while the first one runs, and waits. -/
theorem sole_active_instance_second_waits :
    let fleet := run (Fleet.step defaultSite) Fleet.initial (bootAndAsk 0 ++ bootAndAsk 1)
    0 ∈ fleet.live ∧ 1 ∈ fleet.live ∧ fleet.phase 0 = .returned ∧ fleet.phase 1 ≠ .returned := by
  have strict : defaultSite.Strict := ⟨fun _ => rfl, fun _ => rfl, fun _ => rfl⟩
  have few : Along (Fleet.step defaultSite) (Fleet.FewFailures defaultSite) Fleet.initial
      (bootAndAsk 0 ++ bootAndAsk 1) := by
    decide +kernel
  intro fleet
  have firstLive : 0 ∈ fleet.live := by decide +kernel
  have secondLive : 1 ∈ fleet.live := by decide +kernel
  have returned : fleet.phase 0 = .returned := rfl
  refine ⟨firstLive, secondLive, returned, ?_⟩
  intro both
  have same := sole_active_instance defaultSite strict _ few 0 1 firstLive secondLive returned both
  cases same

end CrFaucet.Instances
