import Mathlib.Data.List.Basic

/-!
Owns runs of a deterministic step function: the state a list of actions leads
to, conditions imposed on every step of a run, and the induction rule that
turns a fact kept by one step into a fact about every state reached.

Does not own any particular machine. A condition of a run is a predicate on
the state *before* a step and on the step itself, so it is closed under
prefixes: a fact proved at the end of every run holds in every state passed
on the way.
-/

set_option autoImplicit false

namespace CrFaucet.Interaction

variable {State Action : Type*}

/-- The state reached by a list of actions. -/
def run (step : State → Action → State) (state : State) (actions : List Action) : State :=
  actions.foldl step state

/-- Every step of the run meets the condition, in the state it is taken in. -/
def Along (step : State → Action → State) (meets : State → Action → Prop) :
    State → List Action → Prop
  | _, [] => True
  | state, action :: rest => meets state action ∧ Along step meets (step state action) rest

instance decidableAlong (step : State → Action → State) (meets : State → Action → Prop)
    [∀ state action, Decidable (meets state action)] :
    ∀ state actions, Decidable (Along step meets state actions)
  | _, [] => isTrue trivial
  | state, action :: rest =>
      @instDecidableAnd _ _ _ (decidableAlong step meets (step state action) rest)

section Rules

variable {step : State → Action → State} {meets meets' : State → Action → Prop}

theorem Along.weaken {state : State} {actions : List Action}
    (along : Along step meets state actions)
    (implies : ∀ state action, meets state action → meets' state action) :
    Along step meets' state actions := by
  induction actions generalizing state with
  | nil => trivial
  | cons action rest inductionHypothesis =>
      exact ⟨implies _ _ along.1, inductionHypothesis along.2⟩

theorem Along.and {state : State} {actions : List Action}
    (first : Along step meets state actions) (second : Along step meets' state actions) :
    Along step (fun state action => meets state action ∧ meets' state action) state actions := by
  induction actions generalizing state with
  | nil => trivial
  | cons action rest inductionHypothesis =>
      exact ⟨⟨first.1, second.1⟩, inductionHypothesis first.2 second.2⟩

theorem Along.of_forall_mem {admitted : Action → Prop} (state : State) {actions : List Action}
    (all : ∀ action ∈ actions, admitted action) :
    Along step (fun _ => admitted) state actions := by
  induction actions generalizing state with
  | nil => trivial
  | cons action rest inductionHypothesis =>
      exact ⟨all action (List.mem_cons_self ..),
        inductionHypothesis _ fun other member => all other (List.mem_cons_of_mem _ member)⟩

/-- **The run rule.** What every admitted step keeps, every admitted run
keeps. -/
theorem Along.keeps (holds : State → Prop) {state : State} {actions : List Action}
    (along : Along step meets state actions)
    (stepKeeps : ∀ state action, holds state → meets state action → holds (step state action))
    (initially : holds state) : holds (run step state actions) := by
  induction actions generalizing state with
  | nil => exact initially
  | cons action rest inductionHypothesis =>
      exact inductionHypothesis along.2 (stepKeeps state action initially along.1)

theorem Along.of_invariant {holds : State → Prop}
    (stepKeeps : ∀ state action, holds state → holds (step state action)) {state : State}
    (initially : holds state) (actions : List Action) :
    Along step (fun state _ => holds state) state actions := by
  induction actions generalizing state with
  | nil => trivial
  | cons action rest inductionHypothesis =>
      exact ⟨initially, inductionHypothesis (stepKeeps state action initially)⟩

/-- Two conditions that agree wherever a run that meets the first can be. -/
theorem Along.congr_keeping (holds : State → Prop) {state : State} (actions : List Action)
    (initially : holds state)
    (agree : ∀ state action, holds state → (meets state action ↔ meets' state action))
    (keeps : ∀ state action, holds state → meets state action → holds (step state action)) :
    Along step meets state actions ↔ Along step meets' state actions := by
  induction actions generalizing state with
  | nil => exact Iff.rfl
  | cons action rest inductionHypothesis =>
      constructor
      · intro along
        have next := keeps state action initially along.1
        exact ⟨(agree state action initially).1 along.1,
          (inductionHypothesis next).1 along.2⟩
      · intro along
        have now := (agree state action initially).2 along.1
        exact ⟨now, (inductionHypothesis (keeps state action initially now)).2 along.2⟩

theorem run_append (step : State → Action → State) (state : State)
    (first second : List Action) :
    run step state (first ++ second) = run step (run step state first) second :=
  List.foldl_append

theorem Along.append {state : State} {first second : List Action} :
    Along step meets state (first ++ second) ↔
      Along step meets state first ∧ Along step meets (run step state first) second := by
  induction first generalizing state with
  | nil => exact (iff_of_eq (true_and _)).symm
  | cons action rest inductionHypothesis =>
      change _ ∧ Along step meets (step state action) (rest ++ second) ↔ (_ ∧ _) ∧ _
      rw [inductionHypothesis, and_assoc]
      exact Iff.rfl

theorem le_run {measure : State → Nat}
    (grows : ∀ state action, measure state ≤ measure (step state action)) (state : State)
    (actions : List Action) : measure state ≤ measure (run step state actions) := by
  induction actions generalizing state with
  | nil => exact Nat.le_refl _
  | cons action rest inductionHypothesis =>
      exact Nat.le_trans (grows state action) (inductionHypothesis (step state action))

theorem Along.of_end_lt {measure : State → Nat}
    (grows : ∀ state action, measure state ≤ measure (step state action)) {bound : Nat}
    {state : State} {actions : List Action} (ends : measure (run step state actions) < bound) :
    Along step (fun state action => measure (step state action) < bound) state actions := by
  induction actions generalizing state with
  | nil => trivial
  | cons action rest inductionHypothesis =>
      exact ⟨Nat.lt_of_le_of_lt (le_run grows _ rest) ends, inductionHypothesis ends⟩

end Rules

end CrFaucet.Interaction
