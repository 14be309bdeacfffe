import CrFaucet.Interaction.Run

/-!
Owns the view of a run from one part of its state: where every step of the whole shows in the part
as a run of the part's own, a run of the whole does so too. What is proved of the part alone then
holds of it inside the whole.

Does not own how two parts share anything; that the shared piece agrees on both sides is what
`holds` is for.
-/

set_option autoImplicit false

namespace CrFaucet.Interaction

variable {State Action Part Move : Type*}

/-- Every admitted step of the whole keeps `holds` and shows in the part as an admitted run. -/
structure Projection (step : State → Action → State) (meets : State → Action → Prop)
    (holds : State → Prop) (part : State → Part) (move : Part → Move → Part)
    (admits : Part → Move → Prop) : Prop where
  keeps : ∀ state action, holds state → meets state action → holds (step state action)
  shows : ∀ state action, holds state → meets state action →
    ∃ moves, part (step state action) = run move (part state) moves ∧
      Along move admits (part state) moves

/-- **The projection rule.** An admitted run of the whole is an admitted run of the part. -/
theorem Projection.run {step : State → Action → State} {meets : State → Action → Prop}
    {holds : State → Prop} {part : State → Part} {move : Part → Move → Part}
    {admits : Part → Move → Prop} (projection : Projection step meets holds part move admits)
    {state : State} {actions : List Action} (along : Along step meets state actions)
    (initially : holds state) :
    ∃ moves, part (Interaction.run step state actions) =
        Interaction.run move (part state) moves ∧
      Along move admits (part state) moves := by
  induction actions generalizing state with
  | nil => exact ⟨[], rfl, trivial⟩
  | cons action rest inductionHypothesis =>
      obtain ⟨first, moved, admitted⟩ := projection.shows state action initially along.1
      obtain ⟨others, reached, otherwise⟩ :=
        inductionHypothesis along.2 (projection.keeps state action initially along.1)
      refine ⟨first ++ others, ?_, ?_⟩
      · rw [run_append, ← moved]
        exact reached
      · rw [Along.append, ← moved]
        exact ⟨admitted, otherwise⟩

end CrFaucet.Interaction
