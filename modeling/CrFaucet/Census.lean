import Mathlib.Data.Set.Subsingleton

/-!
Owns exclusion by counting: members join a public register once, leave it in any order,
and pass when they see no more than one entry in it.

Nobody names anybody, and nobody takes a lock. What excludes a second pass is only that
one joins before one counts, and that who has left does not come back.
-/

set_option autoImplicit false

namespace CrFaucet

/-- The register, everybody who ever joined it, and who has passed. -/
structure Census (Member : Type*) where
  live : Set Member
  joined : Set Member
  passed : Set Member

namespace Census

variable {Member : Type*}

inductive Step : Census Member → Census Member → Prop where
  | join {census : Census Member} (member : Member) (new : member ∉ census.joined) :
      Step census
        { census with live := insert member census.live, joined := insert member census.joined }
  /-- Some leave, some give up what they had passed. -/
  | shrink {census : Census Member} {live passed : Set Member} (fewer : live ⊆ census.live)
      (given : passed ⊆ census.passed) : Step census { census with live := live, passed := passed }
  | pass {census : Census Member} {passed : Set Member} (member : Member)
      (joined : member ∈ census.joined) (alone : census.live.Subsingleton)
      (given : passed ⊆ insert member census.passed) : Step census { census with passed := passed }

/-- At most one live member has passed. -/
structure Exclusive (census : Census Member) : Prop where
  joinedFirst : census.passed ⊆ census.joined
  sole : (census.live ∩ census.passed).Subsingleton

/-- **One step.** A newcomer has not passed yet; who passes sees nobody else. -/
theorem Step.keeps_exclusive {census after : Census Member} (step : Step census after)
    (exclusive : census.Exclusive) : after.Exclusive := by
  obtain ⟨joinedFirst, sole⟩ := exclusive
  cases step with
  | join member new =>
      have notPassed : member ∉ census.passed := fun passed => new (joinedFirst passed)
      constructor
      · exact joinedFirst.trans (Set.subset_insert _ _)
      · change (insert member census.live ∩ census.passed).Subsingleton
        rw [Set.insert_inter_of_notMem notPassed]
        exact sole
  | shrink fewer given =>
      constructor
      · exact given.trans joinedFirst
      · exact sole.anti (Set.inter_subset_inter fewer given)
  | pass member joined alone given =>
      constructor
      · exact given.trans (Set.insert_subset joined joinedFirst)
      · exact alone.anti Set.inter_subset_left

end Census

end CrFaucet
