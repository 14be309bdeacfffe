import Mathlib.Data.List.Basic

/-!
Owns the pattern "claim before the side effect": slots that can be claimed while
they are open, threads that own a slot after claiming it, and an effect on the
outside that a slot may see at most once.

The only moves are claiming an open slot nobody has spent, giving a claim back
(which may open the slot again), spending a claim, and anything that opens no
slot and grants nothing. None of them lets a slot be spent twice.

Does not own how a slot is represented or what makes it open.
-/

set_option autoImplicit false

namespace CrFaucet.Interaction

variable {Thread Slot : Type*}

/-- Nobody owns an open or a spent slot, owners are unique, and no slot has been
spent twice. -/
structure Exclusive (isOpen : Slot → Prop) (spent : Slot → Nat) (owns : Thread → Slot → Prop) :
    Prop where
  once : ∀ slot, spent slot ≤ 1
  closed : ∀ thread slot, owns thread slot → ¬ isOpen slot
  unspent : ∀ thread slot, owns thread slot → spent slot = 0
  unique : ∀ first second slot, owns first slot → owns second slot → first = second

namespace Exclusive

variable {isOpen isOpen' : Slot → Prop} {spent spent' : Slot → Nat}
  {owns owns' : Thread → Slot → Prop}

theorem of_unowned (once : ∀ slot, spent slot ≤ 1) (unowned : ∀ thread slot, ¬ owns thread slot) :
    Exclusive isOpen spent owns where
  once := once
  closed thread slot own := absurd own (unowned thread slot)
  unspent thread slot own := absurd own (unowned thread slot)
  unique first _ slot own := absurd own (unowned first slot)

theorem weaken (exclusive : Exclusive isOpen spent owns)
    (opens : ∀ slot, isOpen' slot → isOpen slot) (spends : ∀ slot, spent' slot = spent slot)
    (grants : ∀ thread slot, owns' thread slot → owns thread slot) :
    Exclusive isOpen' spent' owns' where
  once slot := by
    rw [spends]
    exact exclusive.once slot
  closed thread slot own := fun opened =>
    exclusive.closed thread slot (grants thread slot own) (opens slot opened)
  unspent thread slot own := by
    rw [spends]
    exact exclusive.unspent thread slot (grants thread slot own)
  unique first second slot own own' :=
    exclusive.unique first second slot (grants first slot own) (grants second slot own')

theorem claim (exclusive : Exclusive isOpen spent owns) (thread : Thread) {slot : Slot}
    (wasOpen : isOpen slot) (fresh : spent slot = 0) (closes : ¬ isOpen' slot)
    (opens : ∀ other, isOpen' other → isOpen other)
    (spends : ∀ other, spent' other = spent other)
    (grants : ∀ other otherSlot, owns' other otherSlot →
      owns other otherSlot ∨ other = thread ∧ otherSlot = slot) :
    Exclusive isOpen' spent' owns' where
  once other := by
    rw [spends]
    exact exclusive.once other
  closed other otherSlot own opened := by
    rcases grants other otherSlot own with owned | ⟨_, rfl⟩
    · exact exclusive.closed other otherSlot owned (opens otherSlot opened)
    · exact closes opened
  unspent other otherSlot own := by
    rw [spends]
    rcases grants other otherSlot own with owned | ⟨_, rfl⟩
    · exact exclusive.unspent other otherSlot owned
    · exact fresh
  unique first second otherSlot own own' := by
    -- An owner of the slot just claimed would have kept it closed.
    have unowned : ∀ other, ¬ owns other slot := fun other owned =>
      exclusive.closed other slot owned wasOpen
    rcases grants first otherSlot own with owned | ⟨rfl, rfl⟩ <;>
      rcases grants second otherSlot own' with owned' | ⟨rfl, same⟩
    · exact exclusive.unique first second otherSlot owned owned'
    · exact absurd (same ▸ owned) (unowned first)
    · exact absurd owned' (unowned second)
    · rfl

/-- The owner gives its claim back, or spends it. -/
theorem release (exclusive : Exclusive isOpen spent owns) {thread : Thread} {slot : Slot}
    (owner : owns thread slot) (opens : ∀ other, other ≠ slot → isOpen' other → isOpen other)
    (spends : spent' slot ≤ spent slot + 1)
    (others : ∀ other, other ≠ slot → spent' other = spent other)
    (grants : ∀ other otherSlot, owns' other otherSlot → other ≠ thread ∧ owns other otherSlot) :
    Exclusive isOpen' spent' owns' := by
  -- Nobody but `thread` owned the slot.
  have elsewhere : ∀ other otherSlot, owns' other otherSlot → otherSlot ≠ slot := by
    rintro other _ own rfl
    obtain ⟨distinct, owned⟩ := grants other _ own
    exact distinct (exclusive.unique other thread _ owned owner)
  constructor
  case once =>
    intro other
    by_cases same : other = slot
    · have fresh := exclusive.unspent thread slot owner
      rw [same]
      omega
    · rw [others other same]
      exact exclusive.once other
  case closed =>
    intro other otherSlot own opened
    exact exclusive.closed other otherSlot (grants other otherSlot own).2
      (opens otherSlot (elsewhere other otherSlot own) opened)
  case unspent =>
    intro other otherSlot own
    rw [others otherSlot (elsewhere other otherSlot own)]
    exact exclusive.unspent other otherSlot (grants other otherSlot own).2
  case unique =>
    intro first second otherSlot own own'
    exact exclusive.unique first second otherSlot (grants first otherSlot own).2
      (grants second otherSlot own').2

end Exclusive

end CrFaucet.Interaction
