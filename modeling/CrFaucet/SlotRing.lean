import Mathlib.Data.List.Rotate

/-!
Owns a ring of slots that is always full: one slot is the current one, and moving on overwrites
the slot after it.

`newestFirst` is what the ring stands for, a list from the current slot back to the one that is
overwritten next. What is proved about rings is proved about that list.

Does not own queues that grow; see `Ring`.
-/

set_option autoImplicit false

namespace CrFaucet

structure SlotRing (size : Nat) (Slot : Type) where
  slots : List Slot
  head : Nat
  full : slots.length = size
  inside : head < size

namespace SlotRing

variable {size : Nat} {Slot : Type}

/-- Every slot holds the same. -/
def filled (positive : 0 < size) (slot : Slot) : SlotRing size Slot where
  slots := List.replicate size slot
  head := 0
  full := List.length_replicate
  inside := positive

variable (ring : SlotRing size Slot)

theorem head_lt : ring.head < ring.slots.length := by
  rw [ring.full]
  exact ring.inside

def current : Slot := ring.slots.get ⟨ring.head, ring.head_lt⟩

def setCurrent (slot : Slot) : SlotRing size Slot where
  slots := ring.slots.set ring.head slot
  head := ring.head
  full := by rw [List.length_set, ring.full]
  inside := ring.inside

/-- Move on and overwrite. -/
def advance (slot : Slot) : SlotRing size Slot where
  slots := ring.slots.set ((ring.head + 1) % size) slot
  head := (ring.head + 1) % size
  full := by rw [List.length_set, ring.full]
  inside := Nat.mod_lt _ (Nat.zero_lt_of_lt ring.inside)

@[simp] theorem current_setCurrent (slot : Slot) : (ring.setCurrent slot).current = slot :=
  List.getElem_set_self _

@[simp] theorem current_advance (slot : Slot) : (ring.advance slot).current = slot :=
  List.getElem_set_self _

/-- From the current slot back. -/
def newestFirst : List Slot := (ring.slots.rotate (ring.head + 1)).reverse

/-! ### The list a ring stands for -/

theorem newestFirst_perm : ring.newestFirst.Perm ring.slots :=
  (List.reverse_perm _).trans (List.rotate_perm _ _)

theorem length_newestFirst : ring.newestFirst.length = size := by
  rw [ring.newestFirst_perm.length_eq, ring.full]

theorem newestFirst_filled (positive : 0 < size) (slot : Slot) :
    (filled positive slot).newestFirst = List.replicate size slot := by
  rw [newestFirst, filled, List.rotate_replicate, List.reverse_replicate]

theorem newestFirst_eq :
    ring.newestFirst = ring.current ::
      ((ring.slots.take ring.head).reverse ++ (ring.slots.drop (ring.head + 1)).reverse) := by
  rw [newestFirst, List.rotate_eq_drop_append_take ring.head_lt, List.reverse_append,
    List.take_succ_eq_append_getElem ring.head_lt, List.reverse_append]
  rfl

theorem newestFirst_setCurrent (slot : Slot) :
    (ring.setCurrent slot).newestFirst = slot :: ring.newestFirst.tail := by
  rw [newestFirst_eq, newestFirst_eq, List.tail_cons, current_setCurrent]
  dsimp only [setCurrent]
  rw [List.take_set_of_le (Nat.le_refl _), List.drop_set_of_lt (Nat.lt_succ_self _)]

theorem newestFirst_advance (slot : Slot) :
    (ring.advance slot).newestFirst = slot :: ring.newestFirst.dropLast := by
  have next : (ring.head + 1) % size < ring.slots.length := by
    rw [ring.full]
    exact Nat.mod_lt _ (Nat.zero_lt_of_lt ring.inside)
  have turned : ring.slots.rotate (ring.head + 1) =
      ring.slots.drop ((ring.head + 1) % size) ++ ring.slots.take ((ring.head + 1) % size) := by
    rw [← List.rotate_eq_drop_append_take next.le, ← List.rotate_mod, ring.full]
  rw [newestFirst_eq, current_advance, newestFirst, turned, List.drop_eq_getElem_cons next,
    List.reverse_append, List.reverse_cons, ← List.append_assoc, List.dropLast_concat]
  dsimp only [advance]
  rw [List.take_set_of_le (Nat.le_refl _), List.drop_set_of_lt (Nat.lt_succ_self _)]

end SlotRing

end CrFaucet
