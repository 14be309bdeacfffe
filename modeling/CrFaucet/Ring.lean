import Mathlib.Data.List.ModifyLast

/-!
Owns bounded queues: a push at the back drops from the front until the bound
holds.

The bound is part of the type, so every operation on a ring is one that keeps it.
What a push leaves is the newest end of the queue and the new item; what a change
of the first match leaves is the queue with one item exchanged.
-/

set_option autoImplicit false

namespace CrFaucet

variable {Item : Type}

/-- At most `cap` items, oldest first. -/
structure Ring (cap : Nat) (Item : Type) where
  items : List Item
  bounded : items.length ≤ cap
deriving DecidableEq

namespace Ring

/-! ### Lists -/

/-- Drop from the front while there are more than `cap` items. -/
def trim (cap : Nat) : List Item → List Item
  | [] => []
  | first :: rest => if cap < rest.length + 1 then trim cap rest else first :: rest

theorem length_trim_le (cap : Nat) (items : List Item) : (trim cap items).length ≤ cap := by
  induction items with
  | nil => exact Nat.zero_le cap
  | cons first rest inductionHypothesis =>
      rw [trim]
      split
      · exact inductionHypothesis
      · rw [List.length_cons]
        omega

theorem trim_append_singleton {cap : Nat} (room : 0 < cap) (items : List Item) (item : Item) :
    ∃ kept, kept <:+ items ∧ trim cap (items ++ [item]) = kept ++ [item] := by
  induction items with
  | nil =>
      refine ⟨[], List.suffix_rfl, ?_⟩
      rw [List.nil_append, trim, if_neg]
      rw [List.length_nil]
      omega
  | cons first rest inductionHypothesis =>
      obtain ⟨kept, suffix, trimmed⟩ := inductionHypothesis
      rw [List.cons_append, trim]
      split
      · exact ⟨kept, suffix.trans (List.suffix_cons first rest), trimmed⟩
      · exact ⟨first :: rest, List.suffix_rfl, rfl⟩

theorem map_trim {Image : Type} (image : Item → Image) (cap : Nat) (items : List Item) :
    (trim cap items).map image = trim cap (items.map image) := by
  induction items with
  | nil => rfl
  | cons first rest inductionHypothesis =>
      rw [List.map_cons, trim, trim, List.length_map]
      split
      · exact inductionHypothesis
      · rfl

theorem length_modifyLast (change : Item → Item) (items : List Item) :
    (items.modifyLast change).length = items.length := by
  rcases List.eq_nil_or_concat items with rfl | ⟨before, last, rfl⟩
  · rfl
  · rw [List.concat_eq_append, List.modifyLast_concat, List.length_append, List.length_append]
    rfl

def modifyFirst (wanted : Item → Bool) (change : Item → Item) : List Item → List Item
  | [] => []
  | first :: rest =>
      if wanted first then change first :: rest else first :: modifyFirst wanted change rest

theorem length_modifyFirst (wanted : Item → Bool) (change : Item → Item) (items : List Item) :
    (modifyFirst wanted change items).length = items.length := by
  induction items with
  | nil => rfl
  | cons first rest inductionHypothesis =>
      rw [modifyFirst]
      split
      · rfl
      · rw [List.length_cons, List.length_cons, inductionHypothesis]

theorem modifyFirst_append {wanted : Item → Bool} (change : Item → Item) {before : List Item}
    {item : Item} (after : List Item) (others : ∀ earlier ∈ before, wanted earlier = false)
    (matched : wanted item = true) :
    modifyFirst wanted change (before ++ item :: after) = before ++ change item :: after := by
  induction before with
  | nil => rw [List.nil_append, modifyFirst, if_pos matched, List.nil_append]
  | cons first rest inductionHypothesis =>
      have skipped := others first (List.mem_cons_self ..)
      rw [List.cons_append, modifyFirst, skipped, if_neg Bool.false_ne_true, inductionHypothesis]
      · rfl
      · intro earlier member
        exact others earlier (List.mem_cons_of_mem _ member)

/-! ### Rings -/

variable {cap : Nat}

def empty : Ring cap Item := ⟨[], Nat.zero_le cap⟩

def push (ring : Ring cap Item) (item : Item) : Ring cap Item :=
  ⟨trim cap (ring.items ++ [item]), length_trim_le cap _⟩

/-- Take the oldest item. -/
def pop (ring : Ring cap Item) : Option (Item × Ring cap Item) :=
  match ring with
  | ⟨[], _⟩ => none
  | ⟨first :: rest, bounded⟩ => some (first, ⟨rest, Nat.le_of_succ_le bounded⟩)

def onLast (change : Item → Item) (ring : Ring cap Item) : Ring cap Item :=
  ⟨ring.items.modifyLast change,
    Nat.le_trans (Nat.le_of_eq (length_modifyLast change _)) ring.bounded⟩

def onFirst (wanted : Item → Bool) (change : Item → Item) (ring : Ring cap Item) :
    Ring cap Item :=
  ⟨modifyFirst wanted change ring.items,
    Nat.le_trans (Nat.le_of_eq (length_modifyFirst wanted change _)) ring.bounded⟩

/-- **What a push leaves.** -/
theorem push_items (room : 0 < cap) (ring : Ring cap Item) (item : Item) :
    ∃ kept, kept <:+ ring.items ∧ (ring.push item).items = kept ++ [item] :=
  trim_append_singleton room ring.items item

/-- **What is taken is the oldest.** -/
theorem pop_items {ring rest : Ring cap Item} {item : Item}
    (popped : ring.pop = some (item, rest)) : ring.items = item :: rest.items := by
  obtain ⟨items, bounded⟩ := ring
  cases items with
  | nil => cases popped
  | cons first others =>
      cases popped
      rfl

theorem exists_pop {ring : Ring cap Item} (nonempty : ring.items ≠ []) :
    ∃ item rest, ring.pop = some (item, rest) := by
  obtain ⟨items, bounded⟩ := ring
  cases items with
  | nil => exact absurd rfl nonempty
  | cons first others => exact ⟨first, _, rfl⟩

/-- **What a change of the first match leaves.** -/
theorem onFirst_items {wanted : Item → Bool} (change : Item → Item) {ring : Ring cap Item}
    {item : Item} (found : ring.items.find? wanted = some item) :
    ∃ before after, ring.items = before ++ item :: after ∧ wanted item = true ∧
      (∀ earlier ∈ before, wanted earlier = false) ∧
      (ring.onFirst wanted change).items = before ++ change item :: after := by
  obtain ⟨matched, before, after, split, others⟩ := List.find?_eq_some_iff_append.1 found
  have skipped : ∀ earlier ∈ before, wanted earlier = false := by
    intro earlier member
    simpa using others earlier member
  refine ⟨before, after, split, matched, skipped, ?_⟩
  show modifyFirst wanted change ring.items = _
  rw [split]
  exact modifyFirst_append change after skipped matched

theorem find?_of_suffix {kept items : List Item} {wanted : Item → Bool} {item : Item}
    (suffix : kept <:+ items) (found : kept.reverse.find? wanted = some item) :
    items.reverse.find? wanted = some item := by
  obtain ⟨dropped, rfl⟩ := suffix
  rw [List.reverse_append, List.find?_append, found]
  rfl

theorem pairwise_exchange {before after : List Item} {item exchanged : Item}
    {related : Item → Item → Prop} (left : ∀ other, related other item → related other exchanged)
    (right : ∀ other, related item other → related exchanged other)
    (pairwise : (before ++ item :: after).Pairwise related) :
    (before ++ exchanged :: after).Pairwise related := by
  rw [List.pairwise_append, List.pairwise_cons] at pairwise ⊢
  obtain ⟨first, ⟨follows, second⟩, across⟩ := pairwise
  refine ⟨first, ⟨fun other member => right other (follows other member), second⟩, ?_⟩
  intro earlier member other later
  rcases List.mem_cons.1 later with rfl | inAfter
  · exact left earlier (across earlier member item (List.mem_cons_self ..))
  · exact across earlier member other (List.mem_cons_of_mem _ inAfter)

end Ring

end CrFaucet
