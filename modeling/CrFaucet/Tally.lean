import Mathlib.Data.List.Induction
import Mathlib.Data.List.Sort

/-!
Owns what programs do with a list of votes: tables built in one pass over it, the
entry with the largest count, and the value at a rank.

A hash table is the list of its entries, no key twice. `upsert` changes the value
at a key or puts one there; `collect` folds it over the input, and `lookup_collect`
says what stands at a key without mentioning the table. A table is read in an order
nobody knows: an `IterationOrder` is any of them.

Does not own any quorum. Which counts are enough is a matter of the caller.
-/

set_option autoImplicit false

namespace CrFaucet.Tally

/-! ### Tables -/

section Table

variable {Key Value Item : Type*} [DecidableEq Key]

/-- Change the value at a key; `none` is an absent key. -/
def upsert (key : Key) (change : Option Value → Value) : List (Key × Value) → List (Key × Value)
  | [] => [(key, change none)]
  | entry :: rest =>
      if entry.1 = key then (key, change (some entry.2)) :: rest
      else entry :: upsert key change rest

/-- One `upsert` for every item. -/
def collect (key : Item → Key) (change : Item → Option Value → Value) (items : List Item) :
    List (Key × Value) :=
  items.foldl (fun table item => upsert (key item) (change item) table) []

theorem map_fst_upsert (key : Key) (change : Option Value → Value) (table : List (Key × Value)) :
    (upsert key change table).map Prod.fst =
      if key ∈ table.map Prod.fst then table.map Prod.fst else table.map Prod.fst ++ [key] := by
  induction table with
  | nil => rfl
  | cons entry rest inductionHypothesis =>
      by_cases same : entry.1 = key
      · simp [upsert, same]
      · have different : ¬key = entry.1 := fun other => same other.symm
        simp only [upsert, if_neg same, List.map_cons, inductionHypothesis, List.mem_cons,
          different, false_or]
        split <;> rfl

theorem nodup_upsert {table : List (Key × Value)} (distinct : (table.map Prod.fst).Nodup)
    (key : Key) (change : Option Value → Value) :
    ((upsert key change table).map Prod.fst).Nodup := by
  rw [map_fst_upsert]
  split
  · exact distinct
  · rename_i new
    exact List.nodup_append.2 ⟨distinct, List.nodup_singleton key, by
      intro first isKey second isNew same
      rw [List.mem_singleton] at isNew
      exact new (isNew ▸ same ▸ isKey)⟩

theorem lookup_upsert (key other : Key) (change : Option Value → Value)
    (table : List (Key × Value)) :
    (upsert key change table).lookup other =
      if other = key then some (change (table.lookup key)) else table.lookup other := by
  induction table with
  | nil =>
      by_cases same : other = key
      · simp [upsert, same]
      · simp [upsert, same, List.lookup_cons, beq_false_of_ne same]
  | cons entry rest inductionHypothesis =>
      obtain ⟨present, value⟩ := entry
      by_cases here : present = key
      · subst here
        by_cases same : other = present
        · simp [upsert, same]
        · simp [upsert, same, List.lookup_cons, beq_false_of_ne same]
      · have there : key ≠ present := fun same => here same.symm
        simp only [upsert, if_neg here, List.lookup_cons, inductionHypothesis,
          beq_false_of_ne there]
        by_cases same : other = key
        · subst same
          simp [beq_false_of_ne there]
        · simp [same]

theorem mem_iff_lookup {table : List (Key × Value)} (distinct : (table.map Prod.fst).Nodup)
    {key : Key} {value : Value} : (key, value) ∈ table ↔ table.lookup key = some value := by
  induction table with
  | nil => simp
  | cons entry rest inductionHypothesis =>
      obtain ⟨present, stored⟩ := entry
      rw [List.map_cons, List.nodup_cons] at distinct
      have later := inductionHypothesis distinct.2
      by_cases here : key = present
      · subst here
        have absent : (key, value) ∉ rest := by
          intro member
          exact distinct.1 (List.mem_map.2 ⟨_, member, rfl⟩)
        simp [absent, eq_comm]
      · simp [List.lookup_cons, here, beq_false_of_ne here, later]

theorem mem_keys_iff_lookup {table : List (Key × Value)} {key : Key} :
    key ∈ table.map Prod.fst ↔ (table.lookup key).isSome = true := by
  induction table with
  | nil => simp
  | cons entry rest inductionHypothesis =>
      obtain ⟨present, stored⟩ := entry
      by_cases here : key = present
      · simp [here]
      · rw [List.map_cons, List.mem_cons, inductionHypothesis, List.lookup_cons,
          beq_false_of_ne here]
        simp [here]

section Collect

variable (key : Item → Key) (change : Item → Option Value → Value)

theorem nodup_collect (items : List Item) :
    ((collect key change items).map Prod.fst).Nodup := by
  induction items using List.reverseRecOn with
  | nil => exact List.nodup_nil
  | append_singleton items item inductionHypothesis =>
      rw [collect, List.foldl_append]
      exact nodup_upsert inductionHypothesis (key item) (change item)

/-- **What stands at a key** depends on the items of that key alone, in their order. -/
theorem lookup_collect (items : List Item) (place : Key) :
    (collect key change items).lookup place =
      (items.filter fun item => key item = place).foldl
        (fun value item => some (change item value)) none := by
  induction items using List.reverseRecOn with
  | nil => rfl
  | append_singleton items item inductionHypothesis =>
      have last : collect key change (items ++ [item]) =
          upsert (key item) (change item) (collect key change items) := by
        rw [collect, List.foldl_append]
        rfl
      rw [last, lookup_upsert, List.filter_append, List.foldl_append]
      by_cases same : place = key item
      · subst same
        simp [inductionHypothesis]
      · have different : ¬key item = place := fun other => same other.symm
        simp [same, different, inductionHypothesis]

end Collect

/-! ### Counting and grouping -/

def votesFor (votes : List Key) (value : Key) : Nat := votes.countP fun vote => vote = value

/-- How often each value was voted for. -/
def tally (votes : List Key) : List (Key × Nat) :=
  collect id (fun _ count => count.getD 0 + 1) votes

/-- The items of each key, in their order. -/
def groupBy (key : Item → Key) (items : List Item) : List (Key × List Item) :=
  collect key (fun item group => group.getD [] ++ [item]) items

theorem foldl_count (items : List Item) (count : Nat) :
    items.foldl (fun value _ => some (value.getD 0 + 1)) (some count) =
      some (count + items.length) := by
  induction items generalizing count with
  | nil => rfl
  | cons item rest inductionHypothesis =>
      rw [List.foldl_cons, Option.getD_some, inductionHypothesis, List.length_cons]
      congr 1
      omega

theorem foldl_push (items group : List Item) :
    items.foldl (fun value item => some (value.getD [] ++ [item])) (some group) =
      some (group ++ items) := by
  induction items generalizing group with
  | nil => simp
  | cons item rest inductionHypothesis =>
      rw [List.foldl_cons, Option.getD_some, inductionHypothesis, List.append_assoc,
        List.singleton_append]

theorem nodup_tally (votes : List Key) : ((tally votes).map Prod.fst).Nodup :=
  nodup_collect _ _ votes

/-- **The table holds the counts**, of the values that were voted for. -/
theorem mem_tally {votes : List Key} {vote : Key} {count : Nat} :
    (vote, count) ∈ tally votes ↔ count = votesFor votes vote ∧ 0 < count := by
  have length : (votes.filter fun item => id item = vote).length = votesFor votes vote :=
    List.countP_eq_length_filter.symm
  rw [mem_iff_lookup (nodup_tally votes), tally, lookup_collect]
  cases same : votes.filter fun item => id item = vote with
  | nil =>
      rw [same, List.length_nil] at length
      rw [List.foldl_nil, ← length]
      constructor
      · intro absent
        cases absent
      · intro both
        omega
  | cons first rest =>
      rw [same, List.length_cons] at length
      rw [List.foldl_cons, Option.getD_none, foldl_count, ← length, Option.some.injEq]
      omega

theorem lookup_groupBy (key : Item → Key) (items : List Item) (place : Key) :
    (groupBy key items).lookup place =
      if items.filter (fun item => key item = place) = [] then none
      else some (items.filter fun item => key item = place) := by
  rw [groupBy, lookup_collect]
  cases same : items.filter fun item => key item = place with
  | nil => rfl
  | cons first rest =>
      rw [List.foldl_cons, Option.getD_none, List.nil_append, foldl_push]
      rfl

/-- **The group at a key** is the part of the input with that key. -/
theorem lookup_groupBy_getD (key : Item → Key) (items : List Item) (place : Key) :
    ((groupBy key items).lookup place).getD [] = items.filter fun item => key item = place := by
  rw [lookup_groupBy]
  split
  · rename_i empty
    exact empty.symm
  · rfl

theorem mem_keys_groupBy (key : Item → Key) (items : List Item) (place : Key) :
    place ∈ (groupBy key items).map Prod.fst ↔ ∃ item ∈ items, key item = place := by
  rw [mem_keys_iff_lookup, lookup_groupBy]
  split
  · rename_i empty
    rw [List.filter_eq_nil_iff] at empty
    simpa using empty
  · rename_i present
    rw [List.filter_eq_nil_iff] at present
    simpa using present

end Table

/-! ### Reading a table -/

/-- An order in which the entries of a table may come. -/
structure IterationOrder (Entry : Type*) where
  arrange : List Entry → List Entry
  perm : ∀ table, (arrange table).Perm table

namespace IterationOrder

variable {Entry : Type*}

def listed : IterationOrder Entry where
  arrange := id
  perm := .refl

def reversed : IterationOrder Entry where
  arrange := List.reverse
  perm := List.reverse_perm

end IterationOrder

section LastMax

variable {Item : Type*} (rank : Item → Nat)

/-- The last of the items of the largest rank. -/
def lastMax (items : List Item) : Option Item :=
  items.foldl
    (fun best item => some (best.elim item fun best => if rank best ≤ rank item then item else best))
    none

theorem lastMax_append_singleton (items : List Item) (item : Item) :
    lastMax rank (items ++ [item]) =
      some ((lastMax rank items).elim item
        fun best => if rank best ≤ rank item then item else best) := by
  rw [lastMax, List.foldl_append]
  rfl

theorem lastMax_eq_none {items : List Item} : lastMax rank items = none ↔ items = [] := by
  induction items using List.reverseRecOn with
  | nil => simp [lastMax]
  | append_singleton items item inductionHypothesis => simp [lastMax_append_singleton]

variable {rank}

theorem lastMax_spec {items : List Item} {best : Item} (found : lastMax rank items = some best) :
    best ∈ items ∧ ∀ item ∈ items, rank item ≤ rank best := by
  induction items using List.reverseRecOn generalizing best with
  | nil => cases found
  | append_singleton items item inductionHypothesis =>
      rw [lastMax_append_singleton] at found
      cases before : lastMax rank items with
      | none =>
          rw [(lastMax_eq_none rank).1 before]
          rw [before] at found
          cases found
          simp
      | some earlier =>
          obtain ⟨member, largest⟩ := inductionHypothesis before
          rw [before, Option.elim_some] at found
          split at found
          · rename_i larger
            cases found
            constructor
            · simp
            · intro other isOther
              rcases List.mem_append.1 isOther with old | new
              · exact (largest other old).trans larger
              · rw [List.mem_singleton.1 new]
          · rename_i smaller
            cases found
            constructor
            · exact List.mem_append_left _ member
            · intro other isOther
              rcases List.mem_append.1 isOther with old | new
              · exact largest other old
              · rw [List.mem_singleton.1 new]
                omega

end LastMax

/-! ### The value at a rank -/

section Rank

variable {Value : Type*} [LE Value] [DecidableLE Value]

/-- The largest value first. -/
def descending (values : List Value) : List Value :=
  values.insertionSort fun first second => second ≤ first

theorem descending_perm (values : List Value) : (descending values).Perm values :=
  List.perm_insertionSort _ values

variable [Std.IsLinearOrder Value]

theorem descending_pairwise (values : List Value) :
    (descending values).Pairwise fun first second => second ≤ first := by
  have total : Std.Total fun first second : Value => second ≤ first :=
    ⟨fun first second => Std.le_total (a := second) (b := first)⟩
  have transitive : IsTrans Value fun first second : Value => second ≤ first :=
    ⟨fun _ _ _ upper lower => Std.le_trans lower upper⟩
  exact List.pairwise_insertionSort _ values

/-- In a list sorted downwards, position `rank` has more than `rank` values at or above it,
and what is above it has at most `rank`. -/
theorem countP_of_pairwise {values : List Value}
    (sorted : values.Pairwise fun first second => second ≤ first) {rank : Nat} {value : Value}
    (found : values[rank]? = some value) :
    rank < values.countP (fun other => value ≤ other) ∧
      ∀ bound : Value, ¬bound ≤ value → values.countP (fun other => bound ≤ other) ≤ rank := by
  induction values generalizing rank with
  | nil => cases found
  | cons first rest inductionHypothesis =>
      rw [List.pairwise_cons] at sorted
      cases rank with
      | zero =>
          rw [List.getElem?_cons_zero, Option.some.injEq] at found
          subst found
          constructor
          · exact List.countP_pos_iff.2 ⟨first, List.mem_cons_self .., by simp⟩
          · intro bound above
            rw [Nat.le_zero, List.countP_eq_zero]
            intro other member
            rcases List.mem_cons.1 member with rfl | later
            · simpa using above
            · intro reaches
              exact above (Std.le_trans (of_decide_eq_true reaches) (sorted.1 other later))
      | succ rank =>
          rw [List.getElem?_cons_succ] at found
          obtain ⟨enough, few⟩ := inductionHypothesis sorted.2 found
          have below : value ≤ first := sorted.1 value (List.mem_of_getElem? found)
          constructor
          · rw [List.countP_cons_of_pos (by simpa using below)]
            omega
          · intro bound above
            have atMost := few bound above
            rw [List.countP_cons]
            split <;> omega

/-- **The order statistic.** The value at a rank is the largest bound that more than
`rank` values reach. -/
theorem descending_getElem? {values : List Value} {rank : Nat} {value : Value}
    (found : (descending values)[rank]? = some value) :
    rank < values.countP (fun other => value ≤ other) ∧
      ∀ bound : Value, rank < values.countP (fun other => bound ≤ other) → bound ≤ value := by
  obtain ⟨enough, few⟩ := countP_of_pairwise (descending_pairwise values) found
  constructor
  · rwa [(descending_perm values).countP_eq] at enough
  · intro bound reached
    by_contra above
    have atMost := few bound above
    rw [(descending_perm values).countP_eq] at atMost
    omega

end Rank

end CrFaucet.Tally
