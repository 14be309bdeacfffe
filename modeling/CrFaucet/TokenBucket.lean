import Mathlib.Algebra.Order.Field.Basic
import Mathlib.Tactic.Linarith
import Mathlib.Tactic.Ring
import CrFaucet.Interaction.Run

/-!
Owns token buckets over an ordered field, what sweeping full ones away does to them, and the
bound they put on every interval of time.

A slot is a bucket or none; a use of an empty slot puts a fresh bucket there. What a use finds
at a time, `present`, is all that matters of a slot: `present_sweep` says that a sweep does not
change it, as long as times do not go back.

The bound is a budget. Passes since a moment, plus the tokens now, are at most one burst and
what flowed in since then; a pass moves one unit from the second term to the first.
-/

set_option autoImplicit false

namespace CrFaucet

/-- Refills at `rate` per unit of time and holds at most `rate`. -/
structure TokenBucket (K : Type*) where
  tokens : K
  rate : K
  last : K
deriving DecidableEq

namespace TokenBucket

open Interaction

variable {K : Type*} [Field K] [LinearOrder K]

def fresh (rate now : K) : TokenBucket K := ⟨rate, rate, now⟩

/-- A time before `last` refills nothing, but becomes `last`. -/
def refill (bucket : TokenBucket K) (now : K) : TokenBucket K where
  tokens := min (bucket.tokens + max 0 (now - bucket.last) * bucket.rate) bucket.rate
  rate := bucket.rate
  last := now

/-- One token less. -/
def spend (bucket : TokenBucket K) : TokenBucket K :=
  { bucket with tokens := bucket.tokens - 1 }

def allow (bucket : TokenBucket K) (now : K) : Bool × TokenBucket K :=
  if 1 ≤ (bucket.refill now).tokens then (true, (bucket.refill now).spend)
  else (false, bucket.refill now)

def isFull (bucket : TokenBucket K) (now : K) : Bool × TokenBucket K :=
  (bucket.rate ≤ (bucket.refill now).tokens, bucket.refill now)

/-! ### Slots -/

/-- A full bucket goes, another one stays as it was refilled for the test. -/
def sweep (slot : Option (TokenBucket K)) (now : K) : Option (TokenBucket K) :=
  slot.bind fun bucket => if (bucket.isFull now).1 then none else some (bucket.isFull now).2

/-- A use, with a fresh bucket where there is none. -/
def use (rate : K) (slot : Option (TokenBucket K)) (now : K) : Bool × TokenBucket K :=
  (slot.getD (fresh rate now)).allow now

/-- What a use at this time finds. -/
def present (rate : K) (slot : Option (TokenBucket K)) (now : K) : TokenBucket K :=
  (slot.getD (fresh rate now)).refill now

/-- The buckets of a limiter: of its rate, within bounds, not ahead of time. -/
structure Kept (rate latest : K) (bucket : TokenBucket K) : Prop where
  rated : bucket.rate = rate
  nonneg : 0 ≤ bucket.tokens
  capped : bucket.tokens ≤ rate
  past : bucket.last ≤ latest

theorem Kept.wait {rate latest later : K} {bucket : TokenBucket K}
    (kept : Kept rate latest bucket) (order : latest ≤ later) : Kept rate later bucket :=
  { kept with past := kept.past.trans order }

theorem use_of_one_le {rate now : K} {slot : Option (TokenBucket K)}
    (enough : 1 ≤ (present rate slot now).tokens) :
    use rate slot now = (true, (present rate slot now).spend) := if_pos enough

theorem use_of_lt_one {rate now : K} {slot : Option (TokenBucket K)}
    (short : ¬1 ≤ (present rate slot now).tokens) :
    use rate slot now = (false, present rate slot now) := if_neg short

theorem use_congr {rate now : K} {slot other : Option (TokenBucket K)}
    (same : present rate slot now = present rate other now) :
    use rate slot now = use rate other now := by
  by_cases enough : 1 ≤ (present rate slot now).tokens
  · rw [use_of_one_le enough, use_of_one_le (same ▸ enough), same]
  · rw [use_of_lt_one enough, use_of_lt_one (same ▸ enough), same]

variable [IsStrictOrderedRing K] {rate latest now later : K} {bucket : TokenBucket K}
  {slot : Option (TokenBucket K)}

/-! ### Refilling -/

theorem refill_tokens (past : bucket.last ≤ now) :
    (bucket.refill now).tokens =
      min (bucket.tokens + (now - bucket.last) * bucket.rate) bucket.rate := by
  have elapsed : max 0 (now - bucket.last) = now - bucket.last :=
    max_eq_right (sub_nonneg.2 past)
  rw [refill, elapsed]

/-- **Refilling in two steps is refilling at once.** -/
theorem refill_refill (nonneg : 0 ≤ bucket.rate) (past : bucket.last ≤ now) (order : now ≤ later) :
    (bucket.refill now).refill later = bucket.refill later := by
  have tokens : ((bucket.refill now).refill later).tokens = (bucket.refill later).tokens := by
    rw [refill_tokens (show (bucket.refill now).last ≤ later from order),
      refill_tokens (past.trans order), refill_tokens past]
    change min (min _ _ + (later - now) * bucket.rate) bucket.rate = _
    have inflow : 0 ≤ (later - now) * bucket.rate := mul_nonneg (sub_nonneg.2 order) nonneg
    have flows : bucket.tokens + (now - bucket.last) * bucket.rate + (later - now) * bucket.rate =
        bucket.tokens + (later - bucket.last) * bucket.rate := by ring
    have capped : min (bucket.rate + (later - now) * bucket.rate) bucket.rate = bucket.rate :=
      min_eq_right (by linarith)
    rw [← min_add_add_right, flows, min_assoc, capped]
  cases bucket
  exact congrArg (fun tokens => (⟨tokens, _, later⟩ : TokenBucket K)) tokens

/-- A full bucket is as good as a fresh one. -/
theorem refill_of_full (nonneg : 0 ≤ bucket.rate) (full : bucket.tokens = bucket.rate) :
    bucket.refill now = fresh bucket.rate now := by
  have inflow : 0 ≤ max 0 (now - bucket.last) * bucket.rate :=
    mul_nonneg (le_max_left _ _) nonneg
  rw [refill, full, min_eq_right (by linarith)]
  rfl

theorem present_none (nonneg : 0 ≤ rate) : present rate none now = fresh rate now :=
  refill_of_full nonneg rfl

theorem Kept.refill (nonneg : 0 ≤ rate) (kept : Kept rate latest bucket) (order : latest ≤ now) :
    Kept rate now (bucket.refill now) where
  rated := kept.rated
  nonneg := by
    have inflow : 0 ≤ (now - bucket.last) * bucket.rate :=
      mul_nonneg (sub_nonneg.2 (kept.past.trans order)) (kept.rated ▸ nonneg)
    rw [refill_tokens (kept.past.trans order), kept.rated]
    exact le_min (add_nonneg kept.nonneg (kept.rated ▸ inflow)) nonneg
  capped := by
    rw [refill_tokens (kept.past.trans order), kept.rated]
    exact min_le_right _ _
  past := le_refl now

theorem kept_present (nonneg : 0 ≤ rate) (kept : ∀ bucket ∈ slot, Kept rate latest bucket)
    (order : latest ≤ now) : Kept rate now (present rate slot now) := by
  cases slot with
  | none =>
      rw [present_none nonneg]
      exact ⟨rfl, nonneg, le_refl rate, le_refl now⟩
  | some bucket => exact (kept bucket rfl).refill nonneg order

/-! ### Sweeping -/

theorem kept_sweep (nonneg : 0 ≤ rate) (kept : ∀ bucket ∈ slot, Kept rate latest bucket)
    (order : latest ≤ now) : ∀ bucket ∈ sweep slot now, Kept rate now bucket := by
  intro bucket left
  obtain ⟨before, present, stays⟩ := Option.bind_eq_some_iff.1 left
  split at stays
  · cases stays
  · cases stays
    exact (kept before present).refill nonneg order

/-- **A sweep is not seen** by any later use. -/
theorem present_sweep (nonneg : 0 ≤ rate) (kept : ∀ bucket ∈ slot, Kept rate latest bucket)
    (order : latest ≤ now) (after : now ≤ later) :
    present rate (sweep slot now) later = present rate slot later := by
  cases slot with
  | none => rfl
  | some bucket =>
      have keptBucket := kept bucket rfl
      have rated : 0 ≤ bucket.rate := keptBucket.rated ▸ nonneg
      have again := refill_refill rated (keptBucket.past.trans order) after
      by_cases full : bucket.rate ≤ (bucket.refill now).tokens
      · have gone : sweep (some bucket) now = none := if_pos (decide_eq_true full)
        have isFull : (bucket.refill now).tokens = (bucket.refill now).rate :=
          le_antisymm (min_le_right _ _) full
        rw [gone, present_none nonneg]
        have asFresh : (bucket.refill now).refill later = fresh bucket.rate later :=
          refill_of_full rated isFull
        rw [again, keptBucket.rated] at asFresh
        exact asFresh.symm
      · have stays : sweep (some bucket) now = some (bucket.refill now) :=
          if_neg (by simpa [isFull] using full)
        rw [stays]
        exact again

/-! ### Using -/

theorem kept_use (nonneg : 0 ≤ rate) (kept : ∀ bucket ∈ slot, Kept rate latest bucket)
    (order : latest ≤ now) : Kept rate now (use rate slot now).2 := by
  have found := kept_present nonneg kept order
  by_cases enough : 1 ≤ (present rate slot now).tokens
  · rw [use_of_one_le enough]
    exact ⟨found.rated, sub_nonneg.2 enough,
      (sub_le_self _ zero_le_one).trans found.capped, found.past⟩
  · rw [use_of_lt_one enough]
    exact found

theorem present_present (nonneg : 0 ≤ rate) (kept : ∀ bucket ∈ slot, Kept rate latest bucket)
    (order : latest ≤ now) (after : now ≤ later) :
    (present rate slot now).refill later = present rate slot later := by
  cases slot with
  | none =>
      rw [present_none nonneg, present_none nonneg]
      exact refill_of_full nonneg rfl
  | some bucket =>
      have keptBucket := kept bucket rfl
      exact refill_refill (keptBucket.rated ▸ nonneg) (keptBucket.past.trans order) after

/-! ### The budget -/

/-- How many of the times are not before `start`. -/
def since (start : K) (passes : List K) : Nat := passes.countP fun time => start ≤ time

/-- How many of the times lie in the interval. -/
def within (start stop : K) (passes : List K) : Nat :=
  passes.countP fun time => start ≤ time && time ≤ stop

/-- A slot and the times it let something pass. -/
structure Metered (rate latest : K) (slot : Option (TokenBucket K)) (passes : List K) : Prop where
  kept : ∀ bucket ∈ slot, Kept rate latest bucket
  budget : ∀ start now, latest ≤ now →
    (since start passes : K) + (present rate slot now).tokens ≤ rate * (1 + max 0 (now - start))
  window : ∀ start stop, start ≤ stop →
    (within start stop passes : K) ≤ rate * (1 + (stop - start))

namespace Metered

variable {passes : List K}

theorem start (nonneg : 0 ≤ rate) (latest : K) : Metered rate latest none [] where
  kept := by
    intro bucket absent
    cases absent
  budget := by
    intro start now _
    have inflow : 0 ≤ rate * max 0 (now - start) := mul_nonneg nonneg (le_max_left _ _)
    rw [present_none nonneg]
    simp only [since, List.countP_nil, Nat.cast_zero, zero_add, fresh]
    linarith
  window := by
    intro start stop order
    have inflow : 0 ≤ rate * (1 + (stop - start)) := mul_nonneg nonneg (by linarith)
    simpa [within] using inflow

theorem sweep (nonneg : 0 ≤ rate) (metered : Metered rate latest slot passes)
    (order : latest ≤ now) : Metered rate now (TokenBucket.sweep slot now) passes where
  kept := kept_sweep nonneg metered.kept order
  budget := by
    intro start later after
    rw [present_sweep nonneg metered.kept order after]
    exact metered.budget start later (order.trans after)
  window := metered.window

theorem tokens_after_pass (nonneg : 0 ≤ rate) (metered : Metered rate latest slot passes)
    (order : latest ≤ now) (after : now ≤ later) :
    ((present rate slot now).spend.refill later).tokens ≤
        (present rate slot now).tokens - 1 + (later - now) * rate ∧
      ((present rate slot now).spend.refill later).tokens ≤ (present rate slot later).tokens := by
  have found := kept_present nonneg metered.kept order
  have spent : ((present rate slot now).spend.refill later).tokens =
      min ((present rate slot now).tokens - 1 + (later - now) * rate) rate := by
    rw [refill_tokens (show (present rate slot now).spend.last ≤ later from after),
      show (present rate slot now).spend.rate = rate from found.rated]
    rfl
  have unspent : (present rate slot later).tokens =
      min ((present rate slot now).tokens + (later - now) * rate) rate := by
    rw [← present_present nonneg metered.kept order after, refill_tokens (found.past.trans after),
      found.rated]
    rfl
  rw [spent, unspent]
  exact ⟨min_le_left _ _, min_le_min_right _ (by linarith)⟩

/-- **A pass** moves a token from the bucket to the count. -/
theorem budget_pass (nonneg : 0 ≤ rate) (metered : Metered rate latest slot passes)
    (order : latest ≤ now) (start : K) (after : now ≤ later) :
    (since start (now :: passes) : K) + ((present rate slot now).spend.refill later).tokens ≤
      rate * (1 + max 0 (later - start)) := by
  obtain ⟨spent, fewer⟩ := tokens_after_pass nonneg metered order after
  by_cases counted : start ≤ now
  · have before := metered.budget start now order
    rw [max_eq_right (sub_nonneg.2 counted)] at before
    have one : since start (now :: passes) = since start passes + 1 :=
      List.countP_cons_of_pos (by simpa using counted)
    rw [one, Nat.cast_add, Nat.cast_one, max_eq_right (sub_nonneg.2 (counted.trans after))]
    linarith
  · have before := metered.budget start later (order.trans after)
    have none : since start (now :: passes) = since start passes :=
      List.countP_cons_of_neg (by simpa using counted)
    rw [none]
    linarith

omit [Field K] [IsStrictOrderedRing K] in
theorem within_le_since (start stop : K) (passes : List K) :
    within start stop passes ≤ since start passes := by
  refine List.countP_mono_left ?_
  intro time _ inside
  rw [Bool.and_eq_true] at inside
  exact inside.1

theorem pass (nonneg : 0 ≤ rate) (metered : Metered rate latest slot passes)
    (order : latest ≤ now) (enough : 1 ≤ (present rate slot now).tokens) :
    Metered rate now (some (present rate slot now).spend) (now :: passes) where
  kept := by
    intro bucket same
    cases same
    have after := kept_use nonneg metered.kept order
    rw [use_of_one_le enough] at after
    exact after
  budget := fun start later after => metered.budget_pass nonneg order start after
  window := by
    intro start stop inOrder
    by_cases inside : start ≤ now ∧ now ≤ stop
    · have budget := metered.budget_pass nonneg order start (le_refl now)
      have left : 0 ≤ ((present rate slot now).spend.refill now).tokens := by
        have after := kept_use nonneg metered.kept order
        rw [use_of_one_le enough] at after
        exact (after.refill nonneg (le_refl now)).nonneg
      have counted : (within start stop (now :: passes) : K) ≤ since start (now :: passes) :=
        Nat.cast_le.2 (within_le_since start stop _)
      have longer : rate * (1 + max 0 (now - start)) ≤ rate * (1 + (stop - start)) := by
        rw [max_eq_right (sub_nonneg.2 inside.1)]
        exact mul_le_mul_of_nonneg_left (by linarith [inside.2]) nonneg
      linarith
    · have same : within start stop (now :: passes) = within start stop passes :=
        List.countP_cons_of_neg (by simpa using inside)
      rw [same]
      exact metered.window start stop inOrder

theorem refuse (nonneg : 0 ≤ rate) (metered : Metered rate latest slot passes)
    (order : latest ≤ now) : Metered rate now (some (present rate slot now)) passes where
  kept := by
    intro bucket same
    cases same
    exact kept_present nonneg metered.kept order
  budget := by
    intro start later after
    change _ + ((present rate slot now).refill later).tokens ≤ _
    rw [present_present nonneg metered.kept order after]
    exact metered.budget start later (order.trans after)
  window := metered.window

end Metered

/-! ### One slot through a whole run -/

inductive Touch (K : Type*) where
  | sweep (now : K)
  | use (now : K)

def Touch.time : Touch K → K
  | .sweep now => now
  | .use now => now

/-- A slot with the times of its passes, newest first. -/
structure Meter (K : Type*) where
  slot : Option (TokenBucket K)
  passes : List K

namespace Meter

def step (rate : K) (meter : Meter K) : Touch K → Meter K
  | .sweep now => { meter with slot := TokenBucket.sweep meter.slot now }
  | .use now =>
      { slot := some (use rate meter.slot now).2
        passes := if (use rate meter.slot now).1 then now :: meter.passes else meter.passes }

def start : Meter K := ⟨none, []⟩

theorem metered_step (nonneg : 0 ≤ rate) {meter : Meter K}
    (metered : Metered rate latest meter.slot meter.passes) (touch : Touch K)
    (order : latest ≤ touch.time) :
    Metered rate touch.time (meter.step rate touch).slot (meter.step rate touch).passes := by
  cases touch with
  | sweep now => exact metered.sweep nonneg order
  | use now =>
      by_cases enough : 1 ≤ (present rate meter.slot now).tokens
      · simp only [step, use_of_one_le enough, if_true]
        exact metered.pass nonneg order enough
      · simp only [step, use_of_lt_one enough, Bool.false_eq_true, if_false]
        exact metered.refuse nonneg order

/-- **Every run whose times do not go back** stays within the budget. -/
theorem metered_run (nonneg : 0 ≤ rate) {meter : Meter K} {touches : List (Touch K)}
    (metered : Metered rate latest meter.slot meter.passes)
    (inOrder : (touches.map Touch.time).Pairwise fun first second => first ≤ second)
    (ahead : ∀ touch ∈ touches, latest ≤ touch.time) :
    ∃ last, Metered rate last (run (step rate) meter touches).slot
      (run (step rate) meter touches).passes := by
  induction touches generalizing meter latest with
  | nil => exact ⟨latest, metered⟩
  | cons touch rest inductionHypothesis =>
      rw [List.map_cons, List.pairwise_cons] at inOrder
      have next := metered_step nonneg metered touch (ahead touch (List.mem_cons_self ..))
      refine inductionHypothesis next inOrder.2 ?_
      intro other member
      exact inOrder.1 _ (List.mem_map_of_mem member)

/-- **The bound on every interval.** -/
theorem within_run_le (nonneg : 0 ≤ rate) {touches : List (Touch K)}
    (inOrder : (touches.map Touch.time).Pairwise fun first second => first ≤ second)
    {start stop : K} (order : start ≤ stop) :
    (within start stop (run (step rate) Meter.start touches).passes : K) ≤
      rate * (1 + (stop - start)) := by
  cases touches with
  | nil => exact (Metered.start nonneg start).window start stop order
  | cons touch rest =>
      have first : ∀ other ∈ touch :: rest, touch.time ≤ other.time := by
        intro other member
        rcases List.mem_cons.1 member with rfl | later
        · exact le_refl _
        · rw [List.map_cons, List.pairwise_cons] at inOrder
          exact inOrder.1 _ (List.mem_map_of_mem later)
      have atFirst : Metered rate touch.time (Meter.start : Meter K).slot Meter.start.passes :=
        Metered.start nonneg touch.time
      obtain ⟨last, metered⟩ := metered_run nonneg atFirst inOrder first
      exact metered.window start stop order

end Meter

end TokenBucket

end CrFaucet
