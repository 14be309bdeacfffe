import Mathlib.Algebra.GroupWithZero.Nat
import Mathlib.Data.List.Basic

/-!
Owns spending against a cap over every window of a fixed length, and the check before
one more expense that keeps the cap: what still counts at some moment before it, plus
the expense, fits.

Expenses are logged in the order they are made and their times do not decrease.
-/

set_option autoImplicit false

namespace CrFaucet.SlidingWindow

/-- What was spent, and when. -/
structure Expense where
  time : Nat
  amount : Nat
deriving DecidableEq

variable {period cap now : Nat} {log : List Expense}

def totalOf (counts : Expense → Bool) (log : List Expense) : Nat :=
  ((log.filter counts).map Expense.amount).sum

/-- What was spent in the window of this length that begins at `start`. -/
def spentIn (period start : Nat) (log : List Expense) : Nat :=
  totalOf (fun expense => start ≤ expense.time && expense.time < start + period) log

/-- What was spent less than a period before `now`. -/
def recent (period now : Nat) (log : List Expense) : Nat :=
  totalOf (fun expense => now < expense.time + period) log

theorem totalOf_append (counts : Expense → Bool) (first second : List Expense) :
    totalOf counts (first ++ second) = totalOf counts first + totalOf counts second := by
  simp only [totalOf, List.filter_append, List.map_append, List.sum_append]

theorem totalOf_cons (counts : Expense → Bool) (expense : Expense) (rest : List Expense) :
    totalOf counts (expense :: rest) =
      (if counts expense = true then expense.amount else 0) + totalOf counts rest := by
  by_cases counted : counts expense = true
  · rw [totalOf, List.filter_cons_of_pos counted, if_pos counted]
    rfl
  · rw [totalOf, List.filter_cons_of_neg counted, if_neg counted, Nat.zero_add]
    rfl

theorem totalOf_le_totalOf {counts counts' : Expense → Bool}
    (implies : ∀ expense ∈ log, counts expense = true → counts' expense = true) :
    totalOf counts log ≤ totalOf counts' log := by
  induction log with
  | nil => exact Nat.le_refl _
  | cons expense rest inductionHypothesis =>
      have inRest := inductionHypothesis fun other member =>
        implies other (List.mem_cons_of_mem _ member)
      rw [totalOf_cons, totalOf_cons]
      by_cases counted : counts expense = true
      · rw [if_pos counted, if_pos (implies expense List.mem_cons_self counted)]
        exact Nat.add_le_add_left inRest _
      · rw [if_neg counted, Nat.zero_add]
        exact Nat.le_add_left_of_le inRest

/-- Everything logged is past, and no window holds more than the cap. -/
structure Capped (period cap now : Nat) (log : List Expense) : Prop where
  past : ∀ expense ∈ log, expense.time ≤ now
  within : ∀ start, spentIn period start log ≤ cap

theorem Capped.nil : Capped period cap now [] where
  past := fun _ member => absurd member List.not_mem_nil
  within := fun _ => Nat.zero_le _

theorem Capped.wait (capped : Capped period cap now log) {later : Nat} (order : now ≤ later) :
    Capped period cap later log where
  past := fun expense member => Nat.le_trans (capped.past expense member) order
  within := capped.within

/-- **One more expense.** A window that holds it reaches back less than a period, so
all else it holds was counted by the check. -/
theorem Capped.spend (capped : Capped period cap now log) {time amount : Nat} (order : now ≤ time)
    (fits : recent period now log + amount ≤ cap) :
    Capped period cap time (log ++ [⟨time, amount⟩]) where
  past := by
    intro expense member
    rw [List.mem_append, List.mem_singleton] at member
    cases member with
    | inl logged => exact Nat.le_trans (capped.past expense logged) order
    | inr last =>
        subst last
        exact Nat.le_refl time
  within := by
    intro start
    rw [spentIn, totalOf_append]
    by_cases holds : start ≤ time ∧ time < start + period
    · have counted : spentIn period start log ≤ recent period now log := by
        apply totalOf_le_totalOf
        intro expense _ inside
        simp only [Bool.and_eq_true, decide_eq_true_eq] at inside ⊢
        omega
      have last : totalOf (fun expense => start ≤ expense.time && expense.time < start + period)
          [⟨time, amount⟩] = amount := by
        simp [totalOf, holds]
      rw [last]
      exact Nat.le_trans (Nat.add_le_add_right counted amount) fits
    · have last : totalOf (fun expense => start ≤ expense.time && expense.time < start + period)
          [⟨time, amount⟩] = 0 := by
        have outside : (decide (start ≤ time) && decide (time < start + period)) = false := by
          simpa using holds
        simp [totalOf, outside]
      rw [last]
      exact capped.within start

end CrFaucet.SlidingWindow
