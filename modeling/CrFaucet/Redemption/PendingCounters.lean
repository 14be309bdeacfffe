import CrFaucet.Redemption.Effects

/-!
Owns the counters `redemptions:pending_atomic` and `redemptions:pending_count` as
books of the state hash: the sum of the recorded amounts, and the number, of the
ids whose state is `pending`, `in_flight` or `paused`.

Only two scripts adjust the counters; every other transition writes the state
hash directly. `keepsCounters` says which commands are in balance in a store:
direct writes that leave an id on its side of the line, scripts whose own
bookkeeping applies.

Does not own which of them the services send; see `Redemption.ExactCounters`.
-/

set_option autoImplicit false

namespace CrFaucet.Redemption

open Token (sum_add_eq_of_ne)

/-- The redemption is still owed. -/
def RedemptionState.live : RedemptionState → Bool
  | .pending => true
  | .inFlight => true
  | .paused => true
  | .sent => false
  | .failed => false

namespace Redis

def live (redis : Redis) (id : RedemptionId) : Bool :=
  (redis.state id).any RedemptionState.live

/-- What `id` contributes to `pending_atomic`. -/
def owed (redis : Redis) (id : RedemptionId) : Int :=
  if redis.live id then (redis.amount id).getD 0 else 0

/-- What `id` contributes to `pending_count`. -/
def counted (redis : Redis) (id : RedemptionId) : Int :=
  if redis.live id then 1 else 0

/-- Both counters say what the hashes say. -/
structure Exact (redis : Redis) : Prop where
  atomic : redis.pendingAtomic.getD 0 = ∑ id, redis.owed id
  count : redis.pendingCount.getD 0 = ∑ id, redis.counted id

/-- The counters are exact, fit an `i64`, and every live amount is a non-negative
integer that Lua arithmetic represents. -/
structure Balanced (redis : Redis) : Prop where
  exact : redis.Exact
  amounts : ∀ id, redis.live id = true → ∃ amount, redis.amount id = some amount ∧
    0 ≤ amount ∧ amount ≤ 2 ^ 53
  atomicFits : redis.pendingAtomic.getD 0 < 2 ^ 63
  countFits : redis.pendingCount.getD 0 < 2 ^ 63

theorem empty_balanced (entryClock : Nat) : (Redis.empty entryClock).Balanced where
  exact := ⟨by simp [empty, owed, live], by simp [empty, counted, live]⟩
  amounts id alive := by simp [empty, live] at alive
  atomicFits := by simp [empty]
  countFits := by simp [empty]

variable {redis after : Redis}

theorem Balanced.of_same (balanced : redis.Balanced) (live : ∀ id, after.live id = redis.live id)
    (amount : after.amount = redis.amount) (atomic : after.pendingAtomic = redis.pendingAtomic)
    (count : after.pendingCount = redis.pendingCount) : after.Balanced := by
  have owed : ∀ id, after.owed id = redis.owed id := fun id => by
    rw [Redis.owed, Redis.owed, live, amount]
  have counted : ∀ id, after.counted id = redis.counted id := fun id => by
    rw [Redis.counted, Redis.counted, live]
  refine ⟨⟨?_, ?_⟩, fun id alive => ?_, ?_, ?_⟩
  · rw [atomic, balanced.exact.atomic, Finset.sum_congr rfl fun id _ => owed id]
  · rw [count, balanced.exact.count, Finset.sum_congr rfl fun id _ => counted id]
  · rw [amount]
    exact balanced.amounts id (live id ▸ alive)
  · rw [atomic]
    exact balanced.atomicFits
  · rw [count]
    exact balanced.countFits

theorem owed_nonneg (balanced : redis.Balanced) (id : RedemptionId) : 0 ≤ redis.owed id := by
  unfold owed
  split
  · rename_i alive
    obtain ⟨amount, recorded, nonneg, _⟩ := balanced.amounts id alive
    rw [recorded]
    exact nonneg
  · exact le_refl 0

theorem counted_nonneg (redis : Redis) (id : RedemptionId) : 0 ≤ redis.counted id := by
  unfold counted
  split <;> decide

theorem Balanced.owed_le (balanced : redis.Balanced) (id : RedemptionId) :
    redis.owed id ≤ redis.pendingAtomic.getD 0 := by
  rw [balanced.exact.atomic]
  exact Finset.single_le_sum (fun other _ => owed_nonneg balanced other) (Finset.mem_univ id)

theorem Balanced.counted_le (balanced : redis.Balanced) (id : RedemptionId) :
    redis.counted id ≤ redis.pendingCount.getD 0 := by
  rw [balanced.exact.count]
  exact Finset.single_le_sum (fun other _ => counted_nonneg redis other) (Finset.mem_univ id)

theorem Balanced.change (balanced : redis.Balanced) (id : RedemptionId)
    (elsewhere : ∀ other, other ≠ id →
      after.live other = redis.live other ∧ after.amount other = redis.amount other)
    (amount : after.live id = true → ∃ amount, after.amount id = some amount ∧
      0 ≤ amount ∧ amount ≤ 2 ^ 53)
    (atomic : after.pendingAtomic.getD 0 + redis.owed id =
      redis.pendingAtomic.getD 0 + after.owed id)
    (count : after.pendingCount.getD 0 + redis.counted id =
      redis.pendingCount.getD 0 + after.counted id)
    (atomicFits : after.pendingAtomic.getD 0 < 2 ^ 63)
    (countFits : after.pendingCount.getD 0 < 2 ^ 63) : after.Balanced := by
  have owed : ∑ other, after.owed other + redis.owed id =
      ∑ other, redis.owed other + after.owed id := by
    apply sum_add_eq_of_ne id
    intro other distinct
    rw [Redis.owed, Redis.owed, (elsewhere other distinct).1, (elsewhere other distinct).2]
  have counted : ∑ other, after.counted other + redis.counted id =
      ∑ other, redis.counted other + after.counted id := by
    apply sum_add_eq_of_ne id
    intro other distinct
    rw [Redis.counted, Redis.counted, (elsewhere other distinct).1]
  refine ⟨⟨?_, ?_⟩, fun other alive => ?_, atomicFits, countFits⟩
  · apply add_right_cancel (b := redis.owed id)
    rw [atomic, balanced.exact.atomic, owed]
  · apply add_right_cancel (b := redis.counted id)
    rw [count, balanced.exact.count, counted]
  · by_cases same : other = id
    · subst same
      exact amount alive
    · rw [(elsewhere other same).2]
      exact balanced.amounts other ((elsewhere other same).1 ▸ alive)

/-! ### The scripts -/

theorem owed_of_dead {id : RedemptionId} (dead : redis.live id = false) : redis.owed id = 0 := by
  rw [owed, dead]
  rfl

theorem counted_of_dead {id : RedemptionId} (dead : redis.live id = false) :
    redis.counted id = 0 := by
  rw [counted, dead]
  rfl

theorem owed_of_live {id : RedemptionId} (alive : redis.live id = true) :
    redis.owed id = (redis.amount id).getD 0 := by
  rw [owed, alive]
  rfl

theorem counted_of_live {id : RedemptionId} (alive : redis.live id = true) :
    redis.counted id = 1 := by
  rw [counted, alive]
  rfl

theorem incrBy_eq {current : Option Int} {delta : Int} (low : -2 ^ 63 ≤ current.getD 0 + delta)
    (high : current.getD 0 + delta < 2 ^ 63) :
    incrBy current delta = some (current.getD 0 + delta) :=
  if_pos ⟨low, high⟩

theorem enqueueScript_new (lua : Lua) {id : RedemptionId} {amount : Int}
    (absent : redis.state id = none) (exact : lua.number amount = some amount)
    (atomic : incrBy redis.pendingAtomic amount = some (redis.pendingAtomic.getD 0 + amount))
    (count : incrBy redis.pendingCount 1 = some (redis.pendingCount.getD 0 + 1)) :
    ∃ after, redis.enqueueScript lua id amount = (after, some true) ∧
      after.state = Function.update redis.state id (some .pending) ∧
      after.amount = Function.update redis.amount id (some amount) ∧
      after.pendingAtomic = some (redis.pendingAtomic.getD 0 + amount) ∧
      after.pendingCount = some (redis.pendingCount.getD 0 + 1) := by
  refine ⟨{ redis with
    state := Function.update redis.state id (some .pending)
    amount := Function.update redis.amount id (some amount)
    pendingAtomic := some (redis.pendingAtomic.getD 0 + amount)
    pendingCount := some (redis.pendingCount.getD 0 + 1) }, ?_, rfl, rfl, rfl, rfl⟩
  simp only [enqueueScript, absent, setState, exact, Option.bind_some, atomic, count]

theorem markSentScript_queued (lua : Lua) {id : RedemptionId} (txid : String) {amount : Int}
    (queued : redis.state id = some .pending ∨ redis.state id = some .inFlight)
    (recorded : redis.amount id = some amount) (positive : 0 < amount)
    (exact : lua.number amount = some amount)
    (atomic : incrBy redis.pendingAtomic (-amount) = some (redis.pendingAtomic.getD 0 + -amount))
    (count : incrBy redis.pendingCount (-1) = some (redis.pendingCount.getD 0 + -1)) :
    ∃ after, redis.markSentScript lua id txid = (after, some ()) ∧
      after.state = Function.update redis.state id (some .sent) ∧
      after.amount = redis.amount ∧
      after.pendingAtomic = some (redis.pendingAtomic.getD 0 + -amount) ∧
      after.pendingCount = some (redis.pendingCount.getD 0 + -1) := by
  have unsent : redis.state id ≠ some .sent := by
    rcases queued with pending | inFlight
    · rw [pending]
      decide
    · rw [inFlight]
      decide
  refine ⟨{ redis with
    state := Function.update redis.state id (some .sent)
    txid := Function.update redis.txid id (some txid)
    pendingAtomic := some (redis.pendingAtomic.getD 0 + -amount)
    pendingCount := some (redis.pendingCount.getD 0 + -1) }, ?_, rfl, rfl, rfl, rfl⟩
  simp only [markSentScript, unsent, if_false, queued, if_true, debit, setState, recorded,
    Option.getD_some, positive, exact, Option.bind_some, atomic, count]

theorem markSentScript_other (lua : Lua) {id : RedemptionId} (txid : String)
    (other : redis.state id ≠ some .pending ∧ redis.state id ≠ some .inFlight) :
    (redis.markSentScript lua id txid).1.amount = redis.amount ∧
      (redis.markSentScript lua id txid).1.pendingAtomic = redis.pendingAtomic ∧
      (redis.markSentScript lua id txid).1.pendingCount = redis.pendingCount := by
  have unqueued : ¬ (redis.state id = some .pending ∨ redis.state id = some .inFlight) :=
    not_or.2 other
  simp only [markSentScript, unqueued, if_false]
  split <;> exact ⟨rfl, rfl, rfl⟩

/-- What the enqueue script needs: an amount Lua represents and room in both
counters. -/
def Accepts (redis : Redis) (amount : Int) : Prop :=
  0 ≤ amount ∧ amount ≤ 2 ^ 53 ∧ redis.pendingAtomic.getD 0 + amount < 2 ^ 63 ∧
    redis.pendingCount.getD 0 + 1 < 2 ^ 63

instance (redis : Redis) (amount : Int) : Decidable (redis.Accepts amount) :=
  inferInstanceAs (Decidable (_ ∧ _))

theorem live_update (state : RedemptionState) (id : RedemptionId)
    (written : after.state = Function.update redis.state id (some state)) (other : RedemptionId) :
    after.live other = if other = id then state.live else redis.live other := by
  rw [live, live, written]
  by_cases same : other = id
  · subst same
    rw [Function.update_self, if_pos rfl]
    rfl
  · rw [Function.update_of_ne same, if_neg same]

theorem Balanced.enqueueScript (lua : Lua) (balanced : redis.Balanced) (id : RedemptionId)
    (amount : Int) (accepts : redis.state id = none → redis.Accepts amount) :
    (redis.enqueueScript lua id amount).1.Balanced := by
  cases found : redis.state id with
  | some state => simpa only [Redis.enqueueScript, found] using balanced
  | none =>
      obtain ⟨nonneg, small, room, countRoom⟩ := accepts found
      have dead : redis.live id = false := by rw [live, found]; rfl
      have owed := owed_of_dead dead ▸ balanced.owed_le id
      have counted := counted_of_dead dead ▸ balanced.counted_le id
      obtain ⟨after, ran, state, amounts, atomic, count⟩ := enqueueScript_new lua found
        (lua.exact amount (by omega)) (incrBy_eq (by omega) room) (incrBy_eq (by omega) countRoom)
      have live := live_update .pending id state
      have alive : after.live id = true := by rw [live, if_pos rfl]; rfl
      have recorded : after.amount id = some amount := by rw [amounts, Function.update_self]
      rw [ran]
      refine balanced.change id (fun other distinct => ?_) (fun _ => ?_) ?_ ?_ ?_ ?_
      · rw [live, if_neg distinct, amounts, Function.update_of_ne distinct]
        exact ⟨rfl, rfl⟩
      · exact ⟨amount, recorded, nonneg, small⟩
      · rw [owed_of_live alive, owed_of_dead dead, recorded, atomic]
        exact Int.add_zero _
      · rw [counted_of_live alive, counted_of_dead dead, count]
        exact Int.add_zero _
      · rw [atomic]
        exact room
      · rw [count]
        exact countRoom

theorem live_of_queued {id : RedemptionId}
    (queued : redis.state id = some .pending ∨ redis.state id = some .inFlight) :
    redis.live id = true := by
  rcases queued with pending | inFlight
  · rw [live, pending]
    rfl
  · rw [live, inFlight]
    rfl

theorem Balanced.covers (balanced : redis.Balanced) {id : RedemptionId} {amount : Int}
    (alive : redis.live id = true) (recorded : redis.amount id = some amount) :
    amount ≤ redis.pendingAtomic.getD 0 ∧ 1 ≤ redis.pendingCount.getD 0 := by
  have owed := balanced.owed_le id
  have counted := balanced.counted_le id
  rw [owed_of_live alive, recorded, Option.getD_some] at owed
  rw [counted_of_live alive] at counted
  exact ⟨owed, counted⟩

theorem Balanced.markSentScript_queued (lua : Lua) (balanced : redis.Balanced) {id : RedemptionId}
    (txid : String) {amount : Int}
    (queued : redis.state id = some .pending ∨ redis.state id = some .inFlight)
    (recorded : redis.amount id = some amount) (positive : 0 < amount) :
    ∃ after, redis.markSentScript lua id txid = (after, some ()) ∧
      after.state = Function.update redis.state id (some .sent) ∧
      after.amount = redis.amount ∧
      after.pendingAtomic = some (redis.pendingAtomic.getD 0 + -amount) ∧
      after.pendingCount = some (redis.pendingCount.getD 0 + -1) := by
  have alive := live_of_queued queued
  obtain ⟨_, same, _, small⟩ := balanced.amounts id alive
  obtain rfl := Option.some.inj (recorded.symm.trans same)
  obtain ⟨owed, counted⟩ := balanced.covers alive recorded
  have atomicFits := balanced.atomicFits
  have countFits := balanced.countFits
  exact Redis.markSentScript_queued lua txid queued recorded positive
    (lua.exact amount (by omega)) (incrBy_eq (by omega) (by omega))
    (incrBy_eq (by omega) (by omega))

theorem Balanced.markSentScript (lua : Lua) (balanced : redis.Balanced) (id : RedemptionId)
    (txid : String) (unparked : redis.state id ≠ some .paused)
    (positive : redis.live id = true → 0 < (redis.amount id).getD 0) :
    (redis.markSentScript lua id txid).1.Balanced := by
  by_cases queued : redis.state id = some .pending ∨ redis.state id = some .inFlight
  · have alive := live_of_queued queued
    obtain ⟨amount, recorded, _, _⟩ := balanced.amounts id alive
    have owes : 0 < amount := by
      have bound := positive alive
      rwa [recorded] at bound
    have atomicFits := balanced.atomicFits
    have countFits := balanced.countFits
    obtain ⟨after, ran, state, amounts, atomic, count⟩ :=
      balanced.markSentScript_queued lua txid queued recorded owes
    have live := live_update .sent id state
    have dead : after.live id = false := by rw [live, if_pos rfl]; rfl
    rw [ran]
    refine balanced.change id (fun other distinct => ?_) (fun alive => ?_) ?_ ?_ ?_ ?_
    · rw [live, if_neg distinct, amounts]
      exact ⟨rfl, rfl⟩
    · rw [dead] at alive
      cases alive
    · rw [owed_of_live alive, owed_of_dead dead, recorded, atomic]
      simp
    · rw [counted_of_live alive, counted_of_dead dead, count]
      simp
    · rw [atomic, Option.getD_some]
      omega
    · rw [count, Option.getD_some]
      omega
  · obtain ⟨amount, atomic, count⟩ := markSentScript_other lua txid (not_or.1 queued)
    refine balanced.of_same (fun other => ?_) amount atomic count
    rw [live_update .sent id (markSentScript_state lua redis id txid)]
    by_cases same : other = id
    · subst same
      rw [if_pos rfl, live]
      cases found : redis.state other with
      | none => rfl
      | some state => cases state <;> simp_all [RedemptionState.live]
    · rw [if_neg same]

/-- The command does not take a live id out of the books or bring one in behind
their back. -/
def keepsCounters (redis : Redis) : Command → Bool
  | .hsetState id state => state.live == redis.live id
  | .hsetnxState id _ => decide (redis.state id ≠ none)
  | .enqueue id atomicAmount => decide (redis.state id = none → redis.Accepts atomicAmount)
  | .markSent id _ =>
      decide (redis.state id ≠ some .paused ∧
        (redis.live id = true → 0 < (redis.amount id).getD 0))
  | _ => true

/-- **The step lemma.** -/
theorem Balanced.command (lua : Lua) {command : Command} (balanced : redis.Balanced)
    (keeps : redis.keepsCounters command = true) : (redis.after lua command).Balanced := by
  cases command with
  | xgroupCreate =>
      refine balanced.of_same (fun id => ?_) ?_ ?_ ?_ <;>
        simp only [Redis.after, xgroupCreate, live] <;> split <;> rfl
  | xreadgroup =>
      refine balanced.of_same (fun id => ?_) ?_ ?_ ?_ <;>
        simp only [Redis.after, xreadgroup, live] <;> split <;> rfl
  | hsetState id state =>
      refine balanced.of_same (fun other => ?_) rfl rfl rfl
      rw [live_update state id rfl]
      split
      · rename_i same
        rw [same]
        exact beq_iff_eq.1 keeps
      · rfl
  | hsetnxState id state =>
      have present : redis.setStateNx id state = redis := by
        cases found : redis.state id with
        | none => exact absurd found (of_decide_eq_true keeps)
        | some _ => simp only [setStateNx, found]
      rw [Redis.after, present]
      exact balanced
  | enqueue id amount => exact balanced.enqueueScript lua id amount (of_decide_eq_true keeps)
  | tryMarkInFlight id =>
      simp only [Redis.after, tryMarkScript]
      split
      · rename_i pending
        refine balanced.of_same (fun other => ?_) rfl rfl rfl
        rw [live_update .inFlight id rfl]
        split
        · rename_i same
          rw [same, live, pending]
          rfl
        · rfl
      · exact balanced
  | markSent id txid =>
      obtain ⟨unparked, positive⟩ := of_decide_eq_true keeps
      exact balanced.markSentScript lua id txid unparked positive
  | _ => exact balanced.of_same (fun _ => rfl) rfl rfl rfl

end Redis

end CrFaucet.Redemption
