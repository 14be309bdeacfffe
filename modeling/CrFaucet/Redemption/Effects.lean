import CrFaucet.Redemption.World

/-!
Owns what one command can do to Redis, to the state hash in particular, and to
the payments, said once for all commands; the invariants of the system are
derived from this.
-/

set_option autoImplicit false

namespace CrFaucet.Redemption

open Token (Address)

namespace World

variable {Result : Type} (world : World) (answer : Answer)
  (command : Redis → Redis × Option Result)

theorem onRedis_redis : (world.onRedis answer command).1.redis =
    if answer.outcome = .refused then world.redis else (command world.redis).1 := by
  unfold onRedis Outcome.perform
  cases answer.outcome <;> rfl

theorem onRedis_reply : (world.onRedis answer command).2 =
    if answer.outcome = .ok then (command world.redis).2 else none := by
  unfold onRedis Outcome.perform
  cases answer.outcome <;> rfl

end World

namespace Redis

/-- The store after `command`, if it is carried out. -/
def after (lua : Lua) (redis : Redis) : Command → Redis
  | .xgroupCreate => redis.xgroupCreate
  | .xreadgroup => redis.xreadgroup.1
  | .xack entry => redis.xack entry.entryId
  | .hsetState id state => redis.setState id state
  | .hsetnxState id state => redis.setStateNx id state
  | .enqueue id atomicAmount => (redis.enqueueScript lua id atomicAmount).1
  | .xadd id sender atomicAmount xmrAddr => redis.xadd id sender atomicAmount xmrAddr
  | .tryMarkInFlight id => (redis.tryMarkScript id).1
  | .markSent id txid => (redis.markSentScript lua id txid).1
  | .setSnapshot snapshot => { redis with snapshot := some snapshot }
  | .setCursor id => { redis with cursor := some id }
  | _ => redis

/-- The state hash after `command`, if it is carried out. -/
def stateAfter (redis : Redis) : Command → RedemptionId → Option RedemptionState
  | .hsetState id state => Function.update redis.state id (some state)
  | .hsetnxState id state =>
      if redis.state id = none then Function.update redis.state id (some state) else redis.state
  | .enqueue id _ =>
      if redis.state id = none then Function.update redis.state id (some .pending)
      else redis.state
  | .tryMarkInFlight id =>
      if redis.state id = some .pending then Function.update redis.state id (some .inFlight)
      else redis.state
  | .markSent id _ => Function.update redis.state id (some .sent)
  | _ => redis.state

theorem setStateNx_state (redis : Redis) (id : RedemptionId) (state : RedemptionState) :
    (redis.setStateNx id state).state = redis.stateAfter (.hsetnxState id state) := by
  cases found : redis.state id with
  | none =>
      simp only [setStateNx, stateAfter, found, if_true]
      rfl
  | some _ => simp only [setStateNx, stateAfter, found, reduceCtorEq, if_false]

theorem enqueueScript_state (lua : Lua) (redis : Redis) (id : RedemptionId) (amount : Int) :
    (redis.enqueueScript lua id amount).1.state = redis.stateAfter (.enqueue id amount) := by
  cases found : redis.state id with
  | some _ => simp only [enqueueScript, stateAfter, found, reduceCtorEq, if_false]
  | none =>
      simp only [enqueueScript, stateAfter, found, if_true]
      split
      · rfl
      · split <;> rfl

theorem tryMarkScript_state (redis : Redis) (id : RedemptionId) :
    (redis.tryMarkScript id).1.state = redis.stateAfter (.tryMarkInFlight id) := by
  simp only [tryMarkScript, stateAfter]
  split <;> rfl

theorem debit_state (lua : Lua) (redis : Redis) (id : RedemptionId) :
    (redis.debit lua id).1.state = redis.state := by
  simp only [debit]
  split
  · split
    · rfl
    · split <;> rfl
  · rfl

theorem markSentScript_state (lua : Lua) (redis : Redis) (id : RedemptionId) (txid : String) :
    (redis.markSentScript lua id txid).1.state = redis.stateAfter (.markSent id txid) := by
  simp only [markSentScript, stateAfter]
  split
  · rename_i already
    exact (Function.update_eq_self_iff.2 already.symm).symm
  · split
    · rw [debit_state]
      rfl
    · rfl

theorem xreadgroup_state (redis : Redis) : redis.xreadgroup.1.state = redis.state := by
  unfold xreadgroup
  split <;> rfl

theorem xgroupCreate_state (redis : Redis) : redis.xgroupCreate.state = redis.state := by
  unfold xgroupCreate
  split <;> rfl

theorem after_state (lua : Lua) (redis : Redis) (command : Command) :
    (redis.after lua command).state = redis.stateAfter command := by
  cases command with
  | xgroupCreate => exact xgroupCreate_state redis
  | xreadgroup => exact xreadgroup_state redis
  | hsetnxState id state => exact setStateNx_state redis id state
  | enqueue id amount => exact enqueueScript_state lua redis id amount
  | tryMarkInFlight id => exact tryMarkScript_state redis id
  | markSent id txid => exact markSentScript_state lua redis id txid
  | _ => rfl

end Redis

/-- The state a command writes if it is carried out, and to which id. -/
def Redis.writes (redis : Redis) : Command → Option (RedemptionId × RedemptionState)
  | .hsetState id state => some (id, state)
  | .hsetnxState id state => if redis.state id = none then some (id, state) else none
  | .enqueue id _ => if redis.state id = none then some (id, .pending) else none
  | .tryMarkInFlight id =>
      if redis.state id = some .pending then some (id, .inFlight) else none
  | .markSent id _ => some (id, .sent)
  | _ => none

theorem Redis.stateAfter_cases (redis : Redis) (command : Command) :
    redis.stateAfter command = redis.state ∨
      ∃ id state, redis.writes command = some (id, state) ∧
        redis.stateAfter command = Function.update redis.state id (some state) := by
  cases command with
  | hsetState id state => exact Or.inr ⟨id, state, rfl, rfl⟩
  | markSent id txid => exact Or.inr ⟨id, .sent, rfl, rfl⟩
  | hsetnxState id _ | enqueue id _ | tryMarkInFlight id =>
      simp only [Redis.stateAfter, Redis.writes]
      split
      · exact Or.inr ⟨id, _, rfl, rfl⟩
      · exact Or.inl rfl
  | _ => exact Or.inl rfl

/-- The id a command writes `sent` to. -/
def Command.settles : Command → Option RedemptionId
  | .markSent id _ => some id
  | .hsetState id .sent => some id
  | .hsetnxState id .sent => some id
  | _ => none

theorem Redis.settles_of_writes {redis : Redis} {command : Command} {id : RedemptionId}
    (writes : redis.writes command = some (id, .sent)) : command.settles = some id := by
  cases command with
  | hsetState | markSent =>
      cases writes
      rfl
  | hsetnxState =>
      cases (Option.ite_none_right_eq_some.1 writes).2
      rfl
  | enqueue | tryMarkInFlight => cases (Option.ite_none_right_eq_some.1 writes).2
  | _ => cases writes

section Exec

variable (lua : Lua) (enclave : Address) (world : World) (command : Command) (answer : Answer)

/-- **Inversion for Redis.** -/
theorem exec_redis : (exec lua enclave world command answer).1.redis =
    if answer.outcome = .refused then world.redis else world.redis.after lua command := by
  cases command with
  | refresh | getBalance | getHeight | getTransfers | getTransferByTxid | incomingTransfers
  | isProcessed | markProcessed | nextRedemptionId | redemption | totalSupply | now
  | deadlinePassed => exact (ite_self _).symm
  | transfer id amount address =>
      simp only [exec, World.pay, Redis.after, ite_self]
      split <;> rfl
  | _ => exact World.onRedis_redis world answer _

theorem exec_state : (exec lua enclave world command answer).1.redis.state =
    if answer.outcome = .refused then world.redis.state
    else world.redis.stateAfter command := by
  rw [exec_redis, apply_ite Redis.state, Redis.after_state]

variable {lua enclave world command answer} in
/-- An id that is known stays known. -/
theorem exec_present {id : RedemptionId} (present : world.redis.state id ≠ none) :
    (exec lua enclave world command answer).1.redis.state id ≠ none := by
  rw [exec_state]
  split
  · exact present
  · rcases world.redis.stateAfter_cases command with same | ⟨written, value, _, updated⟩
    · rwa [same]
    · rw [updated]
      by_cases same : id = written
      · subst same
        rw [Function.update_self]
        exact Option.some_ne_none _
      · rwa [Function.update_of_ne same]

variable {lua enclave world command answer} in
theorem exec_state_eq {id : RedemptionId} {state : RedemptionState}
    (now : (exec lua enclave world command answer).1.redis.state id = some state) :
    world.redis.state id = some state ∨
      answer.outcome ≠ .refused ∧ world.redis.writes command = some (id, state) := by
  rw [exec_state] at now
  split at now
  · exact Or.inl now
  · rename_i carriedOut
    rcases world.redis.stateAfter_cases command with same | ⟨written, value, writes, updated⟩
    · rw [same] at now
      exact Or.inl now
    · rw [updated] at now
      by_cases same : id = written
      · subst same
        rw [Function.update_self, Option.some.injEq] at now
        subst now
        exact Or.inr ⟨carriedOut, writes⟩
      · rw [Function.update_of_ne same] at now
        exact Or.inl now

variable {lua enclave world command answer} in
theorem exec_state_sent {id : RedemptionId}
    (sent : (exec lua enclave world command answer).1.redis.state id = some .sent) :
    world.redis.state id = some .sent ∨ command.settles = some id :=
  (exec_state_eq sent).imp_right fun wrote => Redis.settles_of_writes wrote.2

theorem exec_payments (other : ∀ id amount address, command ≠ .transfer id amount address) :
    (exec lua enclave world command answer).1.payments = world.payments := by
  cases command with
  | transfer id amount address => exact absurd rfl (other id amount address)
  | _ => rfl

theorem exec_broadcasts (other : ∀ id amount address, command ≠ .transfer id amount address)
    (id : RedemptionId) :
    (exec lua enclave world command answer).1.broadcasts id = world.broadcasts id :=
  congrArg (List.countP _) (exec_payments lua enclave world command answer other)

theorem exec_tryMarkInFlight_true {id : RedemptionId}
    (claimed : (exec lua enclave world (.tryMarkInFlight id) answer).2 = some true) :
    answer.outcome ≠ .refused ∧ world.redis.state id = some .pending := by
  rw [exec, World.onRedis_reply] at claimed
  split at claimed
  · rename_i ok
    refine ⟨by rw [ok]; decide, ?_⟩
    rw [Redis.tryMarkScript] at claimed
    split at claimed
    · assumption
    · cases claimed
  · cases claimed

end Exec

/-! ### Broadcasts -/

namespace World

variable (world : World)

theorem broadcasts_pay (answer : Answer) (id other : RedemptionId) (amount : Nat) :
    (world.pay answer id amount).broadcasts other =
      world.broadcasts other +
        if answer.transfer.wentOut answer.broadcast = true ∧ other = id then 1 else 0 := by
  unfold pay broadcasts
  by_cases went : answer.transfer.wentOut answer.broadcast = true
  · by_cases same : other = id
    · simp [went, same]
    · simp [went, same, Ne.symm same]
  · simp [went]

theorem broadcasts_occur {Signature : Type} (ecdsa : Token.Ecdsa Signature)
    (event : Event Signature) (id : RedemptionId) :
    (world.occur ecdsa event).broadcasts id = world.broadcasts id := by
  cases event with
  | wipe => rfl
  | l2 sender call => rfl
  | mined position height =>
      unfold occur broadcasts
      induction world.payments generalizing position with
      | nil => simp
      | cons payment rest inductionHypothesis =>
          cases position with
          | zero => rfl
          | succ position => simp [List.countP_cons, inductionHypothesis position]

end World

end CrFaucet.Redemption
