import CrFaucet.Governance.PoolGovernance

/-!
Owns the promise of the timelock: what is executed was queued, by itself and long
enough before; and what `renounce` freezes stays frozen.

Whatever is called, and whatever foreign code calls inside, the state goes through
single entry points. A queued operation is tied to the log entry of its queueing,
and each execution uses that entry up.
-/

set_option autoImplicit false

namespace CrFaucet.Governance

open Token (Address checkedAdd require_eq_some)

variable {Data Id Signature : Type} [DecidableEq Id] {site : Site Data Id Signature}

/-! ### Entry points -/

/-- One entry point, without what foreign code does inside it. -/
inductive Entry (site : Site Data Id Signature) : State Data Id → State Data Id → Prop where
  | transferGovernor {state after : State Data Id} (sender receiver : Address)
      (done : state.transferGovernor sender receiver = some after) : Entry site state after
  | queue {state after : State Data Id} (timestamp : Nat) (sender : Address)
      (operation : Operation Data)
      (done : state.queue site timestamp sender operation = some after) : Entry site state after
  | cancel {state after : State Data Id} (sender : Address) (operation : Operation Data)
      (done : state.cancel site sender operation = some after) : Entry site state after
  | execute {state after : State Data Id} (timestamp : Nat) (sender : Address)
      (operation : Operation Data)
      (done : state.executeEnters site timestamp sender operation = some after) :
      Entry site state after
  | renounce {state after : State Data Id} (sender : Address)
      (done : state.renounce sender = some after) : Entry site state after
  | token {state : State Data Id} {token : Token.State}
      (step : Token.Step site.ecdsa (fun sender _ => sender ≠ site.governance) state.token token) :
      Entry site state { state with token := token }

variable {start state after : State Data Id} {timestamp : Nat} {sender : Address}
  {operation : Operation Data}

theorem redeemWrites_entry {amount value : Nat} {xmrAddress : String}
    (wrote : state.redeemWrites sender amount xmrAddress value = some after) :
    Entry site state after := by
  simp only [State.redeemWrites, Option.bind_eq_bind, Option.bind_eq_some_iff,
    Option.some.injEq] at wrote
  obtain ⟨token, redeemed, rfl⟩ := wrote
  exact .token (.redeem sender amount xmrAddress value redeemed)

theorem callToken_entries {value : Nat} {call : Token.Call Signature}
    (genuine : call.All (fun sender _ => sender ≠ site.governance) sender)
    (returned : state.callToken site sender value call = some after) :
    Relation.ReflTransGen (Entry site) state after := by
  simp only [State.callToken, Option.bind_eq_bind, Option.bind_eq_some_iff, Option.some.injEq]
    at returned
  obtain ⟨_, _, token, called, rfl⟩ := returned
  have steps := Token.transact_steps sender call genuine called
  clear called
  induction steps with
  | refl => exact .refl
  | tail _ last inductionHypothesis => exact inductionHypothesis.tail (.token last)

mutual

/-- **A call that returns is a sequence of entry points.** -/
theorem transact_entries {timestamp : Nat} {state after : State Data Id} (sender : Address) :
    ∀ call : Call Data Signature, call.Genuine site sender →
      transact site timestamp state sender call = some after →
      Relation.ReflTransGen (Entry site) state after
  | .transferGovernor receiver, _, returned => .single (.transferGovernor sender receiver returned)
  | .queue operation, _, returned => .single (.queue timestamp sender operation returned)
  | .cancel operation, _, returned => .single (.cancel sender operation returned)
  | .renounce, _, returned => .single (.renounce sender returned)
  | .token call, genuine, returned => callToken_entries genuine returned
  | .execute operation inner ok, genuine, returned => by
      rw [transact] at returned
      split at returned
      · cases returned
      · rename_i entered enters
        have first : Entry site state entered := .execute timestamp sender operation enters
        split at returned
        · split at returned
          · cases returned
            exact .head first (execAll_entries inner genuine)
          · cases returned
            exact .single first
        · cases returned
  | .redeem amount xmrAddress value inner ok, genuine, returned => by
      rw [transact] at returned
      split at returned
      · cases returned
      · rename_i redeemed wrote
        have first : Entry site state redeemed := redeemWrites_entry wrote
        split at returned
        · cases returned
          exact .single first
        · split at returned
          · cases returned
            exact .head first (execAll_entries inner genuine)
          · cases returned

theorem execAll_entries {timestamp : Nat} {state : State Data Id} :
    ∀ calls : Calls Data Signature, calls.Genuine site →
      Relation.ReflTransGen (Entry site) state (execAll site timestamp state calls)
  | .nil, _ => by
      rw [execAll]
  | .cons sender call rest, genuine => by
      rw [execAll]
      cases returned : transact site timestamp state sender call with
      | none => exact execAll_entries rest genuine.2
      | some after =>
          exact (transact_entries sender call genuine.1 returned).trans
            (execAll_entries rest genuine.2)

end

theorem Visited.entries (visited : Visited site start state) :
    Relation.ReflTransGen (Entry site) start state := by
  induction visited with
  | start => exact .refl
  | call timestamp sender call _ genuine returned inductionHypothesis =>
      exact inductionHypothesis.trans (transact_entries sender call genuine returned)
  | insideExecute timestamp sender operation _ enters inductionHypothesis =>
      exact inductionHypothesis.tail (.execute timestamp sender operation enters)
  | insideRedeem sender amount xmrAddress value _ wrote inductionHypothesis =>
      exact inductionHypothesis.tail (redeemWrites_entry wrote)

/-! ### What an entry point does -/

theorem queue_eq (done : state.queue site timestamp sender operation = some after) :
    state.renounced = false ∧
      after = { state with
        queuedAt := Function.update state.queuedAt (site.id operation) (timestamp + site.delay)
        log := state.log ++ [.queued operation timestamp] } := by
  simp only [State.queue, checkedAdd, Option.bind_eq_bind, Option.bind_eq_some_iff,
    require_eq_some, exists_const, Option.some.injEq] at done
  obtain ⟨_, live, _, eta, ⟨_, rfl⟩, rfl⟩ := done
  exact ⟨live, rfl⟩

theorem cancel_eq (done : state.cancel site sender operation = some after) :
    after = { state with
      queuedAt := Function.update state.queuedAt (site.id operation) 0
      log := state.log ++ [.cancelled operation] } := by
  simp only [State.cancel, Option.bind_eq_bind, Option.bind_eq_some_iff, require_eq_some,
    exists_const, Option.some.injEq] at done
  obtain ⟨_, _, rfl⟩ := done
  rfl

/-- `execute` runs for the governor, on a queued operation whose time has come, and
leaves everything but that entry of the queue to the target. -/
theorem executeEnters_eq
    (done : state.executeEnters site timestamp sender operation = some after) :
    state.renounced = false ∧ sender = state.governor ∧
      state.queuedAt (site.id operation) ≠ 0 ∧ state.queuedAt (site.id operation) ≤ timestamp ∧
      ∃ token, after = { state with
        queuedAt := Function.update state.queuedAt (site.id operation) 0
        token := token
        log := state.log ++ [.executed operation timestamp sender state.governor] } := by
  simp only [State.executeEnters, State.executeWrites, Option.bind_eq_bind,
    Option.bind_eq_some_iff, require_eq_some, exists_const, Option.some.injEq] at done
  obtain ⟨written, ⟨governs, live, queued, due, rfl⟩, called⟩ := done
  refine ⟨live, governs, queued, due, ?_⟩
  split at called
  · split at called
    · cases called
    · simp only [State.redeemWrites, Option.bind_eq_bind, Option.bind_eq_some_iff,
        Option.some.injEq] at called
      obtain ⟨token, _, rfl⟩ := called
      exact ⟨token, rfl⟩
    · simp only [State.callToken, Option.bind_eq_bind, Option.bind_eq_some_iff,
        Option.some.injEq] at called
      obtain ⟨_, _, token, _, rfl⟩ := called
      exact ⟨token, rfl⟩
  · cases called
    exact ⟨state.token, rfl⟩

omit [DecidableEq Id] in
theorem transferGovernor_eq {receiver : Address}
    (done : state.transferGovernor sender receiver = some after) :
    state.renounced = false ∧ after = { state with governor := receiver } := by
  simp only [State.transferGovernor, Option.bind_eq_bind, Option.bind_eq_some_iff,
    require_eq_some, exists_const, Option.some.injEq] at done
  obtain ⟨_, live, _, rfl⟩ := done
  exact ⟨live, rfl⟩

omit [DecidableEq Id] in
theorem renounce_eq (done : state.renounce sender = some after) :
    after = { state with renounced := true } := by
  simp only [State.renounce, Option.bind_eq_bind, Option.bind_eq_some_iff, require_eq_some,
    exists_const, Option.some.injEq] at done
  exact done.2.symm

/-! ### Queueings and what uses them up -/

/-- The record at `source` queues the operation, `delay` before `time`; up to
`position` nothing else is recorded of it. -/
structure Settles (delay : Nat) (log : List (Record Data)) (operation : Operation Data)
    (time source position : Nat) : Prop where
  earlier : source < position
  queued : ∃ queuedTime, log[source]? = some (.queued operation queuedTime) ∧
    queuedTime + delay ≤ time
  unused : ∀ index record, source < index → index < position → log[index]? = some record →
    record.operation ≠ operation

/-- Every execution was made by the governor and uses up a queueing. -/
def Matched (delay : Nat) (log : List (Record Data)) : Prop :=
  ∀ position operation time sender governor,
    log[position]? = some (.executed operation time sender governor) →
      sender = governor ∧ ∃ source, Settles delay log operation time source position

section Settling

variable {delay : Nat} {log : List (Record Data)} {operation : Operation Data}
  {time source position : Nat}

theorem Settles.append (settles : Settles delay log operation time source position)
    (inside : position ≤ log.length) (record : Record Data) :
    Settles delay (log ++ [record]) operation time source position := by
  obtain ⟨earlier, ⟨queuedTime, queued, waited⟩, unused⟩ := settles
  refine ⟨earlier, ⟨queuedTime, ?_, waited⟩, ?_⟩
  · rw [List.getElem?_append_left (by omega)]
    exact queued
  · intro index found after before recorded
    rw [List.getElem?_append_left (by omega)] at recorded
    exact unused index found after before recorded

theorem Settles.waits (settles : Settles delay log operation time source log.length)
    {record : Record Data} (other : record.operation ≠ operation) :
    Settles delay (log ++ [record]) operation time source (log ++ [record]).length := by
  have kept := settles.append le_rfl record
  refine ⟨?_, kept.queued, ?_⟩
  · rw [List.length_append]
    exact Nat.lt_add_right _ settles.earlier
  · intro index found after before recorded
    by_cases last : index = log.length
    · subst last
      rw [List.getElem?_concat_length, Option.some.injEq] at recorded
      exact recorded ▸ other
    · rw [List.length_append, List.length_singleton] at before
      exact kept.unused index found after (by omega) recorded

/-- Two executions never use up one queueing: the earlier one would be recorded
between the queueing and the later one. -/
theorem Settles.not_shared {first second : Nat} {firstOp secondOp : Operation Data}
    {firstTime secondTime : Nat} {sender governor : Address}
    (executed : log[first]? = some (.executed firstOp firstTime sender governor))
    (firstSettles : Settles delay log firstOp firstTime source first)
    (secondSettles : Settles delay log secondOp secondTime source second) : ¬ first < second := by
  intro before
  obtain ⟨_, queuedFirst, _⟩ := firstSettles.queued
  obtain ⟨_, queuedSecond, _⟩ := secondSettles.queued
  rw [queuedFirst, Option.some.injEq, Record.queued.injEq] at queuedSecond
  exact secondSettles.unused first _ firstSettles.earlier before executed queuedSecond.1

theorem Matched.append (matched : Matched delay log) {record : Record Data}
    (last : ∀ operation time sender governor,
      record = .executed operation time sender governor →
        sender = governor ∧ ∃ source, Settles delay log operation time source log.length) :
    Matched delay (log ++ [record]) := by
  intro position operation time sender governor executed
  by_cases inside : position < log.length
  · rw [List.getElem?_append_left inside] at executed
    obtain ⟨governs, source, settles⟩ := matched position operation time sender governor executed
    exact ⟨governs, source, settles.append inside.le record⟩
  · have bound : position < (log ++ [record]).length := (List.getElem?_eq_some_iff.mp executed).1
    rw [List.length_append, List.length_singleton] at bound
    obtain rfl : position = log.length := by omega
    rw [List.getElem?_concat_length, Option.some.injEq] at executed
    obtain ⟨governs, source, settles⟩ := last operation time sender governor executed
    exact ⟨governs, source, settles.append le_rfl record⟩

end Settling

/-! ### The queue follows the log -/

/-- What waits in the queue is in the log, and the log is in order. -/
structure Tracked (site : Site Data Id Signature) (state : State Data Id) : Prop where
  waiting : ∀ operation, state.queuedAt (site.id operation) ≠ 0 → ∃ source,
    Settles site.delay state.log operation (state.queuedAt (site.id operation)) source
      state.log.length
  matched : Matched site.delay state.log

omit [DecidableEq Id] in
theorem Tracked.deployed {governor : Address} {token : Token.State}
    (made : deployed governor token = some state) : Tracked site state := by
  simp only [Governance.deployed, Option.bind_eq_bind, Option.bind_eq_some_iff, require_eq_some,
    exists_const, Option.some.injEq] at made
  obtain ⟨_, rfl⟩ := made
  exact ⟨fun _ queued => absurd rfl queued, fun _ _ _ _ _ executed => by cases executed⟩

section Tracking

variable (tracked : Tracked site state) (injective : Function.Injective site.id)

include tracked injective

theorem Tracked.others {operation other : Operation Data} {record : Record Data} {eta : Nat}
    (about : record.operation = operation) (different : other ≠ operation)
    (queued : Function.update state.queuedAt (site.id operation) eta (site.id other) ≠ 0) :
    ∃ source, Settles site.delay (state.log ++ [record]) other
      (Function.update state.queuedAt (site.id operation) eta (site.id other)) source
      (state.log ++ [record]).length := by
  have apart : site.id other ≠ site.id operation := fun same => different (injective same)
  rw [Function.update_of_ne apart] at queued ⊢
  obtain ⟨source, settles⟩ := tracked.waiting other queued
  exact ⟨source, settles.waits (about ▸ different.symm)⟩

theorem Tracked.queue (timestamp : Nat) (operation : Operation Data) :
    Tracked site { state with
      queuedAt := Function.update state.queuedAt (site.id operation) (timestamp + site.delay)
      log := state.log ++ [.queued operation timestamp] } := by
  constructor
  · intro other queued
    by_cases same : other = operation
    · subst same
      refine ⟨state.log.length, by simp, ⟨timestamp, by simp, by simp⟩, ?_⟩
      intro index record after before _
      simp only [List.length_append, List.length_singleton] at before
      omega
    · exact tracked.others injective rfl same queued
  · apply tracked.matched.append
    intro _ _ _ _ wrong
    cases wrong

theorem Tracked.dequeue (operation : Operation Data) {token : Token.State}
    {record : Record Data} (about : record.operation = operation)
    (executed : ∀ executed time sender governor,
      record = .executed executed time sender governor → sender = governor ∧
        ∃ source, Settles site.delay state.log executed time source state.log.length) :
    Tracked site { state with
      queuedAt := Function.update state.queuedAt (site.id operation) 0
      token := token
      log := state.log ++ [record] } := by
  constructor
  · intro other queued
    by_cases same : other = operation
    · subst same
      exact absurd (Function.update_self ..) queued
    · exact tracked.others injective about same queued
  · exact tracked.matched.append executed

/-- **Every entry point keeps queue and log in step.** -/
theorem Entry.keeps_tracked (entry : Entry site state after) : Tracked site after := by
  cases entry with
  | transferGovernor sender receiver done =>
      obtain ⟨_, rfl⟩ := transferGovernor_eq done
      exact ⟨tracked.waiting, tracked.matched⟩
  | queue timestamp sender operation done =>
      obtain ⟨_, rfl⟩ := queue_eq done
      exact tracked.queue injective timestamp operation
  | cancel sender operation done =>
      obtain rfl := cancel_eq done
      exact tracked.dequeue injective operation rfl fun _ _ _ _ wrong => by cases wrong
  | execute timestamp sender operation done =>
      obtain ⟨_, governs, queued, due, token, rfl⟩ := executeEnters_eq done
      apply tracked.dequeue injective operation rfl
      intro executed time caller governor same
      cases same
      obtain ⟨source, settles⟩ := tracked.waiting operation queued
      obtain ⟨queuedTime, recorded, waited⟩ := settles.queued
      exact ⟨governs, source, settles.earlier, ⟨queuedTime, recorded, waited.trans due⟩,
        settles.unused⟩
  | renounce sender done =>
      obtain rfl := renounce_eq done
      exact ⟨tracked.waiting, tracked.matched⟩
  | token _ => exact ⟨tracked.waiting, tracked.matched⟩

end Tracking

theorem Visited.tracked (visited : Visited site start state)
    (injective : Function.Injective site.id) (tracked : Tracked site start) :
    Tracked site state := by
  have entries := visited.entries
  clear visited
  induction entries with
  | refl => exact tracked
  | tail _ last inductionHypothesis => exact last.keeps_tracked inductionHypothesis injective

/-! ### What stays -/

theorem Entry.log_extends (entry : Entry site state after) : state.log <+: after.log := by
  cases entry with
  | transferGovernor sender receiver done =>
      obtain ⟨_, rfl⟩ := transferGovernor_eq done
      exact List.prefix_rfl
  | queue timestamp sender operation done =>
      obtain ⟨_, rfl⟩ := queue_eq done
      exact List.prefix_append ..
  | cancel sender operation done =>
      obtain rfl := cancel_eq done
      exact List.prefix_append ..
  | execute timestamp sender operation done =>
      obtain ⟨_, _, _, _, token, rfl⟩ := executeEnters_eq done
      exact List.prefix_append ..
  | renounce sender done =>
      obtain rfl := renounce_eq done
      exact List.prefix_rfl
  | token _ => exact List.prefix_rfl

theorem entries_log_extends
    (entries : Relation.ReflTransGen (Entry site) state after) : state.log <+: after.log := by
  induction entries with
  | refl => exact List.prefix_rfl
  | tail _ last inductionHypothesis => exact inductionHypothesis.trans last.log_extends

/-- The three settings of the token that its owner can change are the same. -/
def SameSettings (before after : Token.State) : Prop :=
  after.owner = before.owner ∧ after.authorizedSigner = before.authorizedSigner ∧
    after.redemptionGasSubsidy = before.redemptionGasSubsidy

/-- After `renounce` the governance contract calls nobody, so a token it owns keeps
its settings. -/
theorem Entry.frozen (entry : Entry site state after)
    (renounced : state.renounced = true) :
    after.renounced = true ∧
      (state.token.owner = site.governance → SameSettings state.token after.token) := by
  cases entry with
  | transferGovernor sender receiver done =>
      rw [(transferGovernor_eq done).1] at renounced
      cases renounced
  | queue timestamp sender operation done =>
      rw [(queue_eq done).1] at renounced
      cases renounced
  | cancel sender operation done =>
      obtain rfl := cancel_eq done
      exact ⟨renounced, fun _ => ⟨rfl, rfl, rfl⟩⟩
  | execute timestamp sender operation done =>
      rw [(executeEnters_eq done).1] at renounced
      cases renounced
  | renounce sender done =>
      obtain rfl := renounce_eq done
      exact ⟨rfl, fun _ => ⟨rfl, rfl, rfl⟩⟩
  | token step =>
      refine ⟨renounced, fun owned => step.settings ?_⟩
      intro sender _ outsider
      exact owned ▸ outsider

theorem Visited.frozen (visited : Visited site start state)
    (renounced : start.renounced = true) :
    state.renounced = true ∧
      (start.token.owner = site.governance → SameSettings start.token state.token) := by
  have entries := visited.entries
  clear visited
  induction entries with
  | refl => exact ⟨renounced, fun _ => ⟨rfl, rfl, rfl⟩⟩
  | tail _ last inductionHypothesis =>
      obtain ⟨still, same⟩ := inductionHypothesis
      obtain ⟨finally', lastSame⟩ := last.frozen still
      refine ⟨finally', fun owned => ?_⟩
      obtain ⟨owner, signer, subsidy⟩ := same owned
      obtain ⟨lastOwner, lastSigner, lastSubsidy⟩ := lastSame (owner.trans owned)
      exact ⟨lastOwner.trans owner, lastSigner.trans signer, lastSubsidy.trans subsidy⟩

theorem rejects_of_renounced (renounced : state.renounced = true)
    (timestamp : Nat) (sender : Address) :
    (∀ operation, transact site timestamp state sender (.queue operation) = none) ∧
    (∀ operation inner ok,
      transact site timestamp state sender (.execute operation inner ok) = none) ∧
    ∀ receiver, transact site timestamp state sender (.transferGovernor receiver) = none := by
  refine ⟨fun operation => ?_, fun operation inner ok => ?_, fun receiver => ?_⟩
  · rw [transact, Option.eq_none_iff_forall_not_mem]
    intro after done
    rw [(queue_eq done).1] at renounced
    cases renounced
  · rw [transact]
    split
    · rfl
    · rename_i entered enters
      rw [(executeEnters_eq enters).1] at renounced
      cases renounced
  · rw [transact, Option.eq_none_iff_forall_not_mem]
    intro after done
    rw [(transferGovernor_eq done).1] at renounced
    cases renounced

/-! ### The timelock -/

theorem execute_records {inner : Calls Data Signature} {ok : Bool} (genuine : inner.Genuine site)
    (returned : transact site timestamp state sender (.execute operation inner ok) = some after) :
    sender = state.governor ∧
      state.log ++ [.executed operation timestamp sender state.governor] <+: after.log := by
  rw [transact] at returned
  split at returned
  · cases returned
  · rename_i entered enters
    obtain ⟨_, governs, _, _, token, left⟩ := executeEnters_eq enters
    have recorded : entered.log =
        state.log ++ [.executed operation timestamp sender state.governor] := by
      rw [left]
    refine ⟨governs, ?_⟩
    rw [← recorded]
    split at returned
    · split at returned
      · cases returned
        exact entries_log_extends (execAll_entries inner genuine)
      · cases returned
        exact List.prefix_rfl
    · cases returned

theorem execute_failed {inner : Calls Data Signature} {ok : Bool}
    (fails : ok = false ∨ state.executeEnters site timestamp sender operation = none) :
    transact site timestamp state sender (.execute operation inner ok) = none := by
  rw [transact]
  split
  · rfl
  · rename_i entered enters
    cases fails with
    | inl refused => simp [refused]
    | inr reverted => simp [reverted] at enters

omit [DecidableEq Id] in
theorem Matched.queueings {delay : Nat} {log : List (Record Data)} (matched : Matched delay log) :
    ∃ queueing : Nat → Nat,
      (∀ position operation time sender governor,
        log[position]? = some (.executed operation time sender governor) →
          sender = governor ∧ Settles delay log operation time (queueing position) position) ∧
      ∀ first second firstOp secondOp firstTime secondTime firstBy secondBy firstGov secondGov,
        log[first]? = some (.executed firstOp firstTime firstBy firstGov) →
        log[second]? = some (.executed secondOp secondTime secondBy secondGov) →
        queueing first = queueing second → first = second := by
  have exists_source : ∀ position, ∃ source, ∀ operation time sender governor,
      log[position]? = some (.executed operation time sender governor) →
        sender = governor ∧ Settles delay log operation time source position := by
    intro position
    by_cases executed : ∃ operation time sender governor,
        log[position]? = some (.executed operation time sender governor)
    · obtain ⟨operation, time, sender, governor, found⟩ := executed
      obtain ⟨governs, source, settles⟩ := matched position operation time sender governor found
      refine ⟨source, fun _ _ _ _ again => ?_⟩
      rw [found, Option.some.injEq, Record.executed.injEq] at again
      obtain ⟨rfl, rfl, rfl, rfl⟩ := again
      exact ⟨governs, settles⟩
    · exact ⟨0, fun operation time sender governor found =>
        absurd ⟨operation, time, sender, governor, found⟩ executed⟩
  choose queueing settles using exists_source
  refine ⟨queueing, settles, ?_⟩
  intro first second firstOp secondOp firstTime secondTime firstBy secondBy firstGov secondGov
    firstFound secondFound same
  have firstSettles := (settles first _ _ _ _ firstFound).2
  have secondSettles := (settles second _ _ _ _ secondFound).2
  rw [← same] at secondSettles
  have notBefore := Settles.not_shared firstFound firstSettles secondSettles
  have notAfter := Settles.not_shared secondFound secondSettles firstSettles
  omega

/-- **Timelock.** In every state of every sequence of calls, each execution was made by
the governor of that moment and uses up a queueing of its own, made `delay` before; a
failed execution changes nothing; and after `renounce` nothing is queued, executed or
handed over, so the settings of an owned token are final. -/
theorem executions_are_queued_and_renounce_freezes (injective : Function.Injective site.id)
    {governor : Address} {token : Token.State} {start state : State Data Id}
    (made : deployed governor token = some start) (visited : Visited site start state) :
    (∀ timestamp sender operation inner ok after, Calls.Genuine site inner →
      transact site timestamp state sender (.execute operation inner ok) = some after →
        sender = state.governor ∧
          state.log ++ [.executed operation timestamp sender state.governor] <+: after.log) ∧
    (∃ queueing : Nat → Nat,
      (∀ position operation time sender governor,
        state.log[position]? = some (.executed operation time sender governor) →
          sender = governor ∧
            Settles site.delay state.log operation time (queueing position) position) ∧
      ∀ first second firstOp secondOp firstTime secondTime firstBy secondBy firstGov secondGov,
        state.log[first]? = some (.executed firstOp firstTime firstBy firstGov) →
        state.log[second]? = some (.executed secondOp secondTime secondBy secondGov) →
        queueing first = queueing second → first = second) ∧
    (∀ timestamp sender operation inner ok rest,
      (ok = false ∨ state.executeEnters site timestamp sender operation = none) →
        transact site timestamp state sender (.execute operation inner ok) = none ∧
          execAll site timestamp state (.cons sender (.execute operation inner ok) rest) =
            execAll site timestamp state rest) ∧
    (state.renounced = true → ∀ later, Visited site state later →
      (∀ timestamp sender,
        (∀ operation, transact site timestamp later sender (.queue operation) = none) ∧
        (∀ operation inner ok,
          transact site timestamp later sender (.execute operation inner ok) = none) ∧
        ∀ receiver,
          transact site timestamp later sender (.transferGovernor receiver) = none) ∧
      (state.token.owner = site.governance → SameSettings state.token later.token)) := by
  have tracked : Tracked site state := visited.tracked injective (Tracked.deployed made)
  refine ⟨?_, tracked.matched.queueings, ?_, ?_⟩
  · intro timestamp sender operation inner ok after genuine returned
    exact execute_records genuine returned
  · intro timestamp sender operation inner ok rest fails
    have reverted : transact site timestamp state sender (.execute operation inner ok) = none :=
      execute_failed fails
    refine ⟨reverted, ?_⟩
    rw [execAll, reverted, Option.getD_none]
  · intro renounced later after
    obtain ⟨still, same⟩ := after.frozen renounced
    exact ⟨rejects_of_renounced still, same⟩

/-- A token at address 60, owned by a governance contract at address 50 with a delay
of ten seconds. Calldata is the signer to set. -/
def sampleSite : Site Address (Operation Address) Unit where
  delay := 10
  governance := 50
  token := 60
  ecdsa := { voucher := fun _ _ => none, permit := fun _ _ => none }
  id operation := operation
  decode signer := some (.setSigner signer)

def rotateSigner : Operation Address := ⟨60, 0, 5⟩

def sampleStart : State Address (Operation Address) where
  governor := 1
  renounced := false
  queuedAt := fun _ => 0
  token := Token.deployed 50 9 0
  log := []

def signerQueued : State Address (Operation Address) where
  governor := 1
  renounced := false
  queuedAt := Function.update sampleStart.queuedAt rotateSigner 110
  token := Token.deployed 50 9 0
  log := [.queued rotateSigner 100]

def signerRotated : State Address (Operation Address) where
  governor := 1
  renounced := false
  queuedAt := Function.update signerQueued.queuedAt rotateSigner 0
  token := Token.deployed 50 5 0
  log := [.queued rotateSigner 100, .executed rotateSigner 110 1 1]

/-- The governor rotates the signer and renounces: the rotation waited its time, and the
signer is final. -/
theorem executions_are_queued_and_renounce_freezes_sample :
    (∃ source, Settles 10 signerRotated.log rotateSigner 110 source 1) ∧
      ∀ later, Visited sampleSite { signerRotated with renounced := true } later →
        later.token.authorizedSigner = 5 := by
  have queued : Visited sampleSite sampleStart signerQueued :=
    .call 100 1 (.queue rotateSigner) .start trivial rfl
  have executed : Visited sampleSite sampleStart signerRotated :=
    .call 110 1 (.execute rotateSigner .nil true) queued trivial rfl
  have renounced : Visited sampleSite sampleStart { signerRotated with renounced := true } :=
    .call 110 1 .renounce executed trivial rfl
  have injective : Function.Injective sampleSite.id := fun _ _ same => same
  have made : deployed 1 (Token.deployed 50 9 0) = some sampleStart := rfl
  obtain ⟨_, ⟨queueing, settles, _⟩, _, frozen⟩ :=
    executions_are_queued_and_renounce_freezes injective made renounced
  constructor
  · exact ⟨queueing 1, (settles 1 rotateSigner 110 1 1 rfl).2⟩
  · intro later after
    exact ((frozen rfl later after).2 rfl).2.1

end CrFaucet.Governance
