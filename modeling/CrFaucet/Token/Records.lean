import CrFaucet.Token.Steps

/-!
Owns the redemption records of the contract as an append-only log: what a later
state may have changed in `redemptions`, `processed`, `payoutTxid`, `claimed` and
`restoreHeight`, and who changed it.

`Kept` relates two states with any sequence of entry points between them. It is
proved for one entry point and composed along the way. Ids are reused after
`2 ^ 256` redemptions; `made` counts them, and everything here is stated below
that. Who marked is read off the log of the run: each entry point with its
`msg.sender`.
-/

set_option autoImplicit false

namespace CrFaucet.Token

variable {Signature : Type} {ecdsa : Ecdsa Signature}

/-! ### What one entry point does to the records -/

namespace State

/-- `after` differs from `state` in none of the records. -/
structure SameRecords (state after : State) : Prop where
  redemptions : after.redemptions = state.redemptions
  nextRedemptionId : after.nextRedemptionId = state.nextRedemptionId
  made : after.made = state.made
  processed : after.processed = state.processed
  payoutTxid : after.payoutTxid = state.payoutTxid
  claimed : after.claimed = state.claimed
  restoreHeight : after.restoreHeight = state.restoreHeight

end State

theorem plain_records {state after : State} {sender : Address} {call : Call Signature}
    (flat : call.plain = true) (returned : transact ecdsa state sender call = some after) :
    (∃ id moneroTxid newRestoreHeight,
        state.markProcessed sender id moneroTxid newRestoreHeight = some after) ∨
      state.SameRecords after := by
  cases plain_move flat returned with
  | marked id moneroTxid newRestoreHeight written =>
      exact Or.inl ⟨id, moneroTxid, newRestoreHeight, written⟩
  | signer | subsidy | owner | balances => exact Or.inr ⟨rfl, rfl, rfl, rfl, rfl, rfl, rfl⟩

/-- One entry point, without what the signer's code does inside `redeem`. -/
abbrev Entry (ecdsa : Ecdsa Signature) : State → State → Prop :=
  Step ecdsa fun _ _ => True

/-- **Inversion for the records.** -/
theorem Entry.records {state after : State} (entry : Entry ecdsa state after) :
    (∃ user cumulativeAmount, state.claimed user < cumulativeAmount ∧
        after.claimed = Function.update state.claimed user cumulativeAmount ∧
        State.SameRecords { state with claimed := after.claimed } after) ∨
      (∃ sender amount xmrAddress value,
        state.redeemWrites sender amount xmrAddress value = some after) ∨
      (∃ sender id moneroTxid newRestoreHeight,
        state.markProcessed sender id moneroTxid newRestoreHeight = some after) ∨
      state.SameRecords after := by
  cases entry with
  | claim sender user cumulativeAmount signedAt sig may claimed =>
      obtain ⟨fresh, _, _, erc20, _, rfl⟩ := State.claim_eq claimed
      exact Or.inl ⟨user, cumulativeAmount, fresh, rfl, rfl, rfl, rfl, rfl, rfl, rfl, rfl⟩
  | redeem sender amount xmrAddress value wrote =>
      exact Or.inr (Or.inl ⟨sender, amount, xmrAddress, value, wrote⟩)
  | plain sender call flat may returned =>
      apply Or.inr
      apply Or.inr
      apply (plain_records flat returned).imp_left
      intro marked
      exact ⟨sender, marked⟩

/-! ### Two states of one history -/

namespace State

/-- What is kept from `before` to a later state. -/
structure Kept (before after : State) : Prop where
  next : before.nextRedemptionId ≤ after.nextRedemptionId
  redemptions : ∀ id, id ≤ before.nextRedemptionId →
    after.redemptions id = before.redemptions id
  processed : ∀ id, before.processed id = true → after.processed id = true
  payoutTxid : ∀ id, after.processed id = before.processed id →
    after.payoutTxid id = before.payoutTxid id
  claimed : ∀ user, before.claimed user ≤ after.claimed user
  restoreHeight : before.restoreHeight ≤ after.restoreHeight

theorem Kept.refl (state : State) : state.Kept state where
  next := Nat.le_refl _
  redemptions _ _ := rfl
  processed _ flag := flag
  payoutTxid _ _ := rfl
  claimed _ := Nat.le_refl _
  restoreHeight := Nat.le_refl _

theorem Kept.trans {first second third : State} (before : first.Kept second)
    (after : second.Kept third) : first.Kept third where
  next := before.next.trans after.next
  redemptions id issued :=
    (after.redemptions id (issued.trans before.next)).trans (before.redemptions id issued)
  processed id flag := after.processed id (before.processed id flag)
  payoutTxid id same := by
    -- The flag never falls, so it had this value in between.
    have between : second.processed id = first.processed id := by
      cases flag : first.processed id with
      | true => exact before.processed id flag
      | false =>
          cases middle : second.processed id with
          | false => rfl
          | true => exact (after.processed id middle).symm.trans (same.trans flag)
    exact (after.payoutTxid id (same.trans between.symm)).trans (before.payoutTxid id between)
  claimed user := (before.claimed user).trans (after.claimed user)
  restoreHeight := before.restoreHeight.trans after.restoreHeight

variable {state after : State}

theorem SameRecords.kept (same : state.SameRecords after) : state.Kept after := by
  constructor
  · rw [same.nextRedemptionId]
  · intro id _
    rw [same.redemptions]
  · intro id flag
    rwa [same.processed]
  · intro id _
    rw [same.payoutTxid]
  · intro user
    rw [same.claimed]
  · rw [same.restoreHeight]

/-- Ids are counted, as long as the counter has not wrapped. -/
structure Numbered (state : State) : Prop where
  next_eq : state.nextRedemptionId = state.made % uint256
  marked : state.made < uint256 → ∀ id, state.processed id = true →
    1 ≤ id ∧ id ≤ state.nextRedemptionId

theorem Numbered.of_sameRecords (before : state.Numbered) (same : state.SameRecords after) :
    after.Numbered := by
  constructor
  · rw [same.nextRedemptionId, same.made]
    exact before.next_eq
  · rw [same.made, same.processed, same.nextRedemptionId]
    exact before.marked

theorem Numbered.next_eq_made (numbered : state.Numbered) (few : state.made < uint256) :
    state.nextRedemptionId = state.made := by
  rw [numbered.next_eq, Nat.mod_eq_of_lt few]

/-- The next redemption gets the next id, and a slot nobody has used. -/
theorem Numbered.redeemWrites (numbered : state.Numbered) {sender : Address} {amount value : Nat}
    {xmrAddress : String}
    (wrote : state.redeemWrites sender amount xmrAddress value = some after)
    (few : after.made < uint256) :
    after.nextRedemptionId = state.nextRedemptionId + 1 ∧
      after.redemptions = Function.update state.redemptions (state.nextRedemptionId + 1)
        ⟨sender, amount, xmrAddress⟩ := by
  obtain ⟨_, erc20, _, rfl⟩ := redeemWrites_eq wrote
  have here := numbered.next_eq_made (Nat.lt_of_succ_lt few)
  have there : uncheckedAdd state.nextRedemptionId 1 = state.nextRedemptionId + 1 := by
    rw [here]
    exact Nat.mod_eq_of_lt few
  exact ⟨there, by simp only [there]⟩

end State

/-! ### One entry point -/

namespace Entry

variable {state after : State}

theorem made_le (entry : Entry ecdsa state after) : state.made ≤ after.made := by
  rcases entry.records with ⟨_, _, _, _, same⟩ | ⟨_, _, _, _, wrote⟩ | ⟨_, _, _, _, marked⟩ | same
  · exact Nat.le_of_eq same.made.symm
  · obtain ⟨_, erc20, _, rfl⟩ := State.redeemWrites_eq wrote
    exact Nat.le_succ _
  · obtain ⟨_, _, rfl⟩ := State.markProcessed_eq marked
    exact Nat.le_refl _
  · exact Nat.le_of_eq same.made.symm

theorem numbered (entry : Entry ecdsa state after) (before : state.Numbered) :
    after.Numbered := by
  rcases entry.records with ⟨_, _, _, _, same⟩ | ⟨_, _, _, _, wrote⟩ | ⟨_, _, _, _, marked⟩ | same
  · have credited : State.Numbered { state with claimed := after.claimed } :=
      ⟨before.next_eq, before.marked⟩
    exact credited.of_sameRecords same
  · constructor
    · obtain ⟨_, erc20, _, rfl⟩ := State.redeemWrites_eq wrote
      dsimp only
      rw [uncheckedAdd, before.next_eq, Nat.mod_add_mod]
    · intro few id flag
      obtain ⟨next, _⟩ := before.redeemWrites wrote few
      obtain ⟨_, erc20, _, rfl⟩ := State.redeemWrites_eq wrote
      obtain ⟨positive, issued⟩ := before.marked (Nat.lt_of_succ_lt few) id flag
      exact ⟨positive, issued.trans (next ▸ Nat.le_succ _)⟩
  · obtain ⟨_, known, rfl⟩ := State.markProcessed_eq marked
    constructor
    · exact before.next_eq
    · intro few
      apply (Function.forall_update_iff state.processed fun id flag =>
        flag = true → 1 ≤ id ∧ id ≤ state.nextRedemptionId).2
      constructor
      · intro _
        exact ⟨Nat.one_le_iff_ne_zero.2 known.1, known.2⟩
      · intro id _
        exact before.marked few id
  · exact before.of_sameRecords same

/-- **The step lemma.** -/
theorem kept (entry : Entry ecdsa state after) (before : state.Numbered)
    (few : after.made < uint256) : state.Kept after := by
  rcases entry.records with
    ⟨user, amount, fresh, claimed, same⟩ | ⟨_, _, _, _, wrote⟩ | ⟨_, id, _, _, marked⟩ | same
  · have others := same.kept
    refine ⟨others.next, others.redemptions, others.processed, others.payoutTxid, ?_,
      others.restoreHeight⟩
    rw [claimed]
    apply (Function.forall_update_iff state.claimed fun other total =>
      state.claimed other ≤ total).2
    exact ⟨fresh.le, fun _ _ => Nat.le_refl _⟩
  · obtain ⟨next, redemptions⟩ := before.redeemWrites wrote few
    obtain ⟨_, erc20, _, rfl⟩ := State.redeemWrites_eq wrote
    refine ⟨next ▸ Nat.le_succ _, ?_, fun _ flag => flag, fun _ _ => rfl, fun _ => Nat.le_refl _,
      Nat.le_refl _⟩
    intro id issued
    rw [redemptions, Function.update_of_ne (by omega)]
  · obtain ⟨_, _, rfl⟩ := State.markProcessed_eq marked
    refine ⟨Nat.le_refl _, fun _ _ => rfl, ?_, ?_, fun _ => Nat.le_refl _, Nat.le_max_left _ _⟩
    · intro other flag
      dsimp only
      by_cases same : other = id
      · rw [same, Function.update_self]
      · rwa [Function.update_of_ne same]
    · intro other same
      dsimp only at same ⊢
      split
      · rfl
      · rename_i fresh
        apply Function.update_of_ne
        rintro rfl
        rw [Function.update_self] at same
        exact fresh same.symm
  · exact same.kept

end Entry

/-! ### Histories -/

section Histories

variable {start before after : State}

theorem Visited.entries (visited : Visited ecdsa start after) :
    Relation.ReflTransGen (Entry ecdsa) start after := by
  induction visited with
  | start => exact .refl
  | call sender call _ returned inductionHypothesis =>
      have may : call.All (fun _ _ => True) sender :=
        Call.all_of_forall (fun _ _ => trivial) sender call
      exact inductionHypothesis.trans (transact_steps sender call may returned)
  | inside sender amount xmrAddress value _ wrote inductionHypothesis =>
      exact inductionHypothesis.tail (.redeem sender amount xmrAddress value wrote)

theorem Visited.numbered (visited : Visited ecdsa start after) (initially : start.Numbered) :
    after.Numbered := by
  have entries := visited.entries
  clear visited
  induction entries with
  | refl => exact initially
  | tail _ last inductionHypothesis => exact last.numbered inductionHypothesis

theorem deployed_numbered (owner signer : Address) (subsidy : Nat) :
    (deployed owner signer subsidy).Numbered :=
  ⟨rfl, fun _ _ flag => by cases flag⟩

/-- The run lemma: the records are kept. -/
theorem entries_kept (initially : before.Numbered)
    (entries : Relation.ReflTransGen (Entry ecdsa) before after) (few : after.made < uint256) :
    after.Numbered ∧ before.Kept after := by
  induction entries with
  | refl => exact ⟨initially, .refl before⟩
  | @tail middle after _ last inductionHypothesis =>
      obtain ⟨numbered, kept⟩ := inductionHypothesis (Nat.lt_of_le_of_lt last.made_le few)
      exact ⟨last.numbered numbered, kept.trans (last.kept numbered few)⟩

end Histories

/-! ### Who marks -/

namespace Invocation

/-- The entry point raises the flag of `id`. -/
def Raises (invocation : Invocation Signature) (id : Nat) : Prop :=
  invocation.before.processed id = false ∧ invocation.after.processed id = true

/-- A flag changes only by being raised, in a `markProcessed` of that id whose
`msg.sender` is the signer of the moment; the txid changes only with its flag, and to
the one that is passed. -/
structure MarksAsSigner (invocation : Invocation Signature) : Prop where
  raised : ∀ id, invocation.after.processed id ≠ invocation.before.processed id →
    invocation.Raises id ∧ invocation.sender = invocation.before.authorizedSigner ∧
      ∃ newRestoreHeight,
        invocation.call = .markProcessed id (invocation.after.payoutTxid id) newRestoreHeight
  told : ∀ id, invocation.after.payoutTxid id ≠ invocation.before.payoutTxid id →
    invocation.Raises id

theorem MarksAsSigner.of_same {invocation : Invocation Signature}
    (processed : invocation.after.processed = invocation.before.processed)
    (payoutTxid : invocation.after.payoutTxid = invocation.before.payoutTxid) :
    invocation.MarksAsSigner := by
  constructor
  · intro id changed
    rw [processed] at changed
    exact absurd rfl changed
  · intro id changed
    rw [payoutTxid] at changed
    exact absurd rfl changed

theorem MarksAsSigner.of_markProcessed {state after : State} {sender : Address}
    {id newRestoreHeight : Nat} {moneroTxid : String}
    (marked : state.markProcessed sender id moneroTxid newRestoreHeight = some after) :
    (⟨state, sender, .markProcessed id moneroTxid newRestoreHeight, after⟩ :
      Invocation Signature).MarksAsSigner := by
  obtain ⟨authorized, _, rfl⟩ := State.markProcessed_eq marked
  constructor
  · intro other changed
    dsimp only [Raises] at changed ⊢
    by_cases same : other = id
    · subst same
      rw [Function.update_self] at changed ⊢
      have unmarked : state.processed other = false := Bool.eq_false_iff.2 changed.symm
      refine ⟨⟨unmarked, rfl⟩, authorized, newRestoreHeight, ?_⟩
      rw [if_neg changed.symm, Function.update_self]
    · rw [Function.update_of_ne same] at changed
      exact absurd rfl changed
  · intro other changed
    dsimp only [Raises] at changed ⊢
    split at changed
    · exact absurd rfl changed
    · rename_i unmarked
      by_cases same : other = id
      · subst same
        exact ⟨Bool.eq_false_iff.2 unmarked, Function.update_self ..⟩
      · rw [Function.update_of_ne same] at changed
        exact absurd rfl changed

theorem MarksAsSigner.of_plain {state after : State} {sender : Address} {call : Call Signature}
    (flat : call.plain = true) (returned : transact ecdsa state sender call = some after) :
    MarksAsSigner ⟨state, sender, call, after⟩ := by
  cases plain_move flat returned with
  | marked id moneroTxid newRestoreHeight written => exact .of_markProcessed written
  | signer | subsidy | owner | balances => exact .of_same rfl rfl

/-- **Every entry point that is run marks as the signer or not at all.** -/
theorem Made.marksAsSigner {invocation : Invocation Signature} (made : invocation.Made ecdsa) :
    invocation.MarksAsSigner := by
  obtain ⟨state, sender, call, after⟩ := invocation
  cases call with
  | claim user cumulativeAmount signedAt sig =>
      have returned : (state.claim ecdsa user cumulativeAmount signedAt sig).map Prod.fst =
          some after := made
      obtain ⟨⟨_, _⟩, claimed, rfl⟩ := Option.map_eq_some_iff.1 returned
      obtain ⟨_, _, _, erc20, _, rfl⟩ := State.claim_eq claimed
      exact .of_same rfl rfl
  | redeem amount xmrAddress value inner ok =>
      have wrote : state.redeemWrites sender amount xmrAddress value = some after := made
      obtain ⟨_, erc20, _, rfl⟩ := State.redeemWrites_eq wrote
      exact .of_same rfl rfl
  | _ => exact .of_plain rfl made

end Invocation

section Log

variable {id : Nat}

/-- A flag that stands after the log was there before it, with the same txid, or an entry
of the log raised it, with the txid that stands. -/
def MarkedIn (log : List (Invocation Signature)) (state after : State) (id : Nat) : Prop :=
  (state.processed id = true ∧ after.payoutTxid id = state.payoutTxid id) ∨
    ∃ invocation ∈ log, invocation.Raises id ∧
      after.payoutTxid id = invocation.after.payoutTxid id

theorem MarkedIn.append {state middle after : State}
    {first second : List (Invocation Signature)}
    (later : MarkedIn second middle after id)
    (earlier : middle.processed id = true → MarkedIn first state middle id) :
    MarkedIn (first ++ second) state after id := by
  rcases later with ⟨flag, told⟩ | ⟨invocation, listed, raises, told⟩
  · rcases earlier flag with ⟨flag, before⟩ | ⟨invocation, listed, raises, before⟩
    · exact Or.inl ⟨flag, told.trans before⟩
    · exact Or.inr ⟨invocation, List.mem_append_left _ listed, raises, told.trans before⟩
  · exact Or.inr ⟨invocation, List.mem_append_right _ listed, raises, told⟩

variable (ecdsa) in
theorem MarkedIn.single {state after : State} {sender : Address} {call : Call Signature}
    (made : Invocation.Made ecdsa ⟨state, sender, call, after⟩)
    (flag : after.processed id = true) :
    MarkedIn [⟨state, sender, call, after⟩] state after id := by
  have marks := made.marksAsSigner
  cases unmarked : state.processed id with
  | false => exact Or.inr ⟨_, List.mem_singleton_self _, ⟨unmarked, flag⟩, rfl⟩
  | true =>
      refine Or.inl ⟨unmarked, ?_⟩
      by_contra changed
      have raised := (marks.told id changed).1
      rw [unmarked] at raised
      cases raised

mutual

theorem transact_markedIn {state after : State} {sender : Address} : ∀ call : Call Signature,
    transact ecdsa state sender call = some after → after.processed id = true →
      MarkedIn (invocations ecdsa state sender call) state after id
  | .redeem amount xmrAddress value inner ok, returned, flag => by
      cases wrote : state.redeemWrites sender amount xmrAddress value with
      | none =>
          simp only [transact, wrote] at returned
          cases returned
      | some written =>
          simp only [transact, wrote] at returned
          simp only [invocations, wrote]
          have entered (flag : written.processed id = true) : MarkedIn
              [⟨state, sender, .redeem amount xmrAddress value inner ok, written⟩]
              state written id :=
            MarkedIn.single ecdsa wrote flag
          split at returned
          · cases returned
            rw [if_pos ‹_›]
            exact entered flag
          · split at returned
            · cases returned
              rw [if_neg ‹_›]
              exact (execAll_markedIn inner flag).append entered
            · cases returned
  | .claim .., returned, flag | .markProcessed .., returned, flag | .burn .., returned, flag
  | .burnFrom .., returned, flag | .transfer .., returned, flag
  | .transferFrom .., returned, flag | .approve .., returned, flag | .permit .., returned, flag
  | .setSigner .., returned, flag | .setRedemptionGasSubsidy .., returned, flag
  | .transferOwnership .., returned, flag | .renounceOwnership, returned, flag => by
      simp only [invocations, returned]
      exact MarkedIn.single ecdsa returned flag

theorem execAll_markedIn {state : State} : ∀ calls : Calls Signature,
    (execAll ecdsa state calls).processed id = true →
      MarkedIn (invocationsAll ecdsa state calls) state (execAll ecdsa state calls) id
  | .nil, flag => by
      rw [execAll] at flag ⊢
      exact Or.inl ⟨flag, rfl⟩
  | .cons sender call rest, flag => by
      rw [execAll] at flag ⊢
      rw [invocationsAll]
      apply (execAll_markedIn rest flag).append
      intro middle
      cases returned : transact ecdsa state sender call with
      | none =>
          rw [returned, Option.getD_none] at middle
          exact Or.inl ⟨middle, rfl⟩
      | some after =>
          rw [returned, Option.getD_some] at middle
          exact transact_markedIn call returned middle

end

end Log

/-- **Redemption records are append-only.** Between any two states of a history that
starts with the deployment, in which calls may start or end, inside `redeem` too:
ids count the redemptions, issued records and set flags stay, the txid changes only
with its flag, flags are for issued ids, watermarks do not fall, the next redemption
gets the next id, and a call that reverts leaves everything as it was. Whatever is
called from there on, every entry point that is run changes a flag only as the
`markProcessed` of that id by the signer of the moment, and a flag that stands in the
end was raised by one of them. -/
theorem records_append_only (ecdsa : Ecdsa Signature) (owner signer : Address) (subsidy : Nat)
    (before after : State) (reached : Visited ecdsa (deployed owner signer subsidy) before)
    (later : Visited ecdsa before after) (few : after.made < uint256) :
    after.nextRedemptionId = after.made ∧ before.Kept after ∧
      (∀ id, after.processed id = true → 1 ≤ id ∧ id ≤ after.nextRedemptionId) ∧
      (∀ calls, ∀ invocation ∈ invocationsAll ecdsa after calls, invocation.MarksAsSigner) ∧
      (∀ calls id, after.processed id = false →
        (execAll ecdsa after calls).processed id = true →
        ∃ invocation ∈ invocationsAll ecdsa after calls, invocation.Raises id ∧
          (execAll ecdsa after calls).payoutTxid id = invocation.after.payoutTxid id) ∧
      (∀ sender amount xmrAddress value written,
        after.redeemWrites sender amount xmrAddress value = some written →
        written.made < uint256 →
        written.nextRedemptionId = after.nextRedemptionId + 1 ∧
          written.redemptions = Function.update after.redemptions (after.nextRedemptionId + 1)
            ⟨sender, amount, xmrAddress⟩) ∧
      ∀ sender call rest, transact ecdsa after sender call = none →
        execAll ecdsa after (.cons sender call rest) = execAll ecdsa after rest := by
  have numbered := reached.numbered (deployed_numbered owner signer subsidy)
  obtain ⟨numbered, kept⟩ := entries_kept numbered later.entries few
  refine ⟨numbered.next_eq_made few, kept, numbered.marked few, ?_, ?_, ?_, ?_⟩
  · intro calls invocation listed
    exact (invocationsAll_made calls invocation listed).marksAsSigner
  · intro calls id unmarked flag
    rcases execAll_markedIn calls flag with ⟨marked, _⟩ | raised
    · rw [unmarked] at marked
      cases marked
    · exact raised
  · intro sender amount xmrAddress value written wrote fewer
    exact numbered.redeemWrites wrote fewer
  · intro sender call rest reverted
    rw [execAll, reverted, Option.getD_none]

/-- A signature is the account that made it. -/
def selfSigned : Ecdsa Address where
  voucher _ sig := some sig
  permit _ sig := some sig

/-- Account 9 signs. Account 1 claims 5 and redeems 2, and while account 9 is paid
the subsidy it marks the redemption it is paid for. -/
def markedInside : Calls Address :=
  .cons 1 (.claim 1 5 0 9)
    (.cons 1 (.redeem 2 "4A" 1 (.cons 9 (.markProcessed 1 "tx" 30) .nil) true) .nil)

theorem records_append_only_inside :
    (execAll selfSigned (deployed 7 9 1) markedInside).payoutTxid 1 = "tx" ∧
      ∃ invocation ∈ invocationsAll selfSigned (deployed 7 9 1) markedInside,
        invocation.Raises 1 ∧ invocation.sender = invocation.before.authorizedSigner := by
  obtain ⟨_, _, _, signed, raised, _⟩ :=
    records_append_only selfSigned 7 9 1 (deployed 7 9 1) (deployed 7 9 1) .start .start
      (by decide)
  obtain ⟨invocation, listed, raises, _⟩ := raised markedInside 1 rfl (by decide)
  have changed : invocation.after.processed 1 ≠ invocation.before.processed 1 := by
    rw [raises.1, raises.2]
    decide
  exact ⟨by decide, invocation, listed, raises,
    ((signed markedInside invocation listed).raised 1 changed).2.1⟩

end CrFaucet.Token
