import CrFaucet.Governance.RoflAdmin
import Mathlib.Data.List.Induction

/-!
Owns the promise of `RoflAdminGovernance`: the runtime only ever sees an update that
was staged in the clear, waited out the delay and was not withdrawn.

The single slot follows the history: whenever it is full, the last transaction that
touched it staged what it holds.
-/

set_option autoImplicit false

namespace CrFaucet.Governance.RoflAdmin

open Interaction
open Token (Address)

variable {Hash : Type} [DecidableEq Hash]

def Call.touchesSlot : Call → Bool
  | .transferGovernor _ => false
  | .propose _ | .cancel | .execute _ _ => true

def Call.isPropose : Call → Bool
  | .propose _ => true
  | _ => false

/-- The transaction reverts or leaves the slot alone. -/
def Spares (site : Site Hash) (state : State Hash) (transaction : Transaction) : Prop :=
  Succeeds site state transaction → transaction.call.touchesSlot = false

/-- The transaction is no proposal, or one that reverts. -/
def ProposesNothing (site : Site Hash) (state : State Hash) (transaction : Transaction) : Prop :=
  Succeeds site state transaction → transaction.call.isPropose = false

instance (site : Site Hash) (state : State Hash) (transaction : Transaction) :
    Decidable (ProposesNothing site state transaction) :=
  inferInstanceAs (Decidable (_ → _))

/-- The last proposal of the history is of `body`, made by the governor at `time`, and
nothing was proposed, cancelled or executed since. -/
def Staged (site : Site Hash) (start : State Hash) (history : List Transaction) (body : Body)
    (time : Nat) : Prop :=
  ∃ older proposal since, history = older ++ proposal :: since ∧
    proposal.call = .propose body ∧ proposal.timestamp = time ∧
    Succeeds site (run (step site) start older) proposal ∧
    proposal.sender = (run (step site) start older).governor ∧
    Along (step site) (Spares site) (run (step site) start (older ++ [proposal])) since

variable {site : Site Hash} {start state : State Hash} {history : List Transaction}
  {transaction : Transaction} {body : Body} {time : Nat}

/-! ### Single transactions -/

theorem Succeeds.result (succeeds : Succeeds site state transaction) :
    ∃ event, (transact site state transaction).result =
      .ok (step site state transaction, event) := by
  unfold Succeeds at succeeds
  unfold step
  cases result : (transact site state transaction).result with
  | error revert =>
      rw [result] at succeeds
      cases succeeds
  | ok pair => exact ⟨pair.2, rfl⟩

theorem step_of_reverts (reverts : ¬ Succeeds site state transaction) :
    step site state transaction = state := by
  unfold Succeeds at reverts
  unfold step
  cases result : (transact site state transaction).result with
  | error revert => rfl
  | ok pair =>
      rw [result] at reverts
      exact absurd rfl reverts

theorem relayed_eq_some (relays : (transact site state transaction).relayed = some body) :
    state.eta ≠ 0 ∧ state.eta ≤ transaction.timestamp ∧
      site.keccak256 body = state.pendingHash ∧
      ∃ answer, transaction.call = .execute body answer := by
  unfold transact at relays
  split at relays
  · cases relays
  · cases relays
  · cases relays
  · rename_i updateBody answer call
    unfold State.execute at relays
    split at relays
    · cases relays
    · rename_i cleared wrote
      cases relays
      obtain ⟨staged, due, hash, _⟩ := executeWrites_ok wrote
      exact ⟨staged, due, hash, answer, call⟩

/-- **The slot after a transaction that succeeds.** -/
theorem slot_of_succeeds (succeeds : Succeeds site state transaction) :
    match transaction.call with
    | .transferGovernor _ => (step site state transaction).pendingHash = state.pendingHash ∧
        (step site state transaction).eta = state.eta
    | .propose updateBody => transaction.sender = state.governor ∧
        (step site state transaction).pendingHash = site.keccak256 updateBody ∧
        (step site state transaction).eta = transaction.timestamp + site.delay
    | .cancel => (step site state transaction).eta = 0
    | .execute _ _ => (step site state transaction).eta = 0 := by
  obtain ⟨event, result⟩ := succeeds.result
  generalize step site state transaction = after at result
  unfold transact at result
  cases call : transaction.call with
  | transferGovernor receiver =>
      rw [call] at result
      rw [transferGovernor_ok result]
      exact ⟨rfl, rfl⟩
  | propose updateBody =>
      rw [call] at result
      obtain ⟨governs, rfl⟩ := propose_ok result
      exact ⟨governs, rfl, rfl⟩
  | cancel =>
      rw [call] at result
      rw [cancel_ok result]
  | execute updateBody answer =>
      rw [call] at result
      dsimp only [State.execute] at result
      split at result
      · cases result
      · rename_i cleared wrote
        obtain ⟨_, _, _, rfl⟩ := executeWrites_ok wrote
        cases answer with
        | failed => cases result
        | malformed => cases result
        | status code =>
            dsimp only at result
            split at result
            · cases result
              rfl
            · cases result

/-! ### The slot follows the history -/

theorem Staged.append (staged : Staged site start history body time)
    (spares : Spares site (run (step site) start history) transaction) :
    Staged site start (history ++ [transaction]) body time := by
  obtain ⟨older, proposal, since, rfl, call, at_, succeeds, governs, spared⟩ := staged
  refine ⟨older, proposal, since ++ [transaction], by simp, call, at_, succeeds, governs, ?_⟩
  rw [Along.append]
  refine ⟨spared, ?_, trivial⟩
  rw [← run_append]
  simpa using spares

/-- A full slot holds the last proposal. -/
def Tracked (site : Site Hash) (start : State Hash) (history : List Transaction) : Prop :=
  (run (step site) start history).eta ≠ 0 → ∃ body time, Staged site start history body time ∧
    (run (step site) start history).pendingHash = site.keccak256 body ∧
    (run (step site) start history).eta = time + site.delay

theorem run_concat (history : List Transaction) (transaction : Transaction) :
    run (step site) start (history ++ [transaction]) =
      step site (run (step site) start history) transaction := by
  rw [run_append]
  rfl

theorem Tracked.append (tracked : Tracked site start history) (transaction : Transaction) :
    Tracked site start (history ++ [transaction]) := by
  unfold Tracked at tracked ⊢
  rw [run_concat]
  by_cases succeeds : Succeeds site (run (step site) start history) transaction
  · have slot := slot_of_succeeds succeeds
    intro full
    cases call : transaction.call with
    | transferGovernor receiver =>
        rw [call] at slot
        rw [slot.2] at full ⊢
        rw [slot.1]
        obtain ⟨body, time, staged, holds⟩ := tracked full
        have spares : Spares site (run (step site) start history) transaction := by
          intro _
          rw [call]
          rfl
        exact ⟨body, time, staged.append spares, holds⟩
    | propose updateBody =>
        rw [call] at slot
        refine ⟨updateBody, transaction.timestamp, ?_, slot.2.1, slot.2.2⟩
        exact ⟨history, transaction, [], rfl, call, rfl, succeeds, slot.1, trivial⟩
    | cancel =>
        rw [call] at slot
        exact absurd slot full
    | execute updateBody answer =>
        rw [call] at slot
        exact absurd slot full
  · rw [step_of_reverts succeeds]
    intro full
    obtain ⟨body, time, staged, holds⟩ := tracked full
    exact ⟨body, time, staged.append fun wrong => absurd wrong succeeds, holds⟩

theorem tracked_run (empty : start.eta = 0) (history : List Transaction) :
    Tracked site start history := by
  induction history using List.reverseRecOn with
  | nil => exact fun full => absurd empty full
  | append_singleton history transaction inductionHypothesis =>
      exact inductionHypothesis.append transaction

/-! ### One relay for each proposal -/

theorem eta_of_proposesNothing (empty : state.eta = 0)
    (proposesNothing : ProposesNothing site state transaction) :
    (step site state transaction).eta = 0 := by
  by_cases succeeds : Succeeds site state transaction
  · have slot := slot_of_succeeds succeeds
    have noProposal := proposesNothing succeeds
    cases call : transaction.call with
    | transferGovernor receiver =>
        rw [call] at slot
        rw [slot.2, empty]
    | propose updateBody =>
        rw [call] at noProposal
        cases noProposal
    | cancel =>
        rw [call] at slot
        exact slot
    | execute updateBody answer =>
        rw [call] at slot
        exact slot
  · rw [step_of_reverts succeeds, empty]

theorem relays_of_empty {stretch : List Transaction} (empty : state.eta = 0)
    (along : Along (step site) (ProposesNothing site) state stretch) :
    relays site state stretch = [] := by
  induction stretch generalizing state with
  | nil => rfl
  | cons transaction rest inductionHypothesis =>
      have silent : (transact site state transaction).relayed = none := by
        cases relayed : (transact site state transaction).relayed with
        | none => rfl
        | some body => exact absurd empty (relayed_eq_some relayed).1
      have later := inductionHypothesis (eta_of_proposesNothing empty along.1) along.2
      simp [relays, silent, later]

/-- **At most one.** A successful relay empties the slot. -/
theorem relays_length_le_one {stretch : List Transaction}
    (along : Along (step site) (ProposesNothing site) state stretch) :
    (relays site state stretch).length ≤ 1 := by
  induction stretch generalizing state with
  | nil => exact Nat.zero_le 1
  | cons transaction rest inductionHypothesis =>
      have later := inductionHypothesis along.2
      unfold relays
      by_cases succeeds : Succeeds site state transaction
      · rw [if_pos succeeds]
        cases relayed : (transact site state transaction).relayed with
        | none => exact later
        | some body =>
            obtain ⟨_, _, _, answer, call⟩ := relayed_eq_some relayed
            have emptied := slot_of_succeeds succeeds
            rw [call] at emptied
            rw [relays_of_empty emptied along.2]
            exact Nat.le_refl 1
      · rw [if_neg succeeds]
        exact later

/-! ### Reviewed updates -/

/-- **Only reviewed updates are relayed.** Every update the runtime is asked for, also by
a call that reverts afterwards, is the body of the last proposal, which waited out the
delay and was neither cancelled nor executed since; between two proposals at most one
relay succeeds; and a relay the runtime answers with a non-zero status leaves the slot
as it was. -/
theorem only_reviewed_updates_relayed {governor : Address}
    (injective : Function.Injective site.keccak256) (made : deployed site governor = .ok start) :
    (∀ history transaction body,
      (transact site (run (step site) start history) transaction).relayed = some body →
        ∃ time, Staged site start history body time ∧
          time + site.delay ≤ transaction.timestamp) ∧
    (∀ history proposal body stretch, proposal.call = .propose body →
      Along (step site) (ProposesNothing site) (run (step site) start (history ++ [proposal]))
        stretch →
      (relays site (run (step site) start (history ++ [proposal])) stretch).length ≤ 1) ∧
    ∀ history transaction body code,
      transaction.call = .execute body (.status code) → code ≠ 0 →
        (run (step site) start (history ++ [transaction])).pendingHash =
            (run (step site) start history).pendingHash ∧
          (run (step site) start (history ++ [transaction])).eta =
            (run (step site) start history).eta := by
  refine ⟨?_, fun _ _ _ _ _ => relays_length_le_one, ?_⟩
  · intro history transaction body relays
    have empty : start.eta = 0 := by
      simp only [deployed, require_bind_eq_ok] at made
      obtain ⟨_, made⟩ := made
      cases made
      rfl
    obtain ⟨full, due, hash, _⟩ := relayed_eq_some relays
    obtain ⟨staged, time, isStaged, holds, eta⟩ := tracked_run empty history full
    obtain rfl : body = staged := injective (hash.trans holds)
    exact ⟨time, isStaged, eta ▸ due⟩
  · intro history transaction body code call failed
    have reverts : ¬ Succeeds site (run (step site) start history) transaction := by
      unfold Succeeds transact
      rw [call]
      dsimp only [State.execute]
      split
      · exact Bool.false_ne_true
      · rw [if_neg failed]
        exact Bool.false_ne_true
    rw [run_concat, step_of_reverts reverts]
    exact ⟨rfl, rfl⟩

/-- Two days, and bodies that are their own hash. -/
def twoDays : Site Body where
  delay := 172800
  keccak256 := id
  zero := []

def proposedOnce : List Transaction := [⟨7, 1000, .propose [1, 2]⟩]

def executedInTime : Transaction := ⟨7, 173800, .execute [1, 2] (.status 0)⟩

/-- A proposal is relayed two days later. -/
theorem only_reviewed_updates_relayed_in_time :
    (transact twoDays (run (step twoDays) ⟨7, [], 0⟩ proposedOnce) executedInTime).relayed =
      some [1, 2] ∧
    ∃ time, Staged twoDays ⟨7, [], 0⟩ proposedOnce [1, 2] time ∧ time + 172800 ≤ 173800 := by
  have relayed : (transact twoDays (run (step twoDays) ⟨7, [], 0⟩ proposedOnce)
      executedInTime).relayed = some [1, 2] := by
    decide +kernel
  have made : deployed twoDays 7 = .ok ⟨7, [], 0⟩ := rfl
  exact ⟨relayed, (only_reviewed_updates_relayed Function.injective_id made).1 _ _ _ relayed⟩

end CrFaucet.Governance.RoflAdmin
