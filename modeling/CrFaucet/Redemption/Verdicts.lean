import CrFaucet.Redemption.Trail

/-!
Owns what decides how `drain_once` ends an entry: what a thread has read before it writes a state
past the scripts, and the proof that every service keeps to it.

The consumer writes states of entries it was handed. It writes `sent` after the L2 told it that the
redemption is processed, and `failed` when the payout that follows from the snapshot, the pending
total and the amount is dust, or when the wallet rejected the transfer for good.

Does not own claims; see `Redemption.Custody`. What the writes do to the counters is in
`Redemption.ExactCounters`.
-/

set_option autoImplicit false

namespace CrFaucet.Redemption

open Interaction

/-! ### Dust -/

/-- The share of the balance that `amount` buys is below the stamp unit. -/
def Dust (premiumBp : Nat) (snap : TreasurySnapshot) (pendingNow amount : Nat) : Prop :=
  snap.denom pendingNow ≠ 0 ∧ snap.moneroBalanceAtomic ≠ 0 ∧
    amount * min snap.moneroBalanceAtomic (capAtomic premiumBp (snap.denom pendingNow)) <
      stampMod * snap.denom pendingNow

instance (premiumBp : Nat) (snap : TreasurySnapshot) (pendingNow amount : Nat) :
    Decidable (Dust premiumBp snap pendingNow amount) :=
  inferInstanceAs (Decidable (_ ∧ _))

/-- Neither the width of the product nor that of the payout matters for dust. -/
theorem proRata_lt_stampMod (premiumBp balance amount : Nat) {denom : Nat} (positive : 0 < denom)
    (fits : denom ≤ u128Max) :
    (∃ payout, proRata premiumBp balance denom amount = some payout ∧ payout < stampMod) ↔
      amount * min balance (capAtomic premiumBp denom) < stampMod * denom := by
  have wide : stampMod * denom ≤ u256Max :=
    (Nat.mul_le_mul_left stampMod fits).trans (by decide)
  have cut : min (amount * min balance (capAtomic premiumBp denom)) u256Max < stampMod * denom ↔
      amount * min balance (capAtomic premiumBp denom) < stampMod * denom := by
    rw [min_lt_iff]
    exact or_iff_left (Nat.not_lt.2 wide)
  rw [← cut, ← Nat.div_lt_iff_lt_mul positive]
  simp only [proRata]
  constructor
  · rintro ⟨payout, computed, small⟩
    split at computed
    · rwa [Option.some.inj computed]
    · cases computed
  · intro small
    refine ⟨_, if_pos ?_, small⟩
    exact small.le.trans (by decide)

/-- **When `drain_once` finds a payout to be dust.** -/
theorem assess_eq_dust_iff {premiumBp pendingNow amount : Nat} {snap : TreasurySnapshot} :
    assess premiumBp snap pendingNow amount = .dust ↔ Dust premiumBp snap pendingNow amount := by
  unfold assess Dust
  dsimp only
  split
  · rename_i empty
    constructor
    · intro dust
      cases dust
    · rintro ⟨outstanding, funded, _⟩
      exact absurd empty (not_or.2 ⟨outstanding, funded⟩)
  · rename_i nonempty
    obtain ⟨outstanding, funded⟩ := not_or.1 nonempty
    have small := proRata_lt_stampMod premiumBp snap.moneroBalanceAtomic amount
      (Nat.pos_of_ne_zero outstanding) (denom_le_u128Max snap pendingNow)
    rw [← small]
    cases proRata premiumBp snap.moneroBalanceAtomic (snap.denom pendingNow) amount with
    | none => simp
    | some payout =>
        dsimp only
        split
        · rename_i dust
          simp [outstanding, funded, dust]
        · rename_i large
          constructor
          · intro dust
            split at dust <;> cases dust
          · rintro ⟨_, _, other, same, dust⟩
            cases same
            exact absurd dust large

/-! ### What a thread has read -/

structure Verdicts where
  handed : List StreamEntry := []
  /-- The L2 said that this redemption is processed. -/
  processed : Option RedemptionId := none
  snapshot : Option TreasurySnapshot := none
  /-- It has asked for a claim. -/
  tried : Bool := false
  /-- Handed out, and to be given up by what was read last. -/
  doomed : List RedemptionId := []

namespace Verdicts

variable (premiumBp : Nat) (verdicts : Verdicts)

def Handed (id : RedemptionId) : Prop := ∃ entry ∈ verdicts.handed, entry.id = id

/-- The redemptions at hand that are dust, with this pending total. -/
def dust (pendingNow : Nat) : List RedemptionId :=
  match verdicts.snapshot with
  | none => []
  | some snap =>
      (verdicts.handed.filter fun entry => Dust premiumBp snap pendingNow entry.atomicAmount).map
        StreamEntry.id

def permits : Command → Prop
  | .xautoclaim => verdicts.tried = false
  | .xreadgroup => verdicts.tried = false
  | .hsetState id state => verdicts.Handed id ∧
      (state = .sent → verdicts.processed = some id) ∧ (state = .failed → id ∈ verdicts.doomed)
  | .hsetnxState id _ => verdicts.Handed id
  | _ => True

def after : (command : Command) → Reply command → Verdicts
  | .xautoclaim, some entries => { verdicts with handed := verdicts.handed ++ entries }
  | .xreadgroup, some entries => { verdicts with handed := verdicts.handed ++ entries }
  | .isProcessed id, some true => { verdicts with processed := some id }
  | .getSnapshot, stored =>
      { verdicts with snapshot := (stored : Option (Option TreasurySnapshot)).join }
  | .tryMarkInFlight _, _ => { verdicts with tried := true, doomed := [] }
  | .getPendingAtomic, some pendingNow =>
      { verdicts with doomed := verdicts.dust premiumBp pendingNow }
  | .transfer id _ _, .rejected code message =>
      if isPermanentTransferError code message then { verdicts with doomed := [id] } else verdicts
  | _, _ => verdicts

end Verdicts

def verdictDiscipline (premiumBp : Nat) : Discipline Command Reply Verdicts where
  start := {}
  permits := Verdicts.permits
  after := Verdicts.after premiumBp

theorem mem_dust {premiumBp pendingNow : Nat} {verdicts : Verdicts} {snap : TreasurySnapshot}
    {entry : StreamEntry} (read : verdicts.snapshot = some snap) (handed : entry ∈ verdicts.handed)
    (dust : Dust premiumBp snap pendingNow entry.atomicAmount) :
    entry.id ∈ verdicts.dust premiumBp pendingNow := by
  simp only [Verdicts.dust, read]
  exact List.mem_map_of_mem (List.mem_filter.2 ⟨handed, decide_eq_true dust⟩)

/-! ### Commands that write no state -/

/-- Neither hands out nor writes a state past the scripts. -/
def Command.Plain : Command → Prop
  | .xautoclaim | .xreadgroup | .hsetState _ _ | .hsetnxState _ _ => False
  | _ => True

section Plain

variable {premiumBp : Nat} {verdicts : Verdicts} {Result : Type}

theorem after_handed {command : Command} (reply : Reply command)
    (other : command ≠ .xautoclaim ∧ command ≠ .xreadgroup) :
    (verdicts.after premiumBp command reply).handed = verdicts.handed := by
  unfold Verdicts.after
  split
  · exact absurd rfl other.1
  · exact absurd rfl other.2
  · rfl
  · rfl
  · rfl
  · rfl
  · split <;> rfl
  · rfl

theorem plain_handed {command : Command} (plain : command.Plain) (reply : Reply command) :
    (verdicts.after premiumBp command reply).handed = verdicts.handed := by
  apply after_handed reply
  constructor <;> rintro rfl <;> cases plain

theorem plain_obeys {program : Service Result} (asks : program.Asks Command.Plain)
    (verdicts : Verdicts) :
    program.Obeys (verdictDiscipline premiumBp) verdicts
      fun after _ => after.handed = verdicts.handed := by
  refine asks.obeys ?_ ?_ rfl
  · intro stage command _ plain
    cases command with
    | hsetState | hsetnxState => cases plain
    | _ => trivial
  · intro stage command reply same plain
    exact (plain_handed plain reply).trans same

theorem plain_of_quiet {program : Service Result} (asks : program.Asks Command.Quiet) :
    program.Asks Command.Plain := by
  refine asks.obeys ?_ (fun _ _ _ now _ => now) trivial
  intro _ command _ quiet
  cases command with
  | xautoclaim | xreadgroup | hsetState | hsetnxState => cases quiet
  | _ => trivial

end Plain

/-! ### The consumer writes what its readings call for -/

section Consumer

variable {verdicts : Verdicts} (payouts : Payouts) {entry : StreamEntry}

/-- What every part of a turn leaves. -/
abbrev KeepsEntries {Result : Type} (verdicts : Verdicts) (program : Service Result) : Prop :=
  program.Obeys (verdictDiscipline payouts.monero.maxPayoutPremiumBp) verdicts
    fun after _ => after.handed = verdicts.handed

theorem ack_verdicts : KeepsEntries payouts verdicts (ack entry) :=
  plain_obeys (ack_asks entry trivial) verdicts

theorem mark_verdicts (txid : String) (restoreHeight : Nat) :
    (mark payouts entry txid restoreHeight).Obeys
      (verdictDiscipline payouts.monero.maxPayoutPremiumBp) verdicts
      fun after _ => after = verdicts := by
  unfold mark
  split
  · exact obeys_call trivial fun _ => rfl
  · rfl

theorem dispose_verdicts {state : RedemptionState}
    (permitted : verdicts.permits (.hsetState entry.id state)) :
    KeepsEntries payouts verdicts (dispose entry state) := by
  apply obeys_call permitted
  intro reply
  cases reply with
  | none => rfl
  | some _ => exact ack_verdicts payouts

theorem permits_owed {state : RedemptionState} (handed : entry ∈ verdicts.handed)
    (unsent : state ≠ .sent) (unfailed : state ≠ .failed) :
    verdicts.permits (.hsetState entry.id state) :=
  ⟨⟨entry, handed, rfl⟩, fun sent => absurd sent unsent, fun failed => absurd failed unfailed⟩

theorem permits_failed (handed : entry ∈ verdicts.handed) (doomed : entry.id ∈ verdicts.doomed) :
    verdicts.permits (.hsetState entry.id .failed) :=
  ⟨⟨entry, handed, rfl⟩, nofun, fun _ => doomed⟩

theorem rollBack_verdicts (handed : entry ∈ verdicts.handed) (flow : Flow) :
    KeepsEntries payouts verdicts (rollBack entry flow) := by
  apply obeys_call (permits_owed handed (by decide) (by decide))
  intro reply
  cases reply with
  | none => rfl
  | some _ => rfl

theorem deferLocked_verdicts (handed : entry ∈ verdicts.handed) :
    KeepsEntries payouts verdicts (deferLocked entry) := by
  apply obeys_call (permits_owed handed (by decide) (by decide))
  intro reply
  cases reply with
  | none => rfl
  | some _ => exact obeys_call ⟨entry, handed, rfl⟩ fun _ => rollBack_verdicts payouts handed .next

/-- The wallet's answer decides between `failed` and `pending`. -/
theorem rejectPayout_verdicts (handed : entry ∈ verdicts.handed) (code : Option Int)
    (message : Option String)
    (doomed : isPermanentTransferError code message = true → entry.id ∈ verdicts.doomed) :
    KeepsEntries payouts verdicts (rejectPayout payouts entry code message) := by
  unfold rejectPayout
  split
  · rename_i permanent
    apply (mark_verdicts payouts "FAILED:permanent" 0).bind
    rintro _ _ rfl
    apply obeys_call (permits_failed handed (doomed permanent))
    intro _
    exact ack_verdicts payouts
  · exact obeys_call (permits_owed handed (by decide) (by decide)) fun _ => rfl

theorem confirmPayout_plain (txHash : String) :
    (confirmPayout payouts entry txHash).Asks Command.Plain := by
  apply obeys_call trivial
  intro reply
  cases reply with
  | none => trivial
  | some _ =>
      dsimp only
      split
      · apply (plain_of_quiet (waitConfirmed_quiet txHash _)).bind
        intro _ confirmed _
        split
        · apply (plain_of_quiet oldestUnspentHeight_quiet).bind
          intro _ height _
          exact (mark_asks payouts entry trivial).bind fun _ _ _ => ack_asks entry trivial
        · exact ack_asks entry trivial
      · exact ack_asks entry trivial

theorem transferPayout_verdicts (handed : entry ∈ verdicts.handed) (payout : Nat) :
    KeepsEntries payouts verdicts (transferPayout payouts entry payout) := by
  apply obeys_call trivial
  intro reply
  cases reply with
  | failed => rfl
  | undecodable => rfl
  | sent txHash => exact plain_obeys (confirmPayout_plain payouts txHash) verdicts
  | rejected code message =>
      have plain : (Command.transfer entry.id (stampAmount payout entry.id) entry.xmrAddr).Plain :=
        trivial
      have same : ((verdictDiscipline payouts.monero.maxPayoutPremiumBp).after verdicts
          (.transfer entry.id (stampAmount payout entry.id) entry.xmrAddr)
          (.rejected code message)).handed = verdicts.handed := plain_handed plain _
      refine (rejectPayout_verdicts payouts (same ▸ handed) code message ?_).weaken
        fun _ _ after => after.trans same
      intro permanent
      have doomed : (verdictDiscipline payouts.monero.maxPayoutPremiumBp).after verdicts
          (.transfer entry.id (stampAmount payout entry.id) entry.xmrAddr)
          (.rejected code message) = { verdicts with doomed := [entry.id] } := if_pos permanent
      rw [doomed]
      exact List.mem_singleton_self _

theorem payAgainst_verdicts (handed : entry ∈ verdicts.handed) {snap : TreasurySnapshot}
    (read : verdicts.snapshot = some snap) :
    KeepsEntries payouts verdicts (payAgainst payouts entry snap) := by
  apply obeys_call trivial
  intro reply
  cases reply with
  | none => rfl
  | some pendingNow =>
      have here : entry ∈ ((verdictDiscipline payouts.monero.maxPayoutPremiumBp).after verdicts
          .getPendingAtomic (some pendingNow)).handed := handed
      dsimp only
      split
      · exact dispose_verdicts payouts (permits_owed here (by decide) (by decide))
      · rename_i dust
        apply (mark_verdicts payouts "dust-skipped" 0).bind
        rintro _ _ rfl
        exact dispose_verdicts payouts
          (permits_failed here (mem_dust read handed (assess_eq_dust_iff.1 dust)))
      · exact deferLocked_verdicts payouts here
      · exact transferPayout_verdicts payouts here _

theorem payClaimed_verdicts (handed : entry ∈ verdicts.handed) :
    KeepsEntries payouts verdicts (payClaimed payouts entry) := by
  apply obeys_call trivial
  intro stored
  have here : entry ∈ ((verdictDiscipline payouts.monero.maxPayoutPremiumBp).after verdicts
      .getSnapshot stored).handed := handed
  split
  · exact rollBack_verdicts payouts here .stop
  · rename_i snap read
    have kept : ((verdictDiscipline payouts.monero.maxPayoutPremiumBp).after verdicts
        .getSnapshot stored).snapshot = some snap := read
    apply obeys_call trivial
    intro time
    split
    · exact rollBack_verdicts payouts here .stop
    · exact payAgainst_verdicts payouts here kept

theorem claimAndPay_verdicts (handed : entry ∈ verdicts.handed) :
    KeepsEntries payouts verdicts (claimAndPay payouts entry) := by
  apply obeys_call trivial
  intro reply
  cases reply with
  | none => rfl
  | some claimed =>
      cases claimed with
      | false => exact obeys_call trivial fun _ => ack_verdicts payouts
      | true => exact payClaimed_verdicts payouts handed

theorem checkProcessed_verdicts :
    (checkProcessed payouts entry).Obeys (verdictDiscipline payouts.monero.maxPayoutPremiumBp)
      verdicts fun after marked => after.handed = verdicts.handed ∧
        (marked = some true → after.processed = some entry.id) := by
  unfold checkProcessed
  split
  · refine ⟨trivial, fun reply => ?_⟩
    cases reply with
    | none => exact ⟨rfl, nofun⟩
    | some marked =>
        cases marked with
        | false => exact ⟨rfl, nofun⟩
        | true => exact ⟨rfl, fun _ => rfl⟩
  · exact ⟨rfl, nofun⟩

/-- **A turn writes what was read.** -/
theorem drainEntry_verdicts (handed : entry ∈ verdicts.handed) :
    KeepsEntries payouts verdicts (drainEntry payouts entry) := by
  unfold drainEntry
  split
  · exact dispose_verdicts payouts (permits_owed handed (by decide) (by decide))
  · apply (checkProcessed_verdicts payouts).bind
    rintro checked marked ⟨sameChecked, processed⟩
    have here : entry ∈ checked.handed := sameChecked ▸ handed
    split
    · exact sameChecked
    · have permitted : checked.permits (.hsetState entry.id .sent) :=
        ⟨⟨entry, here, rfl⟩, fun _ => processed rfl, nofun⟩
      exact (dispose_verdicts payouts permitted).weaken fun _ _ same => same.trans sameChecked
    · apply (plain_obeys (findPaidTx_asks trivial fun _ => trivial) checked).bind
      intro scanned scan sameScanned
      have same : scanned.handed = verdicts.handed := sameScanned.trans sameChecked
      cases scan with
      | failed => exact same
      | paid txid confirmed =>
          exact (plain_obeys (reconcile_asks payouts entry trivial trivial trivial) scanned).weaken
            fun _ _ after => after.trans same
      | clean =>
          exact (claimAndPay_verdicts payouts (same ▸ handed)).weaken
            fun _ _ after => after.trans same

theorem payoutsMain_verdicts :
    (payoutsMain payouts).Obeys (verdictDiscipline payouts.monero.maxPayoutPremiumBp) {}
      fun _ _ => True := by
  apply obeys_call trivial
  intro _
  refine (drainOnce_rule (fun verdicts entries => entries ⊆ verdicts.handed) ?_ rfl
    (fun reclaimed => ?_) fun reclaimed _ => ?_).bind fun _ _ _ => trivial
  · intro verdicts entry rest handed
    apply (drainEntry_verdicts payouts (handed List.mem_cons_self)).weaken
    intro after flow same _
    rw [same]
    exact List.Subset.trans (List.subset_cons_self entry rest) handed
  · cases reclaimed <;> rfl
  · cases reclaimed <;> exact List.Subset.refl _

end Consumer

/-! ### The services of a deployment -/

namespace Deployment

variable {Thread Signature : Type} (deployment : Deployment Thread Signature)

def verdicts : Discipline Command Reply Verdicts :=
  verdictDiscipline deployment.payouts.monero.maxPayoutPremiumBp

/-- **Every service writes what it has read.** -/
theorem keepsVerdicts (thread : Thread) :
    (deployment.machine.main thread).Obeys deployment.verdicts deployment.verdicts.start
      fun _ _ => True := by
  change (deployment.program thread).Obeys deployment.verdicts {} _
  have plain : ∀ {Result : Type} {program : Service Result}, program.Asks Command.Plain →
      (program >>= fun _ => return ()).Obeys deployment.verdicts {} fun _ _ => True := by
    intro Result program asks
    exact (plain_obeys asks {}).bind fun _ _ _ => trivial
  unfold program
  split
  · exact payoutsMain_verdicts deployment.payouts
  · apply plain
    apply tick_asks
    intro command polls
    cases command with
    | xautoclaim | xreadgroup | hsetState | hsetnxState => cases polls
    | _ => trivial
  · exact plain (plain_of_quiet Treasury.tick_quiet)
  · exact plain (enqueueRedemption_asks trivial trivial)
  · exact obeys_call trivial fun _ => trivial
  · exact obeys_call trivial fun _ => trivial

end Deployment

end CrFaucet.Redemption
