import CrFaucet.Interaction.Run
import CrFaucet.Redemption.Guards
import CrFaucet.SlidingWindow

/-!
Owns what transfers take out of the wallet: what one of them can be against the
burned amount and the balance, and what those of a whole run add up to in a day.

A pass is the transcript of one drain, cut into the turns of its loop, with the time
of every exchange; a run is a list of passes. Times are ghosts. The daily cap is a
setting that no code reads, so it is a parameter here and not a field of
`MoneroConfig`.
-/

set_option autoImplicit false

namespace CrFaucet.Redemption

open Interaction
open SlidingWindow

/-! ### One transfer -/

/-- The most a burn can be paid: itself and the premium. -/
def withPremium (premiumBp amount : Nat) : Nat := amount + amount * premiumBp / 10000

section Arithmetic

variable {premiumBp balance denom amount payout : Nat}

theorem mul_div_mul_div_le (amount premiumBp : Nat) {denom : Nat} (positive : 0 < denom) :
    amount * (denom * premiumBp / 10000) / denom ≤ amount * premiumBp / 10000 := by
  rw [Nat.le_div_iff_mul_le (by decide)]
  have scaled : amount * (denom * premiumBp / 10000) / denom * 10000 * denom ≤
      amount * premiumBp * denom := by
    calc amount * (denom * premiumBp / 10000) / denom * 10000 * denom
        = amount * (denom * premiumBp / 10000) / denom * denom * 10000 := by
          rw [Nat.mul_right_comm]
      _ ≤ amount * (denom * premiumBp / 10000) * 10000 :=
          Nat.mul_le_mul_right _ (Nat.div_mul_le_self _ _)
      _ = amount * (denom * premiumBp / 10000 * 10000) := Nat.mul_assoc _ _ _
      _ ≤ amount * (denom * premiumBp) := Nat.mul_le_mul_left _ (Nat.div_mul_le_self _ _)
      _ = amount * premiumBp * denom := by rw [Nat.mul_comm denom, Nat.mul_assoc]
  exact Nat.le_of_mul_le_mul_right scaled positive

theorem proRata_le_withPremium (positive : 0 < denom)
    (computed : proRata premiumBp balance denom amount = some payout) :
    payout ≤ withPremium premiumBp amount := by
  simp only [proRata] at computed
  split at computed
  · obtain rfl := Option.some.inj computed
    have cap : capAtomic premiumBp denom ≤ denom + denom * premiumBp / 10000 := by
      have product : satMul denom premiumBp ≤ denom * premiumBp := Nat.min_le_left _ _
      exact (Nat.min_le_left _ _).trans (Nat.add_le_add_left (Nat.div_le_div_right product) denom)
    calc min (amount * min balance (capAtomic premiumBp denom)) u256Max / denom
        ≤ amount * (denom + denom * premiumBp / 10000) / denom := by
          apply Nat.div_le_div_right
          exact (Nat.min_le_left _ _).trans
            (Nat.mul_le_mul_left _ ((Nat.min_le_right _ _).trans cap))
      _ = amount + amount * (denom * premiumBp / 10000) / denom := by
          rw [Nat.mul_add, Nat.mul_comm amount denom, Nat.mul_add_div positive]
      _ ≤ withPremium premiumBp amount :=
          Nat.add_le_add_left (mul_div_mul_div_le amount premiumBp positive) amount
  · cases computed

/-- A payout is at most the balance when no more than everything is burned. -/
theorem proRata_le_balance (positive : 0 < denom) (part : amount ≤ denom)
    (computed : proRata premiumBp balance denom amount = some payout) : payout ≤ balance := by
  have share := proRata_mul_le computed
  have whole : amount * balance ≤ balance * denom := by
    rw [Nat.mul_comm amount]
    exact Nat.mul_le_mul_left balance part
  exact Nat.le_of_mul_le_mul_right (share.trans whole) positive

/-- What is left per token does not fall. -/
theorem proRata_keeps_rate
    (computed : proRata premiumBp balance denom amount = some payout) {paid : Nat}
    (most : paid ≤ payout) :
    balance * (denom - amount) ≤ (balance - paid) * denom := by
  have share : paid * denom ≤ amount * balance :=
    (Nat.mul_le_mul_right denom most).trans (proRata_mul_le computed)
  rw [Nat.mul_sub, Nat.sub_mul, Nat.mul_comm balance amount]
  exact Nat.sub_le_sub_left share _

end Arithmetic

/-- **A payout dilutes nobody and keeps to the premium.** With `B` the balance, `D` the
supply and the pending total and `a` the burned amount: at most `B`, at most `a` and
its premium, and `B / D` does not fall for those who remain. -/
theorem transfer_never_dilutes {payouts : Payouts} {before after : List (Exchange Command Reply)}
    {id : RedemptionId} {amount : Nat} {address : String} {reply : TransferReply}
    (transcript : (drainOnce payouts).Transcript
      (before ++ ⟨.transfer id amount address, reply⟩ :: after)) :
    (∃ entry readings payout, PaidOn payouts before id amount entry readings payout) ∧
    ∀ entry readings payout, PaidOn payouts before id amount entry readings payout →
      ∀ B D a, B = readings.snap.moneroBalanceAtomic →
        D = readings.snap.miningPoolTokenTotalSupply + readings.pendingNow →
        a = entry.atomicAmount → 0 < D → D < 2 ^ 128 → a ≤ readings.pendingNow →
          amount ≤ B ∧ amount ≤ a + a * payouts.monero.maxPayoutPremiumBp / 10000 ∧
            B * (D - a) ≤ (B - amount) * D := by
  refine ⟨transfer_paidOn transcript, ?_⟩
  rintro entry readings payout paid _ _ _ rfl rfl rfl positive fits part
  obtain ⟨_, stampable, _, computed⟩ := assess_eq_pay paid.cleared.assessed
  have unsaturated : readings.snap.denom readings.pendingNow =
      readings.snap.miningPoolTokenTotalSupply + readings.pendingNow :=
    Nat.min_eq_left (Nat.le_pred_of_lt fits)
  rw [unsaturated] at computed
  have stamped : amount ≤ payout := paid.amount_eq ▸ stampAmount_le id stampable
  refine ⟨?_, ?_, ?_⟩
  · exact stamped.trans (proRata_le_balance positive (Nat.le_add_left_of_le part) computed)
  · exact stamped.trans (proRata_le_withPremium positive computed)
  · exact proRata_keeps_rate computed stamped

/-! A drain of two burns of 2^20 each, from a wallet that holds plenty. -/

def surplusConfig (premiumBp : Nat) : Payouts where
  monero := { perTxCapAtomic := 2 ^ 20, maxPayoutPremiumBp := premiumBp, confirmWaitSecs := 0 }
  marker := false

def surplusEntry (id : RedemptionId) : StreamEntry where
  entryId := id.val
  id := id
  sender := 9
  amount := 2 ^ 20
  xmrAddr := "4AdUndXHHZ"

def surplusReadings (pendingNow : Nat) : Readings where
  height := some 5000
  history := { out := [], pending := [], pool := [] }
  snap := {
    moneroBalanceAtomic := 2 ^ 30, moneroUnlockedAtomic := 2 ^ 30
    pendingRedemptionsAtomic := 2 ^ 21, pendingRedemptionsCount := 2
    miningPoolTokenTotalSupply := 2 ^ 21, asOfUnix := 1000 }
  time := 1010
  pendingNow := pendingNow

def surplusFetch : List (Exchange Command Reply) :=
  [⟨.xautoclaim, some []⟩, ⟨.xreadgroup, some [surplusEntry 7, surplusEntry 8]⟩]

/-- A drain up to its first transfer. -/
def surplusBefore (premiumBp : Nat) : List (Exchange Command Reply) :=
  surplusFetch ++ (surplusReadings (2 ^ 21)).exchanges (surplusConfig premiumBp) 7

theorem transfer_never_dilutes_surplus :
    (drainOnce (surplusConfig 1000)).Transcript
        (surplusBefore 1000 ++ [⟨.transfer 7 (stampAmount 1153433 7) "4AdUndXHHZ", .failed⟩]) ∧
      PaidOn (surplusConfig 1000) (surplusBefore 1000) 7 (stampAmount 1153433 7) (surplusEntry 7)
        (surplusReadings (2 ^ 21)) 1153433 ∧
      stampAmount 1153433 7 ≤ 2 ^ 30 ∧
      stampAmount 1153433 7 ≤ 2 ^ 20 + 2 ^ 20 * 1000 / 10000 ∧
      2 ^ 30 * (2 ^ 22 - 2 ^ 20) ≤ (2 ^ 30 - stampAmount 1153433 7) * 2 ^ 22 := by
  have transcript : (drainOnce (surplusConfig 1000)).Transcript
      (surplusBefore 1000 ++ [⟨.transfer 7 (stampAmount 1153433 7) "4AdUndXHHZ", .failed⟩]) :=
    ⟨_, .cons _ (.cons _ (.cons _ (.cons _ (.cons _ (.cons _ (.cons _ (.cons _ (.cons _
      (.nil _)))))))))⟩
  have paid : PaidOn (surplusConfig 1000) (surplusBefore 1000) 7 (stampAmount 1153433 7)
      (surplusEntry 7) (surplusReadings (2 ^ 21)) 1153433 := by
    refine ⟨List.mem_cons_self, rfl, List.suffix_append _ _, ?_, rfl⟩
    exact ⟨by decide, by decide, by decide, by decide⟩
  exact ⟨transcript, paid, (transfer_never_dilutes transcript).2 _ _ _ paid (2 ^ 30) (2 ^ 22)
    (2 ^ 20) rfl rfl rfl (by decide) (by decide) (by decide)⟩

/-! ### Passes -/

/-- An exchange and when it took place, in seconds. -/
abbrev Timed : Type := Nat × Exchange Command Reply

/-- One turn of the loop. -/
structure Visit where
  entry : StreamEntry
  exchanges : List Timed

/-- One drain: the two reads of the stream, and the turns. -/
structure Pass where
  fetching : List Timed
  visits : List Visit

def Pass.exchanges (pass : Pass) : List Timed :=
  pass.fetching ++ pass.visits.flatMap Visit.exchanges

/-- The exchanges are those of a drain, and the turns those of its loop. -/
structure Pass.Of (payouts : Payouts) (pass : Pass) : Prop where
  transcript : (drainOnce payouts).Transcript (pass.exchanges.map Prod.snd)
  turns : ∀ visit ∈ pass.visits,
    (drainEntry payouts visit.entry).Transcript (visit.exchanges.map Prod.snd)
  fetches : ∀ timed ∈ pass.fetching, ¬ timed.2.1.Transfers

def expense? : Timed → Option Expense
  | (time, ⟨.transfer _ amount _, _⟩) => some ⟨time, amount⟩
  | _ => none

/-- The transfers among the exchanges, with their times. -/
def expenses (exchanges : List Timed) : List Expense := exchanges.filterMap expense?

theorem expense?_eq_none {timed : Timed} (other : ¬ timed.2.1.Transfers) :
    expense? timed = none := by
  obtain ⟨time, command, reply⟩ := timed
  cases command with
  | transfer => exact absurd trivial other
  | _ => rfl

theorem expenses_eq_nil {exchanges : List Timed}
    (other : ∀ timed ∈ exchanges, ¬ timed.2.1.Transfers) : expenses exchanges = [] :=
  List.filterMap_eq_nil_iff.2 fun timed member => expense?_eq_none (other timed member)

/-! ### A turn spends at most once -/

theorem Readings.not_transfers (payouts : Payouts) (id : RedemptionId) (readings : Readings) :
    ∀ exchange ∈ readings.exchanges payouts id, ¬ exchange.1.Transfers := by
  intro exchange member
  rw [Readings.exchanges, List.mem_append] at member
  cases member with
  | inl marked =>
      split at marked
      · obtain rfl := List.mem_singleton.1 marked
        exact not_false
      · exact absurd marked List.not_mem_nil
  | inr read =>
      simp only [List.mem_cons, List.not_mem_nil, or_false] at read
      rcases read with rfl | rfl | rfl | rfl | rfl | rfl <;> exact not_false

section Turn

variable {payouts : Payouts} {visit : Visit}

/-- What a transfer of a turn pays, and that nothing was transferred before it. -/
theorem Visit.transfer_eq
    (turn : (drainEntry payouts visit.entry).Transcript (visit.exchanges.map Prod.snd))
    {before after : List Timed} {timed : Timed} (split : visit.exchanges = before ++ timed :: after)
    (transfers : timed.2.1.Transfers) :
    (∀ timed ∈ before, ¬ timed.2.1.Transfers) ∧
      visit.entry.atomicAmount ≤ payouts.monero.perTxCapAtomic ∧
      ∃ amount, expense? timed = some ⟨timed.1, amount⟩ ∧
        amount ≤ withPremium payouts.monero.maxPayoutPremiumBp visit.entry.atomicAmount := by
  rw [split, List.map_append, List.map_cons] at turn
  have permitted := (drainEntry_guarded payouts visit.entry []).of_history turn
  obtain ⟨time, command, reply⟩ := timed
  cases command with
  | transfer id amount address =>
      obtain ⟨_, _, readings, payout, cleared, amount_eq, before_eq⟩ :=
        permitted id amount address rfl
      refine ⟨?_, cleared.withinCap, amount, rfl, ?_⟩
      · intro timed member
        have inReadings : timed.2 ∈ readings.exchanges payouts id := by
          rw [List.nil_append] at before_eq
          exact before_eq ▸ List.mem_map_of_mem member
        exact readings.not_transfers payouts id timed.2 inReadings
      · obtain ⟨denom_ne, stampable, _, computed⟩ := assess_eq_pay cleared.assessed
        rw [amount_eq]
        exact (stampAmount_le id stampable).trans
          (proRata_le_withPremium (Nat.pos_of_ne_zero denom_ne) computed)
  | _ => exact transfers.elim

/-- **A turn transfers nothing, or once and at most the burn with the premium.** -/
theorem Visit.expenses_cases
    (turn : (drainEntry payouts visit.entry).Transcript (visit.exchanges.map Prod.snd)) :
    expenses visit.exchanges = [] ∨
      visit.entry.atomicAmount ≤ payouts.monero.perTxCapAtomic ∧
      ∃ timed ∈ visit.exchanges, ∃ amount, expenses visit.exchanges = [⟨timed.1, amount⟩] ∧
        amount ≤ withPremium payouts.monero.maxPayoutPremiumBp visit.entry.atomicAmount := by
  by_cases pays : ∃ timed ∈ visit.exchanges, timed.2.1.Transfers
  · obtain ⟨timed, member, transfers⟩ := pays
    obtain ⟨before, after, split⟩ := List.append_of_mem member
    obtain ⟨unpaid, withinCap, amount, expense, most⟩ := Visit.transfer_eq turn split transfers
    have paidOnce : ∀ later ∈ after, ¬ later.2.1.Transfers := by
      intro later laterMember again
      obtain ⟨middle, rest, afterSplit⟩ := List.append_of_mem laterMember
      have laterSplit : visit.exchanges = (before ++ timed :: middle) ++ later :: rest := by
        rw [split, afterSplit, List.append_assoc, List.cons_append]
      have unpaidBefore := (Visit.transfer_eq turn laterSplit again).1
      exact unpaidBefore timed (List.mem_append_right _ List.mem_cons_self) transfers
    refine Or.inr ⟨withinCap, timed, member, amount, ?_, most⟩
    rw [split, expenses, List.filterMap_append, List.filterMap_cons_some expense]
    change expenses before ++ _ :: expenses after = _
    rw [expenses_eq_nil unpaid, expenses_eq_nil paidOnce, List.nil_append]
  · refine Or.inl (expenses_eq_nil ?_)
    intro timed member transfers
    exact pays ⟨timed, member, transfers⟩

end Turn

/-! ### Every drain is a pass -/

/-- Visits that are turns of the loop, with these exchanges. -/
def AreTurns (payouts : Payouts) (exchanges : List Timed) (visits : List Visit) : Prop :=
  visits.flatMap Visit.exchanges = exchanges ∧
    ∀ visit ∈ visits, (drainEntry payouts visit.entry).Transcript (visit.exchanges.map Prod.snd)

/-- The loop, by induction on the entries. -/
theorem drainEntries_visits {payouts : Payouts} (entries : List StreamEntry) (processed : Nat)
    {exchanges : List Timed}
    (transcript : (drainEntries payouts entries processed).Transcript (exchanges.map Prod.snd)) :
    ∃ visits, AreTurns payouts exchanges visits := by
  induction entries generalizing processed exchanges with
  | nil =>
      have nothing := List.map_eq_nil_iff.1 transcript.eq_nil
      exact ⟨[], nothing.symm, fun _ member => absurd member List.not_mem_nil⟩
  | cons entry rest inductionHypothesis =>
      cases Program.Transcript.of_bind transcript with
      | inl inside =>
          refine ⟨[⟨entry, exchanges⟩], List.flatMap_singleton _ _, ?_⟩
          intro visit member
          obtain rfl := List.mem_singleton.1 member
          exact inside
      | inr through =>
          obtain ⟨_, _, flow, split, turn, onwards⟩ := through
          obtain ⟨here, later, rfl, rfl, rfl⟩ := List.map_eq_append_iff.1 split
          have goesOn : ∃ visits, AreTurns payouts later visits := by
            cases flow with
            | next => exact inductionHypothesis (processed + 1) onwards
            | stop => exact ⟨[], (List.map_eq_nil_iff.1 onwards.eq_nil).symm, by simp⟩
            | fail => exact ⟨[], (List.map_eq_nil_iff.1 onwards.eq_nil).symm, by simp⟩
          obtain ⟨visits, rfl, turns⟩ := goesOn
          refine ⟨⟨entry, here⟩ :: visits, List.flatMap_cons, ?_⟩
          intro visit member
          cases member with
          | head => exact ⟨_, turn⟩
          | tail _ member => exact turns visit member

/-- **Every transcript of a drain is a pass.** -/
theorem exists_pass {payouts : Payouts} {exchanges : List Timed}
    (transcript : (drainOnce payouts).Transcript (exchanges.map Prod.snd)) :
    ∃ pass : Pass, pass.Of payouts ∧ pass.exchanges = exchanges := by
  -- It is enough to cut off the reads of the stream.
  suffices cut : ∃ fetching later visits, exchanges = fetching ++ later ∧
      (∀ timed ∈ fetching, ¬ timed.2.1.Transfers) ∧ AreTurns payouts later visits by
    obtain ⟨fetching, _, visits, rfl, fetches, rfl, turns⟩ := cut
    exact ⟨⟨fetching, visits⟩, ⟨transcript, turns, fetches⟩, rfl⟩
  have noTurns : AreTurns payouts [] [] := ⟨rfl, fun _ member => absurd member List.not_mem_nil⟩
  cases Program.Transcript.of_ask transcript with
  | inl nothing =>
      obtain rfl := List.map_eq_nil_iff.1 nothing
      exact ⟨[], [], [], rfl, fun _ member => absurd member List.not_mem_nil, noTurns⟩
  | inr reclaimed =>
      obtain ⟨reply, _, split, onwards⟩ := reclaimed
      obtain ⟨first, rest, rfl, firstIs, rfl⟩ := List.map_eq_cons_iff.1 split
      have firstFetches : ¬ first.2.1.Transfers := by
        rw [firstIs]
        exact not_false
      cases Program.Transcript.of_ask onwards with
      | inl nothing =>
          obtain rfl := List.map_eq_nil_iff.1 nothing
          exact ⟨[first], [], [], rfl, List.forall_mem_singleton.2 firstFetches, noTurns⟩
      | inr read =>
          obtain ⟨fresh, _, split, onwards⟩ := read
          obtain ⟨second, later, rfl, secondIs, rfl⟩ := List.map_eq_cons_iff.1 split
          have secondFetches : ¬ second.2.1.Transfers := by
            rw [secondIs]
            exact not_false
          have turns : ∃ visits, AreTurns payouts later visits := by
            cases fresh with
            | none =>
                obtain rfl := List.map_eq_nil_iff.1 onwards.eq_nil
                exact ⟨[], noTurns⟩
            | some fresh => exact drainEntries_visits _ 0 onwards
          obtain ⟨visits, turns⟩ := turns
          refine ⟨[first, second], later, visits, rfl, ?_, turns⟩
          exact List.forall_mem_cons.2 ⟨firstFetches, List.forall_mem_singleton.2 secondFetches⟩

/-! ### Runs -/

def secondsPerDay : Nat := 86400

/-- The transfers made so far, after one more turn. -/
def spend (log : List Expense) (visit : Visit) : List Expense := log ++ expenses visit.exchanges

/-- Before the turn: the burn with its premium is within the cap of one transfer, and
within the daily cap together with what was transferred in the last day. A burn above
the cap of one transfer is parked. -/
def WithinCaps (payouts : Payouts) (perDayCap : Nat) (log : List Expense) (visit : Visit) : Prop :=
  ∀ first ∈ visit.exchanges.head?,
    visit.entry.atomicAmount ≤ payouts.monero.perTxCapAtomic →
      withPremium payouts.monero.maxPayoutPremiumBp visit.entry.atomicAmount ≤
        payouts.monero.perTxCapAtomic ∧
      recent secondsPerDay first.1 log +
        withPremium payouts.monero.maxPayoutPremiumBp visit.entry.atomicAmount ≤ perDayCap

instance (payouts : Payouts) (perDayCap : Nat) (log : List Expense) (visit : Visit) :
    Decidable (WithinCaps payouts perDayCap log visit) :=
  Option.decidableForallMem _

def CapsHold (payouts : Payouts) (perDayCap : Nat) (log : List Expense) : Prop :=
  (∀ expense ∈ log, expense.amount ≤ payouts.monero.perTxCapAtomic) ∧
    ∀ start, spentIn secondsPerDay start log ≤ perDayCap

theorem run_spend (log : List Expense) (visits : List Visit) :
    run spend log visits = log ++ expenses (visits.flatMap Visit.exchanges) := by
  induction visits generalizing log with
  | nil => exact (List.append_nil log).symm
  | cons visit rest inductionHypothesis =>
      change run spend (spend log visit) rest = _
      rw [inductionHypothesis, spend, List.append_assoc, List.flatMap_cons, expenses, expenses,
        expenses, List.filterMap_append]

theorem head_le_of_mem {exchanges : List Timed} {timed : Timed}
    (ordered : (exchanges.map Prod.fst).Pairwise (· ≤ ·)) (member : timed ∈ exchanges) :
    ∃ first, exchanges.head? = some first ∧ first.1 ≤ timed.1 := by
  cases exchanges with
  | nil => exact absurd member List.not_mem_nil
  | cons first rest =>
      refine ⟨first, rfl, ?_⟩
      rw [List.map_cons, List.pairwise_cons] at ordered
      cases member with
      | head => exact Nat.le_refl _
      | tail _ member => exact ordered.1 _ (List.mem_map_of_mem member)

section Runs

variable {payouts : Payouts} {perDayCap now : Nat} {log : List Expense}

/-- One turn. The last expense is the turn's own, or none is new. -/
theorem spend_keeps {visit : Visit}
    (turn : (drainEntry payouts visit.entry).Transcript (visit.exchanges.map Prod.snd))
    (within : WithinCaps payouts perDayCap log visit)
    (later : ∀ timed ∈ visit.exchanges, now ≤ timed.1)
    (ordered : (visit.exchanges.map Prod.fst).Pairwise (· ≤ ·))
    (single : ∀ expense ∈ log, expense.amount ≤ payouts.monero.perTxCapAtomic)
    (capped : Capped secondsPerDay perDayCap now log) :
    (∀ expense ∈ spend log visit, expense.amount ≤ payouts.monero.perTxCapAtomic) ∧
      ∃ reached, (reached = now ∨ ∃ timed ∈ visit.exchanges, reached = timed.1) ∧
        Capped secondsPerDay perDayCap reached (spend log visit) := by
  unfold spend
  cases Visit.expenses_cases turn with
  | inl nothing =>
      rw [nothing, List.append_nil]
      exact ⟨single, now, Or.inl rfl, capped⟩
  | inr pays =>
      obtain ⟨small, timed, member, amount, spends, most⟩ := pays
      obtain ⟨first, first_is, order⟩ := head_le_of_mem ordered member
      obtain ⟨oneFits, dayFits⟩ := within first first_is small
      have waited : Capped secondsPerDay perDayCap first.1 log :=
        capped.wait (later first (List.mem_of_mem_head? first_is))
      rw [spends]
      constructor
      · intro expense logged
        rw [List.mem_append, List.mem_singleton] at logged
        cases logged with
        | inl before => exact single expense before
        | inr last =>
            rw [last]
            exact most.trans oneFits
      · refine ⟨timed.1, Or.inr ⟨timed, member, rfl⟩, waited.spend order ?_⟩
        exact (Nat.add_le_add_left most _).trans dayFits

/-- **A run of turns.** Induction on the turns; what is spent stays capped at the time
the run has reached, and all later exchanges are later than that. -/
theorem run_keeps_caps {visits : List Visit}
    (turns : ∀ visit ∈ visits,
      (drainEntry payouts visit.entry).Transcript (visit.exchanges.map Prod.snd))
    (within : Along spend (WithinCaps payouts perDayCap) log visits)
    (later : ∀ timed ∈ visits.flatMap Visit.exchanges, now ≤ timed.1)
    (ordered : ((visits.flatMap Visit.exchanges).map Prod.fst).Pairwise (· ≤ ·))
    (single : ∀ expense ∈ log, expense.amount ≤ payouts.monero.perTxCapAtomic)
    (capped : Capped secondsPerDay perDayCap now log) :
    CapsHold payouts perDayCap (run spend log visits) := by
  induction visits generalizing log now with
  | nil => exact ⟨single, capped.within⟩
  | cons visit rest inductionHypothesis =>
      rw [List.flatMap_cons] at later ordered
      rw [List.map_append, List.pairwise_append] at ordered
      obtain ⟨hereOrdered, restOrdered, across⟩ := ordered
      obtain ⟨single, reached, reachedIs, capped⟩ :=
        spend_keeps (turns visit List.mem_cons_self) within.1
          (fun timed member => later timed (List.mem_append_left _ member)) hereOrdered single
          capped
      apply inductionHypothesis (fun other member => turns other (List.mem_cons_of_mem _ member))
        within.2 _ restOrdered single capped
      intro timed member
      cases reachedIs with
      | inl same => exact same ▸ later timed (List.mem_append_right _ member)
      | inr here =>
          obtain ⟨earlier, inside, rfl⟩ := here
          exact across _ (List.mem_map_of_mem inside) _ (List.mem_map_of_mem member)

end Runs

theorem expenses_passes {payouts : Payouts} {passes : List Pass}
    (of : ∀ pass ∈ passes, pass.Of payouts) :
    expenses (passes.flatMap Pass.exchanges) =
      expenses ((passes.flatMap Pass.visits).flatMap Visit.exchanges) := by
  induction passes with
  | nil => rfl
  | cons pass rest inductionHypothesis =>
      have fetched : expenses pass.fetching = [] :=
        expenses_eq_nil (of pass List.mem_cons_self).fetches
      have inRest := inductionHypothesis fun other member => of other (List.mem_cons_of_mem _ member)
      simp only [expenses, List.flatMap_cons, List.flatMap_append, List.filterMap_append,
        Pass.exchanges] at fetched inRest ⊢
      rw [fetched, inRest, List.nil_append]

theorem visits_sublist (passes : List Pass) :
    ((passes.flatMap Pass.visits).flatMap Visit.exchanges).Sublist
      (passes.flatMap Pass.exchanges) := by
  induction passes with
  | nil => exact List.Sublist.refl _
  | cons pass rest inductionHypothesis =>
      rw [List.flatMap_cons, List.flatMap_append, List.flatMap_cons]
      exact (List.sublist_append_right _ _).append inductionHypothesis

/-- **The caps hold in a run whose turns leave room for them.** -/
theorem spending_caps_hold {payouts : Payouts} {perDayCap : Nat} {passes : List Pass}
    (of : ∀ pass ∈ passes, pass.Of payouts)
    (ordered : ((passes.flatMap Pass.exchanges).map Prod.fst).Pairwise (· ≤ ·))
    (within : Along spend (WithinCaps payouts perDayCap) [] (passes.flatMap Pass.visits)) :
    CapsHold payouts perDayCap (expenses (passes.flatMap Pass.exchanges)) := by
  have turns : ∀ visit ∈ passes.flatMap Pass.visits,
      (drainEntry payouts visit.entry).Transcript (visit.exchanges.map Prod.snd) := by
    intro visit member
    obtain ⟨pass, inside, member⟩ := List.mem_flatMap.1 member
    exact (of pass inside).turns visit member
  have held := run_keeps_caps turns within (fun timed _ => Nat.zero_le timed.1)
    (ordered.sublist ((visits_sublist passes).map Prod.fst))
    (fun _ member => absurd member List.not_mem_nil) Capped.nil
  rwa [run_spend, List.nil_append, ← expenses_passes of] at held

def surplusTurn (premiumBp pendingNow payout : Nat) (id : RedemptionId) :
    List (Exchange Command Reply) :=
  (surplusReadings pendingNow).exchanges (surplusConfig premiumBp) id ++
    [⟨.transfer id (stampAmount payout id) "4AdUndXHHZ", .sent "paid"⟩,
      ⟨.markSent id "paid", some ()⟩, ⟨.xack (surplusEntry id), some ()⟩]

/-- Without a premium, both entries are paid, ten seconds apart. -/
def strictPass : Pass where
  fetching := surplusFetch.map (Prod.mk 0)
  visits := [
    ⟨surplusEntry 7, (surplusTurn 0 (2 ^ 21) (2 ^ 20) 7).map (Prod.mk 10)⟩,
    ⟨surplusEntry 8, (surplusTurn 0 (2 ^ 20) (2 ^ 20) 8).map (Prod.mk 20)⟩]

/-- With a premium of a tenth, the first entry is paid. -/
def premiumPass : Pass where
  fetching := surplusFetch.map (Prod.mk 0)
  visits := [⟨surplusEntry 7, (surplusTurn 1000 (2 ^ 21) 1153433 7).map (Prod.mk 10)⟩]

theorem strictPass_of : strictPass.Of (surplusConfig 0) where
  transcript :=
    ⟨_, .cons _ (.cons _ (.cons _ (.cons _ (.cons _ (.cons _ (.cons _ (.cons _ (.cons _ (.cons _
      (.cons _ (.cons _ (.cons _ (.cons _ (.cons _ (.cons _ (.cons _ (.cons _ (.cons _ (.cons _
      (.nil _))))))))))))))))))))⟩
  turns := by
    refine List.forall_mem_cons.2 ⟨?_, List.forall_mem_singleton.2 ?_⟩
    · exact ⟨_, .cons _ (.cons _ (.cons _ (.cons _ (.cons _ (.cons _ (.cons _ (.cons _ (.cons _
        (.nil _)))))))))⟩
    · exact ⟨_, .cons _ (.cons _ (.cons _ (.cons _ (.cons _ (.cons _ (.cons _ (.cons _ (.cons _
        (.nil _)))))))))⟩
  fetches := List.forall_mem_cons.2 ⟨not_false, List.forall_mem_singleton.2 not_false⟩

theorem premiumPass_of : premiumPass.Of (surplusConfig 1000) where
  transcript :=
    ⟨_, .cons _ (.cons _ (.cons _ (.cons _ (.cons _ (.cons _ (.cons _ (.cons _ (.cons _ (.cons _
      (.cons _ (.nil _)))))))))))⟩
  turns := by
    refine List.forall_mem_singleton.2 ?_
    exact ⟨_, .cons _ (.cons _ (.cons _ (.cons _ (.cons _ (.cons _ (.cons _ (.cons _ (.cons _
      (.nil _)))))))))⟩
  fetches := List.forall_mem_cons.2 ⟨not_false, List.forall_mem_singleton.2 not_false⟩

theorem spending_caps_hold_strict :
    strictPass.Of (surplusConfig 0) ∧
      Along spend (WithinCaps (surplusConfig 0) (2 ^ 21)) [] strictPass.visits ∧
      CapsHold (surplusConfig 0) (2 ^ 21) (expenses strictPass.exchanges) := by
  have within : Along spend (WithinCaps (surplusConfig 0) (2 ^ 21)) [] strictPass.visits := by
    decide
  exact ⟨strictPass_of, within, spending_caps_hold (List.forall_mem_singleton.2 strictPass_of)
    (by decide) within⟩

/-- Nothing stops a second payout that exceeds the daily cap, nor a premium that lifts
a payout above the cap of one transfer. -/
theorem spending_caps_exceeded :
    (strictPass.Of (surplusConfig 0) ∧
      ¬ CapsHold (surplusConfig 0) (2 ^ 20) (expenses strictPass.exchanges)) ∧
    (premiumPass.Of (surplusConfig 1000) ∧
      ¬ CapsHold (surplusConfig 1000) (2 ^ 40) (expenses premiumPass.exchanges)) := by
  refine ⟨⟨strictPass_of, ?_⟩, premiumPass_of, ?_⟩
  · rintro ⟨_, daily⟩
    exact absurd (daily 0) (by decide)
  · rintro ⟨single, _⟩
    exact absurd (single _ List.mem_cons_self) (by decide)

end CrFaucet.Redemption
