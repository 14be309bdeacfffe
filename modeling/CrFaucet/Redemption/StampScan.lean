import Mathlib.Data.Int.ModEq
import Mathlib.Data.List.Perm.Basic
import Mathlib.Order.Bounds.Defs
import CrFaucet.SerdeJson
import CrFaucet.Redemption.Drain

/-!
Owns `stamp_match_in_result` over the JSON of a `get_transfers` reply, and that
stamping and scanning are inverse: a scan of a history finds each payout under its
own id and nothing under any other tag.

The scan of `Redemption.Drain` works on the decoded history. Both are the same
function, so what is proved here is about the drain too.
-/

set_option autoImplicit false

namespace CrFaucet.Redemption

open SerdeJson (Value parseU128)

/-! ### The scan of the JSON -/

namespace TransfersJson

def height (item : Value) : Nat := ((item.get "height").bind Value.asU64).getD 0

/-- Wallets write amounts as numbers or as texts. -/
def amount? (item : Value) : Option Nat :=
  ((item.get "amount").bind Value.asU64).or
    (((item.get "amount").bind Value.asStr).bind parseU128)

def txid? (item : Value) : Option String := (item.get "txid").bind Value.asStr

/-- What is missing or not an array counts as empty. -/
def items (result : Value) (key : String) : List Value :=
  ((result.get key).bind Value.asArray).getD []

section Scan

variable (id : RedemptionId) (minHeight : Nat)

/-- The body of the inner loop, with the matches found so far. -/
def scanItem (confirmed : Bool) (found : List (String × Bool)) (item : Value) :
    List (String × Bool) :=
  if confirmed = true ∧ height item < minHeight then found
  else
    let amount := (amount? item).getD 0
    if 0 < amount ∧ matchesStamp amount id = true then
      found ++ [((txid? item).getD "", confirmed)]
    else found

/-- The body of the outer loop. -/
def scanKey (result : Value) (found : List (String × Bool)) (key : String) :
    List (String × Bool) :=
  (items result key).foldl (scanItem id minHeight (key = "out")) found

end Scan

def stampMatchInResult (result : Value) (id : RedemptionId) (minHeight : Nat) :
    Except String (Option (String × Bool)) :=
  let found := ["out", "pending", "pool"].foldl (scanKey id minHeight result) []
  match found with
  | [] => .ok none
  | [one] => .ok (some one)
  | several => .error ("ambiguous stamp match for redemption " ++ toString id.val ++ ": " ++
      toString several.length ++ " candidates")

/-! ### The decoded view -/

def item (value : Value) : HistoryItem where
  amount := amount? value
  txid := txid? value
  height := (value.get "height").bind Value.asU64

def history (result : Value) : WalletHistory where
  out := (items result "out").map item
  pending := (items result "pending").map item
  pool := (items result "pool").map item

def scan : Except String (Option (String × Bool)) → Scan
  | .ok none => .clean
  | .ok (some (txid, confirmed)) => .paid txid confirmed
  | .error _ => .failed

theorem eq_ok_of_scan_paid {answer : Except String (Option (String × Bool))} {txid : String}
    {confirmed : Bool} (paid : scan answer = .paid txid confirmed) :
    answer = .ok (some (txid, confirmed)) := by
  cases answer with
  | error _ => cases paid
  | ok found =>
      cases found with
      | none => cases paid
      | some match_ =>
          cases paid
          rfl

theorem eq_ok_of_scan_clean {answer : Except String (Option (String × Bool))}
    (clean : scan answer = .clean) : answer = .ok none := by
  cases answer with
  | error _ => cases clean
  | ok found =>
      cases found with
      | none => rfl
      | some match_ => cases clean

theorem foldl_scanItem (id : RedemptionId) (minHeight : Nat) (confirmed : Bool) :
    ∀ (values : List Value) (found : List (String × Bool)),
      values.foldl (scanItem id minHeight confirmed) found =
        found ++ stampMatches id confirmed ((values.map item).filter fun item =>
          confirmed = false ∨ minHeight ≤ item.height.getD 0)
  | [], found => by
      simp [stampMatches]
  | value :: rest, found => by
      rw [List.foldl_cons, foldl_scanItem id minHeight confirmed rest, scanItem, List.map_cons]
      by_cases outside : confirmed = true ∧ height value < minHeight
      · have dropped : ¬(confirmed = false ∨ minHeight ≤ (item value).height.getD 0) := by
          simpa [item, height] using outside
        rw [if_pos outside, List.filter_cons_of_neg (by simpa using dropped)]
      · have kept : confirmed = false ∨ minHeight ≤ (item value).height.getD 0 := by
          rwa [not_and_or, Bool.not_eq_true, Nat.not_lt] at outside
        rw [if_neg outside, List.filter_cons_of_pos (by simpa using kept)]
        by_cases hit : 0 < (amount? value).getD 0 ∧
            matchesStamp ((amount? value).getD 0) id = true
        · simp [hit, stampMatches, item]
        · simp [hit, stampMatches, item]

/-- **The scan of the JSON is the scan of the decoded history.** -/
theorem scan_stampMatchInResult (id : RedemptionId) (minHeight : Nat) (result : Value) :
    scan (stampMatchInResult result id minHeight) =
      Redemption.stampMatchInResult (history result) id minHeight := by
  have collected : ["out", "pending", "pool"].foldl (scanKey id minHeight result) [] =
      stampMatches id true ((history result).out.filter fun item =>
        minHeight ≤ item.height.getD 0) ++
      stampMatches id false (history result).pending ++
      stampMatches id false (history result).pool := by
    simp [scanKey, foldl_scanItem, history]
  rw [stampMatchInResult, collected, Redemption.stampMatchInResult]
  split <;> simp_all [scan]

end TransfersJson

/-! ### Payouts in a history -/

/-- The three lists of a reply. -/
inductive Place where
  | out
  | pending
  | pool
deriving DecidableEq

structure StampedPayout where
  payout : Nat
  id : RedemptionId
  txid : String
  place : Place

/-- Only mined transfers are in `out`. -/
def StampedPayout.confirmed (payout : StampedPayout) : Bool := payout.place = .out

def HistoryItem.Pays (item : HistoryItem) (payout : StampedPayout) : Prop :=
  item.amount = some (stampAmount payout.payout payout.id) ∧ item.txid = some payout.txid

theorem stampMatches_pays (id : RedemptionId) (confirmed : Bool) {items : List HistoryItem}
    {payouts : List StampedPayout} (pays : List.Forall₂ HistoryItem.Pays items payouts)
    (large : ∀ payout ∈ payouts, stampMod ≤ payout.payout) :
    stampMatches id confirmed items =
      (payouts.filter fun payout => stampTag payout.id = stampTag id).map fun payout =>
        (payout.txid, confirmed) := by
  induction pays with
  | nil => rfl
  | @cons item payout items payouts paid _ inductionHypothesis =>
      obtain ⟨amount, txid⟩ := paid
      have enough : stampMod ≤ payout.payout := large payout List.mem_cons_self
      have rest := inductionHypothesis fun other member => large other (List.mem_cons_of_mem _ member)
      have stamped := matchesStamp_stampAmount payout.id enough
      have hit : (0 < item.amount.getD 0 ∧ matchesStamp (item.amount.getD 0) id = true) ↔
          stampTag payout.id = stampTag id := by
        rw [matchesStamp, beq_iff_eq] at stamped
        rw [amount, Option.getD_some, matchesStamp, beq_iff_eq, stamped]
        exact and_iff_right (stampAmount_pos payout.id enough)
      rw [stampMatches] at rest ⊢
      by_cases same : stampTag payout.id = stampTag id
      · rw [List.filter_cons_of_pos (by rw [decide_eq_true_eq, hit]; exact same),
          List.filter_cons_of_pos (by simpa using same), List.map_cons, List.map_cons, rest, txid,
          Option.getD_some]
      · rw [List.filter_cons_of_neg (by rw [decide_eq_true_eq, hit]; exact same),
          List.filter_cons_of_neg (by simpa using same), rest]

theorem stampMatches_perm {id : RedemptionId} {confirmed : Bool}
    {items shown : List HistoryItem} {payouts selected : List StampedPayout}
    (order : items.Perm shown) (pays : List.Forall₂ HistoryItem.Pays shown payouts)
    (large : ∀ payout ∈ payouts, stampMod ≤ payout.payout)
    (selects : (payouts.filter fun payout => stampTag payout.id = stampTag id) = selected)
    (few : selected.length ≤ 1) :
    stampMatches id confirmed items = selected.map fun payout => (payout.txid, confirmed) := by
  have reordered : (stampMatches id confirmed items).Perm (stampMatches id confirmed shown) :=
    (order.filter _).map _
  rw [stampMatches_pays id confirmed pays large, selects] at reordered
  cases selected with
  | nil => exact reordered.eq_nil
  | cons payout rest =>
      cases rest with
      | nil => exact reordered.eq_singleton
      | cons => simp at few

section Tags

variable {payouts : List StampedPayout}

/-- Payouts whose ids differ in the tag. -/
abbrev DistinctTags (payouts : List StampedPayout) : Prop :=
  payouts.Pairwise fun first second => stampTag first.id ≠ stampTag second.id

theorem DistinctTags.filter_eq (distinct : DistinctTags payouts) {payout : StampedPayout}
    (member : payout ∈ payouts) :
    (payouts.filter fun other => stampTag other.id = stampTag payout.id) = [payout] := by
  induction payouts with
  | nil => cases member
  | cons first rest inductionHypothesis =>
      obtain ⟨apart, distinct⟩ := List.pairwise_cons.mp distinct
      cases member with
      | head =>
          rw [List.filter_cons_of_pos (by simp), List.filter_eq_nil_iff.mpr]
          intro other inside
          simpa using (apart other inside).symm
      | tail _ inside =>
          rw [List.filter_cons_of_neg (by simpa using apart payout inside)]
          exact inductionHypothesis distinct inside

end Tags

/-! ### Payouts in the JSON -/

namespace TransfersJson

/-- The value carries this amount, as a number or as a decimal text. -/
def Writes (value : Value) (amount : Nat) : Prop :=
  (∃ number, value.get "amount" = some (.number (.posInt number)) ∧ number.val = amount) ∨
    ∃ text, value.get "amount" = some (.string text) ∧ parseU128 text = some amount

/-- The value is the transfer of the payout; it may have any other fields. -/
def Shows (value : Value) (payout : StampedPayout) : Prop :=
  Writes value (stampAmount payout.payout payout.id) ∧
    value.get "txid" = some (.string payout.txid)

def MinedAt (value : Value) (height : Nat) : Prop :=
  ∃ number, value.get "height" = some (.number (.posInt number)) ∧ number.val = height

/-- Each payout is shown once, in the list of its place and in any order; `out` may hold
other transfers mined below `minHeight`. -/
structure ListsPayouts (result : Value) (minHeight : Nat) (payouts : List StampedPayout) :
    Prop where
  out : ∃ recent old, (items result "out").Perm (recent ++ old) ∧
    List.Forall₂ Shows recent (payouts.filter (·.place = .out)) ∧
    (∀ value ∈ recent, ∃ height, MinedAt value height ∧ minHeight ≤ height) ∧
    ∀ value ∈ old, ∃ height, MinedAt value height ∧ height < minHeight
  pending : ∃ shown, (items result "pending").Perm shown ∧
    List.Forall₂ Shows shown (payouts.filter (·.place = .pending))
  pool : ∃ shown, (items result "pool").Perm shown ∧
    List.Forall₂ Shows shown (payouts.filter (·.place = .pool))

theorem Shows.pays {value : Value} {payout : StampedPayout} (shows' : Shows value payout) :
    (item value).Pays payout := by
  obtain ⟨amount, txid⟩ := shows'
  constructor
  · cases amount with
    | inl written =>
        obtain ⟨number, found, same⟩ := written
        simp [item, amount?, found, Value.asU64, same]
    | inr written =>
        obtain ⟨text, found, parsed⟩ := written
        simp [item, amount?, found, Value.asU64, Value.asStr, parsed]
  · simp [item, txid?, txid, Value.asStr]

theorem MinedAt.height_eq {value : Value} {height : Nat} (mined : MinedAt value height) :
    (item value).height.getD 0 = height := by
  obtain ⟨number, found, same⟩ := mined
  simp [item, found, Value.asU64, same]

theorem pays_of_shows {values : List Value} {payouts : List StampedPayout}
    (shown : List.Forall₂ Shows values payouts) :
    List.Forall₂ HistoryItem.Pays (values.map item) payouts := by
  rw [List.forall₂_map_left_iff]
  exact shown.imp fun _ _ => Shows.pays

section Exact

variable {result : Value} {minHeight : Nat} {payouts : List StampedPayout}

theorem ListsPayouts.recent (lists : ListsPayouts result minHeight payouts) :
    ∃ shown, ((history result).out.filter fun item => minHeight ≤ item.height.getD 0).Perm shown ∧
      List.Forall₂ HistoryItem.Pays shown (payouts.filter (·.place = .out)) := by
  obtain ⟨recent, old, order, shown, young, aged⟩ := lists.out
  refine ⟨recent.map item, ?_, pays_of_shows shown⟩
  have kept : (recent.map item).filter (fun item => minHeight ≤ item.height.getD 0) =
      recent.map item := by
    rw [List.filter_eq_self]
    intro found member
    obtain ⟨value, inside, rfl⟩ := List.mem_map.mp member
    obtain ⟨height, mined, above⟩ := young value inside
    simpa [mined.height_eq] using above
  have dropped : (old.map item).filter (fun item => minHeight ≤ item.height.getD 0) = [] := by
    rw [List.filter_eq_nil_iff]
    intro found member
    obtain ⟨value, inside, rfl⟩ := List.mem_map.mp member
    obtain ⟨height, mined, below⟩ := aged value inside
    simpa [mined.height_eq] using below
  have moved := (order.map item).filter fun item => minHeight ≤ item.height.getD 0
  rwa [List.map_append, List.filter_append, kept, dropped, List.append_nil] at moved

theorem ListsPayouts.scan_eq (lists : ListsPayouts result minHeight payouts)
    (large : ∀ payout ∈ payouts, stampMod ≤ payout.payout) {id : RedemptionId}
    {selected : List StampedPayout}
    (selects : (payouts.filter fun payout => stampTag payout.id = stampTag id) = selected)
    (few : selected.length ≤ 1) :
    Redemption.stampMatchInResult (history result) id minHeight =
      selected.head?.elim .clean fun payout => .paid payout.txid payout.confirmed := by
  have place (at_ : Place) :
      ((payouts.filter (·.place = at_)).filter fun payout => stampTag payout.id = stampTag id) =
        selected.filter (·.place = at_) := by
    rw [List.filter_comm, selects]
  have largeAt (at_ : Place) : ∀ payout ∈ payouts.filter (·.place = at_),
      stampMod ≤ payout.payout := fun payout member => large payout (List.mem_of_mem_filter member)
  have fewAt (at_ : Place) : (selected.filter (·.place = at_)).length ≤ 1 :=
    (List.length_filter_le ..).trans few
  obtain ⟨recent, outOrder, outPays⟩ := lists.recent
  obtain ⟨pending, pendingOrder, pendingShown⟩ := lists.pending
  obtain ⟨pool, poolOrder, poolShown⟩ := lists.pool
  have pendingItems : (history result).pending.Perm (pending.map item) := pendingOrder.map item
  have poolItems : (history result).pool.Perm (pool.map item) := poolOrder.map item
  rw [Redemption.stampMatchInResult,
    stampMatches_perm outOrder outPays (largeAt _) (place .out) (fewAt _),
    stampMatches_perm pendingItems (pays_of_shows pendingShown) (largeAt _) (place .pending)
      (fewAt _),
    stampMatches_perm poolItems (pays_of_shows poolShown) (largeAt _) (place .pool) (fewAt _)]
  cases selected with
  | nil => rfl
  | cons payout rest =>
      obtain rfl : rest = [] := by
        cases rest with
        | nil => rfl
        | cons => simp at few
      cases position : payout.place <;> simp [position, StampedPayout.confirmed]

end Exact

end TransfersJson

/-! ### Stamping and scanning -/

/-- The stamped amount is the largest one of its tag that does not exceed the payout. -/
theorem stampAmount_isGreatest {payout : Nat} (id : RedemptionId) (large : stampMod ≤ payout) :
    IsGreatest { amount | amount ≤ payout ∧ amount ≡ id.val [MOD stampMod] }
      (stampAmount payout id) := by
  have stamped := matchesStamp_stampAmount id large
  rw [matchesStamp, beq_iff_eq, stampTag] at stamped
  refine ⟨⟨stampAmount_le id large, stamped⟩, ?_⟩
  rintro amount ⟨below, congruent⟩
  have withheld := stampAmount_withholds id large
  by_contra above
  rw [not_le] at above
  have congruent : amount ≡ stampAmount payout id [MOD stampMod] := congruent.trans stamped.symm
  have apart : stampMod ≤ amount - stampAmount payout id :=
    Nat.le_of_dvd (by omega) ((Nat.modEq_iff_dvd' above.le).mp congruent.symm)
  omega

/-- **Stamp reconciliation is exact.** Whatever the order of the lists and whatever old
transfers are among them, the scan finds each payout under its id, with its txid and
whether it is mined, and nothing under any other tag; and stamping pays the largest
amount with the tag, so it withholds less than `2 ^ 16`. -/
theorem stamps_reconcile_exactly {result : Value} {minHeight : Nat}
    {payouts : List StampedPayout} (lists : TransfersJson.ListsPayouts result minHeight payouts)
    (large : ∀ payout ∈ payouts, stampMod ≤ payout.payout) (distinct : DistinctTags payouts) :
    (∀ payout ∈ payouts, TransfersJson.stampMatchInResult result payout.id minHeight =
      .ok (some (payout.txid, payout.confirmed))) ∧
    (∀ id, (∀ payout ∈ payouts, stampTag payout.id ≠ stampTag id) →
      TransfersJson.stampMatchInResult result id minHeight = .ok none) ∧
    ∀ payout id, stampMod ≤ payout →
      IsGreatest { amount | amount ≤ payout ∧ amount ≡ id.val [MOD stampMod] }
        (stampAmount payout id) ∧
      0 < stampAmount payout id ∧ payout - stampAmount payout id ≤ 2 ^ 16 - 1 := by
  refine ⟨?_, ?_, ?_⟩
  · intro payout member
    apply TransfersJson.eq_ok_of_scan_paid
    rw [TransfersJson.scan_stampMatchInResult]
    exact lists.scan_eq large (distinct.filter_eq member) le_rfl
  · intro id unused
    have none_selected :
        (payouts.filter fun payout => stampTag payout.id = stampTag id) = [] := by
      rw [List.filter_eq_nil_iff]
      intro payout member
      simpa using unused payout member
    apply TransfersJson.eq_ok_of_scan_clean
    rw [TransfersJson.scan_stampMatchInResult]
    exact lists.scan_eq large none_selected (Nat.zero_le 1)
  · intro payout id enough
    exact ⟨stampAmount_isGreatest id enough, stampAmount_pos id enough,
      Nat.le_sub_one_of_lt (stampAmount_withholds id enough)⟩

/-- Redemption 42 is paid and mined; redemption 65535 is paid 65535 of 70000 and still
pending. -/
def samplePayouts : List StampedPayout :=
  [⟨5000000, 42, "a", .out⟩, ⟨70000, 65535, "b", .pending⟩]

/-- The wallet shows them, the pending amount as a text, next to an old transfer that
carries the tag of redemption 42. -/
def sampleTransfers : Value :=
  .object [
    ("out", .array [
      .object [("amount", .number (.posInt 42)), ("txid", .string "old"),
        ("height", .number (.posInt 99))],
      .object [("amount", .number (.posInt 4980778)), ("txid", .string "a"),
        ("height", .number (.posInt 100))]]),
    ("pending", .array [.object [("amount", .string "65535"), ("txid", .string "b")]])]

theorem stamps_reconcile_exactly_sample :
    TransfersJson.stampMatchInResult sampleTransfers 42 100 = .ok (some ("a", true)) ∧
      TransfersJson.stampMatchInResult sampleTransfers 65535 100 = .ok (some ("b", false)) ∧
      TransfersJson.stampMatchInResult sampleTransfers 43 100 = .ok none := by
  have lists : TransfersJson.ListsPayouts sampleTransfers 100 samplePayouts := by
    refine ⟨⟨[_], [_], List.Perm.swap .., .cons ?_ .nil, ?_, ?_⟩, ⟨_, .refl _, .cons ?_ .nil⟩,
      ⟨_, .refl _, .nil⟩⟩
    · exact ⟨.inl ⟨4980778, rfl, by decide +kernel⟩, rfl⟩
    · intro value member
      rw [List.mem_singleton] at member
      subst member
      exact ⟨100, ⟨100, rfl, rfl⟩, le_rfl⟩
    · intro value member
      rw [List.mem_singleton] at member
      subst member
      exact ⟨99, ⟨99, rfl, rfl⟩, by decide⟩
    · exact ⟨.inr ⟨"65535", rfl, by decide +kernel⟩, rfl⟩
  have large : ∀ payout ∈ samplePayouts, stampMod ≤ payout.payout := by decide
  have distinct : DistinctTags samplePayouts := by decide +kernel
  obtain ⟨found, clean, _⟩ := stamps_reconcile_exactly lists large distinct
  exact ⟨found ⟨5000000, 42, "a", .out⟩ (by simp [samplePayouts]),
    found ⟨70000, 65535, "b", .pending⟩ (by simp [samplePayouts]), clean 43 (by decide +kernel)⟩

end CrFaucet.Redemption
