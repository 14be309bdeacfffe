import CrFaucet.Cbor
import CrFaucet.Interaction.Run
import CrFaucet.SelfFund.Tick

/-!
Owns the contract `RentPayer`: the machine it pays for, and the body of the subcall that pays.

The body is written byte by byte. It is the canonical encoding of a map with four entries, so that
a strict decoder takes it and finds the four values. This holds for every subcall in every history
of the contract, and what a tick of the loop submits is never turned down by the contract itself.

Does not own the subcall precompile, whose answers are parameters, or the contract's balance.
-/

set_option autoImplicit false

namespace CrFaucet.SelfFund

open Interaction

structure RentPayer where
  appId : Vector UInt8 21
  provider : Vector UInt8 21
  instanceId : Vector UInt8 8

structure Subcall where
  method : String
  body : List UInt8

structure ToppedUp where
  term : UInt8
  termCount : UInt8

inductive Revert where
  /-- `roflEnsureAuthorizedOrigin`. -/
  | notAuthorized
  | message (text : String)
deriving DecidableEq

namespace RentPayer

def setInstance (payer : RentPayer) (authorized : Bool) (provider : Vector UInt8 21)
    (instanceId : Vector UInt8 8) : Except Revert RentPayer :=
  if authorized then .ok { payer with provider, instanceId } else .error .notAuthorized

def encodeTopUpBody (payer : RentPayer) (term termCount : UInt8) : Except Revert (List UInt8) :=
  if ¬(1 ≤ term ∧ term ≤ 3) then .error (.message "term must be 1..3")
  else if ¬(1 ≤ termCount ∧ termCount < 24) then .error (.message "term_count must be 1..23")
  else
    .ok ([0xa4] ++
      ([0x62] ++ Utf8.bytes "id" ++ [0x48] ++ payer.instanceId.toList) ++
      ([0x64] ++ Utf8.bytes "term" ++ [term]) ++
      ([0x68] ++ Utf8.bytes "provider" ++ [0x55] ++ payer.provider.toList) ++
      ([0x6a] ++ Utf8.bytes "term_count" ++ [termCount]))

/-- The subcall that is made and the event; `status` is what the precompile answers. -/
def topUp (payer : RentPayer) (authorized : Bool) (status : Subcall → UInt64)
    (term termCount : UInt8) : Except Revert (Subcall × ToppedUp) :=
  if authorized then
    match payer.encodeTopUpBody term termCount with
    | .error revert => .error revert
    | .ok body =>
        let subcall : Subcall := ⟨"roflmarket.InstanceTopUp", body⟩
        if status subcall = 0 then .ok (subcall, ⟨term, termCount⟩)
        else .error (.message "InstanceTopUp failed")
  else .error .notAuthorized

end RentPayer

/-! ### The body is canonical -/

/-- What a body is made of. -/
structure TopUp where
  instanceId : Vector UInt8 8
  provider : Vector UInt8 21
  term : UInt8
  termCount : UInt8
  term_range : 1 ≤ term ∧ term ≤ 3
  termCount_range : 1 ≤ termCount ∧ termCount < 24

namespace TopUp

open Cbor (Item)

/-- The contract while it pays for the machine. -/
def payer (appId : Vector UInt8 21) (topUp : TopUp) : RentPayer where
  appId
  provider := topUp.provider
  instanceId := topUp.instanceId

/-- The map the body stands for. -/
def entries (topUp : TopUp) : List (Item × Item) :=
  [(.text (Utf8.bytes "id"), .bytes topUp.instanceId.toList),
    (.text (Utf8.bytes "term"), .uint topUp.term.toNat),
    (.text (Utf8.bytes "provider"), .bytes topUp.provider.toList),
    (.text (Utf8.bytes "term_count"), .uint topUp.termCount.toNat)]

theorem ascending_entries (topUp : TopUp) : Cbor.Ascending topUp.entries := by
  have keys : (topUp.entries.map fun entry => Cbor.encode entry.1).Pairwise
      fun first second => Cbor.KeyLe first second ∧ first ≠ second := by
    change (["id", "term", "provider", "term_count"].map fun key =>
      Cbor.encode (.text (Utf8.bytes key))).Pairwise _
    decide +kernel
  exact List.pairwise_map.1 keys

theorem valid_entries (topUp : TopUp) (depth : Nat) :
    Cbor.Valid (depth + 2) (.map topUp.entries) := by
  have small : ∀ number : UInt8, number.toNat < 2 ^ 64 := fun number =>
    Nat.lt_trans number.toNat_lt (by decide)
  have fixed : ∀ {size : Nat} (payload : Vector UInt8 size), size < 2 ^ 64 →
      payload.toList.length < 2 ^ 64 := by
    intro size payload fits
    rw [Vector.length_toList]
    exact fits
  refine ⟨(by decide : 4 < 2 ^ 64), topUp.ascending_entries, ?_⟩
  intro entry member
  simp only [entries, List.mem_cons, List.not_mem_nil, or_false] at member
  rcases member with rfl | rfl | rfl | rfl
  · exact ⟨(by decide +kernel : (Utf8.bytes "id").length < 2 ^ 64), fixed _ (by decide)⟩
  · exact ⟨(by decide +kernel : (Utf8.bytes "term").length < 2 ^ 64), small _⟩
  · exact ⟨(by decide +kernel : (Utf8.bytes "provider").length < 2 ^ 64), fixed _ (by decide)⟩
  · exact ⟨(by decide +kernel : (Utf8.bytes "term_count").length < 2 ^ 64), small _⟩

theorem encode_uint {number : UInt8} (small : number < 24) :
    Cbor.encode (.uint number.toNat) = [number] := by
  rw [Cbor.encode, Cbor.head_of_lt_24 (UInt8.lt_iff_toNat_lt.1 small), Nat.zero_mul, Nat.zero_add,
    UInt8.ofNat_toNat]

theorem encode_entries (topUp : TopUp) :
    Cbor.encode (.map topUp.entries) =
      [0xa4] ++
        ([0x62] ++ Utf8.bytes "id" ++ [0x48] ++ topUp.instanceId.toList) ++
        ([0x64] ++ Utf8.bytes "term" ++ [topUp.term]) ++
        ([0x68] ++ Utf8.bytes "provider" ++ [0x55] ++ topUp.provider.toList) ++
        ([0x6a] ++ Utf8.bytes "term_count" ++ [topUp.termCount]) := by
  have heads : Cbor.head (3, (Utf8.bytes "id").length) = [0x62] ∧
      Cbor.head (3, (Utf8.bytes "term").length) = [0x64] ∧
      Cbor.head (3, (Utf8.bytes "provider").length) = [0x68] ∧
      Cbor.head (3, (Utf8.bytes "term_count").length) = [0x6a] ∧
      Cbor.head (2, 8) = [0x48] ∧ Cbor.head (2, 21) = [0x55] ∧ Cbor.head (5, 4) = [0xa4] := by
    decide +kernel
  obtain ⟨idHead, termHead, providerHead, countHead, eight, twentyOne, four⟩ := heads
  have termSmall : topUp.term < 24 := UInt8.lt_of_le_of_lt topUp.term_range.2 (by decide)
  have term := encode_uint termSmall
  have count := encode_uint topUp.termCount_range.2
  rw [Cbor.encode, show topUp.entries.length = 4 from rfl, four, entries]
  simp only [Cbor.encodeEntries, term, count]
  simp only [Cbor.encode, Vector.length_toList, idHead, termHead, providerHead, countHead, eight,
    twentyOne, List.append_assoc, List.append_nil]

theorem encodeTopUpBody_eq (appId : Vector UInt8 21) (topUp : TopUp) :
    (topUp.payer appId).encodeTopUpBody topUp.term topUp.termCount =
      .ok (Cbor.encode (.map topUp.entries)) := by
  rw [RentPayer.encodeTopUpBody, if_neg (not_not_intro topUp.term_range),
    if_neg (not_not_intro topUp.termCount_range), encode_entries]
  rfl

theorem of_encodeTopUpBody {payer : RentPayer} {term termCount : UInt8} {body : List UInt8}
    (encoded : payer.encodeTopUpBody term termCount = .ok body) :
    ∃ topUp : TopUp, topUp.payer payer.appId = payer ∧ topUp.term = term ∧
      topUp.termCount = termCount ∧ body = Cbor.encode (.map topUp.entries) := by
  by_cases termRange : 1 ≤ term ∧ term ≤ 3
  · by_cases countRange : 1 ≤ termCount ∧ termCount < 24
    · let topUp : TopUp :=
        ⟨payer.instanceId, payer.provider, term, termCount, termRange, countRange⟩
      have written := topUp.encodeTopUpBody_eq payer.appId
      exact ⟨topUp, rfl, rfl, rfl, Except.ok.inj (encoded.symm.trans written)⟩
    · rw [RentPayer.encodeTopUpBody, if_neg (not_not_intro termRange), if_pos countRange] at encoded
      cases encoded
  · rw [RentPayer.encodeTopUpBody, if_pos termRange] at encoded
    cases encoded

theorem entries_injective {first second : TopUp} (same : first.entries = second.entries) :
    first = second := by
  obtain ⟨instanceId, provider, term, termCount, _, _⟩ := first
  obtain ⟨instanceId', provider', term', termCount', _, _⟩ := second
  simp only [entries, List.cons.injEq, Prod.mk.injEq, Item.bytes.injEq, Item.uint.injEq, true_and,
    and_true, Vector.toList_inj, UInt8.toNat_inj] at same
  obtain ⟨rfl, rfl, rfl, rfl⟩ := same
  rfl

end TopUp

/-- **The body is the canonical encoding of the map**, in whatever order the entries are listed. A
strict decoder takes it as a whole, finds the four values, and takes nothing else for them; other
inputs have another body. -/
theorem topUp_body_is_canonical (appId : Vector UInt8 21) (topUp : TopUp) :
    ∃ body, (topUp.payer appId).encodeTopUpBody topUp.term topUp.termCount = .ok body ∧
      (∀ listing : List (Cbor.Item × Cbor.Item), listing.Perm topUp.entries →
        body = Cbor.encode (Cbor.mapOf listing)) ∧
      (∀ (depth : Nat) (bytes : List UInt8),
        Cbor.decode (depth + 2) bytes = some (.map topUp.entries) ↔ bytes = body) ∧
      ∀ (otherAppId : Vector UInt8 21) (other : TopUp),
        (other.payer otherAppId).encodeTopUpBody other.term other.termCount = .ok body →
          other = topUp := by
  refine ⟨_, topUp.encodeTopUpBody_eq appId, ?_, ?_, ?_⟩
  · intro listing same
    rw [Cbor.mapOf_eq same topUp.ascending_entries]
  · intro depth bytes
    rw [Cbor.decode_eq_some_iff]
    exact and_iff_right (topUp.valid_entries depth)
  · intro otherAppId other encoded
    rw [other.encodeTopUpBody_eq otherAppId] at encoded
    have sameMap : Cbor.Item.map other.entries = .map topUp.entries :=
      Cbor.encode_injective (other.valid_entries 0) (topUp.valid_entries 0) (Except.ok.inj encoded)
    exact TopUp.entries_injective (Cbor.Item.map.inj sameMap)

/-- The body that the tests of the source have from the command line tool. -/
example :
    (TopUp.payer (.replicate 21 0)
      { instanceId := #v[0, 0, 0, 0, 0, 0, 0x06, 0x24]
        provider := .ofFn fun index => .ofNat (index.val + 1)
        term := 1
        termCount := 1
        term_range := by decide
        termCount_range := by decide }).encodeTopUpBody 1 1 =
      .ok [0xa4, 0x62, 0x69, 0x64, 0x48, 0, 0, 0, 0, 0, 0, 0x06, 0x24, 0x64, 0x74, 0x65, 0x72, 0x6d,
        0x01, 0x68, 0x70, 0x72, 0x6f, 0x76, 0x69, 0x64, 0x65, 0x72, 0x55, 0x01, 0x02, 0x03, 0x04,
        0x05, 0x06, 0x07, 0x08, 0x09, 0x0a, 0x0b, 0x0c, 0x0d, 0x0e, 0x0f, 0x10, 0x11, 0x12, 0x13,
        0x14, 0x15, 0x6a, 0x74, 0x65, 0x72, 0x6d, 0x5f, 0x63, 0x6f, 0x75, 0x6e, 0x74, 0x01] := by
  decide +kernel

/-! ### Histories of the contract -/

inductive PayerCall where
  | setInstance (authorized : Bool) (provider : Vector UInt8 21) (instanceId : Vector UInt8 8)
  | topUp (authorized : Bool) (status : Subcall → UInt64) (term termCount : UInt8)

/-- The contract, and the subcalls that were not reverted, newest first. -/
structure PayerHistory where
  payer : RentPayer
  subcalls : List Subcall

def PayerHistory.step (history : PayerHistory) : PayerCall → PayerHistory
  | .setInstance authorized provider instanceId =>
      match history.payer.setInstance authorized provider instanceId with
      | .ok payer => { history with payer }
      | .error _ => history
  | .topUp authorized status term termCount =>
      match history.payer.topUp authorized status term termCount with
      | .ok (subcall, _) => { history with subcalls := subcall :: history.subcalls }
      | .error _ => history

/-- The app is the one of the deployment, and every subcall has a canonical body. -/
structure Paid (appId : Vector UInt8 21) (history : PayerHistory) : Prop where
  app : history.payer.appId = appId
  canonical : ∀ subcall ∈ history.subcalls, ∃ topUp : TopUp,
    subcall = ⟨"roflmarket.InstanceTopUp", Cbor.encode (.map topUp.entries)⟩

theorem topUp_eq_ok {payer : RentPayer} {authorized : Bool} {status : Subcall → UInt64}
    {term termCount : UInt8} {subcall : Subcall} {event : ToppedUp}
    (done : payer.topUp authorized status term termCount = .ok (subcall, event)) :
    ∃ body, payer.encodeTopUpBody term termCount = .ok body ∧
      subcall = ⟨"roflmarket.InstanceTopUp", body⟩ := by
  unfold RentPayer.topUp at done
  split at done
  · split at done
    · cases done
    · rename_i body encoded
      dsimp only at done
      split at done
      · cases done
        exact ⟨body, encoded, rfl⟩
      · cases done
  · cases done

theorem setInstance_appId {payer after : RentPayer} {authorized : Bool}
    {provider : Vector UInt8 21} {instanceId : Vector UInt8 8}
    (set : payer.setInstance authorized provider instanceId = .ok after) :
    after.appId = payer.appId := by
  unfold RentPayer.setInstance at set
  split at set
  · cases set
    rfl
  · cases set

theorem Paid.step {appId : Vector UInt8 21} {history : PayerHistory} (before : Paid appId history)
    (call : PayerCall) : Paid appId (history.step call) := by
  cases call with
  | setInstance authorized provider instanceId =>
      rw [PayerHistory.step]
      cases set : history.payer.setInstance authorized provider instanceId with
      | ok payer => exact ⟨(setInstance_appId set).trans before.app, before.canonical⟩
      | error revert => exact before
  | topUp authorized status term termCount =>
      rw [PayerHistory.step]
      cases done : history.payer.topUp authorized status term termCount with
      | ok made =>
          obtain ⟨body, encoded, isSubcall⟩ := topUp_eq_ok done
          obtain ⟨topUp, _, _, _, isBody⟩ := TopUp.of_encodeTopUpBody encoded
          refine ⟨before.app, fun other member => ?_⟩
          rcases List.mem_cons.1 member with rfl | member
          · exact ⟨topUp, isBody ▸ isSubcall⟩
          · exact before.canonical other member
      | error revert => exact before

/-- **In every history the app stays the same, and a strict decoder takes every subcall.** -/
theorem history_is_canonical (payer : RentPayer) (calls : List PayerCall) :
    (run PayerHistory.step ⟨payer, []⟩ calls).payer.appId = payer.appId ∧
      ∀ subcall ∈ (run PayerHistory.step ⟨payer, []⟩ calls).subcalls, ∃ topUp : TopUp,
        Cbor.decode 2 subcall.body = some (.map topUp.entries) := by
  have started : Paid payer.appId ⟨payer, []⟩ := ⟨rfl, fun _ absent => by cases absent⟩
  have along : Along PayerHistory.step (fun _ _ => True) ⟨payer, []⟩ calls :=
    Along.of_forall_mem _ fun _ _ => trivial
  have paid := along.keeps (Paid payer.appId) (fun _ call before _ => before.step call) started
  refine ⟨paid.app, fun subcall member => ?_⟩
  obtain ⟨topUp, rfl⟩ := paid.canonical subcall member
  exact ⟨topUp, Cbor.decode_eq_some_iff.2 ⟨topUp.valid_entries 0, rfl⟩⟩

/-! ### What the loop submits is paid -/

/-- The contract turns whatever a tick submits into the subcall; only the chain may refuse it. -/
theorem topUp_of_submitted {config : SelfFundConfig} {rates : PerSecond} {state : FundState}
    {input : TickInput} {term count : Nat}
    (submitted : (tick config rates state input).submitted = some (term, count))
    (payer : RentPayer) {status : Subcall → UInt64} (accepts : ∀ subcall, status subcall = 0) :
    ∃ body, payer.encodeTopUpBody (.ofNat term) (.ofNat count) = .ok body ∧
      payer.topUp true status (.ofNat term) (.ofNat count) =
        .ok (⟨"roflmarket.InstanceTopUp", body⟩, ⟨.ofNat term, .ofNat count⟩) := by
  obtain ⟨⟨low, high⟩, rfl⟩ := (submitted_cases submitted).range
  have range : 1 ≤ UInt8.ofNat term ∧ UInt8.ofNat term ≤ 3 := by
    rw [UInt8.le_iff_toNat_le, UInt8.le_iff_toNat_le, UInt8.toNat_ofNat']
    change 1 ≤ term % 256 ∧ term % 256 ≤ 3
    omega
  let topUp : TopUp := ⟨payer.instanceId, payer.provider, .ofNat term, .ofNat 1, range, by decide⟩
  have encoded : payer.encodeTopUpBody (.ofNat term) (.ofNat 1) = .ok _ :=
    topUp.encodeTopUpBody_eq payer.appId
  refine ⟨_, encoded, ?_⟩
  rw [RentPayer.topUp, if_pos rfl, encoded]
  exact if_pos (accepts _)

end CrFaucet.SelfFund
