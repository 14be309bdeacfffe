import CrFaucet.Hex
import CrFaucet.Instances.SingleActive

/-!
Owns what `pool_core::appd` makes of its replies for the rent: the instance record with its
runway and prices, the native balance, and the choice of a term in `plan_topup`.

A reply is a CBOR value, as it was decoded. The comparison of two prices for each second is made
in `f64` and is left open in `PerSecond`; nothing here depends on how it rounds.

Does not own the bytes of a reply or the exchange with appd.
-/

set_option autoImplicit false

namespace CrFaucet.SelfFund

open Instances (Value)

/-! ### Replies -/

/-- `cbor_to_u128`: a number, or at most sixteen bytes with the big end first. -/
def cborToU128 : Value → Option Nat
  | .integer value => if 0 ≤ value ∧ value.toNat < 2 ^ 128 then some value.toNat else none
  | .bytes value => if value.length ≤ 16 then some (Hex.ofLe value.reverse) else none
  | _ => none

abbrev Terms := List (Nat × Nat)

def Terms.insert (terms : Terms) (term price : Nat) : Terms :=
  (term, price) :: terms.filter fun entry => entry.1 ≠ term

structure InstanceInfo where
  paidUntil : Option Nat
  terms : Terms

/-- One entry of the price table; the rest of the record does not matter if it is malformed. -/
def parseTerm (terms : Terms) (entry : Value × Value) : Terms :=
  match cborToU128 entry.1, cborToU128 entry.2 with
  | some term, some price => if 1 ≤ term ∧ term ≤ 3 then terms.insert term price else terms
  | _, _ => terms

/-- The price table of a record. -/
def termEntries (record : Value) : List (Value × Value) :=
  match ((record.mapGet "payment").bind (·.mapGet "native")).bind (·.mapGet "terms") with
  | some (.map entries) => entries
  | _ => []

def parseInstance (record : Value) : InstanceInfo where
  paidUntil := ((record.mapGet "paid_until").bind cborToU128).map fun time => time % 2 ^ 64
  terms := (termEntries record).foldl parseTerm []

def isNative : Value → Bool
  | .bytes denomination => denomination.isEmpty
  | _ => false

/-- The entry without a denomination, or else the only entry. -/
def parseNativeBalance (record : Value) : Nat :=
  match record.mapGet "balances" with
  | some (.map entries) =>
      match entries.find? fun entry => isNative entry.1, entries with
      | some native, _ => (cborToU128 native.2).getD 0
      | none, [only] => (cborToU128 only.2).getD 0
      | none, _ => 0
  | _ => 0

/-! ### The choice of a term -/

/-- `TERM_SECS`: hour, month and year. -/
def termSecs : List (Nat × Nat) := [(1, 3600), (2, 2592000), (3, 31536000)]

/-- Whether a price for a duration is better than the best so far: cheaper for each second, or
as cheap and for longer. -/
structure PerSecond where
  better : (price duration bestPrice bestDuration : Nat) → Bool

/-- The comparison without rounding. -/
def PerSecond.exact : PerSecond where
  better price duration bestPrice bestDuration :=
    price * bestDuration < bestPrice * duration ||
      price * bestDuration = bestPrice * duration && bestDuration < duration

structure Candidate where
  term : Nat
  price : Nat
  duration : Nat

def consider (rates : PerSecond) (spendable : Nat) (terms : Terms) (maxTerm : Nat)
    (best : Option Candidate) (entry : Nat × Nat) : Option Candidate :=
  if maxTerm < entry.1 then best
  else
    match terms.lookup entry.1 with
    | none => best
    | some price =>
        if price = 0 ∨ spendable < price then best
        else
          match best with
          | none => some ⟨entry.1, price, entry.2⟩
          | some found =>
              if rates.better price entry.2 found.price found.duration then
                some ⟨entry.1, price, entry.2⟩
              else best

/-- A term and how many of it, which is always one. -/
def planTopup (rates : PerSecond) (balance floor : Nat) (terms : Terms) (maxTerm : Nat) :
    Option (Nat × Nat) :=
  (termSecs.foldl (consider rates (balance - floor) terms maxTerm) none).map fun best =>
    (best.term, 1)

/-! ### What is chosen can be paid -/

section Affordable

variable {rates : PerSecond} {spendable : Nat} {terms : Terms} {maxTerm : Nat}

/-- A candidate is one of the terms, it has its price from the table, and the price can be
spent. -/
def Candidate.Affordable (spendable : Nat) (terms : Terms) (maxTerm : Nat)
    (candidate : Candidate) : Prop :=
  (candidate.term, candidate.duration) ∈ termSecs ∧
    terms.lookup candidate.term = some candidate.price ∧ 0 < candidate.price ∧
    candidate.price ≤ spendable ∧ candidate.term ≤ maxTerm

/-- The best so far stays, or the entry takes its place. -/
theorem consider_cases (best : Option Candidate) (entry : Nat × Nat) :
    consider rates spendable terms maxTerm best entry = best ∨
      ∃ price, terms.lookup entry.1 = some price ∧ 0 < price ∧ price ≤ spendable ∧
        entry.1 ≤ maxTerm ∧ consider rates spendable terms maxTerm best entry =
          some ⟨entry.1, price, entry.2⟩ := by
  unfold consider
  split
  · exact Or.inl rfl
  · rename_i within
    split
    · exact Or.inl rfl
    · rename_i price listed
      split
      · exact Or.inl rfl
      · rename_i payable
        rw [not_or] at payable
        have positive := Nat.pos_of_ne_zero payable.1
        have most := Nat.le_of_not_lt payable.2
        split
        · exact Or.inr ⟨price, listed, positive, most, Nat.le_of_not_lt within, rfl⟩
        · split
          · exact Or.inr ⟨price, listed, positive, most, Nat.le_of_not_lt within, rfl⟩
          · exact Or.inl rfl

theorem consider_affordable {best : Option Candidate} {entry : Nat × Nat}
    (isTerm : entry ∈ termSecs)
    (before : ∀ found ∈ best, found.Affordable spendable terms maxTerm) :
    ∀ found ∈ consider rates spendable terms maxTerm best entry,
      found.Affordable spendable terms maxTerm := by
  rcases consider_cases best entry with same | ⟨price, listed, positive, payable, within, isNew⟩
  · rw [same]
    exact before
  · rw [isNew]
    rintro _ ⟨⟩
    exact ⟨isTerm, listed, positive, payable, within⟩

theorem foldl_consider_affordable {entries : List (Nat × Nat)}
    (areTerms : ∀ entry ∈ entries, entry ∈ termSecs) {best : Option Candidate}
    (before : ∀ found ∈ best, found.Affordable spendable terms maxTerm) :
    ∀ found ∈ entries.foldl (consider rates spendable terms maxTerm) best,
      found.Affordable spendable terms maxTerm := by
  induction entries generalizing best with
  | nil => exact before
  | cons entry rest inductionHypothesis =>
      exact inductionHypothesis
        (fun other member => areTerms other (List.mem_cons_of_mem _ member))
        (consider_affordable (areTerms entry (List.mem_cons_self ..)) before)

/-- **A planned top-up leaves the floor.** -/
theorem planTopup_eq_some {balance floor term count : Nat}
    (planned : planTopup rates balance floor terms maxTerm = some (term, count)) :
    count = 1 ∧ (1 ≤ term ∧ term ≤ 3) ∧ term ≤ maxTerm ∧
      ∃ price, terms.lookup term = some price ∧ price + floor ≤ balance := by
  obtain ⟨best, found, same⟩ := Option.map_eq_some_iff.1 planned
  cases same
  obtain ⟨isTerm, listed, positive, payable, within⟩ :=
    foldl_consider_affordable (fun _ member => member) (fun _ impossible => by cases impossible)
      best found
  have range : ∀ entry ∈ termSecs, 1 ≤ entry.1 ∧ entry.1 ≤ 3 := by decide
  exact ⟨rfl, range _ isTerm, within, best.price, listed, by omega⟩

theorem consider_isSome {best : Option Candidate} (found : best.isSome = true)
    (entry : Nat × Nat) : (consider rates spendable terms maxTerm best entry).isSome = true := by
  rcases consider_cases best entry with same | ⟨price, _, _, _, _, isNew⟩
  · rw [same]
    exact found
  · rw [isNew]
    rfl

/-- Where an hour can be paid, something is bought. -/
theorem planTopup_ne_none {balance floor price : Nat} (hourly : 1 ≤ maxTerm)
    (listed : terms.lookup 1 = some price) (positive : 0 < price)
    (payable : price + floor ≤ balance) : planTopup rates balance floor terms maxTerm ≠ none := by
  have hour : (consider rates (balance - floor) terms maxTerm none (1, 3600)).isSome = true := by
    have spendable : ¬(price = 0 ∨ balance - floor < price) := by omega
    simp only [consider, listed, if_neg spendable]
    rw [if_neg (Nat.not_lt.2 hourly)]
    rfl
  have year : (termSecs.foldl (consider rates (balance - floor) terms maxTerm) none).isSome =
      true := consider_isSome (consider_isSome hour (2, 2592000)) (3, 31536000)
  rw [planTopup, Ne, Option.map_eq_none_iff]
  intro none
  rw [none] at year
  cases year

end Affordable

end CrFaucet.SelfFund
