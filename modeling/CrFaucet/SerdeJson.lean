import Mathlib.Algebra.GroupWithZero.Nat
import Mathlib.Data.List.Basic

/-!
Owns parsed JSON as `serde_json::Value` offers it, and the accessors the services
use on replies they do not deserialize into a type of their own.

Numbers are kept as `serde_json` keeps them without arbitrary precision: a
non-negative integer that fits a `u64`, a negative one, or a float, whose value
nobody reads here. The keys of an object are looked up by name.
-/

set_option autoImplicit false

namespace CrFaucet.SerdeJson

inductive Number where
  | posInt (value : Fin (2 ^ 64))
  | negInt (value : Int)
  | float

inductive Value where
  | null
  | bool (value : Bool)
  | number (value : Number)
  | string (value : String)
  | array (items : List Value)
  | object (members : List (String × Value))

namespace Value

/-- `Value::get` with a text key. -/
def get : Value → String → Option Value
  | .object members, key => members.lookup key
  | _, _ => none

def asU64 : Value → Option Nat
  | .number (.posInt value) => some value.val
  | _ => none

/-- Integers that fit an `i64`. -/
def asI64 : Value → Option Int
  | .number (.posInt value) => if value.val < 2 ^ 63 then some value.val else none
  | .number (.negInt value) => some value
  | _ => none

def asBool : Value → Option Bool
  | .bool value => some value
  | _ => none

def isNull : Value → Bool
  | .null => true
  | _ => false

def asStr : Value → Option String
  | .string value => some value
  | _ => none

def asArray : Value → Option (List Value)
  | .array items => some items
  | _ => none

/-- `Value::pointer` along keys that are not numbers. -/
def pointer (value : Value) : List String → Option Value
  | [] => some value
  | key :: rest => (value.get key).bind fun inner => inner.pointer rest

end Value

/-- One more digit of a `u128`. -/
def pushDigit (value : Nat) (digit : Char) : Option Nat :=
  if digit.isDigit ∧ value * 10 + (digit.toNat - '0'.toNat) < 2 ^ 128 then
    some (value * 10 + (digit.toNat - '0'.toNat))
  else none

/-- `str::parse::<u128>`: decimal digits, at least one, after an optional plus. -/
def parseU128 (text : String) : Option Nat :=
  let digits := match text.toList with
    | '+' :: rest => rest
    | all => all
  if digits = [] then none else digits.foldlM pushDigit 0

/-! ### The number a text stands for -/

/-- The value of digits after a number that was read before them. -/
def appendDigits (value : Nat) (digits : List Char) : Nat :=
  digits.foldl (fun value digit => value * 10 + (digit.toNat - '0'.toNat)) value

/-- `str::parse` without a bound on the number. -/
def decimal (text : String) : Option Nat :=
  let digits := match text.toList with
    | '+' :: rest => rest
    | all => all
  if digits = [] then none
  else if digits.all Char.isDigit then some (appendDigits 0 digits)
  else none

theorem le_appendDigits (value : Nat) (digits : List Char) : value ≤ appendDigits value digits := by
  induction digits generalizing value with
  | nil => exact Nat.le_refl value
  | cons digit rest inductionHypothesis =>
      have next := inductionHypothesis (value * 10 + (digit.toNat - '0'.toNat))
      have grows : value ≤ value * 10 + (digit.toNat - '0'.toNat) := by omega
      exact Nat.le_trans grows next

/-- The bound is met by every number on the way exactly if the last one meets it. -/
theorem foldlM_pushDigit {value : Nat} (fits : value < 2 ^ 128) (digits : List Char) :
    digits.foldlM pushDigit value =
      if digits.all Char.isDigit ∧ appendDigits value digits < 2 ^ 128 then
        some (appendDigits value digits)
      else none := by
  induction digits generalizing value with
  | nil =>
      rw [if_pos ⟨rfl, fits⟩]
      rfl
  | cons digit rest inductionHypothesis =>
      have appended : appendDigits value (digit :: rest) =
        appendDigits (value * 10 + (digit.toNat - '0'.toNat)) rest := rfl
      simp only [List.foldlM_cons, pushDigit, List.all_cons, Bool.and_eq_true, appended]
      split
      · rename_i pushed
        simp only [pushed.1, true_and]
        exact inductionHypothesis pushed.2
      · rename_i refused
        have grows := le_appendDigits (value * 10 + (digit.toNat - '0'.toNat)) rest
        rw [if_neg]
        · rfl
        · intro accepted
          exact refused ⟨accepted.1.1, Nat.lt_of_le_of_lt grows accepted.2⟩

theorem foldlM_pushDigit_zero (digits : List Char) :
    (if digits = [] then none else digits.foldlM pushDigit 0) =
      (if digits = [] then none
        else if digits.all Char.isDigit then some (appendDigits 0 digits)
        else none).filter (· < 2 ^ 128) := by
  rw [foldlM_pushDigit (Nat.two_pow_pos 128)]
  by_cases empty : digits = []
  · rw [if_pos empty, if_pos empty]
    rfl
  · rw [if_neg empty, if_neg empty]
    by_cases numeric : digits.all Char.isDigit = true
    · simp only [numeric, true_and, if_true, Option.filter_some, decide_eq_true_eq]
    · rw [if_neg numeric, if_neg fun accepted => numeric accepted.1, Option.filter_none]

theorem parseU128_eq (text : String) :
    parseU128 text = (decimal text).filter (· < 2 ^ 128) := by
  unfold parseU128 decimal
  split
  · exact foldlM_pushDigit_zero _
  · exact foldlM_pushDigit_zero _

end CrFaucet.SerdeJson
