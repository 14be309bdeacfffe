import CrFaucet.Utf8

/-!
Owns bytes written as text: two hexadecimal digits for each byte, and numbers as bytes
with the little end first.

`Spells` says which texts stand for which bytes; decoding succeeds on exactly those
(`decode_eq_ok_iff`), and what is proved about texts is proved about `Spells` by
induction. Encoding writes lower-case digits, decoding reads both cases.
-/

set_option autoImplicit false

namespace CrFaucet.Hex

open Utf8

/-! ### Digits -/

/-- `FromHexError` of the `hex` crate. -/
inductive FromHexError where
  | invalidHexCharacter (byte : UInt8) (index : Nat)
  | oddLength
  | invalidStringLength
deriving DecidableEq

def digit? (byte : UInt8) : Option Nat :=
  let code := byte.toNat
  if 48 ≤ code ∧ code ≤ 57 then some (code - 48)
  else if 65 ≤ code ∧ code ≤ 70 then some (code - 55)
  else if 97 ≤ code ∧ code ≤ 102 then some (code - 87)
  else none

theorem digit?_eq_some {byte : UInt8} {digit : Nat} (isDigit : digit? byte = some digit) :
    digit < 16 ∧ byte.toNat < 128 := by
  unfold digit? at isDigit
  dsimp only at isDigit
  split at isDigit
  · cases isDigit
    omega
  · split at isDigit
    · cases isDigit
      omega
    · split at isDigit
      · cases isDigit
        omega
      · cases isDigit

def val (byte : UInt8) (index : Nat) : Except FromHexError Nat :=
  match digit? byte with
  | some digit => .ok digit
  | none => .error (.invalidHexCharacter byte index)

theorem val_eq_ok {byte : UInt8} {index digit : Nat} :
    val byte index = .ok digit ↔ digit? byte = some digit := by
  unfold val
  cases digit? byte with
  | none => simp
  | some found => simp

/-! ### Texts and bytes -/

/-- From the byte with this index on. -/
def decodePairs (index : Nat) : List UInt8 → Except FromHexError (List UInt8)
  | high :: low :: rest => do
      let high ← val high index
      let low ← val low (index + 1)
      let decoded ← decodePairs (index + 2) rest
      return UInt8.ofNat (16 * high + low) :: decoded
  | _ => return []

def decode (text : String) : Except FromHexError (List UInt8) :=
  if (bytes text).length % 2 ≠ 0 then .error .oddLength else decodePairs 0 (bytes text)

def byteChars (byte : UInt8) : List Char :=
  [Nat.digitChar (byte.toNat / 16), Nat.digitChar (byte.toNat % 16)]

def encode (decoded : List UInt8) : String := String.ofList (decoded.flatMap byteChars)

/-- The bytes of a text are the hexadecimal digits of these bytes. -/
inductive Spells : List UInt8 → List UInt8 → Prop where
  | nil : Spells [] []
  | cons {high low : UInt8} {highDigit lowDigit : Nat} {text decoded : List UInt8}
      (isHigh : digit? high = some highDigit) (isLow : digit? low = some lowDigit)
      (rest : Spells text decoded) :
      Spells (high :: low :: text) (UInt8.ofNat (16 * highDigit + lowDigit) :: decoded)

theorem decodePairs_eq_ok {text decoded : List UInt8} {index : Nat} (even : text.length % 2 = 0)
    (done : decodePairs index text = .ok decoded) : Spells text decoded := by
  match text with
  | [] =>
      cases done
      exact .nil
  | [single] =>
      rw [List.length_singleton] at even
      omega
  | high :: low :: rest =>
      rw [decodePairs] at done
      cases isHigh : val high index with
      | error _ =>
          rw [isHigh] at done
          cases done
      | ok highDigit =>
          rw [isHigh] at done
          cases isLow : val low (index + 1) with
          | error _ =>
              rw [isLow] at done
              cases done
          | ok lowDigit =>
              rw [isLow] at done
              cases others : decodePairs (index + 2) rest with
              | error _ =>
                  rw [others] at done
                  cases done
              | ok tail =>
                  rw [others] at done
                  cases done
                  have evenRest : rest.length % 2 = 0 := by
                    rw [List.length_cons, List.length_cons] at even
                    omega
                  exact .cons (val_eq_ok.1 isHigh) (val_eq_ok.1 isLow)
                    (decodePairs_eq_ok evenRest others)

namespace Spells

variable {text decoded : List UInt8}

theorem decodePairs (spells : Spells text decoded) (index : Nat) :
    Hex.decodePairs index text = .ok decoded := by
  induction spells generalizing index with
  | nil => rfl
  | cons isHigh isLow _ inductionHypothesis =>
      rw [Hex.decodePairs, val_eq_ok.2 isHigh, val_eq_ok.2 isLow, inductionHypothesis (index + 2)]
      rfl

theorem length (spells : Spells text decoded) : text.length = 2 * decoded.length := by
  induction spells with
  | nil => rfl
  | cons _ _ _ inductionHypothesis =>
      rw [List.length_cons, List.length_cons, List.length_cons, inductionHypothesis]
      omega

theorem ascii (spells : Spells text decoded) : ∀ byte ∈ text, byte.toNat < 128 := by
  induction spells with
  | nil => nofun
  | cons isHigh isLow _ inductionHypothesis =>
      intro byte member
      rcases List.mem_cons.1 member with rfl | member
      · exact (digit?_eq_some isHigh).2
      · rcases List.mem_cons.1 member with rfl | member
        · exact (digit?_eq_some isLow).2
        · exact inductionHypothesis byte member

theorem append {text' decoded' : List UInt8} (first : Spells text decoded)
    (second : Spells text' decoded') : Spells (text ++ text') (decoded ++ decoded') := by
  induction first with
  | nil => exact second
  | cons isHigh isLow _ inductionHypothesis => exact .cons isHigh isLow inductionHypothesis

theorem split (spells : Spells text decoded) (count : Nat) :
    Spells (text.take (2 * count)) (decoded.take count) ∧
      Spells (text.drop (2 * count)) (decoded.drop count) := by
  induction spells generalizing count with
  | nil => simp [Spells.nil]
  | cons isHigh isLow rest inductionHypothesis =>
      cases count with
      | zero => exact ⟨.nil, .cons isHigh isLow rest⟩
      | succ count =>
          have double : 2 * (count + 1) = 2 * count + 1 + 1 := by omega
          rw [double]
          exact ⟨.cons isHigh isLow (inductionHypothesis count).1, (inductionHypothesis count).2⟩

end Spells

/-- **Decoding succeeds on exactly the texts that spell bytes.** -/
theorem decode_eq_ok_iff {text : String} {decoded : List UInt8} :
    decode text = .ok decoded ↔ Spells (bytes text) decoded := by
  unfold decode
  constructor
  · intro done
    split at done
    · cases done
    · rename_i even
      exact decodePairs_eq_ok (Decidable.not_not.1 even) done
  · intro spells
    rw [if_neg, spells.decodePairs]
    rw [spells.length]
    omega

theorem length_of_decode {text : String} {decoded : List UInt8} (done : decode text = .ok decoded) :
    byteLength text = 2 * decoded.length :=
  (decode_eq_ok_iff.1 done).length

/-! ### Encoding -/

theorem digit?_digitChar : ∀ digit : Fin 16,
    String.utf8EncodeChar (Nat.digitChar digit) = [UInt8.ofNat (Nat.digitChar digit).toNat] ∧
      digit? (UInt8.ofNat (Nat.digitChar digit).toNat) = some digit.val := by
  decide

theorem byteChars_spells (byte : UInt8) : Spells (bytesOf (byteChars byte)) [byte] := by
  have small := byte.toNat_lt
  obtain ⟨writesHigh, isHigh⟩ := digit?_digitChar ⟨byte.toNat / 16, by omega⟩
  obtain ⟨writesLow, isLow⟩ := digit?_digitChar ⟨byte.toNat % 16, by omega⟩
  have whole : UInt8.ofNat (16 * (byte.toNat / 16) + byte.toNat % 16) = byte := by
    rw [Nat.div_add_mod, UInt8.ofNat_toNat]
  have spells := Spells.cons isHigh isLow .nil
  rw [whole] at spells
  unfold byteChars
  rw [bytesOf_cons, bytesOf_cons, writesHigh, writesLow]
  exact spells

theorem encode_spells (decoded : List UInt8) : Spells (bytes (encode decoded)) decoded := by
  rw [encode, bytes_ofList]
  induction decoded with
  | nil => exact .nil
  | cons first rest inductionHypothesis =>
      rw [List.flatMap_cons, bytesOf_append]
      exact (byteChars_spells first).append inductionHypothesis

/-- **Decoding undoes encoding.** -/
@[simp] theorem decode_encode (decoded : List UInt8) : decode (encode decoded) = .ok decoded :=
  decode_eq_ok_iff.2 (encode_spells decoded)

theorem encode_injective {first second : List UInt8} (same : encode first = encode second) :
    first = second := by
  have back := decode_encode first
  rw [same, decode_encode] at back
  cases back
  rfl

/-! ### Numbers, little end first -/

def toLe : Nat → Nat → List UInt8
  | 0, _ => []
  | width + 1, value => UInt8.ofNat value :: toLe width (value / 256)

def ofLe : List UInt8 → Nat
  | [] => 0
  | first :: rest => first.toNat + 256 * ofLe rest

@[simp] theorem length_toLe (width value : Nat) : (toLe width value).length = width := by
  induction width generalizing value with
  | zero => rfl
  | succ width inductionHypothesis => rw [toLe, List.length_cons, inductionHypothesis]

theorem ofLe_toLe {width value : Nat} (fits : value < 256 ^ width) :
    ofLe (toLe width value) = value := by
  induction width generalizing value with
  | zero =>
      rw [Nat.pow_zero] at fits
      rw [toLe, ofLe]
      omega
  | succ width inductionHypothesis =>
      have small : value / 256 < 256 ^ width := by
        rw [Nat.pow_succ] at fits
        exact Nat.div_lt_of_lt_mul (Nat.mul_comm _ 256 ▸ fits)
      rw [toLe, ofLe, inductionHypothesis small, UInt8.toNat_ofNat']
      omega

theorem toLe_ofLe (written : List UInt8) : toLe written.length (ofLe written) = written := by
  induction written with
  | nil => rfl
  | cons first rest inductionHypothesis =>
      have small := first.toNat_lt
      have low : UInt8.ofNat (first.toNat + 256 * ofLe rest) = first := by
        rw [← UInt8.toNat_inj, UInt8.toNat_ofNat']
        omega
      have high : (first.toNat + 256 * ofLe rest) / 256 = ofLe rest := by omega
      rw [ofLe, List.length_cons, toLe, low, high, inductionHypothesis]

theorem toLe_injective {width first second : Nat} (fits : first < 256 ^ width)
    (fits' : second < 256 ^ width) (same : toLe width first = toLe width second) :
    first = second := by
  rw [← ofLe_toLe fits, same, ofLe_toLe fits']

theorem ofLe_lt (written : List UInt8) : ofLe written < 256 ^ written.length := by
  induction written with
  | nil => exact Nat.one_pos
  | cons first rest inductionHypothesis =>
      have small := first.toNat_lt
      rw [ofLe, List.length_cons, Nat.pow_succ]
      omega

end CrFaucet.Hex
