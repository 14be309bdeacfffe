import Mathlib.Data.List.Induction
import CrFaucet.BitRegroup
import CrFaucet.Utf8

/-!
Owns the two decoders of bech32 names: `bech32_to_21` of `pool_core::appd`, which takes app ids and
addresses of 21 bytes, and `bech32_decode` of `mining_pool::single_active`.

Neither checks the checksum. They differ in their loop, where one takes bytes out of the
accumulator while there are any and the other takes one at most, in the case of letters, and in the
length.

Does not own the exchange with appd that yields a name. `str::to_lowercase`, which only the
human-readable part goes through, is a parameter.
-/

set_option autoImplicit false

namespace CrFaucet.Instances

/-! ### Symbols -/

/-- `CH`, `CHARSET`. -/
def charset : List UInt8 := Utf8.bytes "qpzry9x8gf2tvdw0s3jn54khce6mua7l"

/-- `u8::to_ascii_lowercase`. -/
def toAsciiLowercase (byte : UInt8) : UInt8 :=
  if 65 ≤ byte ∧ byte ≤ 90 then byte + 32 else byte

/-- The positions of bytes in the character set, up to the first that is not in it. A position is
below 32, whatever integer it is kept in. -/
def readSymbols {Error : Type} (refused : UInt8 → Error) (spelled : UInt8 → UInt8) :
    List UInt8 → Except Error (List Nat)
  | [] => .ok []
  | byte :: rest =>
      match charset.findIdx? (· == spelled byte) with
      | none => .error (refused byte)
      | some position => (readSymbols refused spelled rest).map (position :: ·)

/-! ### The accumulator -/

structure Accumulator where
  acc : BitVec 32
  bits : Nat
  out : List UInt8

namespace Accumulator

def empty : Accumulator := ⟨0, 0, []⟩

def shift (state : Accumulator) (symbol : Nat) : Accumulator :=
  { state with acc := state.acc <<< 5 ||| BitVec.ofNat 32 symbol, bits := state.bits + 5 }

def emit (state : Accumulator) : Accumulator :=
  { state with
    bits := state.bits - 8
    out := state.out ++ [UInt8.ofBitVec ((state.acc >>> (state.bits - 8)).setWidth 8)] }

/-- `while bits >= 8`. -/
def drain (state : Accumulator) : Accumulator :=
  if 8 ≤ state.bits then drain state.emit else state
termination_by state.bits
decreasing_by
  change state.bits - 8 < state.bits
  omega

/-- `if bits >= 8`. -/
def emitOnce (state : Accumulator) : Accumulator := if 8 ≤ state.bits then state.emit else state

/-- The body of the loop of `bech32_to_21`. -/
def pushDraining (state : Accumulator) (symbol : Nat) : Accumulator := (state.shift symbol).drain

/-- The body of the loop of `bech32_decode`. -/
def pushOnce (state : Accumulator) (symbol : Nat) : Accumulator := (state.shift symbol).emitOnce

end Accumulator

/-! ### The decoders -/

inductive To21Error where
  /-- `no bech32 separator in {s}`. -/
  | noSeparator (text : List Char)
  /-- `bad bech32 char`. -/
  | badChar
  /-- `bech32 too short`. -/
  | tooShort
  /-- `bech32 decoded to {} bytes, expected 21`. -/
  | wrongLength (length : Nat)
deriving DecidableEq

def bech32To21 (text : String) : Except To21Error (Vector UInt8 21) :=
  match Utf8.rsplit '1' (Utf8.trim text.toList) with
  | none => .error (.noSeparator (Utf8.trim text.toList))
  | some (_, data) =>
      match readSymbols (fun _ => To21Error.badChar) id (Utf8.bytesOf data) with
      | .error error => .error error
      | .ok vals =>
          if vals.length < 6 then .error .tooShort
          else
            let out := ((vals.take (vals.length - 6)).foldl Accumulator.pushDraining .empty).out
            if sized : out.length = 21 then .ok ⟨out.toArray, sized⟩
            else .error (.wrongLength out.length)

inductive DecodeError where
  /-- `bech32 missing separator in {s:?}`. -/
  | missingSeparator (text : List Char)
  /-- `bech32 bad char {:?}`. -/
  | badChar (byte : UInt8)
  /-- `bech32 data too short`. -/
  | tooShort
deriving DecidableEq

/-- The human-readable part and the bytes. -/
def bech32Decode (toLowercase : String → String) (text : String) :
    Except DecodeError (String × List UInt8) :=
  match Utf8.rsplit '1' (Utf8.trim text.toList) with
  | none => .error (.missingSeparator (Utf8.trim text.toList))
  | some (hrp, data) =>
      match readSymbols DecodeError.badChar toAsciiLowercase (Utf8.bytesOf data) with
      | .error error => .error error
      | .ok vals =>
          if vals.length < 6 then .error .tooShort
          else
            let out := ((vals.take (vals.length - 6)).foldl Accumulator.pushOnce .empty).out
            .ok (toLowercase (String.ofList hrp), out)

/-! ### One byte at most is complete -/

namespace Accumulator

theorem drain_eq_emitOnce {state : Accumulator} (few : state.bits < 16) :
    state.drain = state.emitOnce := by
  rw [drain, emitOnce]
  split
  · rw [drain, if_neg]
    change ¬8 ≤ state.bits - 8
    omega
  · rfl

theorem bits_emitOnce_lt {state : Accumulator} (few : state.bits < 16) :
    state.emitOnce.bits < 8 := by
  rw [emitOnce]
  split
  · change state.bits - 8 < 8
    omega
  · omega

theorem foldl_pushDraining (symbols : List Nat) {state : Accumulator} (few : state.bits < 8) :
    symbols.foldl pushDraining state = symbols.foldl pushOnce state := by
  induction symbols generalizing state with
  | nil => rfl
  | cons symbol rest inductionHypothesis =>
      have shifted : (state.shift symbol).bits < 16 := by
        change state.bits + 5 < 16
        omega
      rw [List.foldl_cons, List.foldl_cons, pushDraining, drain_eq_emitOnce shifted]
      exact inductionHypothesis (bits_emitOnce_lt shifted)

end Accumulator

/-! ### What the accumulator stands for -/

/-- What the symbols read so far have become. -/
structure Regrouped (symbols : List Nat) (state : Accumulator) : Prop where
  holds : BitRegroup.Holds 8 (BitRegroup.value 5 symbols) state.acc state.bits
    (state.out.map UInt8.toNat)
  few : state.bits < 8
  count : 8 * state.out.length + state.bits = 5 * symbols.length

namespace Regrouped

variable {symbols : List Nat} {state : Accumulator}

theorem empty : Regrouped [] .empty where
  holds := BitRegroup.Holds.initial 8 32
  few := by decide
  count := rfl

theorem holds_shift (before : Regrouped symbols state) {symbol : Nat} (small : symbol < 2 ^ 5) :
    BitRegroup.Holds 8 (BitRegroup.value 5 (symbols ++ [symbol])) (state.shift symbol).acc
      (state.shift symbol).bits ((state.shift symbol).out.map UInt8.toNat) := by
  have kept : (BitVec.ofNat 32 symbol).toNat = symbol := by
    rw [BitVec.toNat_ofNat]
    omega
  have shifted := before.holds.shift (kept.symm ▸ small) (by decide)
  rw [kept] at shifted
  rw [BitRegroup.value_concat]
  exact shifted

theorem map_out_emit (state : Accumulator) :
    state.emit.out.map UInt8.toNat =
      state.out.map UInt8.toNat ++ [(state.acc >>> (state.bits - 8)).toNat % 2 ^ 8] := by
  rw [Accumulator.emit, List.map_append, List.map_singleton, UInt8.toNat_ofBitVec,
    BitVec.toNat_setWidth]

theorem step (before : Regrouped symbols state) {symbol : Nat} (small : symbol < 2 ^ 5) :
    Regrouped (symbols ++ [symbol]) (state.pushOnce symbol) := by
  have shifted := before.holds_shift small
  have few := before.few
  have count := before.count
  have length : (symbols ++ [symbol]).length = symbols.length + 1 := List.length_append
  have bits : (state.shift symbol).bits = state.bits + 5 := rfl
  have out : (state.shift symbol).out = state.out := rfl
  rw [Accumulator.pushOnce, Accumulator.emitOnce]
  split
  · rename_i complete
    refine ⟨?_, ?_, ?_⟩
    · rw [map_out_emit]
      exact shifted.take complete (by omega)
    · change (state.shift symbol).bits - 8 < 8
      omega
    · change 8 * (state.out ++ [_]).length + ((state.shift symbol).bits - 8) = _
      rw [List.length_append, List.length_singleton, length]
      omega
  · refine ⟨shifted, by omega, ?_⟩
    rw [out, length]
    omega

/-- **The loop regroups its symbols**, however many there are. -/
theorem foldl (symbols : List Nat) (small : ∀ symbol ∈ symbols, symbol < 2 ^ 5) :
    Regrouped symbols (symbols.foldl Accumulator.pushOnce .empty) := by
  induction symbols using List.reverseRecOn with
  | nil => exact empty
  | append_singleton before last inductionHypothesis =>
      rw [List.foldl_append]
      have regrouped := inductionHypothesis fun symbol member =>
        small symbol (List.mem_append_left _ member)
      exact regrouped.step (small last (List.mem_append_right _ (List.mem_singleton.2 rfl)))

end Regrouped

/-! ### What is accepted -/

/-- The bytes of symbols that end in a checksum. -/
def payloadOf (vals : List Nat) : List UInt8 :=
  ((vals.take (vals.length - 6)).foldl Accumulator.pushOnce .empty).out

theorem bech32To21_eq_ok {text : String} {payload : Vector UInt8 21} :
    bech32To21 text = .ok payload ↔
      ∃ hrp data vals, Utf8.rsplit '1' (Utf8.trim text.toList) = some (hrp, data) ∧
        readSymbols (fun _ => To21Error.badChar) id (Utf8.bytesOf data) = .ok vals ∧
        ¬vals.length < 6 ∧ payloadOf vals = payload.toList := by
  have few : Accumulator.empty.bits < 8 := by decide
  unfold bech32To21
  constructor
  · intro decoded
    split at decoded
    · cases decoded
    · rename_i hrp data cut
      split at decoded
      · cases decoded
      · rename_i vals read
        split at decoded
        · cases decoded
        · rename_i long
          dsimp only at decoded
          split at decoded
          · cases decoded
            refine ⟨hrp, data, vals, cut, read, long, ?_⟩
            rw [payloadOf, ← Accumulator.foldl_pushDraining _ few]
            rfl
          · cases decoded
  · intro ⟨hrp, data, vals, cut, read, long, decoded⟩
    rw [payloadOf, ← Accumulator.foldl_pushDraining _ few] at decoded
    have sized := congrArg List.length decoded
    rw [Vector.length_toList] at sized
    rw [cut]
    dsimp only
    rw [read]
    dsimp only
    rw [if_neg long, dif_pos sized]
    exact congrArg Except.ok (Vector.toList_inj.1 decoded)

theorem toAsciiLowercase_of_mem : ∀ byte ∈ charset, toAsciiLowercase byte = byte := by
  decide +kernel

theorem toAsciiLowercase_of_found {byte : UInt8} {position : Nat}
    (found : charset.findIdx? (· == byte) = some position) : toAsciiLowercase byte = byte := by
  obtain ⟨inside, same, _⟩ := List.findIdx?_eq_some_iff_getElem.1 found
  have member : byte ∈ charset := eq_of_beq same ▸ List.getElem_mem inside
  exact toAsciiLowercase_of_mem byte member

theorem readSymbols_toAsciiLowercase {Error Other : Type} (refused : UInt8 → Error)
    (refusedOther : UInt8 → Other) {data : List UInt8} {vals : List Nat}
    (read : readSymbols refused id data = .ok vals) :
    readSymbols refusedOther toAsciiLowercase data = .ok vals := by
  induction data generalizing vals with
  | nil =>
      cases read
      rfl
  | cons byte rest inductionHypothesis =>
      rw [readSymbols] at read ⊢
      split at read
      · cases read
      · rename_i position found
        rw [id] at found
        rw [toAsciiLowercase_of_found found, found]
        cases tail : readSymbols refused id rest with
        | error error =>
            rw [tail] at read
            cases read
        | ok others =>
            rw [tail] at read
            cases read
            dsimp only
            rw [inductionHypothesis tail]
            rfl

theorem bech32Decode_of_bech32To21 (toLowercase : String → String) {text : String}
    {payload : Vector UInt8 21} (decoded : bech32To21 text = .ok payload) :
    (bech32Decode toLowercase text).map Prod.snd = .ok payload.toList := by
  obtain ⟨hrp, data, vals, cut, read, long, same⟩ := bech32To21_eq_ok.1 decoded
  unfold bech32Decode
  rw [cut]
  dsimp only
  rw [readSymbols_toAsciiLowercase _ DecodeError.badChar read]
  dsimp only
  rw [if_neg long, ← same]
  rfl

/-! ### Encoded payloads -/

/-- The payload in 34 symbols; the last one has two bits of padding. -/
def symbolsOf (payload : Vector UInt8 21) : List Nat :=
  BitRegroup.groupsOf 5 34 (BitRegroup.value 8 (payload.toList.map UInt8.toNat) * 2 ^ 2)

def symbolChar (symbol : Nat) : Char :=
  "qpzry9x8gf2tvdw0s3jn54khce6mua7l".toList.getD symbol 'q'

/-- The symbols of a name. -/
def dataOf (payload : Vector UInt8 21) (checksum : Vector (Fin 32) 6) : List Nat :=
  symbolsOf payload ++ checksum.toList.map Fin.val

/-- A name for a payload, with any symbols for a checksum. -/
def bech32Text (hrp : String) (payload : Vector UInt8 21) (checksum : Vector (Fin 32) 6) : String :=
  String.ofList (hrp.toList ++ '1' :: (dataOf payload checksum).map symbolChar)

/-- What is written for a symbol is a byte that is read as the symbol, and it is neither white
space nor the separator. -/
theorem symbolChar_spec : ∀ symbol < 32,
    String.utf8EncodeChar (symbolChar symbol) = [charset.getD symbol 0] ∧
      charset.findIdx? (· == charset.getD symbol 0) = some symbol ∧
      Utf8.isWhitespace (symbolChar symbol) = false ∧ symbolChar symbol ≠ '1' := by
  decide +kernel

theorem readSymbols_symbolChar {Error : Type} (refused : UInt8 → Error) {symbols : List Nat}
    (small : ∀ symbol ∈ symbols, symbol < 32) :
    readSymbols refused id (Utf8.bytesOf (symbols.map symbolChar)) = .ok symbols := by
  induction symbols with
  | nil => rfl
  | cons symbol rest inductionHypothesis =>
      obtain ⟨written, found, _⟩ := symbolChar_spec symbol (small symbol (List.mem_cons_self ..))
      rw [List.map_cons, Utf8.bytesOf_cons, written, List.singleton_append, readSymbols, id, found]
      dsimp only
      rw [inductionHypothesis fun other member => small other (List.mem_cons_of_mem _ member)]
      rfl

theorem lt_of_mem_symbolsOf {payload : Vector UInt8 21} {symbol : Nat}
    (member : symbol ∈ symbolsOf payload) : symbol < 2 ^ 5 :=
  BitRegroup.lt_of_mem_groupsOf member

theorem toNat_lt_of_mem_map {bytes : List UInt8} {group : Nat}
    (member : group ∈ bytes.map UInt8.toNat) : group < 2 ^ 8 := by
  obtain ⟨byte, _, rfl⟩ := List.mem_map.1 member
  exact byte.toNat_lt

theorem value_symbolsOf (payload : Vector UInt8 21) :
    BitRegroup.value 5 (symbolsOf payload) =
      BitRegroup.value 8 (payload.toList.map UInt8.toNat) * 2 ^ 2 := by
  have length : (payload.toList.map UInt8.toNat).length = 21 := by
    rw [List.length_map, Vector.length_toList]
  have fits : BitRegroup.value 8 (payload.toList.map UInt8.toNat) <
      2 ^ (8 * (payload.toList.map UInt8.toNat).length) :=
    BitRegroup.value_lt (by decide) fun _ => toNat_lt_of_mem_map
  rw [length] at fits
  exact BitRegroup.value_groupsOf (Nat.mul_lt_mul_of_pos_right fits (by decide))

/-- **The loop gives back the payload** that was regrouped. -/
theorem out_symbolsOf (payload : Vector UInt8 21) :
    ((symbolsOf payload).foldl Accumulator.pushOnce .empty).out = payload.toList := by
  have regrouped := Regrouped.foldl (symbolsOf payload) fun _ => lt_of_mem_symbolsOf
  have few := regrouped.few
  have count := regrouped.count
  rw [symbolsOf, BitRegroup.length_groupsOf, ← symbolsOf] at count
  -- 34 symbols are 170 bits: 21 bytes and the two bits of the padding.
  have length : ((symbolsOf payload).foldl Accumulator.pushOnce .empty).out.length = 21 := by omega
  have bits : ((symbolsOf payload).foldl Accumulator.pushOnce .empty).bits = 2 := by omega
  have padded : BitRegroup.value 5 (symbolsOf payload) =
      BitRegroup.value 8 (payload.toList.map UInt8.toNat) *
        2 ^ ((symbolsOf payload).foldl Accumulator.pushOnce .empty).bits + 0 := by
    rw [bits, Nat.add_zero, value_symbolsOf]
  have same := regrouped.holds.groups_eq (by decide)
    (by rw [List.length_map, List.length_map, length, Vector.length_toList])
    (fun _ => toNat_lt_of_mem_map) (fun _ => toNat_lt_of_mem_map) padded (Nat.two_pow_pos _)
  exact List.map_injective_iff.2 (fun _ _ => UInt8.toNat_inj.1) same

section Text

variable (hrp : String) (payload : Vector UInt8 21) (checksum : Vector (Fin 32) 6)

theorem length_dataOf : (dataOf payload checksum).length = 40 := by
  rw [dataOf, List.length_append, symbolsOf, BitRegroup.length_groupsOf, List.length_map,
    Vector.length_toList]

theorem payloadOf_dataOf : payloadOf (dataOf payload checksum) = payload.toList := by
  have payloadLength : (symbolsOf payload).length = 34 := BitRegroup.length_groupsOf ..
  rw [payloadOf, length_dataOf, dataOf, List.take_left' payloadLength, out_symbolsOf]

variable {payload checksum} in
theorem lt_of_mem_dataOf {symbol : Nat} (member : symbol ∈ dataOf payload checksum) :
    symbol < 32 := by
  rcases List.mem_append.1 member with inPayload | inChecksum
  · exact lt_of_mem_symbolsOf inPayload
  · obtain ⟨last, _, rfl⟩ := List.mem_map.1 inChecksum
    exact last.isLt

theorem rsplit_bech32Text :
    Utf8.rsplit '1' (Utf8.trim (bech32Text hrp payload checksum).toList) =
      some (hrp.toList.dropWhile Utf8.isWhitespace, (dataOf payload checksum).map symbolChar) := by
  have black : ∀ char ∈ '1' :: (dataOf payload checksum).map symbolChar,
      Utf8.isWhitespace char = false := by
    intro char member
    rcases List.mem_cons.1 member with rfl | member
    · decide
    · obtain ⟨symbol, inData, rfl⟩ := List.mem_map.1 member
      exact (symbolChar_spec symbol (lt_of_mem_dataOf inData)).2.2.1
  have absent : '1' ∉ (dataOf payload checksum).map symbolChar := by
    intro member
    obtain ⟨symbol, inData, same⟩ := List.mem_map.1 member
    exact (symbolChar_spec symbol (lt_of_mem_dataOf inData)).2.2.2 same
  rw [bech32Text, String.toList_ofList, Utf8.trim_append _ _ _ black]
  exact Utf8.rsplit_append _ absent

theorem bech32To21_bech32Text :
    bech32To21 (bech32Text hrp payload checksum) = .ok payload := by
  refine bech32To21_eq_ok.2 ⟨_, _, dataOf payload checksum, rsplit_bech32Text hrp payload checksum,
    readSymbols_symbolChar _ fun _ => lt_of_mem_dataOf, ?_, payloadOf_dataOf payload checksum⟩
  rw [length_dataOf]
  decide

end Text

/-- **Both decoders give back a payload** that was written with any human-readable part and any
checksum, and what the first accepts the second decodes to the same bytes. -/
theorem bech32_decoders_agree (toLowercase : String → String) :
    (∀ (hrp : String) (payload : Vector UInt8 21) (checksum : Vector (Fin 32) 6),
      bech32To21 (bech32Text hrp payload checksum) = .ok payload ∧
        (bech32Decode toLowercase (bech32Text hrp payload checksum)).map Prod.snd =
          .ok payload.toList) ∧
      ∀ (text : String) (payload : Vector UInt8 21), bech32To21 text = .ok payload →
        (bech32Decode toLowercase text).map Prod.snd = .ok payload.toList := by
  refine ⟨fun hrp payload checksum => ?_, fun _ _ => bech32Decode_of_bech32To21 toLowercase⟩
  have decoded := bech32To21_bech32Text hrp payload checksum
  exact ⟨decoded, bech32Decode_of_bech32To21 toLowercase decoded⟩

/-- A name from the tests of the source. -/
example :
    bech32To21 "oasis1qq3zu7td2w972zn2m2eyvlseq0fj8t32uc0j9nw7" = .ok
      #v[0x00, 0x22, 0x2e, 0x79, 0x6d, 0x53, 0x8b, 0xe5, 0x0a, 0x6a, 0xda, 0xb2, 0x46, 0x7e, 0x19,
        0x03, 0xd3, 0x23, 0xae, 0x2a, 0xe6] := by
  decide +kernel

end CrFaucet.Instances
