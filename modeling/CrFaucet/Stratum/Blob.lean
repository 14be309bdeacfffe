import CrFaucet.Hex

/-!
Owns the nonce of a job blob: `assemble_blob_with_nonce` of `pool_core::stratum`, which
the verifier uses, and `stamp_worker_byte` and `nonce_high_byte` of the session, which
reserve the last byte of the nonce for one connection.

The session edits the text of the blob and the verifier its bytes. Both agree on every
blob that is hex (`decode_stamp`), where the session cannot panic either.
-/

set_option autoImplicit false

namespace CrFaucet.Stratum

open Hex Utf8

def nonceOffset : Nat := 39

def nonceLen : Nat := 4

inductive BlobError where
  | tooShort (length : Nat)
  | badHex
  | badNonceLen
deriving DecidableEq

/-- `hex::decode(..).map_err(|_| BlobError::BadHex)`. -/
def decodeOrBadHex (text : String) : Except BlobError (List UInt8) :=
  match decode text with
  | .ok bytes => .ok bytes
  | .error _ => .error .badHex

/-- `blob[offset..offset + part.len()].copy_from_slice(part)`. -/
def copyInto (blob : List UInt8) (offset : Nat) (part : List UInt8) : List UInt8 :=
  blob.take offset ++ part ++ blob.drop (offset + part.length)

def assembleBlobWithNonce (blobHex nonceHex : String) : Except BlobError (List UInt8) := do
  let blob ← decodeOrBadHex blobHex
  let nonce ← decodeOrBadHex nonceHex
  if blob.length < nonceOffset + nonceLen then throw (.tooShort blob.length)
  else if nonce.length ≠ nonceLen then throw .badNonceLen
  else return copyInto blob nonceOffset nonce

/-- The last byte of the nonce, in the text of the blob. -/
def nonceHiHex : Nat := (nonceOffset + nonceLen - 1) * 2

/-- `none` is a panic. -/
def stampWorkerByte (blobHex : String) (workerByte : UInt8) : Option String :=
  if byteLength blobHex < nonceHiHex + 2 then some blobHex
  else replaceRange blobHex nonceHiHex 2 (byteChars workerByte)

/-- `u8::from_str_radix(text, 16).ok()`: digits, at least one, after an optional plus. -/
def u8FromStrRadix16 (text : List Char) : Option UInt8 :=
  let digits := match text with
    | '+' :: rest => rest
    | all => all
  if digits = [] then none
  else do
    let value ← (bytesOf digits).foldlM (fun value byte => (digit? byte).bind fun digit =>
      if 16 * value + digit < 256 then some (16 * value + digit) else none) 0
    return UInt8.ofNat value

/-- `none` is a panic, `some none` a nonce that is not well-formed. -/
def nonceHighByte (nonceHex : String) : Option (Option UInt8) :=
  if byteLength nonceHex ≠ nonceLen * 2 then some none
  else (sliceFrom nonceHex ((nonceLen - 1) * 2)).map u8FromStrRadix16

/-! ### Bytes -/

section CopyInto

variable {blob part : List UInt8} {offset : Nat}

theorem length_copyInto (room : offset + part.length ≤ blob.length) :
    (copyInto blob offset part).length = blob.length := by
  unfold copyInto
  rw [List.length_append, List.length_append, List.length_take, List.length_drop]
  omega

theorem copyInto_read (room : offset + part.length ≤ blob.length) :
    ((copyInto blob offset part).drop offset).take part.length = part := by
  have start : (blob.take offset).length = offset := by
    rw [List.length_take]
    omega
  rw [copyInto, List.append_assoc, List.drop_left' start, List.take_left]

theorem copyInto_frame (room : offset + part.length ≤ blob.length) {index : Nat}
    (outside : index < offset ∨ offset + part.length ≤ index) :
    (copyInto blob offset part)[index]? = blob[index]? := by
  have start : (blob.take offset).length = offset := by
    rw [List.length_take]
    omega
  rw [copyInto, List.append_assoc]
  rcases outside with before | after
  · rw [List.getElem?_append_left (by omega), List.getElem?_take_of_lt before]
  · rw [List.getElem?_append_right (by omega), start, List.getElem?_append_right (by omega),
      List.getElem?_drop]
    congr 1
    omega

theorem copyInto_set (byte : UInt8) {index : Nat} (inside : offset ≤ index)
    (inside' : index < offset + part.length) :
    copyInto (blob.set index byte) offset part = copyInto blob offset part := by
  unfold copyInto
  rw [List.take_set_of_le inside, List.drop_set_of_lt inside']

end CopyInto

/-! ### Stamping -/

/-- Replacing two characters of a hex text replaces one byte. -/
theorem replaceRange_byteChars {text : String} {decoded : List UInt8} {index : Nat}
    (isHex : decode text = .ok decoded) (inside : index < decoded.length) (byte : UInt8) :
    ∃ replaced, replaceRange text (index * 2) 2 (byteChars byte) = some replaced ∧
      decode replaced = .ok (decoded.set index byte) := by
  have spells := decode_eq_ok_iff.1 isHex
  have length := spells.length
  obtain ⟨before, rest, cut, beforeBytes, restBytes⟩ :=
    splitAt_of_ascii (index * 2) spells.ascii (by
      change index * 2 ≤ (bytes text).length
      omega)
  have halves := spells.split index
  rw [Nat.mul_comm 2 index] at halves
  change bytesOf before = (bytes text).take (index * 2) at beforeBytes
  change bytesOf rest = (bytes text).drop (index * 2) at restBytes
  rw [← beforeBytes, ← restBytes] at halves
  have restLength := halves.2.length
  rw [List.length_drop] at restLength
  obtain ⟨_, after, cutRest, _, afterBytes⟩ :=
    splitAt_of_ascii 2 halves.2.ascii (by omega)
  have tail := (halves.2.split 1).2
  rw [Nat.mul_one, ← afterBytes, List.drop_drop] at tail
  refine ⟨String.ofList (before ++ byteChars byte ++ after), ?_, ?_⟩
  · rw [replaceRange, cut]
    change (splitAt 2 rest).bind _ = _
    rw [cutRest]
    rfl
  · rw [decode_eq_ok_iff, bytes_ofList, bytesOf_append, bytesOf_append,
      List.set_eq_take_append_cons_drop, if_pos inside]
    have joined := (halves.1.append (byteChars_spells byte)).append tail
    rw [List.append_assoc (List.take index decoded)] at joined
    exact joined

/-- **A stamp changes the last byte of the nonce and nothing else**, and nothing at all
in a blob too short for a nonce. -/
theorem decode_stamp {blobHex : String} {blob : List UInt8} (isHex : decode blobHex = .ok blob)
    (workerByte : UInt8) :
    ∃ stamped, stampWorkerByte blobHex workerByte = some stamped ∧
      decode stamped = .ok (blob.set (nonceOffset + nonceLen - 1) workerByte) ∧
      (blob.length < nonceOffset + nonceLen → stamped = blobHex) := by
  have length := length_of_decode isHex
  unfold stampWorkerByte
  by_cases short : blob.length < nonceOffset + nonceLen
  · have shortText : byteLength blobHex < nonceHiHex + 2 := by
      simp only [nonceHiHex, nonceOffset, nonceLen] at short ⊢
      omega
    refine ⟨blobHex, if_pos shortText, ?_, fun _ => rfl⟩
    rw [isHex, List.set_eq_of_length_le]
    simp only [nonceOffset, nonceLen] at short ⊢
    omega
  · have longText : ¬ byteLength blobHex < nonceHiHex + 2 := by
      simp only [nonceHiHex, nonceOffset, nonceLen] at short ⊢
      omega
    have inside : nonceOffset + nonceLen - 1 < blob.length := by
      simp only [nonceOffset, nonceLen] at short ⊢
      omega
    obtain ⟨stamped, replaced, decoded⟩ := replaceRange_byteChars isHex inside workerByte
    exact ⟨stamped, (if_neg longText).trans replaced, decoded, fun isShort => absurd isShort short⟩

/-! ### Assembling -/

section Assemble

variable {blobHex nonceHex : String} {blob nonce : List UInt8}

theorem assemble_eq (blobIsHex : decode blobHex = .ok blob)
    (nonceIsHex : decode nonceHex = .ok nonce) :
    assembleBlobWithNonce blobHex nonceHex =
      if blob.length < nonceOffset + nonceLen then .error (.tooShort blob.length)
      else if nonce.length ≠ nonceLen then .error .badNonceLen
      else .ok (copyInto blob nonceOffset nonce) := by
  unfold assembleBlobWithNonce decodeOrBadHex
  rw [blobIsHex, nonceIsHex]
  rfl

end Assemble

/-- **What the miner hashes is what the pool verifies.** A stamp replaces the last byte of
the nonce, if there is one, and every nonce assembles to the same bytes with and without
it; what is assembled has the nonce in its place and is otherwise the blob. -/
theorem stamped_blob_assembles_same {blobHex nonceHex : String} {blob nonce : List UInt8}
    (blobIsHex : decode blobHex = .ok blob) (nonceIsHex : decode nonceHex = .ok nonce)
    (four : nonce.length = nonceLen) (workerByte : UInt8) :
    ∃ stamped, stampWorkerByte blobHex workerByte = some stamped ∧
      decode stamped = .ok (blob.set (nonceOffset + nonceLen - 1) workerByte) ∧
      (blob.length < nonceOffset + nonceLen → stamped = blobHex) ∧
      assembleBlobWithNonce stamped nonceHex = assembleBlobWithNonce blobHex nonceHex ∧
      (blob.length < nonceOffset + nonceLen →
        assembleBlobWithNonce blobHex nonceHex = .error (.tooShort blob.length)) ∧
      (nonceOffset + nonceLen ≤ blob.length → ∃ assembled,
        assembleBlobWithNonce blobHex nonceHex = .ok assembled ∧
        assembled.length = blob.length ∧
        (assembled.drop nonceOffset).take nonceLen = nonce ∧
        ∀ index, index < nonceOffset ∨ nonceOffset + nonceLen ≤ index →
          assembled[index]? = blob[index]?) := by
  obtain ⟨stamped, stamps, decoded, untouched⟩ := decode_stamp blobIsHex workerByte
  have assembled := assemble_eq blobIsHex nonceIsHex
  refine ⟨stamped, stamps, decoded, untouched, ?_, ?_, ?_⟩
  · rw [assemble_eq decoded nonceIsHex, assembled, List.length_set, copyInto_set]
    · decide
    · rw [four]
      decide
  · intro short
    rw [assembled, if_pos short]
  · intro long
    refine ⟨copyInto blob nonceOffset nonce, ?_, ?_, ?_, ?_⟩
    · rw [assembled, if_neg (Nat.not_lt.2 long), if_neg (not_not_intro four)]
    · exact length_copyInto (four.symm ▸ long)
    · rw [← four]
      exact copyInto_read (four.symm ▸ long)
    · intro index outside
      exact copyInto_frame (four.symm ▸ long) (four.symm ▸ outside)

/-- A blob of 43 bytes, the shortest with a nonce. -/
theorem stamped_blob_assembles_same_shortest :
    stampWorkerByte (encode (List.replicate 43 7)) 0xab =
        some (encode (List.replicate 42 7 ++ [0xab])) ∧
      assembleBlobWithNonce (encode (List.replicate 42 7 ++ [0xab])) "deadbeef" =
        assembleBlobWithNonce (encode (List.replicate 43 7)) "deadbeef" := by
  have stampedBlob : stampWorkerByte (encode (List.replicate 43 7)) 0xab =
      some (encode (List.replicate 42 7 ++ [0xab])) := by decide +kernel
  have nonceIsHex : decode "deadbeef" = .ok [0xde, 0xad, 0xbe, 0xef] := by decide +kernel
  obtain ⟨stamped, stamps, _, _, same, _⟩ := stamped_blob_assembles_same
    (decode_encode (List.replicate 43 7)) nonceIsHex rfl 0xab
  rw [stampedBlob] at stamps
  cases stamps
  exact ⟨stampedBlob, same⟩

end CrFaucet.Stratum
