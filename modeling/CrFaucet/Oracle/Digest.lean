import Mathlib.Data.List.Flatten
import CrFaucet.Hex
import CrFaucet.Utf8
import CrFaucet.Oracle.Server

/-!
Owns `report_digest` of `crossroads_oracle`: the bytes that are hashed and signed for a report.

Fourteen words of 32 bytes are joined. Every word is a fixed field at a fixed place, and no field is
cut, so the bytes say which chain, which oracle and which report they are for. A signature that
validates for two of them has found a collision of the hash.

Does not own Keccak, which is any function here, or ECDSA, of which only `SignatureScheme.binds` is
used.
-/

set_option autoImplicit false

namespace CrFaucet.Oracle

open Token (Address)

structure Signed where
  sapphireChainId : UInt64
  oracle : Address
  report : BlockHashReport
deriving DecidableEq

/-! ### Words -/

def beBytes (width value : Nat) : List UInt8 := (Hex.toLe width value).reverse

/-- `U256::from(v).to_be_bytes::<32>()`. -/
def w (value : UInt64) : List UInt8 := beBytes 32 value.toNat

def hashWord (hash : B256) : List UInt8 := beBytes 32 hash.toNat

def addressWord (address : Address) : List UInt8 :=
  List.replicate 12 0 ++ beBytes 20 address.val

def boolWord (value : Bool) : List UInt8 := List.replicate 31 0 ++ [if value then 1 else 0]

/-! ### The digest -/

section Digest

variable (keccak : List UInt8 → B256)

def blockHashDomain : List UInt8 := Utf8.bytes "CROSSROADS_EVM_BLOCK_HASH_V1"

def digestWords (signed : Signed) : List (List UInt8) :=
  [hashWord (keccak blockHashDomain),
    w signed.sapphireChainId,
    addressWord signed.oracle,
    w signed.report.sourceChainId,
    w signed.report.blockNumber,
    hashWord signed.report.blockHash,
    w signed.report.requiredConfirmations,
    w signed.report.observedConfirmations,
    w signed.report.quorumTip,
    w signed.report.observedQuorum,
    boolWord signed.report.requireFinalized,
    w signed.report.finalizedBlockNumber,
    w signed.report.expiresAt,
    w signed.report.signerEpoch]

/-- `buf`. -/
def digestBuffer (signed : Signed) : List UInt8 := (digestWords keccak signed).flatten

def reportDigest (signed : Signed) : B256 := keccak (digestBuffer keccak signed)

end Digest

/-! ### Nothing is cut -/

@[simp] theorem length_beBytes (width value : Nat) : (beBytes width value).length = width := by
  rw [beBytes, List.length_reverse, Hex.length_toLe]

theorem beBytes_injective {width first second : Nat} (fits : first < 256 ^ width)
    (fits' : second < 256 ^ width) (same : beBytes width first = beBytes width second) :
    first = second :=
  Hex.toLe_injective fits fits' (List.reverse_inj.1 same)

theorem w_injective {first second : UInt64} (same : w first = w second) : first = second := by
  have fits : ∀ value : UInt64, value.toNat < 256 ^ 32 := fun value =>
    Nat.lt_trans value.toNat_lt (by decide)
  exact UInt64.toNat_inj.1 (beBytes_injective (fits first) (fits second) same)

theorem hashWord_injective {first second : B256} (same : hashWord first = hashWord second) :
    first = second :=
  BitVec.eq_of_toNat_eq (beBytes_injective first.isLt second.isLt same)

theorem addressWord_injective {first second : Address}
    (same : addressWord first = addressWord second) : first = second :=
  Fin.ext (beBytes_injective first.isLt second.isLt (List.append_cancel_left same))

theorem boolWord_injective : ∀ {first second : Bool}, boolWord first = boolWord second →
    first = second := by
  decide

section Binding

variable {keccak : List UInt8 → B256}

theorem map_length_digestWords (keccak : List UInt8 → B256) (signed : Signed) :
    (digestWords keccak signed).map List.length = List.replicate 14 32 := by
  simp only [digestWords, w, hashWord, addressWord, boolWord, List.map_cons, List.map_nil,
    List.length_append, List.length_replicate, List.length_singleton, length_beBytes]
  rfl

theorem length_digestBuffer (keccak : List UInt8 → B256) (signed : Signed) :
    (digestBuffer keccak signed).length = 448 := by
  rw [digestBuffer, List.length_flatten, map_length_digestWords, List.sum_replicate_nat]

theorem digestWords_injective {first second : Signed}
    (same : digestWords keccak first = digestWords keccak second) : first = second := by
  obtain ⟨chainId, oracle, report⟩ := first
  obtain ⟨chainId', oracle', report'⟩ := second
  simp only [digestWords, List.cons.injEq, true_and, and_true] at same
  obtain ⟨chain, address, source, number, hash, required, observed, tip, quorum, finalized,
    finalizedNumber, expires, epoch⟩ := same
  have sameReport : report = report' := by
    cases report
    cases report'
    rw [BlockHashReport.mk.injEq]
    exact ⟨w_injective source, w_injective number, hashWord_injective hash, w_injective required,
      w_injective observed, w_injective tip, w_injective quorum, boolWord_injective finalized,
      w_injective finalizedNumber, w_injective expires, w_injective epoch⟩
  rw [w_injective chain, addressWord_injective address, sameReport]

theorem digestBuffer_injective {first second : Signed}
    (same : digestBuffer keccak first = digestBuffer keccak second) : first = second := by
  refine digestWords_injective (List.eq_iff_flatten_eq.2 ⟨same, ?_⟩)
  rw [map_length_digestWords, map_length_digestWords]

end Binding

/-! ### Signatures -/

/-- A signature scheme for digests. A signature of one signer is for one digest. -/
structure SignatureScheme (Signer Signature : Type) where
  validates : Signer → B256 → Signature → Prop
  binds : ∀ signer first second signature, validates signer first signature →
    validates signer second signature → first = second

/-- The scheme whose signatures name their signer and their digest. -/
def nominalScheme (Signer : Type) : SignatureScheme Signer (Signer × B256) where
  validates signer digest signature := signature = (signer, digest)
  binds := by
    rintro signer first second signature rfl same
    exact (Prod.mk.inj same).2

/-- Two inputs with one hash. -/
def Collide (keccak : List UInt8 → B256) (first second : List UInt8) : Prop :=
  first ≠ second ∧ keccak first = keccak second

/-- **A digest binds every field.** The bytes that are hashed are those of one chain, one oracle and
one report, and a signature validates for no other unless their hashes collide. -/
theorem report_digest_binds (keccak : List UInt8 → B256) {Signer Signature : Type}
    (scheme : SignatureScheme Signer Signature) (first second : Signed) :
    (digestBuffer keccak first).length = 448 ∧
      (digestBuffer keccak first = digestBuffer keccak second → first = second) ∧
      ∀ signer signature, scheme.validates signer (reportDigest keccak first) signature →
        scheme.validates signer (reportDigest keccak second) signature →
          first = second ∨
            Collide keccak (digestBuffer keccak first) (digestBuffer keccak second) := by
  refine ⟨length_digestBuffer keccak first, digestBuffer_injective, ?_⟩
  intro signer signature valid valid'
  have sameDigest := scheme.binds signer _ _ signature valid valid'
  by_cases sameBuffer : digestBuffer keccak first = digestBuffer keccak second
  · exact Or.inl (digestBuffer_injective sameBuffer)
  · exact Or.inr ⟨sameBuffer, sameDigest⟩

/-- Adds up the bytes. -/
def checksum (bytes : List UInt8) : B256 := BitVec.ofNat 256 (bytes.map UInt8.toNat).sum

def signedFor (sapphireChainId signerEpoch : UInt64) : Signed where
  sapphireChainId
  oracle := 7
  report := {
    sourceChainId := 1, blockNumber := 100, blockHash := 0, requiredConfirmations := 12,
    observedConfirmations := 20, quorumTip := 120, observedQuorum := 2, requireFinalized := false,
    finalizedBlockNumber := 0, expiresAt := 1760000000, signerEpoch }

/-- With a checksum for a hash, the chain id and the epoch can change places. -/
theorem report_digest_binds_checksum :
    reportDigest checksum (signedFor 1 2) = reportDigest checksum (signedFor 2 1) ∧
      Collide checksum (digestBuffer checksum (signedFor 1 2))
        (digestBuffer checksum (signedFor 2 1)) := by
  have same : reportDigest checksum (signedFor 1 2) = reportDigest checksum (signedFor 2 1) := by
    decide +kernel
  refine ⟨same, ?_⟩
  have valid : (nominalScheme Unit).validates () (reportDigest checksum (signedFor 2 1))
      ((), reportDigest checksum (signedFor 1 2)) := congrArg (Prod.mk ()) same
  exact ((report_digest_binds checksum (nominalScheme Unit) (signedFor 1 2) (signedFor 2 1)).2.2 ()
    _ rfl valid).resolve_left (by decide)

end CrFaucet.Oracle
