import CrFaucet.Interaction.Transcript
import CrFaucet.Issuance.FeeSwap

/-!
Owns the voucher of the fee swap between its signature and its claim: which triple a
tick has signed, and which triple it submits with that signature.

`sign_voucher` reads the clock for itself, and the claim is built from another
reading. Everything here is about transcripts of `tick`, so it holds for every pattern
of replies and every sequence of clock readings.
-/

set_option autoImplicit false

namespace CrFaucet.Issuance

open Interaction
open Token (Address Ecdsa Voucher)

variable {Signature : Type}

/-- The exchanges that end with the claim's clock reading: a reading, the signature of
a voucher, and another reading. -/
def SignedBefore (before : List (Exchange (Command Signature) Reply)) (sig : Signature)
    (signed : Voucher) (signedAt claimedAt : Nat) : Prop :=
  [⟨.now, signedAt⟩, ⟨.sign signed, some sig⟩, ⟨.now, claimedAt⟩] <:+ before

theorem SignedBefore.unique {before : List (Exchange (Command Signature) Reply)}
    {sig sig' : Signature} {signed signed' : Voucher} {signedAt signedAt' claimedAt claimedAt' : Nat}
    (one : SignedBefore before sig signed signedAt claimedAt)
    (other : SignedBefore before sig' signed' signedAt' claimedAt') :
    signed = signed' ∧ signedAt = signedAt' ∧ claimedAt = claimedAt' := by
  obtain ⟨earlier, rfl⟩ := one
  obtain ⟨earlier', same⟩ := other
  obtain ⟨_, same⟩ := List.append_inj' same rfl
  cases same
  exact ⟨rfl, rfl, rfl⟩

/-- A claim is submitted with a signature just made, for a voucher that differs from
it in the time at most. -/
def ClaimsSigned (feeSwapper : Address) (before : List (Exchange (Command Signature) Reply))
    (command : Command Signature) : Prop :=
  ∀ voucher sig, command = .submitClaim voucher sig →
    ∃ cumulativeAmount signedAt claimedAt,
      SignedBefore before sig ⟨feeSwapper, cumulativeAmount, signedAt⟩ signedAt claimedAt ∧
        voucher = ⟨feeSwapper, cumulativeAmount, claimedAt⟩

namespace FeeSwapTask

variable (task : FeeSwapTask) (stage : List (Exchange (Command Signature) Reply))

theorem mintAndSell_claims (prev delta minOut : Nat) :
    (task.mintAndSell prev delta minOut).Obeys
      (Discipline.history (ClaimsSigned task.feeSwapper)) stage fun _ _ => True := by
  refine obeys_call (by rintro _ _ ⟨⟩) ?_
  intro signedAt
  refine obeys_call (by rintro _ _ ⟨⟩) ?_
  intro signature
  cases signature with
  | none => trivial
  | some sig =>
      refine obeys_call (by rintro _ _ ⟨⟩) ?_
      intro claimedAt
      refine obeys_call ?_ ?_
      · rintro _ _ ⟨⟩
        refine ⟨_, signedAt, claimedAt, ⟨stage, ?_⟩, rfl⟩
        simp [Discipline.history]
      · intro claimed
        cases claimed with
        | none => trivial
        | some _ =>
            refine obeys_call (by rintro _ _ ⟨⟩) ?_
            intro time
            refine obeys_call (by rintro _ _ ⟨⟩) ?_
            intro swapped
            cases swapped with
            | none => trivial
            | some _ => trivial

theorem tick_claims :
    (task.tick).Obeys
      (Discipline.history (ClaimsSigned task.feeSwapper)) stage fun _ _ => True := by
  apply (Reads.of_permits ?_).tick trivial
  · intro _ stage prev delta minOut _ _
    exact task.mintAndSell_claims stage prev delta minOut
  · rintro _ _ _ read _ _ rfl
    cases read

end FeeSwapTask

/-- `claim` gets as far as the signature and recovers another account. -/
def BadVoucherSig (ecdsa : Ecdsa Signature) (token : Token.State) (voucher : Voucher)
    (sig : Signature) : Prop :=
  token.claimed voucher.user < voucher.cumulativeAmount ∧
    ∃ recovered, ecdsa.voucher voucher sig = some recovered ∧ recovered ≠ token.authorizedSigner

/-- **The fee voucher submitted is the one signed exactly when both clock readings are
the same second.** Then the contract recovers the account that signed. -/
theorem fee_voucher_matches_iff {task : FeeSwapTask}
    {before after : List (Exchange (Command Signature) Reply)} {voucher : Voucher}
    {sig : Signature} {reply : Option Unit}
    (transcript : (task.tick).Transcript (before ++ ⟨.submitClaim voucher sig, reply⟩ :: after)) :
    (∃ signed signedAt claimedAt, SignedBefore before sig signed signedAt claimedAt) ∧
    ∀ signed signedAt claimedAt, SignedBefore before sig signed signedAt claimedAt →
      ((voucher = signed ∧ ∀ (ecdsa : Ecdsa Signature) (token : Token.State),
          ecdsa.voucher signed sig = some token.authorizedSigner →
            ¬ BadVoucherSig ecdsa token voucher sig) ↔
        signedAt = claimedAt) := by
  obtain ⟨cumulativeAmount, signedAt, claimedAt, signedBefore, rfl⟩ :=
    (task.tick_claims []).of_history transcript voucher sig rfl
  refine ⟨⟨_, signedAt, claimedAt, signedBefore⟩, ?_⟩
  intro signed signedAt' claimedAt' signedBefore'
  obtain ⟨rfl, rfl, rfl⟩ := signedBefore.unique signedBefore'
  constructor
  · rintro ⟨same, _⟩
    exact (Voucher.mk.inj same).2.2.symm
  · rintro rfl
    refine ⟨rfl, ?_⟩
    rintro ecdsa token recovers ⟨_, recovered, actually, other⟩
    rw [recovers, Option.some.injEq] at actually
    exact other actually.symm

/-! A tick that mints a fee of 100, with signatures that name the voucher they are for
and recover some other account for any other. -/

def sampleTask : FeeSwapTask where
  feeSwapper := 3
  cfg := {
    rentFloorWei := some 10, minSwapAtomic := 1, maxSwapAtomic := 1000, slippageBps := 100
    minSwapGasMultiple := 1 }
  mintableFee := fun _ _ _ => 0

def sampleEcdsa : Ecdsa Voucher where
  voucher := fun voucher sig => if voucher = sig then some 7 else some 8
  permit := fun _ _ => none

def sampleToken : Token.State := Token.deployed 1 7 0

/-- The tick up to the claim, given the two clock readings around the signature. -/
def sampleTickBefore (signedAt claimedAt : Nat) : List (Exchange (Command Voucher) Reply) :=
  [⟨.reservoirBalance, some 0⟩, ⟨.claimed 3, some 0⟩, ⟨.feeAccrued, some ⟨100, by decide⟩⟩,
    ⟨.treasurySnapshot, some none⟩, ⟨.quoteRoseOut 100, some (10 ^ 9)⟩, ⟨.gasPrice, some 1⟩] ++
  [⟨.now, signedAt⟩, ⟨.sign ⟨3, 100, signedAt⟩, some ⟨3, 100, signedAt⟩⟩, ⟨.now, claimedAt⟩]

theorem fee_voucher_matches_same_second :
    (sampleTask.tick).Transcript
        (sampleTickBefore 50 50 ++ [⟨.submitClaim ⟨3, 100, 50⟩ ⟨3, 100, 50⟩, some ()⟩]) ∧
      ¬ BadVoucherSig sampleEcdsa sampleToken ⟨3, 100, 50⟩ ⟨3, 100, 50⟩ := by
  have transcript : (sampleTask.tick).Transcript
      (sampleTickBefore 50 50 ++ [⟨.submitClaim ⟨3, 100, 50⟩ ⟨3, 100, 50⟩, some ()⟩]) :=
    ⟨_, .cons _ (.cons _ (.cons _ (.cons _ (.cons _ (.cons _ (.cons _ (.cons _ (.cons _
      (.cons _ (.nil _))))))))))⟩
  have signedBefore : SignedBefore (sampleTickBefore 50 50) ⟨3, 100, 50⟩ ⟨3, 100, 50⟩ 50 50 :=
    ⟨_, rfl⟩
  have sound := ((fee_voucher_matches_iff transcript).2 _ _ _ signedBefore).2 rfl
  exact ⟨transcript, sound.2 sampleEcdsa sampleToken rfl⟩

/-- A second passes between the signature and the claim. -/
theorem fee_voucher_rejected :
    (sampleTask.tick).Transcript
        (sampleTickBefore 50 51 ++ [⟨.submitClaim ⟨3, 100, 51⟩ ⟨3, 100, 50⟩, none⟩]) ∧
      SignedBefore (sampleTickBefore 50 51) ⟨3, 100, 50⟩ ⟨3, 100, 50⟩ 50 51 ∧
      sampleEcdsa.voucher ⟨3, 100, 50⟩ ⟨3, 100, 50⟩ = some sampleToken.authorizedSigner ∧
      BadVoucherSig sampleEcdsa sampleToken ⟨3, 100, 51⟩ ⟨3, 100, 50⟩ := by
  refine ⟨?_, ⟨_, rfl⟩, rfl, by decide, 8, rfl, by decide⟩
  exact ⟨_, .cons _ (.cons _ (.cons _ (.cons _ (.cons _ (.cons _ (.cons _ (.cons _ (.cons _
    (.cons _ (.nil _))))))))))⟩

end CrFaucet.Issuance
