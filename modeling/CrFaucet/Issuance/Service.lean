import CrFaucet.Issuance.World

/-!
Owns the voucher signer (`Service::state`, `issue`, `restore` and their HTTP
handlers) and the accountant's `credit`.

A guard of the source is dropped when its function returns, so every path after
`lock` ends with `unlock`. Texts of errors that come from Redis or from the signing
library are left out; so is the distinction between the ways a signature can be
malformed.
-/

set_option autoImplicit false

namespace CrFaucet.Issuance

open Token (Address Voucher)

variable {Signature : Type}

inductive ServiceError where
  | badRequest (message : String)
  | internal
deriving DecidableEq

structure VoucherOut (Signature : Type) where
  user : Address
  cumulativeAmount : Int
  marginal : Int
  signedAt : Nat
  signature : Signature
  earnedCumulative : Int
  lastVoucherCumulative : Int
  onChainClaimed : Nat

structure StateOut where
  user : Address
  earnedCumulative : Int
  lastVoucherCumulative : Int
  onChainClaimed : Nat
  availableToVoucher : Int
deriving DecidableEq

/-- `Service::state`. A failed read of `claimed` counts as 0. -/
def state (user : Address) : Service Signature (Except ServiceError StateOut) := do
  match ← send (.balanceState user) with
  | none => return .error .internal
  | some balance =>
      let claimed ← send (.claimed user)
      let claimed := (claimed : Option Nat).getD 0
      let base := max balance.lastVoucherCumulative (u256ToI64Or claimed i64Max)
      return .ok {
        user
        earnedCumulative := balance.earned
        lastVoucherCumulative := balance.lastVoucherCumulative
        onChainClaimed := claimed
        availableToVoucher := max (wrapI64 (balance.earned - base)) 0 }

/-- `issue` from the recorded decision on: sign and answer. -/
def signDecision (user : Address) (balance : BalanceState) (claimed : Nat)
    (decision : VoucherDecision) : Service Signature (Except ServiceError (VoucherOut Signature)) := do
  match ← send (.setLastVoucher user decision.newCumulative) with
  | none => return .error .internal
  | some _ =>
      let signedAt ← send .now
      match ← send (.sign ⟨user, asU64 decision.newCumulative, signedAt⟩) with
      | none => return .error .internal
      | some signature =>
          return .ok {
            user
            cumulativeAmount := decision.newCumulative
            marginal := decision.marginal
            signedAt
            signature
            earnedCumulative := balance.earned
            lastVoucherCumulative := decision.newCumulative
            onChainClaimed := claimed }

/-- `issue` while it holds the lock. -/
def issueLocked (user : Address) (amount : Option Int) :
    Service Signature (Except ServiceError (VoucherOut Signature)) := do
  match ← send (.balanceState user) with
  | none => return .error .internal
  | some balance =>
      let claimed ← send (.claimed user)
      let claimed := (claimed : Option Nat).getD 0
      let inputs : VoucherInputs := {
        earnedCumulative := balance.earned
        lastVoucherCumulative := balance.lastVoucherCumulative
        onChainClaimed := u256ToI64Or claimed i64Max
        requestedAmount := amount }
      match inputs.decide with
      | .error error => return .error (.badRequest error.message)
      | .ok decision => signDecision user balance claimed decision

/-- `Service::issue`. -/
def issue (user : Address) (amount : Option Int) :
    Service Signature (Except ServiceError (VoucherOut Signature)) := do
  let _ ← send (.lock user)
  let result ← issueLocked user amount
  let _ ← send (.unlock user)
  return result

/-- `restore` while it holds the lock. -/
def restoreLocked (user : Address) (cumulativeAmount : Int) :
    Service Signature (Except ServiceError StateOut) := do
  match ← send (.restoreCumulative user cumulativeAmount) with
  | none => return .error .internal
  | some _ => state user

/-- `Service::restore`; `signer` is the address of the enclave's key. -/
def restore (signer user : Address) (cumulativeAmount : Int) (signedAt : Nat) (sig : Signature) :
    Service Signature (Except ServiceError StateOut) := do
  if cumulativeAmount ≤ 0 then
    return .error (.badRequest "cumulative_amount must be positive")
  else do
    match ← send (.recover ⟨user, asU64 cumulativeAmount, signedAt⟩ sig) with
    | none => return .error (.badRequest "cannot recover signer")
    | some recovered =>
        if recovered ≠ signer then
          return .error (.badRequest "voucher not signed by this pool's signer")
        else do
          let _ ← send (.lock user)
          let result ← restoreLocked user cumulativeAmount
          let _ ← send (.unlock user)
          return result

/-- `http_restore`: the amount is parsed as an `i64`. -/
def httpRestore (signer user : Address) (cumulativeAmount : Int) (signedAt : Nat)
    (sig : Signature) : Service Signature (Except ServiceError StateOut) :=
  if IsI64 cumulativeAmount then restore signer user cumulativeAmount signedAt sig
  else return .error (.badRequest "bad cumulative_amount")

/-- `accountant::credit`; `none` is an error. -/
def credit (miner : Address) (difficulty : Nat) : Service Signature (Option Int) := do
  let credit ← send (.credit difficulty)
  let credit : Int := credit
  if credit < 0 then return some 0
  else if credit = 0 then return some 0
  else do
    match ← send (.addEarned miner credit) with
    | none => return none
    | some _ =>
        let fee ← send (.fee difficulty)
        let fee : Int := fee
        if 0 < fee then do
          match ← send (.addFeeAccrued fee) with
          | none => return none
          | some _ => return some credit
        else return some credit

end CrFaucet.Issuance
