import CrFaucet.Issuance.FeeSwap
import CrFaucet.Issuance.Service

/-!
Owns the issuing side of the pool as one system: any number of voucher requests,
restores, share credits and fee-swap ticks side by side, against one world that
may lose its balance keys and whose contract anyone may call.
-/

set_option autoImplicit false

namespace CrFaucet.Issuance

open Interaction
open Token (Address)

/-- What a thread does. -/
inductive Role (Signature : Type) where
  | state (user : Address)
  | issue (user : Address) (amount : Option Int)
  | restore (user : Address) (cumulativeAmount : Int) (signedAt : Nat) (sig : Signature)
  | credit (miner : Address) (difficulty : Nat)
  | feeSwap

structure Deployment (Thread Signature : Type) where
  site : Site Signature
  /-- The address of the enclave's key. -/
  signer : Address
  feeSwap : FeeSwapConfig
  mintableFee : Nat → Nat → Nat → Nat
  role : Thread → Role Signature

namespace Deployment

variable {Thread Signature : Type} (deployment : Deployment Thread Signature)

def task : FeeSwapTask where
  feeSwapper := deployment.site.feeSwapper
  cfg := deployment.feeSwap
  mintableFee := deployment.mintableFee

def program (thread : Thread) : Service Signature Unit :=
  match deployment.role thread with
  | .state user => do
      let _ ← state user
      return ()
  | .issue user amount => do
      let _ ← issue user amount
      return ()
  | .restore user cumulativeAmount signedAt sig => do
      let _ ← httpRestore deployment.signer user cumulativeAmount signedAt sig
      return ()
  | .credit miner difficulty => do
      let _ ← credit miner difficulty
      return ()
  | .feeSwap => do
      let _ ← deployment.task.tick
      return ()

def machine [DecidableEq Thread] :
    Machine Thread (World Thread) (Command Signature) Reply (Answer Signature)
      (Event Signature) where
  exec := exec deployment.site
  event := World.occur deployment.site.ecdsa
  abandon := abandon
  main := deployment.program

end Deployment

end CrFaucet.Issuance
