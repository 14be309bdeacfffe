import Mathlib.Data.Fintype.Defs
import CrFaucet.Interaction.Pool
import CrFaucet.Redemption.Drain
import CrFaucet.Redemption.Poller
import CrFaucet.Treasury.Refresher

/-!
Owns the whole redemption system: any number of payout consumers, id pollers,
treasury refreshers and direct callers of the store's three redemption
functions, side by side against one world.

Every thread runs one round of its service; the pool's restart is the next
round, a crash and a reboot alike. All consumers share one configuration, and
so do all pollers.
-/

set_option autoImplicit false

namespace CrFaucet.Redemption

open Interaction
open Token (Address Ecdsa)

/-- What a thread does. -/
inductive Role where
  | payouts
  | poller
  | refresher
  | enqueue (id : RedemptionId) (evmFrom : Address) (atomicAmount : Int) (xmrAddr : String)
  | tryMark (id : RedemptionId)
  | markSent (id : RedemptionId) (txid : String)

structure Deployment (Thread Signature : Type) where
  lua : Lua
  ecdsa : Ecdsa Signature
  enclave : Address
  payouts : Payouts
  poller : EventPoller
  role : Thread → Role

variable {Thread Signature : Type}

namespace Deployment

variable (deployment : Deployment Thread Signature)

def program (thread : Thread) : Service Unit :=
  match deployment.role thread with
  | .payouts => payoutsMain deployment.payouts
  | .poller => do
      let _ ← deployment.poller.tick
      return ()
  | .refresher => do
      let _ ← Treasury.tick
      return ()
  | .enqueue id evmFrom atomicAmount xmrAddr => do
      let _ ← enqueueRedemption id evmFrom atomicAmount xmrAddr
      return ()
  | .tryMark id => do
      let _ ← send (.tryMarkInFlight id)
      return ()
  | .markSent id txid => do
      let _ ← send (.markSent id txid)
      return ()

def machine : Machine Thread World Command Reply Answer (Event Signature) where
  exec := fun _ world command answer =>
    some (exec deployment.lua deployment.enclave world command answer)
  event := World.occur deployment.ecdsa
  abandon := fun _ world => world
  main := deployment.program

theorem machine_exec {thread : Thread} {world after : World} {command : Command}
    {reply : Reply command} {answer : Answer}
    (answered : deployment.machine.exec thread world command answer = some (after, reply)) :
    after = (exec deployment.lua deployment.enclave world command answer).1 ∧
      reply = (exec deployment.lua deployment.enclave world command answer).2 := by
  have same := Option.some.inj answered
  exact ⟨(congrArg Prod.fst same).symm, (congrArg Prod.snd same).symm⟩

end Deployment

/-! ### A worked deployment -/

inductive SampleThread where
  | consumer
  | poller
  | refresher
deriving DecidableEq

instance : Fintype SampleThread where
  elems := {.consumer, .poller, .refresher}
  complete thread := by cases thread <;> decide

/-- One consumer with a marker, one poller and one refresher. -/
def sample : Deployment SampleThread Unit where
  lua := .unbounded
  ecdsa := { voucher := fun _ _ => none, permit := fun _ _ => none }
  enclave := 9
  payouts := {
    monero := { perTxCapAtomic := 10 ^ 15, maxPayoutPremiumBp := 0, confirmWaitSecs := 600 }
    marker := true }
  poller := { startBlock := 1, chunkSize := 100 }
  role
    | .consumer => .payouts
    | .poller => .poller
    | .refresher => .refresher

def sampleToken : Token.State :=
  { Token.deployed 7 9 0 with
    nextRedemptionId := 1
    redemptions := fun _ => { user := 1, amount := 10 ^ 12, xmrAddress := "4A" } }

abbrev SampleAction := Action SampleThread Answer (Event Unit)

/-- A thread takes as many steps as there are answers. -/
def steps (thread : SampleThread) (answers : List Answer) : List SampleAction :=
  answers.map (Action.step thread)

def pollOne : List SampleAction := steps .poller (List.replicate 6 {})

def refreshOne : List SampleAction :=
  steps .refresher (List.replicate 7 { balance := some (10 ^ 12, 10 ^ 12) })

/-- A drain of one entry that pays it, up to the reply of the wallet. The wallet
is at `height` and shows `history`. -/
def payOne (height : Nat) (history : WalletHistory) (reply : TransferReply) :
    List SampleAction :=
  steps .consumer (List.replicate 11
    { height := some height, history := some history, transfer := reply })

end CrFaucet.Redemption
