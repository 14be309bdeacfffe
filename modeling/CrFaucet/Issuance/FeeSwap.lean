import CrFaucet.Issuance.World

/-!
Owns `FeeSwapTask::tick`: when the rent reservoir runs low, sign a voucher for the
fees accrued but not yet minted, claim it, and sell the tokens.

The reserve cap is computed in floating point and is kept as a parameter of the
task.
-/

set_option autoImplicit false

namespace CrFaucet.Issuance

open Redemption (TreasurySnapshot satMul u128Max)
open Token (Address Voucher uint256)

variable {Signature : Type}

structure FeeSwapConfig where
  /-- `none` does not parse. -/
  rentFloorWei : Option Nat
  minSwapAtomic : Nat
  maxSwapAtomic : Nat
  slippageBps : Nat
  minSwapGasMultiple : Nat

structure FeeSwapTask where
  feeSwapper : Address
  cfg : FeeSwapConfig
  /-- `mintable_fee` of the unlocked balance, the supply and the pending total. -/
  mintableFee : Nat → Nat → Nat → Nat

/-- `n as u128`. -/
def asU128 (n : Int) : Nat := (n % 2 ^ 128).toNat

/-- `u256_to_u128`. -/
def u256ToU128 (value : Nat) : Nat := min value u128Max

def swapDeltaAtomic (accrued alreadyMinted maxSwap : Nat) (walletCap : Option Nat) : Nat :=
  if accrued ≤ alreadyMinted then 0
  else
    let delta := min (accrued - alreadyMinted) maxSwap
    match walletCap with
    | some cap => min delta cap
    | none => delta

theorem swapDeltaAtomic_le (accrued alreadyMinted maxSwap : Nat) (walletCap : Option Nat) :
    swapDeltaAtomic accrued alreadyMinted maxSwap walletCap ≤ accrued - alreadyMinted := by
  unfold swapDeltaAtomic
  split
  · omega
  · cases walletCap with
    | none => exact Nat.min_le_left _ _
    | some cap => exact (Nat.min_le_left _ _).trans (Nat.min_le_left _ _)

namespace FeeSwapTask

variable (task : FeeSwapTask)

/-- The reserve cap; a wallet that reads 0 does not cap. -/
def walletCap (snapshot : Option TreasurySnapshot) : Option Nat :=
  match snapshot with
  | none => none
  | some snap =>
      if 0 < snap.moneroUnlockedAtomic then
        some (task.mintableFee snap.moneroUnlockedAtomic snap.miningPoolTokenTotalSupply
          snap.pendingRedemptionsAtomic)
      else none

/-- `quote × (10_000 − slippage) / 10_000`, in `u128`. -/
def minOut (quote : Nat) : Nat :=
  quote * ((10000 + 2 ^ 64 - task.cfg.slippageBps) % 2 ^ 64) % 2 ^ 128 / 10000

/-- The proceeds a swap must clear. -/
def gasFloor (gasPrice : Nat) : Nat :=
  satMul (satMul gasPrice 600000) (max task.cfg.minSwapGasMultiple 1)

/-- Mint and sell. The clock is read once for the signature, once for the claim
and once for the deadline. -/
def mintAndSell (prev delta minOut : Nat) : Service Signature (Option (Option (Nat × Nat))) := do
  let newCum := (prev + delta) % uint256
  let signedAt ← send .now
  match ← send (.sign ⟨task.feeSwapper, newCum, signedAt⟩) with
  | none => return none
  | some sig =>
      let claimedAt ← send .now
      match ← send (.submitClaim ⟨task.feeSwapper, newCum, claimedAt⟩ sig) with
      | none => return none
      | some _ =>
          let time ← send .now
          let time : Nat := time
          match ← send (.swapFeeToRose delta minOut (time + 300)) with
          | none => return none
          | some _ => return some (some (delta, minOut))

/-- Whether selling `delta` is worth it. -/
def sellIfProfitable (prev delta : Nat) : Service Signature (Option (Option (Nat × Nat))) := do
  match ← send (.quoteRoseOut delta) with
  | none => return none
  | some quote =>
      if quote = 0 then return some none
      else do
        match ← send .gasPrice with
        | none => return none
        | some gasPrice =>
            if task.minOut quote < task.gasFloor gasPrice then return some none
            else task.mintAndSell prev delta (task.minOut quote)

/-- How much there is to mint. -/
def sellAccrued : Service Signature (Option (Option (Nat × Nat))) := do
  match ← send (.claimed task.feeSwapper) with
  | none => return none
  | some prev =>
      match ← send .feeAccrued with
      | none => return none
      | some accrued =>
          match ← send .treasurySnapshot with
          | none => return none
          | some snapshot =>
              let delta := swapDeltaAtomic (asU128 accrued.1) (u256ToU128 prev)
                task.cfg.maxSwapAtomic (task.walletCap snapshot)
              if delta < task.cfg.minSwapAtomic then return some none
              else task.sellIfProfitable prev delta

/-- `FeeSwapTask::tick`; `none` is an error. -/
def tick : Service Signature (Option (Option (Nat × Nat))) := do
  match ← send .reservoirBalance with
  | none => return none
  | some balance =>
      match task.cfg.rentFloorWei with
      | none => return none
      | some floor =>
          if floor ≤ balance then return some none
          else task.sellAccrued

end FeeSwapTask

/-! ### The rule for a tick

A tick reads, and then ends or mints. The reads are walked through once, here: a proof
about a tick says what its discipline knows after the replies that matter, and then
deals with `mintAndSell` alone. -/

structure TickKnown where
  prev : Option Nat := none
  accrued : Option { n : Int // IsI64 n } := none

def TickKnown.learn (known : TickKnown) : (command : Command Signature) → Reply command → TickKnown
  | .claimed _, some prev => { known with prev := some prev }
  | .feeAccrued, some accrued => { known with accrued := some accrued }
  | _, _ => known

/-- The commands before `mintAndSell`; what is learned is asked once. -/
inductive TickReads (feeSwapper : Address) (known : TickKnown) : Command Signature → Prop where
  | reservoirBalance : TickReads feeSwapper known .reservoirBalance
  | claimed (unread : known.prev = none) : TickReads feeSwapper known (.claimed feeSwapper)
  | feeAccrued (unread : known.accrued = none) : TickReads feeSwapper known .feeAccrued
  | treasurySnapshot : TickReads feeSwapper known .treasurySnapshot
  | quoteRoseOut (mptIn : Nat) : TickReads feeSwapper known (.quoteRoseOut mptIn)
  | gasPrice : TickReads feeSwapper known .gasPrice

namespace FeeSwapTask

variable {Stage : Type} (task : FeeSwapTask)

/-- The minting a tick goes for, from what it was told. -/
def Plans (known : TickKnown) (prev delta : Nat) : Prop :=
  known.prev = some prev ∧ ∃ accrued walletCap, known.accrued = some accrued ∧
    delta = swapDeltaAtomic (asU128 accrued.1) (u256ToU128 prev) task.cfg.maxSwapAtomic walletCap

/-- A discipline under which a tick may read, as far as `holds` keeps track of what it
was told, and end without minting. -/
structure Reads (discipline : Interaction.Discipline (Command Signature) Reply Stage)
    (holds : TickKnown → Stage → Prop)
    (post : Stage → Option (Option (Nat × Nat)) → Prop) : Prop where
  read : ∀ known stage command, TickReads task.feeSwapper known command → holds known stage →
    discipline.permits stage command ∧
      ∀ reply, holds (known.learn command reply) (discipline.after stage command reply)
  ends : ∀ known stage result, holds known stage → result.join = none → post stage result

variable {task} {discipline : Interaction.Discipline (Command Signature) Reply Stage}
  {holds : TickKnown → Stage → Prop} {post : Stage → Option (Option (Nat × Nat)) → Prop}
  {known : TickKnown} {stage : Stage}

theorem Reads.of_permits
    (permitted : ∀ known stage command, TickReads task.feeSwapper known command →
      discipline.permits stage command) :
    task.Reads discipline (fun _ _ => True) fun _ _ => True :=
  ⟨fun known stage command read _ => ⟨permitted known stage command read, fun _ => trivial⟩,
    fun _ _ _ _ _ => trivial⟩

theorem Reads.send (reads : task.Reads discipline holds post) {command : Command Signature}
    {next : Reply command → Service Signature (Option (Option (Nat × Nat)))}
    (read : TickReads task.feeSwapper known command) (told : holds known stage)
    (continues : ∀ reply, holds (known.learn command reply)
        (discipline.after stage command reply) →
      (next reply).Obeys discipline (discipline.after stage command reply) post) :
    (send command >>= next).Obeys discipline stage post := by
  obtain ⟨permitted, kept⟩ := reads.read known stage command read told
  exact obeys_call permitted fun reply => continues reply (kept reply)

/-- **A tick obeys** if it may read and what it mints obeys. -/
theorem Reads.tick (reads : task.Reads discipline holds post) (told : holds {} stage)
    (mints : ∀ known stage prev delta minOut, holds known stage → task.Plans known prev delta →
      (task.mintAndSell prev delta minOut).Obeys discipline stage post) :
    task.tick.Obeys discipline stage post := by
  apply reads.send .reservoirBalance told
  intro balance told
  cases balance with
  | none => exact reads.ends _ _ _ told rfl
  | some balance =>
      dsimp only
      split
      · exact reads.ends _ _ _ told rfl
      · split
        · exact reads.ends _ _ _ told rfl
        · apply reads.send (.claimed rfl) told
          intro prev told
          cases prev with
          | none => exact reads.ends _ _ _ told rfl
          | some prev =>
              apply reads.send (.feeAccrued rfl) told
              intro accrued told
              cases accrued with
              | none => exact reads.ends _ _ _ told rfl
              | some accrued =>
                  apply reads.send .treasurySnapshot told
                  intro snapshot told
                  cases snapshot with
                  | none => exact reads.ends _ _ _ told rfl
                  | some snapshot =>
                      dsimp only
                      split
                      · exact reads.ends _ _ _ told rfl
                      · apply reads.send (.quoteRoseOut _) told
                        intro quote told
                        cases quote with
                        | none => exact reads.ends _ _ _ told rfl
                        | some quote =>
                            dsimp only
                            split
                            · exact reads.ends _ _ _ told rfl
                            · apply reads.send .gasPrice told
                              intro gasPrice told
                              cases gasPrice with
                              | none => exact reads.ends _ _ _ told rfl
                              | some gasPrice =>
                                  dsimp only
                                  split
                                  · exact reads.ends _ _ _ told rfl
                                  · exact mints _ _ prev _ _ told ⟨rfl, accrued, _, rfl, rfl⟩

end FeeSwapTask

end CrFaucet.Issuance
