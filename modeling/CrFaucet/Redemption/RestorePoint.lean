import CrFaucet.Redemption.Provenance
import CrFaucet.Redemption.Trail
import CrFaucet.Token.Steps

/-!
Owns the restore point of the wallet: `oldest_unspent_height`, which a consumer reads when a payout
is confirmed and writes to the contract with the mark, the contract's `restoreHeight`, and
`bootstrap_wallet`, which restores a lost wallet from it.

A wallet that starts to scan at a height sees every unspent output if none lies below. The heights
that are safe in this sense stay safe: outputs that arrive are above the tip, and outputs that are
spent drop out. So a height may be read from the wallet, carried through a crash of another thread,
written later than others, and read back after the volume is lost.

What the wallet shows is trusted as far as it has scanned: it lists every unspent output there and
nothing above. It may still show as unspent what is spent. Marks are made by the services alone; the
key of the enclave is nowhere else.

A wallet that is generated with no height from the chain, because none was marked yet or the read
failed, starts at the lookback below the tip. Nothing makes that height safe: it misses what is
older, and every height computed from that wallet later misses it too.

Does not own the scan itself, or reorganisations of the Monero chain.
-/

set_option autoImplicit false

namespace CrFaucet.Redemption

open Interaction
open Token (Address Ecdsa Call)

/-! ### Outputs and safe heights -/

structure Output where
  height : Nat
  spent : Bool
deriving DecidableEq

/-- The wallet's outputs on the Monero chain, and its tip. -/
structure Ledger where
  outputs : List Output
  tip : Nat

namespace Ledger

/-- A block with outputs for the wallet. -/
def receive (ledger : Ledger) (count : Nat) : Ledger where
  outputs := ledger.outputs ++ List.replicate count { height := ledger.tip + 1, spent := false }
  tip := ledger.tip + 1

def spend (ledger : Ledger) (index : Nat) : Ledger :=
  { ledger with outputs := ledger.outputs.modify index fun output => { output with spent := true } }

/-- A scan from this height on sees every unspent output, those to come included. -/
structure Safe (ledger : Ledger) (height : Nat) : Prop where
  reached : height ≤ ledger.tip + 1
  below : ∀ output ∈ ledger.outputs, output.spent = false → height ≤ output.height

variable {ledger : Ledger} {height : Nat}

theorem Safe.zero (ledger : Ledger) : ledger.Safe 0 where
  reached := Nat.zero_le _
  below _ _ _ := Nat.zero_le _

theorem Safe.mono (safe : ledger.Safe height) {lower : Nat} (le : lower ≤ height) :
    ledger.Safe lower where
  reached := Nat.le_trans le safe.reached
  below output member unspent := Nat.le_trans le (safe.below output member unspent)

theorem Safe.max (safe : ledger.Safe height) {other : Nat} (otherSafe : ledger.Safe other) :
    ledger.Safe (max height other) where
  reached := Nat.max_le.2 ⟨safe.reached, otherSafe.reached⟩
  below output member unspent :=
    Nat.max_le.2 ⟨safe.below output member unspent, otherSafe.below output member unspent⟩

theorem Safe.receive (safe : ledger.Safe height) (count : Nat) :
    (ledger.receive count).Safe height where
  reached := Nat.le_succ_of_le safe.reached
  below output member unspent := by
    rcases List.mem_append.1 member with had | new
    · exact safe.below output had unspent
    · rw [List.eq_of_mem_replicate new]
      exact safe.reached

theorem Safe.spend (safe : ledger.Safe height) (index : Nat) :
    (ledger.spend index).Safe height where
  reached := safe.reached
  below output member unspent := by
    obtain ⟨position, within, rfl⟩ := List.mem_iff_getElem.1 member
    rw [Ledger.spend, List.length_modify] at within
    simp only [Ledger.spend, List.getElem_modify] at unspent ⊢
    split at unspent
    · cases unspent
    · rename_i other
      rw [if_neg other]
      exact safe.below _ (List.getElem_mem within) unspent

end Ledger

/-! ### The wallet file -/

/-- A wallet that has scanned the blocks from `restoredFrom` up to `scannedTo`, exclusively. -/
structure WalletFile where
  restoredFrom : Nat
  scannedTo : Nat
deriving DecidableEq

/-- What `incoming_transfers` may show. -/
structure WalletFile.Shows (file : WalletFile) (ledger : Ledger)
    (transfers : List (Option Bool × Option Nat)) : Prop where
  complete : ∀ output ∈ ledger.outputs, output.spent = false →
    file.restoredFrom ≤ output.height → output.height < file.scannedTo →
      (some false, some output.height) ∈ transfers
  scanned : ∀ height, (some false, some height) ∈ transfers → height < file.scannedTo

/-- The wallet lies within the chain, and no unspent output lies below it. -/
structure WalletFile.Sound (file : WalletFile) (ledger : Ledger) : Prop where
  safe : ledger.Safe file.restoredFrom
  scanned : file.scannedTo ≤ ledger.tip + 1

theorem mem_shown {transfers : List (Option Bool × Option Nat)} {height : Nat} :
    height ∈ transfers.filterMap (fun (spent, height) =>
        if spent = some false then height else none) ↔
      (some false, some height) ∈ transfers := by
  rw [List.mem_filterMap]
  constructor
  · rintro ⟨⟨spent, shown⟩, member, isHeight⟩
    dsimp only at isHeight
    split at isHeight
    · rename_i unspent
      rw [← unspent, ← isHeight]
      exact member
    · cases isHeight
  · intro member
    exact ⟨_, member, rfl⟩

/-- **The height that is computed is safe**, however far the wallet has scanned. -/
theorem WalletFile.Sound.oldest_safe {file : WalletFile} {ledger : Ledger}
    {transfers : List (Option Bool × Option Nat)} (sound : file.Sound ledger)
    (shows_ : file.Shows ledger transfers) : ledger.Safe (oldestOf transfers) := by
  unfold oldestOf
  cases found : (transfers.filterMap fun (spent, height) =>
      if spent = some false then height else none).min? with
  | none => exact .zero ledger
  | some oldest =>
      obtain ⟨member, least⟩ := List.min?_eq_some_iff.1 found
      have scanned := shows_.scanned oldest (mem_shown.1 member)
      rw [Option.getD_some]
      refine ⟨Nat.le_trans (Nat.le_of_lt scanned) sound.scanned, ?_⟩
      intro output isOutput unspent
      by_cases inside : output.height < file.scannedTo
      · have above := sound.safe.below output isOutput unspent
        exact least _ (mem_shown.2 (shows_.complete output isOutput unspent above inside))
      · -- The wallet has not come as far as this output, so it shows lower ones only.
        omega

/-! ### `bootstrap_wallet` -/

/-- The replies of one attempt. -/
structure BootAnswer where
  /-- `open_wallet` works. -/
  opens : Bool
  /-- The height monerod reports. -/
  height : Option Nat
  generated : Outcome

/-- Where a new wallet starts. -/
def restorePoint (lookback onchain : Nat) (height : Option Nat) : Option Nat :=
  if 0 < onchain then some onchain else height.map fun tip => tip - max lookback 1

/-- Opens the wallet, or else generates it; `none` is an error, and `some created` tells whether it
was generated. `generate_from_keys` fails on a file that is there. -/
def bootstrapWallet (lookback onchain : Nat) (file : Option WalletFile) (answer : BootAnswer) :
    Option WalletFile × Option Bool :=
  match file with
  | some file => (some file, if answer.opens then some false else none)
  | none =>
      match restorePoint lookback onchain answer.height with
      | none => (none, none)
      | some point => answer.generated.perform none (some ⟨point, point⟩, some true)

theorem bootstrapWallet_cases (lookback onchain : Nat) (file : Option WalletFile)
    (answer : BootAnswer) :
    (bootstrapWallet lookback onchain file answer).1 = file ∨
      file = none ∧ answer.generated ≠ .refused ∧
        ∃ point, restorePoint lookback onchain answer.height = some point ∧
          (bootstrapWallet lookback onchain file answer).1 = some ⟨point, point⟩ := by
  unfold bootstrapWallet
  cases file with
  | some file => exact Or.inl rfl
  | none =>
      dsimp only
      split
      · exact Or.inl rfl
      · rename_i point isPoint
        cases answer.generated with
        | refused => exact Or.inl rfl
        | _ => exact Or.inr ⟨rfl, nofun, point, isPoint, rfl⟩

/-! ### The system with its wallet -/

structure Vault where
  world : World
  ledger : Ledger
  file : Option WalletFile

inductive VaultEvent (Signature : Type) where
  | outside (event : Event Signature)
  | receive (count : Nat)
  | spend (index : Nat)
  /-- The wallet scans up to this height, if the chain is that long. -/
  | scan (height : Nat)
  /-- The volume with the wallet is lost. -/
  | lose
  /-- An attempt to bootstrap, with the restore height read at the start of the process. -/
  | boot (onchain : Nat) (answer : BootAnswer)

def WalletFile.scan (file : WalletFile) (ledger : Ledger) (height : Nat) : WalletFile :=
  { file with scannedTo := max file.scannedTo (min height ledger.tip + 1) }

def Vault.occur {Signature : Type} (ecdsa : Ecdsa Signature) (lookback : Nat) (vault : Vault) :
    VaultEvent Signature → Vault
  | .outside event => { vault with world := vault.world.occur ecdsa event }
  | .receive count => { vault with ledger := vault.ledger.receive count }
  | .spend index => { vault with ledger := vault.ledger.spend index }
  | .scan height => { vault with file := vault.file.map fun file => file.scan vault.ledger height }
  | .lose => { vault with file := none }
  | .boot onchain answer =>
      { vault with file := (bootstrapWallet lookback onchain vault.file answer).1 }

namespace Deployment

variable {Thread Signature : Type} (deployment : Deployment Thread Signature) (lookback : Nat)

/-- The services of the deployment, next to their wallet. -/
def vaultMachine : Machine Thread Vault Command Reply Answer (VaultEvent Signature) where
  exec := fun _ vault command answer =>
    let done := exec deployment.lua deployment.enclave vault.world command answer
    some ({ vault with world := done.1 }, done.2)
  event := Vault.occur deployment.ecdsa lookback
  abandon := fun _ vault => vault
  main := deployment.program

/-- One action, with the trail of every thread kept. -/
abbrev vaultMove [DecidableEq Thread] : Pool Thread Vault Command Reply Trail →
    Action Thread Answer (VaultEvent Signature) → Pool Thread Vault Command Reply Trail :=
  Pool.move (deployment.vaultMachine lookback) deployment.trail

end Deployment

def NoMark {Signature : Type} (_ : Address) (call : Call Signature) : Prop :=
  ∀ id moneroTxid newRestoreHeight, call ≠ .markProcessed id moneroTxid newRestoreHeight

/-- What is asked of the outside. -/
def VaultEvent.Admitted {Signature : Type} (vault : Vault) : VaultEvent Signature → Prop
  | .outside (.l2 sender call) => call.All NoMark sender
  | .boot onchain answer =>
      -- The height on the chain only grows, so an old reading is lower, and a read that failed is
      -- zero. The node reports no height above its blocks.
      onchain ≤ vault.world.token.restoreHeight ∧
        ∀ reported, answer.height = some reported → reported ≤ vault.ledger.tip + 1
  | _ => True

/-- What is asked of each action: the wallet shows what it has scanned. -/
def WalletHonest {Thread Signature : Type} (pool : Pool Thread Vault Command Reply Trail) :
    Action Thread Answer (VaultEvent Signature) → Prop
  | .step thread answer => pool.next? thread = some .incomingTransfers →
      ∀ transfers, answer.unspent = some transfers →
        ∃ file, pool.world.file = some file ∧ file.Shows pool.world.ledger transfers
  | .restart _ => True
  | .event event => event.Admitted pool.world

/-- The wallet is generated with no height from the chain, while an unspent output is older than the
lookback. -/
def VaultEvent.Blind {Signature : Type} (lookback : Nat) (vault : Vault) :
    VaultEvent Signature → Prop
  | .boot onchain answer =>
      vault.file = none ∧ answer.generated ≠ .refused ∧ onchain = 0 ∧
        ∃ reported, answer.height = some reported ∧
          ∃ output ∈ vault.ledger.outputs, output.spent = false ∧
            output.height < reported - max lookback 1
  | _ => False

def BootsBlind {Thread Signature : Type} (lookback : Nat)
    (pool : Pool Thread Vault Command Reply Trail) :
    Action Thread Answer (VaultEvent Signature) → Prop
  | .event event => event.Blind lookback pool.world
  | _ => False

/-- No unspent output lies below the restore height on the chain, nor below the height the wallet
was restored from. -/
def Vault.SeesUnspent (vault : Vault) : Prop :=
  ∀ output ∈ vault.ledger.outputs, output.spent = false →
    vault.world.token.restoreHeight ≤ output.height ∧
      ∀ file, vault.file = some file → file.restoredFrom ≤ output.height

/-! ### The restore height of the contract -/

section Contract

variable {Signature : Type} {ecdsa : Ecdsa Signature}

/-- Nothing but a mark moves the restore height. -/
theorem restoreHeight_of_noMark {state after : Token.State}
    (step : Token.Step ecdsa NoMark state after) : after.restoreHeight = state.restoreHeight := by
  cases step with
  | claim sender user cumulativeAmount signedAt sig may claimed =>
      obtain ⟨_, _, _, erc20, _, rfl⟩ := Token.State.claim_eq claimed
      rfl
  | redeem sender amount xmrAddress value wrote =>
      obtain ⟨_, erc20, _, rfl⟩ := Token.State.redeemWrites_eq wrote
      rfl
  | plain sender call flat may returned =>
      cases Token.plain_move flat returned with
      | marked id moneroTxid newRestoreHeight written => exact absurd rfl (may _ _ _)
      | signer | subsidy | owner | balances => rfl

theorem transact_restoreHeight {state : Token.State} {sender : Address} {call : Call Signature}
    (may : call.All NoMark sender) :
    ((Token.transact ecdsa state sender call).getD state).restoreHeight = state.restoreHeight := by
  cases returned : Token.transact ecdsa state sender call with
  | none => rfl
  | some after =>
      exact Token.transact_keeps (fun other => other.restoreHeight = state.restoreHeight)
        (fun step same => (restoreHeight_of_noMark step).trans same) may returned rfl

/-- A command leaves the restore height, or raises it to the height it marks with. -/
theorem exec_restoreHeight (lua : Lua) (enclave : Address) (world : World) (command : Command)
    (answer : Answer) :
    (exec lua enclave world command answer).1.token.restoreHeight = world.token.restoreHeight ∨
      ∃ id txid restoreHeight, command = .markProcessed id txid restoreHeight ∧
        (exec lua enclave world command answer).1.token.restoreHeight =
          max world.token.restoreHeight restoreHeight := by
  cases command with
  | markProcessed id txid restoreHeight =>
      simp only [exec, World.markProcessed, Outcome.perform]
      cases attempt : world.token.markProcessed enclave id.val txid restoreHeight with
      | none => cases answer.outcome <;> exact Or.inl rfl
      | some marked =>
          obtain ⟨_, _, rfl⟩ := Token.State.markProcessed_eq attempt
          cases answer.outcome with
          | refused => exact Or.inl rfl
          | _ => exact Or.inr ⟨id, txid, restoreHeight, rfl, rfl⟩
  | transfer id amount address =>
      simp only [exec, World.pay]
      split <;> exact Or.inl rfl
  | _ => exact Or.inl rfl

end Contract

/-! ### Every run -/

/-- The height on the chain is safe, and so is every height a thread has computed; a wallet there
is misses nothing. -/
structure Recoverable {Thread : Type} (vault : Vault) (trail : Thread → Trail) : Prop where
  onchain : vault.ledger.Safe vault.world.token.restoreHeight
  oldest : ∀ thread, vault.ledger.Safe (trail thread).oldest
  file : ∀ file, vault.file = some file → file.Sound vault.ledger

section Run

variable {Thread Signature : Type} {vault : Vault} {trail : Thread → Trail}

/-- A ledger on which everything that was safe still is. -/
theorem Recoverable.of_ledger (recoverable : Recoverable vault trail) {ledger : Ledger}
    (safe : ∀ height, vault.ledger.Safe height → ledger.Safe height)
    (tip : vault.ledger.tip ≤ ledger.tip) : Recoverable { vault with ledger } trail where
  onchain := safe _ recoverable.onchain
  oldest thread := safe _ (recoverable.oldest thread)
  file file found := by
    obtain ⟨safeFile, scanned⟩ := recoverable.file file found
    exact ⟨safe _ safeFile, Nat.le_trans scanned (Nat.succ_le_succ tip)⟩

/-- Another wallet file. -/
theorem Recoverable.of_file (recoverable : Recoverable vault trail) {file : Option WalletFile}
    (sound : ∀ found, file = some found → found.Sound vault.ledger) :
    Recoverable { vault with file } trail :=
  { recoverable with file := sound }

theorem Recoverable.seesUnspent (recoverable : Recoverable vault trail) : vault.SeesUnspent := by
  intro output isOutput unspent
  refine ⟨recoverable.onchain.below output isOutput unspent, ?_⟩
  intro file found
  exact (recoverable.file file found).safe.below output isOutput unspent

/-- A wallet that is generated starts at a safe height, unless it starts below the tip with older
outputs unspent. -/
theorem Recoverable.restorePoint_safe (recoverable : Recoverable vault trail)
    {lookback onchain point : Nat} {height : Option Nat}
    (read : onchain ≤ vault.world.token.restoreHeight)
    (inChain : ∀ reported, height = some reported → reported ≤ vault.ledger.tip + 1)
    (within : onchain = 0 → ∀ reported, height = some reported →
      ∀ output ∈ vault.ledger.outputs, output.spent = false →
        reported - max lookback 1 ≤ output.height)
    (isPoint : restorePoint lookback onchain height = some point) : vault.ledger.Safe point := by
  unfold restorePoint at isPoint
  split at isPoint
  · cases isPoint
    exact recoverable.onchain.mono read
  · rename_i unset
    obtain ⟨reported, isReported, rfl⟩ := Option.map_eq_some_iff.1 isPoint
    exact ⟨Nat.le_trans (Nat.sub_le ..) (inChain reported isReported),
      within (Nat.eq_zero_of_not_pos unset) reported isReported⟩

theorem Recoverable.occur (recoverable : Recoverable vault trail) {ecdsa : Ecdsa Signature}
    {lookback : Nat} {event : VaultEvent Signature} (admitted : event.Admitted vault)
    (sighted : ¬ event.Blind lookback vault) :
    Recoverable (vault.occur ecdsa lookback event) trail := by
  cases event with
  | outside event =>
      have same : (vault.world.occur ecdsa event).token.restoreHeight =
          vault.world.token.restoreHeight := by
        cases event with
        | wipe => rfl
        | mined position height => rfl
        | l2 sender call => exact transact_restoreHeight admitted
      refine ⟨?_, recoverable.oldest, recoverable.file⟩
      change vault.ledger.Safe (vault.world.occur ecdsa event).token.restoreHeight
      rw [same]
      exact recoverable.onchain
  | receive count => exact recoverable.of_ledger (fun _ safe => safe.receive count) (Nat.le_succ _)
  | spend index => exact recoverable.of_ledger (fun _ safe => safe.spend index) (Nat.le_refl _)
  | scan height =>
      refine recoverable.of_file ?_
      intro found isFound
      obtain ⟨file, had, rfl⟩ := Option.map_eq_some_iff.1 isFound
      obtain ⟨safe, scanned⟩ := recoverable.file file had
      refine ⟨safe, ?_⟩
      change max file.scannedTo (min height vault.ledger.tip + 1) ≤ vault.ledger.tip + 1
      omega
  | lose => exact recoverable.of_file fun found isFound => by cases isFound
  | boot onchain answer =>
      refine recoverable.of_file ?_
      intro found isFound
      rcases bootstrapWallet_cases lookback onchain vault.file answer with
        same | ⟨missing, made, point, isPoint, generated⟩
      · rw [same] at isFound
        exact recoverable.file found isFound
      · rw [generated] at isFound
        cases isFound
        have safe : vault.ledger.Safe point := by
          refine recoverable.restorePoint_safe admitted.1 admitted.2 ?_ isPoint
          intro unset reported isReported output isOutput unspent
          apply Nat.le_of_not_lt
          intro older
          exact sighted ⟨missing, made, unset, reported, isReported, output, isOutput, unspent, older⟩
        exact ⟨safe, safe.reached⟩

/-- The wallet of a blind boot starts above the output it misses. -/
theorem VaultEvent.Blind.misses {ecdsa : Ecdsa Signature} {lookback : Nat}
    {event : VaultEvent Signature} (blind : event.Blind lookback vault) :
    ¬ (vault.occur ecdsa lookback event).SeesUnspent := by
  cases event with
  | boot onchain answer =>
      obtain ⟨missing, made, rfl, reported, isReported, output, isOutput, unspent, older⟩ := blind
      intro sees
      have file : (bootstrapWallet lookback 0 vault.file answer).1 =
          some ⟨reported - max lookback 1, reported - max lookback 1⟩ := by
        rw [missing, bootstrapWallet, isReported]
        cases generated : answer.generated with
        | refused => exact absurd generated made
        | _ => rfl
      have seen := (sees output isOutput unspent).2 _ file
      exact absurd seen (Nat.not_le_of_lt older)
  | _ => cases blind

variable [DecidableEq Thread]

theorem BootsBlind.misses {deployment : Deployment Thread Signature} {lookback : Nat}
    {pool : Pool Thread Vault Command Reply Trail}
    {action : Action Thread Answer (VaultEvent Signature)}
    (blind : BootsBlind lookback pool action) :
    ¬ (deployment.vaultMove lookback pool action).world.SeesUnspent := by
  cases action with
  | event event => exact VaultEvent.Blind.misses blind
  | _ => cases blind

theorem recoverable_invariant (deployment : Deployment Thread Signature) (lookback : Nat) :
    Invariant (deployment.vaultMachine lookback) deployment.trail
      (fun pool action => WalletHonest pool action ∧ ¬ BootsBlind lookback pool action)
      Recoverable where
  step pool thread answer command next vault reply code permitted answered admitted recoverable := by
    cases answered
    have own := recoverable.oldest thread
    -- The restore height is what it was, or what this thread has computed.
    have onchain : pool.world.ledger.Safe (exec deployment.lua deployment.enclave pool.world.world
        command answer).1.token.restoreHeight := by
      rcases exec_restoreHeight deployment.lua deployment.enclave pool.world.world command answer
        with same | ⟨id, txid, restoreHeight, rfl, raised⟩
      · rw [same]
        exact recoverable.onchain
      · rw [raised]
        exact recoverable.onchain.max (own.mono permitted)
    have learned : pool.world.ledger.Safe ((pool.stage thread).after command (exec deployment.lua
        deployment.enclave pool.world.world command answer).2).oldest := by
      generalize replied : (exec deployment.lua deployment.enclave pool.world.world command
        answer).2 = reply
      cases command with
      | incomingTransfers =>
          cases reply with
          | none => exact own
          | some transfers =>
              have asks : pool.next? thread = some .incomingTransfers := by rw [Pool.next?, code]
              obtain ⟨file, found, shows_⟩ := admitted.1 asks transfers replied
              exact (recoverable.file file found).oldest_safe shows_
      | nextRedemptionId | redemption | xautoclaim | xreadgroup => cases reply <;> exact own
      | _ => exact own
    refine ⟨onchain, ?_, recoverable.file⟩
    apply (Function.forall_update_iff pool.stage fun _ trail =>
      pool.world.ledger.Safe trail.oldest).2
    exact ⟨learned, fun other _ => recoverable.oldest other⟩
  restart pool thread _ recoverable := by
    refine ⟨recoverable.onchain, ?_, recoverable.file⟩
    apply (Function.forall_update_iff pool.stage fun _ trail =>
      pool.world.ledger.Safe trail.oldest).2
    exact ⟨.zero _, fun other _ => recoverable.oldest other⟩
  event pool event admitted recoverable := recoverable.occur admitted.1 admitted.2

end Run

/-- **A restored wallet sees every unspent output, unless it boots blind.** The contract is
deployed, and the wallet may have received anything before. However the services interleave, crash
and mark in whatever order, and however often the volume is lost and the wallet restored: no unspent
output lies below the restore height on the chain, nor below the height the wallet was restored
from, as long as no wallet is generated below the tip with older outputs unspent; and such a wallet
does miss one. -/
theorem restored_wallet_sees_unspent {Thread Signature : Type} [DecidableEq Thread]
    (deployment : Deployment Thread Signature) (lookback : Nat) (owner signer : Address)
    (subsidy : Nat) (ledger : Ledger)
    (actions : List (Action Thread Answer (VaultEvent Signature)))
    (pool : Pool Thread Vault Command Reply Trail)
    (deployed : pool = Pool.initial (deployment.vaultMachine lookback) deployment.trail
      ⟨World.genesis (Token.deployed owner signer subsidy), ledger, none⟩)
    (honest : Along (deployment.vaultMove lookback) WalletHonest pool actions) :
    Along (deployment.vaultMove lookback)
        (fun pool action => (deployment.vaultMove lookback pool action).world.SeesUnspent)
        pool actions ↔
      Along (deployment.vaultMove lookback)
        (fun pool action => ¬ BootsBlind lookback pool action) pool actions := by
  have initially : Recoverable pool.world pool.stage := by
    rw [deployed]
    exact ⟨.zero ledger, fun _ => .zero ledger, fun file found => by cases found⟩
  have disciplined : pool.Disciplined deployment.trail := by
    rw [deployed]
    exact Pool.initial_disciplined _ deployment.keepsTrail
  have onward : ∀ pool : Pool Thread Vault Command Reply Trail, ∀ action,
      Recoverable pool.world pool.stage ∧ pool.Disciplined deployment.trail →
      WalletHonest pool action ∧ ¬ BootsBlind lookback pool action →
      Recoverable (deployment.vaultMove lookback pool action).world
          (deployment.vaultMove lookback pool action).stage ∧
        (deployment.vaultMove lookback pool action).Disciplined deployment.trail :=
    fun _ action now admitted =>
      ⟨(recoverable_invariant deployment lookback).move now.2 admitted now.1,
        now.2.move deployment.keepsTrail action⟩
  have same : Along (deployment.vaultMove lookback)
        (fun pool action => WalletHonest pool action ∧
          (deployment.vaultMove lookback pool action).world.SeesUnspent) pool actions ↔
      Along (deployment.vaultMove lookback)
        (fun pool action => WalletHonest pool action ∧ ¬ BootsBlind lookback pool action)
        pool actions := by
    apply Along.congr_keeping (fun pool => Recoverable pool.world pool.stage ∧
      pool.Disciplined deployment.trail) actions ⟨initially, disciplined⟩
    · intro pool action now
      refine and_congr_right fun isHonest => ⟨fun sees blind => blind.misses sees, ?_⟩
      intro sighted
      exact (onward pool action now ⟨isHonest, sighted⟩).1.seesUnspent
    · intro pool action now sees
      exact onward pool action now ⟨sees.1, fun blind => blind.misses sees.2⟩
  constructor
  · intro sees
    exact (same.1 (honest.and sees)).weaken fun _ _ sighted => sighted.2
  · intro sighted
    exact (same.2 (honest.and sighted)).weaken fun _ _ sees => sees.2

/-! Two outputs lie at heights 95 and 98. The wallet is made within the lookback of the tip, and a
burn is paid with the older output. The consumer is shown the newer one and marks with its height;
then the volume is lost and the wallet restored from there. -/

abbrev VaultAction := Action SampleThread Answer (VaultEvent Unit)

def besideWallet : SampleAction → VaultAction
  | .step thread answer => .step thread answer
  | .restart thread => .restart thread
  | .event event => .event (.outside event)

/-- Neither shows outputs nor touches the contract or the file. -/
def Silent : VaultAction → Prop
  | .step _ answer => answer.unspent = none
  | .event (.outside (.l2 _ _)) => False
  | .event (.boot _ _) => False
  | _ => True

theorem Silent.honest {pool : Pool SampleThread Vault Command Reply Trail} {action : VaultAction}
    (silent : Silent action) : WalletHonest pool action := by
  cases action with
  | step thread answer =>
      intro _ transfers shown
      rw [silent] at shown
      cases shown
  | restart thread => trivial
  | event event =>
      cases event with
      | outside event =>
          cases event with
          | l2 sender call => cases silent
          | _ => trivial
      | boot onchain answer => cases silent
      | _ => trivial

theorem Silent.sighted {lookback : Nat} {pool : Pool SampleThread Vault Command Reply Trail}
    {action : VaultAction} (silent : Silent action) : ¬ BootsBlind lookback pool action := by
  intro blind
  cases action with
  | event event =>
      cases event with
      | boot onchain answer => cases silent
      | _ => cases blind
  | _ => cases blind

theorem along_silent (lookback : Nat) (pool : Pool SampleThread Vault Command Reply Trail)
    {actions : List VaultAction} (silent : ∀ action ∈ actions, Silent action) :
    Along (redeeming.vaultMove lookback)
      (fun pool action => WalletHonest pool action ∧ ¬ BootsBlind lookback pool action) pool
      actions :=
  (Along.of_forall_mem pool silent).weaken fun _ _ silent => ⟨silent.honest, silent.sighted⟩

def twoOutputs : Ledger where
  outputs := [⟨95, false⟩, ⟨98, false⟩]
  tip := 100

def vaultStart : Pool SampleThread Vault Command Reply Trail :=
  Pool.initial (redeeming.vaultMachine 10) redeeming.trail
    ⟨World.genesis (Token.deployed 7 9 0), twoOutputs, none⟩

def redeemed : List VaultAction := redeemOne.map besideWallet

def firstBoot : VaultAction :=
  .event (.boot 0 { opens := false, height := some 100, generated := .ok })

def scannedAndPaid : List VaultAction :=
  .event (.scan 100) :: (pollOne ++ refreshOne ++ payOne 100 ⟨[], [], []⟩ (.sent "tx") ++
    steps .consumer [{}, { minedAt := some 101 }]).map besideWallet ++ [.event (.spend 0)]

def shown : VaultAction :=
  .step .consumer { unspent := some [(some true, some 95), (some false, some 98)] }

def markedAndLost : List VaultAction := [.step .consumer {}, .step .consumer {}, .event .lose]

def secondBoot : VaultAction :=
  .event (.boot 98 { opens := false, height := none, generated := .ok })

def vaultRun : List VaultAction :=
  redeemed ++ firstBoot :: (scannedAndPaid ++ shown :: (markedAndLost ++ [secondBoot]))

abbrev vaultAfter (actions : List VaultAction) : Pool SampleThread Vault Command Reply Trail :=
  run (redeeming.vaultMove 10) vaultStart actions

theorem vaultRun_admitted :
    Along (redeeming.vaultMove 10)
      (fun pool action => WalletHonest pool action ∧ ¬ BootsBlind 10 pool action) vaultStart
      vaultRun := by
  have unmarked : Along (redeeming.vaultMove 10)
      (fun pool action => WalletHonest pool action ∧ ¬ BootsBlind 10 pool action) vaultStart
      redeemed := by
    refine ⟨⟨?_, id⟩, ⟨⟨?_, trivial⟩, id⟩, trivial⟩
    · intro id moneroTxid newRestoreHeight same
      cases same
    · intro id moneroTxid newRestoreHeight same
      cases same
  have first : WalletHonest (vaultAfter redeemed) firstBoot ∧
      ¬ BootsBlind 10 (vaultAfter redeemed) firstBoot := by
    refine ⟨⟨Nat.zero_le _, ?_⟩, ?_⟩
    · rintro reported ⟨⟩
      exact (by decide : 100 ≤ twoOutputs.tip + 1)
    · rintro ⟨_, _, _, reported, ⟨⟩, output, isOutput, unspent, older⟩
      have within : ∀ output ∈ twoOutputs.outputs, ¬ output.height < 100 - max 10 1 := by decide
      exact within output isOutput older
  refine Along.append.2 ⟨unmarked, first, Along.append.2 ⟨along_silent 10 _ ?_, ⟨?_, id⟩, ?_⟩⟩
  · simp [scannedAndPaid, pollOne, refreshOne, payOne, steps, besideWallet, Silent]
  · intro _ transfers isShown
    cases isShown
    refine ⟨⟨90, 101⟩, by decide +kernel, ?_, ?_⟩
    · intro output isOutput unspent _ _
      have outputs : (run (redeeming.vaultMove 10)
          (redeeming.vaultMove 10 (vaultAfter redeemed) firstBoot) scannedAndPaid).world.ledger.outputs =
            [⟨95, true⟩, ⟨98, false⟩] := by decide +kernel
      have listed : output ∈ [(⟨95, true⟩ : Output), ⟨98, false⟩] := outputs ▸ isOutput
      have newer : ∀ output ∈ [(⟨95, true⟩ : Output), ⟨98, false⟩], output.spent = false →
          (some false, some output.height) ∈ [(some true, some 95), (some false, some 98)] := by
        decide
      exact newer output listed unspent
    · intro height member
      simp only [List.mem_cons, Prod.mk.injEq, Option.some.injEq, Bool.false_eq_true, false_and,
        false_or, true_and, List.not_mem_nil, or_false] at member
      change height < 101
      omega
  · refine Along.append.2 ⟨along_silent 10 _ ?_, ⟨⟨?_, nofun⟩, ?_⟩, trivial⟩
    · simp [markedAndLost, Silent]
    · exact (by decide +kernel : 98 ≤ (run (redeeming.vaultMove 10)
        (vaultAfter (redeemed ++ firstBoot :: (scannedAndPaid ++ [shown])))
        markedAndLost).world.world.token.restoreHeight)
    · -- A height was read from the chain.
      rintro ⟨_, _, unset, _⟩
      cases unset

theorem restored_wallet_sees_unspent_restored :
    (vaultAfter vaultRun).world.file = some ⟨98, 98⟩ ∧
      Along (redeeming.vaultMove 10)
        (fun pool action => (pool.move (redeeming.vaultMachine 10) redeeming.trail
          action).world.SeesUnspent) vaultStart vaultRun :=
  ⟨by decide +kernel, (restored_wallet_sees_unspent redeeming 10 7 9 0 twoOutputs vaultRun
    vaultStart rfl (vaultRun_admitted.weaken fun _ _ both => both.1)).2
      (vaultRun_admitted.weaken fun _ _ both => both.2)⟩

end CrFaucet.Redemption
