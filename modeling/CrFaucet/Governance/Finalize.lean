import CrFaucet.Governance.Timelock
import CrFaucet.Interaction.Pool
import CrFaucet.Utf8

/-!
Owns `finalize`, the tool that turns a running pool permissionless, next to the chain it acts on:
the token and any number of `PoolGovernance` contracts, since a run that stops half-way can leave
one behind.

A run of the tool is a program that stops at the first error. A transaction whose run has given up
on it can still land, in any order. Whoever is not the deployer calls the contracts in between;
their calls are single entry points, which is what call trees amount to (see
`Governance.Timelock`).

Does not own the reading of the configuration file, of the artifact and of the key, which come
before the first transaction, nor gas, nonces and other contracts.
-/

set_option autoImplicit false

namespace CrFaucet.Governance

open Interaction
open Token (Address require)

/-! ### The chain -/

structure Contract (Data Id : Type) where
  delay : Nat
  governor : Address
  renounced : Bool
  queuedAt : Id → Nat
  log : List (Record Data)

/-- `executed` is a ghost: what the governance contracts executed. -/
structure Chain (Data Id : Type) where
  token : Token.State
  contracts : Address → Option (Contract Data Id)
  executed : List (Operation Data)

inductive Governing (Data : Type) where
  | transferGovernor (receiver : Address)
  | queue (operation : Operation Data)
  | cancel (operation : Operation Data)
  | execute (operation : Operation Data)
  | renounce

/-- What the tool sends. -/
inductive Transaction where
  | deploy (governor : Address) (delay : Nat)
  | setSigner (contract signer : Address)
  | transferOwnership (contract newOwner : Address)
  | renounce (governance : Address)
deriving DecidableEq

structure Receipt where
  status : Bool
  contractAddress : Option Address

/-- What the outside decides about a transaction: the address of a contract it creates, and whether
a contract that is not modelled takes the call. -/
structure Landing where
  fresh : Address
  accepts : Bool

section Chain

variable {Data Id Signature : Type}

def Site.of (network : Site Data Id Signature) (governance : Address) (delay : Nat) :
    Site Data Id Signature :=
  { network with governance := governance, delay := delay }

def Contract.beside (contract : Contract Data Id) (token : Token.State) : State Data Id where
  governor := contract.governor
  renounced := contract.renounced
  queuedAt := contract.queuedAt
  token := token
  log := contract.log

def State.contract (state : State Data Id) (delay : Nat) : Contract Data Id where
  delay := delay
  governor := state.governor
  renounced := state.renounced
  queuedAt := state.queuedAt
  log := state.log

def Governing.entry [DecidableEq Id] (timestamp : Nat) (sender : Address) :
    Governing Data → Site Data Id Signature → State Data Id → Option (State Data Id)
  | .transferGovernor receiver, _, state => state.transferGovernor sender receiver
  | .queue operation, site, state => state.queue site timestamp sender operation
  | .cancel operation, site, state => state.cancel site sender operation
  | .execute operation, site, state => state.executeEnters site timestamp sender operation
  | .renounce, _, state => state.renounce sender

def Governing.executes : Governing Data → List (Operation Data)
  | .execute operation => [operation]
  | _ => []

namespace Chain

variable [DecidableEq Id] (network : Site Data Id Signature)

/-- An entry point of the governance contract at the address. -/
def enter (chain : Chain Data Id) (governance : Address)
    (entry : Site Data Id Signature → State Data Id → Option (State Data Id)) :
    Option (Chain Data Id) := do
  let contract ← chain.contracts governance
  let after ← entry (network.of governance contract.delay) (contract.beside chain.token)
  some { chain with
    token := after.token
    contracts := Function.update chain.contracts governance
      (some (after.contract contract.delay)) }

def govern (timestamp : Nat) (chain : Chain Data Id) (governance sender : Address)
    (call : Governing Data) : Option (Chain Data Id) :=
  (chain.enter network governance (call.entry timestamp sender)).map
    fun after => { after with executed := chain.executed ++ call.executes }

def callToken (chain : Chain Data Id) (sender : Address) (call : Token.Call Signature) :
    Option (Chain Data Id) :=
  (Token.transact network.ecdsa chain.token sender call).map
    fun token => { chain with token := token }

/-- A governance contract is created at an address that has none. -/
def deploy (chain : Chain Data Id) (deployer governor : Address) (delay : Nat) (fresh : Address) :
    Option (Chain Data Id) := do
  require ((chain.contracts fresh).isNone ∧ fresh ≠ deployer)
  let state ← (deployed governor chain.token : Option (State Data Id))
  some { chain with
    contracts := Function.update chain.contracts fresh (some (state.contract delay)) }

/-- A transaction of the deployer. -/
def land (chain : Chain Data Id) (deployer : Address) (landing : Landing) :
    Transaction → Option (Chain Data Id)
  | .deploy governor delay => chain.deploy deployer governor delay landing.fresh
  | .setSigner contract signer =>
      if contract = network.token then chain.callToken network deployer (.setSigner signer)
      else if landing.accepts then some chain else none
  | .transferOwnership contract newOwner =>
      if contract = network.token then
        chain.callToken network deployer (.transferOwnership newOwner)
      else if landing.accepts then some chain else none
  | .renounce governance =>
      if (chain.contracts governance).isSome then
        chain.govern network 0 governance deployer .renounce
      else if landing.accepts then some chain else none

end Chain

end Chain

/-! ### The tool -/

structure FinalizeConfig where
  token : String
  kmsSigner : String
  feeSwapper : String
  governance : String
  governor : String
  delaySecs : Nat
  renounce : Bool

inductive FinalizeError where
  | badAddress
  /-- `eth_call owner()`. -/
  | ownerCall
  /-- `deployer … is not the token owner (…); cannot finalize`. -/
  | notOwner (deployer owner : Address)
  /-- `governor required to deploy governance`. -/
  | noGovernor
  /-- `eth_gasPrice`. -/
  | gasPrice
  /-- `send tx`. -/
  | sendTx
  /-- `tx receipt`. -/
  | txReceipt
  /-- `tx reverted: …`. -/
  | reverted
  /-- `no contract_address in deploy receipt`. -/
  | noContractAddress
  | renouncedCall

/-- What the tool prints. -/
inductive Line where
  | deployed (governance governor : Address) (delay : Nat)
  | signer (kms : Address)
  | tokenOwner (governance : Address)
  | feeSwapperOwner (governance : Address)
  | permissionless
  | verify
  | verifyOwner (owner : Address) (same : Bool)
  | verifyRenounced (renounced : Bool)
deriving DecidableEq

namespace Finalize

inductive Command where
  | ownerOf (contract : Address)
  | gasPrice
  /-- Send a transaction and wait for its receipt. -/
  | submit (transaction : Transaction)
  | renounced (governance : Address)
  | println (line : Line)
deriving DecidableEq

/-- Without a value, a read failed. -/
abbrev Reply : Command → Type
  | .ownerOf _ => Option Address
  | .gasPrice => Option Unit
  | .submit _ => Except FinalizeError Receipt
  | .renounced _ => Option Bool
  | .println _ => Unit

abbrev Tool (Result : Type) := Program Command Reply Result

def ask (command : Command) : Tool (Reply command) := Program.call command

/-- `send`: fails on a revert. -/
def send (transaction : Transaction) : Tool (Except FinalizeError Receipt) := do
  match ← ask .gasPrice with
  | none => return .error .gasPrice
  | some _ =>
  match ← ask (.submit transaction) with
  | .error error => return .error error
  | .ok receipt => if receipt.status then return .ok receipt else return .error .reverted

variable (parse : String → Option Address)

/-- `Address::from_str` of a trimmed text. -/
def parseTrimmed (text : String) : Option Address :=
  parse (String.ofList (Utf8.trim text.toList))

/-- `parse_opt`; `none` is an error. -/
def parseOpt (text : String) : Option (Option Address) :=
  if (Utf8.trim text.toList).isEmpty then some none
  else (parseTrimmed parse text).map fun address => if address = 0 then none else some address

/-- Step 1. -/
def chooseGovernance (config : FinalizeConfig) : Tool (Except FinalizeError Address) :=
  match parseOpt parse config.governance with
  | none => return .error .badAddress
  | some (some governance) => return .ok governance
  | some none =>
  match parseTrimmed parse config.governor with
  | none => return .error .noGovernor
  | some governor => do
  match ← send (.deploy governor config.delaySecs) with
  | .error error => return .error error
  | .ok receipt =>
  match receipt.contractAddress with
  | none => return .error .noContractAddress
  | some governance => do
      let _ ← ask (.println (.deployed governance governor config.delaySecs))
      return .ok governance

/-- The end of `main`: what it reads back, and prints. -/
def verify (config : FinalizeConfig) (token governance : Address) :
    Tool (Except FinalizeError Unit) := do
  match ← ask (.ownerOf token) with
  | none => return .error .ownerCall
  | some owner => do
      let _ ← ask (.println .verify)
      let _ ← ask (.println (.verifyOwner owner (owner == governance)))
      if config.renounce then
        match ← ask (.renounced governance) with
        | none => return .error .renouncedCall
        | some renounced => do
            let _ ← ask (.println (.verifyRenounced renounced))
            return .ok ()
      else return .ok ()

/-- Step 4. -/
def renounceIfAsked (config : FinalizeConfig) (token governance : Address) :
    Tool (Except FinalizeError Unit) := do
  if config.renounce then
    match ← send (.renounce governance) with
    | .error error => return .error error
    | .ok _ => do
        let _ ← ask (.println .permissionless)
        verify config token governance
  else verify config token governance

/-- Step 3. -/
def handOwnership (config : FinalizeConfig) (token : Address) (feeSwapper : Option Address)
    (governance : Address) : Tool (Except FinalizeError Unit) := do
  match ← send (.transferOwnership token governance) with
  | .error error => return .error error
  | .ok _ => do
      let _ ← ask (.println (.tokenOwner governance))
      match feeSwapper with
      | none => renounceIfAsked config token governance
      | some swapper =>
      match ← send (.transferOwnership swapper governance) with
      | .error error => return .error error
      | .ok _ => do
          let _ ← ask (.println (.feeSwapperOwner governance))
          renounceIfAsked config token governance

/-- Step 2. -/
def rotateSigner (config : FinalizeConfig) (token kms : Address) (feeSwapper : Option Address)
    (governance : Address) : Tool (Except FinalizeError Unit) := do
  match ← send (.setSigner token kms) with
  | .error error => return .error error
  | .ok _ => do
      let _ ← ask (.println (.signer kms))
      handOwnership config token feeSwapper governance

/-- `main`, from the parsed configuration on. -/
def finalize (deployer : Address) (config : FinalizeConfig) : Tool (Except FinalizeError Unit) :=
  match parseTrimmed parse config.token with
  | none => return .error .badAddress
  | some token =>
  match parseTrimmed parse config.kmsSigner with
  | none => return .error .badAddress
  | some kms =>
  match parseOpt parse config.feeSwapper with
  | none => return .error .badAddress
  | some feeSwapper => do
  match ← ask (.ownerOf token) with
  | none => return .error .ownerCall
  | some owner =>
  if owner ≠ deployer then return .error (.notOwner deployer owner)
  else do
  match ← chooseGovernance parse config with
  | .error error => return .error error
  | .ok governance => rotateSigner config token kms feeSwapper governance

/-! ### Runs of the tool -/

variable {Data Id Signature Thread : Type}

/-- The chain, and the transactions of the deployer that may still land. -/
structure World (Data Id : Type) where
  chain : Chain Data Id
  inFlight : List Transaction

/-- How a request goes. -/
inductive Answer where
  /-- It is answered; a transaction has landed by then. -/
  | answered (landing : Landing)
  /-- It fails. -/
  | failed (error : FinalizeError)
  /-- A transaction lands, and its receipt is lost. -/
  | unheard (landing : Landing) (error : FinalizeError)
  /-- A transaction is given up and may land later. -/
  | late (error : FinalizeError)

inductive Event (Data Signature : Type) where
  /-- A transaction that was given up lands. -/
  | land (index : Nat) (landing : Landing)
  | token (sender : Address) (call : Token.Call Signature)
  | govern (timestamp : Nat) (governance sender : Address) (call : Governing Data)

/-- Runs of the tool with one key, one after the other or at once. -/
structure Deployment (Data Id Signature Thread : Type) where
  /-- The token and the encodings; each governance contract has its own address and delay. -/
  network : Site Data Id Signature
  parse : String → Option Address
  deployer : Address
  config : Thread → FinalizeConfig

variable [DecidableEq Id] (deployment : Deployment Data Id Signature Thread)

/-- `contract_address` of the receipt. -/
def created (landing : Landing) : Transaction → Option Address
  | .deploy _ _ => some landing.fresh
  | _ => none

/-- A transaction is executed; a reverted one changes nothing. -/
def land (chain : Chain Data Id) (landing : Landing) (transaction : Transaction) :
    Chain Data Id × Receipt :=
  match chain.land deployment.network deployment.deployer landing transaction with
  | some after => (after, ⟨true, created landing transaction⟩)
  | none => (chain, ⟨false, none⟩)

def occur (world : World Data Id) : Event Data Signature → World Data Id
  | .land index landing =>
      match world.inFlight[index]? with
      | none => world
      | some transaction =>
          ⟨(land deployment world.chain landing transaction).1, world.inFlight.eraseIdx index⟩
  | .token sender call =>
      { world with
        chain := (world.chain.callToken deployment.network sender call).getD world.chain }
  | .govern timestamp governance sender call =>
      { world with
        chain := (world.chain.govern deployment.network timestamp governance sender call).getD
          world.chain }

/-- What a request does. -/
def exec (world : World Data Id) : (command : Command) → Answer → World Data Id × Reply command
  | .ownerOf contract, .answered _ =>
      (world, if contract = deployment.network.token then some world.chain.token.owner else none)
  | .ownerOf _, _ => (world, none)
  | .gasPrice, .answered _ => (world, some ())
  | .gasPrice, _ => (world, none)
  | .submit transaction, .answered landing =>
      ({ world with chain := (land deployment world.chain landing transaction).1 },
        .ok (land deployment world.chain landing transaction).2)
  | .submit transaction, .unheard landing error =>
      ({ world with chain := (land deployment world.chain landing transaction).1 }, .error error)
  | .submit transaction, .late error =>
      ({ world with inFlight := transaction :: world.inFlight }, .error error)
  | .submit _, .failed error => (world, .error error)
  | .renounced governance, .answered _ =>
      (world, (world.chain.contracts governance).map Contract.renounced)
  | .renounced _, _ => (world, none)
  | .println _, _ => (world, ())

def machine : Machine Thread (World Data Id) Command Reply Answer (Event Data Signature) where
  exec _ world command answer := some (exec deployment world command answer)
  event := occur deployment
  abandon _ world := world
  main thread := do
    let _ ← finalize deployment.parse deployment.deployer (deployment.config thread)
    return ()

/-- Nobody else signs as the deployer, and nobody calls in the name of a governance contract. -/
abbrev Outsider (chain : Chain Data Id) (sender : Address) : Prop :=
  sender ≠ deployment.deployer ∧ (chain.contracts sender).isNone

def Genuine (chain : Chain Data Id) : Event Data Signature → Prop
  | .land _ _ => True
  | .token sender call => call.All (fun sender _ => Outsider deployment chain sender) sender
  | .govern _ _ sender _ => sender ≠ deployment.deployer

instance (chain : Chain Data Id) : (event : Event Data Signature) →
    Decidable (Genuine deployment chain event)
  | .land _ _ => isTrue trivial
  | .token sender call =>
      inferInstanceAs
        (Decidable (call.All (fun sender _ => Outsider deployment chain sender) sender))
  | .govern _ _ _ _ => inferInstanceAs (Decidable (_ ≠ _))

end Finalize

end CrFaucet.Governance
