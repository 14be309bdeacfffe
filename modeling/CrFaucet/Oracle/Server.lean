import CrFaucet.Interaction.Run
import CrFaucet.Oracle.Source
import CrFaucet.Token.Erc20

/-!
Owns `oracle_info` and `sign_for` of `crossroads_oracle::server`: how the configuration of a
permissionless oracle contract becomes the floors a report is checked against.

The contract's numbers are `uint256`. They are narrowed to machine words with a default where
they do not fit, and the block number of a request is added to one of them. `ReadFrom` says
what an entry of the cache has to do with the contract it was read from; every request keeps it,
so a report signed from the cache is judged like one signed from a fresh read.

A request is one step. Two requests may miss the cache at the same time and both read the
contract: `missed` is a lookup that came too early to see the other's entry.

Does not own the SSRF check, whose verdicts are given, or the signature.
-/

set_option autoImplicit false

namespace CrFaucet.Oracle

open Interaction Tally
open Token (Address)

/-- What the contract returns. The list of URLs is one the server can hold. -/
structure OracleContract where
  registry : Address
  expectedSourceChainId : Nat
  minConfirmations : Nat
  mandateFinalized : Bool
  sourceRpcUrls : List String
  sourceRpcQuorum : Nat
  urls_fit : sourceRpcUrls.length < 2 ^ 63

structure OracleInfo where
  sourceChainId : UInt64
  minConfirmations : UInt64
  mandateFinalized : Bool
  rpcUrls : List String
  quorum : UInt64

/-- `Settings`, with the signer's epoch. -/
structure OracleSettings where
  registry : Address
  maxSourceRpcs : Nat
  reportTtlSecs : UInt64
  signerEpoch : UInt64

structure BlockHashReport where
  sourceChainId : UInt64
  blockNumber : UInt64
  blockHash : B256
  requiredConfirmations : UInt64
  observedConfirmations : UInt64
  quorumTip : UInt64
  observedQuorum : UInt64
  requireFinalized : Bool
  finalizedBlockNumber : UInt64
  expiresAt : UInt64
  signerEpoch : UInt64
deriving DecidableEq

structure SignedReport where
  oracle : Address
  report : BlockHashReport
  signature : List UInt8
deriving DecidableEq

inductive OracleError where
  | readFailed
  /-- "oracle {oracle} trusts a different registry ({registry})" -/
  | differentRegistry (oracle registry : Address)
  /-- "oracle {oracle}: only {safe} SSRF-safe RPCs (< quorum {quorum})" -/
  | fewSafeRpcs (oracle : Address) (safe : Nat) (quorum : UInt64)
  | fetch (error : FetchError)
  | clock
  | signing
deriving DecidableEq

def Fault.map {Error Other : Type} (lift : Error → Other) : Fault Error → Fault Other
  | .failed error => .failed (lift error)
  | .panicked => .panicked

/-- `try_into().unwrap_or(default)`. -/
def narrow (default : UInt64) (value : Nat) : UInt64 :=
  if value < 2 ^ 64 then UInt64.ofNat value else default

/-- A request for a report, with everything the outside answers on the way. -/
structure SignRequest where
  oracle : Address
  blockNumber : UInt64
  missed : Bool
  /-- Whether all calls to the contract succeed. -/
  reads : Bool
  /-- The SSRF verdict on each URL. -/
  verdicts : List Bool
  replies : List MemberVote
  order : IterationOrder (B256 × Nat)
  now : Option UInt64
  signature : Option (List UInt8)

/-- The votes of the committee; a member without a reply is as good as absent. -/
def SignRequest.votes (request : SignRequest) (info : OracleInfo) : List MemberVote :=
  (info.rpcUrls.zip request.replies).map fun polled => pollMember info.mandateFinalized polled.2

/-- The cached configurations. -/
structure OracleServer where
  cache : Address → Option OracleInfo

def OracleServer.start : OracleServer := ⟨fun _ => none⟩

section Handlers

variable (settings : OracleSettings) (contracts : Address → OracleContract)
  (server : OracleServer) (request : SignRequest)

/-- The URLs kept of the first `max_source_rpcs`. -/
def safeUrls (contract : OracleContract) : List String :=
  (((contract.sourceRpcUrls.take settings.maxSourceRpcs).zip request.verdicts).filter
    Prod.snd).map Prod.fst

/-- `oracle_info` without its cache. -/
def readInfo (contract : OracleContract) : Except (Fault OracleError) OracleInfo :=
  if request.reads = false then .error (.failed .readFailed)
  else if contract.registry ≠ settings.registry then
    .error (.failed (.differentRegistry request.oracle contract.registry))
  else
    let quorum := narrow (UInt64.ofNat (2 ^ 64 - 1)) contract.sourceRpcQuorum
    let safe := safeUrls settings request contract
    if safe.length < quorum.toNat then
      .error (.failed (.fewSafeRpcs request.oracle safe.length quorum))
    else .ok {
      sourceChainId := narrow 0 contract.expectedSourceChainId
      minConfirmations := narrow 0 contract.minConfirmations
      mandateFinalized := contract.mandateFinalized
      rpcUrls := safe
      quorum }

def oracleInfo : OracleServer × Except (Fault OracleError) OracleInfo :=
  match if request.missed then none else server.cache request.oracle with
  | some info => (server, .ok info)
  | none =>
      match readInfo settings request (contracts request.oracle) with
      | .error fault => (server, .error fault)
      | .ok info =>
          (⟨Function.update server.cache request.oracle (some info)⟩, .ok info)

def expect {Value : Type} (error : OracleError) :
    Option Value → Except (Fault OracleError) Value
  | none => .error (.failed error)
  | some value => .ok value

def report (info : OracleInfo) (confirmed : Confirmed) (now : UInt64) : BlockHashReport where
  sourceChainId := info.sourceChainId
  blockNumber := request.blockNumber
  blockHash := confirmed.blockHash
  requiredConfirmations := info.minConfirmations
  observedConfirmations := confirmed.observedConfirmations
  quorumTip := confirmed.quorumTip
  observedQuorum := confirmed.observedQuorum
  requireFinalized := info.mandateFinalized
  finalizedBlockNumber := confirmed.finalizedBlockNumber
  expiresAt := now + settings.reportTtlSecs
  signerEpoch := settings.signerEpoch

def fetchFor (info : OracleInfo) : Except (Fault FetchError) Confirmed :=
  fetchConfirmed request.order (request.votes info) info.quorum request.blockNumber
    info.minConfirmations info.mandateFinalized

/-- `sign_for` once the configuration is there. -/
def signWith (info : OracleInfo) : Except (Fault OracleError) SignedReport := do
  let confirmed ← (fetchFor request info).mapError (Fault.map OracleError.fetch)
  let now ← expect .clock request.now
  let signature ← expect .signing request.signature
  pure {
    oracle := request.oracle
    report := report settings request info confirmed now
    signature }

def signFor : OracleServer × Except (Fault OracleError) SignedReport :=
  ((oracleInfo settings contracts server request).1,
    (oracleInfo settings contracts server request).2 >>= signWith settings request)

end Handlers

def serve (settings : OracleSettings) (contracts : Address → OracleContract)
    (requests : List SignRequest) : OracleServer :=
  run (fun server request => (signFor settings contracts server request).1) .start requests

/-! ### Narrowing -/

theorem narrow_toNat {default : UInt64} {value : Nat} (fits : value < 2 ^ 64) :
    (narrow default value).toNat = value := by
  rw [narrow, if_pos fits, UInt64.toNat_ofNat_of_lt' fits]

theorem narrow_eq {default : UInt64} {value : Nat} (wide : ¬value < 2 ^ 64) :
    narrow default value = default := if_neg wide

/-! ### The cache -/

structure ReadFrom (contract : OracleContract) (info : OracleInfo) : Prop where
  confirmations : info.minConfirmations = narrow 0 contract.minConfirmations
  finality : info.mandateFinalized = contract.mandateFinalized
  quorum : info.quorum.toNat = contract.sourceRpcQuorum
  members : info.rpcUrls.length < 2 ^ 63

section Cached

variable {settings : OracleSettings} {contracts : Address → OracleContract}
  {server : OracleServer} {request : SignRequest}

theorem safeUrls_length_le (settings : OracleSettings) (request : SignRequest)
    (contract : OracleContract) :
    (safeUrls settings request contract).length ≤ contract.sourceRpcUrls.length := by
  rw [safeUrls, List.length_map]
  refine (List.length_filter_le _ _).trans ?_
  rw [List.length_zip]
  exact (Nat.min_le_left ..).trans (List.length_take_le' ..)

/-- The check against the number of safe URLs excludes a quorum that was narrowed. -/
theorem readInfo_readFrom {contract : OracleContract} {info : OracleInfo}
    (read : readInfo settings request contract = .ok info) : ReadFrom contract info := by
  have members := (safeUrls_length_le settings request contract).trans_lt contract.urls_fit
  unfold readInfo at read
  split at read
  · cases read
  · split at read
    · cases read
    · dsimp only at read
      split at read
      · cases read
      · rename_i enough
        cases read
        have fits : contract.sourceRpcQuorum < 2 ^ 64 := by
          by_contra wide
          rw [narrow_eq wide] at enough
          have largest : (UInt64.ofNat (2 ^ 64 - 1)).toNat = 2 ^ 64 - 1 := by decide
          omega
        exact ⟨rfl, rfl, narrow_toNat fits, members⟩

/-- Every entry was read from its contract. -/
def Cached (contracts : Address → OracleContract) (server : OracleServer) : Prop :=
  ∀ oracle info, server.cache oracle = some info → ReadFrom (contracts oracle) info

theorem cached_start : Cached contracts .start := by
  intro oracle info absent
  cases absent

theorem oracleInfo_readFrom (cached : Cached contracts server) {info : OracleInfo}
    (given : (oracleInfo settings contracts server request).2 = .ok info) :
    ReadFrom (contracts request.oracle) info := by
  unfold oracleInfo at given
  split at given
  · rename_i present found
    cases given
    split at found
    · cases found
    · exact cached _ _ found
  · split at given
    · cases given
    · rename_i fresh read
      cases given
      exact readInfo_readFrom read

/-- **One request** adds at most what it read. -/
theorem signFor_cached (cached : Cached contracts server) :
    Cached contracts (signFor settings contracts server request).1 := by
  change Cached contracts (oracleInfo settings contracts server request).1
  unfold oracleInfo
  split
  · exact cached
  · split
    · exact cached
    · rename_i fresh read
      intro oracle info found
      change Function.update server.cache request.oracle (some fresh) oracle = some info at found
      by_cases same : oracle = request.oracle
      · subst same
        rw [Function.update_self] at found
        cases found
        exact readInfo_readFrom read
      · rw [Function.update_of_ne same] at found
        exact cached oracle info found

/-- **Every run.** -/
theorem serve_cached (settings : OracleSettings) (contracts : Address → OracleContract)
    (requests : List SignRequest) : Cached contracts (serve settings contracts requests) := by
  have along : Along (fun server request => (signFor settings contracts server request).1)
      (fun _ _ => True) .start requests := Along.of_forall_mem _ fun _ _ => trivial
  exact along.keeps (Cached contracts) (fun _ _ cached _ => signFor_cached cached) cached_start

end Cached

end CrFaucet.Oracle
