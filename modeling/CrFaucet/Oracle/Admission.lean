import CrFaucet.Interaction.Pool
import CrFaucet.Oracle.Server
import CrFaucet.Oracle.Ssrf

/-!
Owns the requests of `crossroads_oracle::server` at the grain of their awaits: `oracle_info` with
its six calls to the contract, the check of each URL and the cache, and `sign_for` with the polls of the
committee. Any number of requests run side by side, and the contracts and the resolver say something
else whenever they like.

Anyone may deploy an oracle contract and list any URL in it. The server fetches a URL only for a
contract that named its own registry when it was asked, and only after every address the host
resolved to was found routable. `registries` and `lookups` are ghosts: what the contracts and the
resolver answered so far.

Does not own the limiter in front, or what the committee's votes come to; see `Oracle.Source`.
-/

set_option autoImplicit false

namespace CrFaucet.Oracle.Admission

open Interaction Tally
open Token (Address)

/-! ### Commands -/

inductive Command where
  | cached (oracle : Address)
  | registry (oracle : Address)
  | expectedSourceChainId (oracle : Address)
  | minConfirmations (oracle : Address)
  | mandateFinalized (oracle : Address)
  | sourceRpcUrls (oracle : Address)
  | sourceRpcQuorum (oracle : Address)
  | lookupHost (host : String) (port : Nat)
  | insert (oracle : Address) (info : OracleInfo)
  /-- `poll_member`, with the oracle it is made for. -/
  | poll (oracle : Address) (url : String) (blockNumber : UInt64) (wantFinalized : Bool)
  | now
  | sign (oracle : Address) (report : BlockHashReport)

/-- `none` is an error of the call. -/
abbrev Reply : Command → Type
  | .cached _ => Option OracleInfo
  | .registry _ => Option Address
  | .expectedSourceChainId _ => Option Nat
  | .minConfirmations _ => Option Nat
  | .mandateFinalized _ => Option Bool
  | .sourceRpcUrls _ => Option (List String)
  | .sourceRpcQuorum _ => Option Nat
  | .lookupHost _ _ => Option (List IpAddr)
  | .insert _ _ => Unit
  | .poll _ _ _ _ => MemberVote
  | .now => Option UInt64
  | .sign _ _ => Option (List UInt8)

abbrev Handler (Result : Type) := Program Command Reply Result

def send (command : Command) : Handler (Reply command) := Program.call command

/-! ### The handlers -/

section Handlers

variable (parse : String → Option ParsedUrl)

def assertPublicUrl (raw : String) : Handler (Except UrlError Unit) :=
  match urlTarget parse raw with
  | .error error => return .error error
  | .ok (host, port) => do
      let looked ← send (.lookupHost host port)
      return vetAddresses host looked

/-- The URLs that pass, in order. -/
def keepSafe : List String → Handler (List String)
  | [] => return []
  | url :: rest => do
      match ← assertPublicUrl parse url with
      | .ok _ => do
          let safe ← keepSafe rest
          return url :: safe
      | .error _ => keepSafe rest

variable (settings : OracleSettings)

/-- `oracle_info` from the vetted URLs on. -/
def cacheInfo (oracle : Address) (sourceChainId minConfirmations : UInt64) (mandateFinalized : Bool)
    (safe : List String) (quorum : UInt64) : Handler (Except (Fault OracleError) OracleInfo) :=
  if safe.length < quorum.toNat then
    return .error (.failed (.fewSafeRpcs oracle safe.length quorum))
  else do
    let info : OracleInfo :=
      { sourceChainId, minConfirmations, mandateFinalized, rpcUrls := safe, quorum }
    let _ ← send (.insert oracle info)
    return .ok info

/-- `oracle_info` after the check of the registry. -/
def readConfig (oracle : Address) : Handler (Except (Fault OracleError) OracleInfo) := do
  match ← send (.expectedSourceChainId oracle) with
  | none => return .error (.failed .readFailed)
  | some chainId =>
  match ← send (.minConfirmations oracle) with
  | none => return .error (.failed .readFailed)
  | some confirmations =>
  match ← send (.mandateFinalized oracle) with
  | none => return .error (.failed .readFailed)
  | some mandateFinalized =>
  match ← send (.sourceRpcUrls oracle) with
  | none => return .error (.failed .readFailed)
  | some urls =>
  match ← send (.sourceRpcQuorum oracle) with
  | none => return .error (.failed .readFailed)
  | some quorum => do
      let safe ← keepSafe parse (urls.take settings.maxSourceRpcs)
      cacheInfo oracle (narrow 0 chainId) (narrow 0 confirmations) mandateFinalized safe
        (narrow (UInt64.ofNat (2 ^ 64 - 1)) quorum)

def oracleInfo (oracle : Address) : Handler (Except (Fault OracleError) OracleInfo) := do
  match ← send (.cached oracle) with
  | some info => return .ok info
  | none =>
      match ← send (.registry oracle) with
      | none => return .error (.failed .readFailed)
      | some registry =>
          if registry ≠ settings.registry then
            return .error (.failed (.differentRegistry oracle registry))
          else readConfig parse settings oracle

/-- The votes of the committee. -/
def pollAll (oracle : Address) (blockNumber : UInt64) (wantFinalized : Bool) :
    List String → Handler (List MemberVote)
  | [] => return []
  | url :: rest => do
      let vote ← send (.poll oracle url blockNumber wantFinalized)
      let votes ← pollAll oracle blockNumber wantFinalized rest
      return pollMember wantFinalized vote :: votes

structure Query where
  oracle : Address
  blockNumber : UInt64
  order : IterationOrder (B256 × Nat)

def reportOn (query : Query) (info : OracleInfo) (confirmed : Confirmed) (now : UInt64) :
    BlockHashReport where
  sourceChainId := info.sourceChainId
  blockNumber := query.blockNumber
  blockHash := confirmed.blockHash
  requiredConfirmations := info.minConfirmations
  observedConfirmations := confirmed.observedConfirmations
  quorumTip := confirmed.quorumTip
  observedQuorum := confirmed.observedQuorum
  requireFinalized := info.mandateFinalized
  finalizedBlockNumber := confirmed.finalizedBlockNumber
  expiresAt := now + settings.reportTtlSecs
  signerEpoch := settings.signerEpoch

/-- `sign_for` from the confirmed block on. -/
def signConfirmed (query : Query) (info : OracleInfo) (confirmed : Confirmed) :
    Handler (Except (Fault OracleError) SignedReport) := do
  match ← send .now with
  | none => return .error (.failed .clock)
  | some now =>
      let report := reportOn settings query info confirmed now
      match ← send (.sign query.oracle report) with
      | none => return .error (.failed .signing)
      | some signature => return .ok { oracle := query.oracle, report, signature }

def signFor (query : Query) : Handler (Except (Fault OracleError) SignedReport) := do
  match ← oracleInfo parse settings query.oracle with
  | .error fault => return .error fault
  | .ok info => do
      let votes ← pollAll query.oracle query.blockNumber info.mandateFinalized info.rpcUrls
      match fetchConfirmed query.order votes info.quorum query.blockNumber info.minConfirmations
          info.mandateFinalized with
      | .error fault => return .error (fault.map OracleError.fetch)
      | .ok confirmed => signConfirmed settings query info confirmed

end Handlers

/-! ### The world -/

structure World where
  cache : Address → Option OracleInfo
  contracts : Address → OracleContract
  registries : List (Address × Address)
  lookups : List (String × Nat × List IpAddr)

def World.start (contracts : Address → OracleContract) : World where
  cache := fun _ => none
  contracts := contracts
  registries := []
  lookups := []

/-- Everything the outside decides about one command. -/
structure Answer where
  /-- Whether a call to a contract succeeds. -/
  reads : Bool := true
  addresses : Option (List IpAddr) := none
  vote : MemberVote := ⟨none, none, none⟩
  now : Option UInt64 := none
  signature : Option (List UInt8) := none

/-- A call to a contract. -/
def Answer.read {Value : Type} (answer : Answer) (value : Value) : Option Value :=
  if answer.reads then some value else none

def exec (world : World) : (command : Command) → Answer → World × Reply command
  | .cached oracle, _ => (world, world.cache oracle)
  | .registry oracle, answer =>
      match answer.read (world.contracts oracle).registry with
      | none => (world, none)
      | some registry =>
          ({ world with registries := world.registries ++ [(oracle, registry)] }, some registry)
  | .expectedSourceChainId oracle, answer =>
      (world, answer.read (world.contracts oracle).expectedSourceChainId)
  | .minConfirmations oracle, answer =>
      (world, answer.read (world.contracts oracle).minConfirmations)
  | .mandateFinalized oracle, answer =>
      (world, answer.read (world.contracts oracle).mandateFinalized)
  | .sourceRpcUrls oracle, answer => (world, answer.read (world.contracts oracle).sourceRpcUrls)
  | .sourceRpcQuorum oracle, answer =>
      (world, answer.read (world.contracts oracle).sourceRpcQuorum)
  | .lookupHost host port, answer =>
      match answer.addresses with
      | none => (world, none)
      | some addresses =>
          ({ world with lookups := world.lookups ++ [(host, port, addresses)] }, some addresses)
  | .insert oracle info, _ =>
      ({ world with cache := Function.update world.cache oracle (some info) }, ())
  | .poll _ _ _ _, answer => (world, answer.vote)
  | .now, answer => (world, answer.now)
  | .sign _ _, answer => (world, answer.signature)

/-- A contract is deployed or changed. -/
structure Event where
  oracle : Address
  contract : OracleContract

def World.occur (world : World) (event : Event) : World :=
  { world with contracts := Function.update world.contracts event.oracle event.contract }

/-- A server and the requests it gets. -/
structure Deployment (Thread : Type) where
  settings : OracleSettings
  parse : String → Option ParsedUrl
  query : Thread → Query

def Deployment.machine {Thread : Type} (deployment : Deployment Thread) :
    Machine Thread World Command Reply Answer Event where
  exec := fun _ world command answer => some (exec world command answer)
  event := World.occur
  abandon := fun _ world => world
  main := fun thread => do
    let _ ← signFor deployment.parse deployment.settings (deployment.query thread)
    return ()

/-! ### What the server may rely on -/

/-- The URL may be fetched: its host resolved, and to routable addresses only. -/
def Vetted (parse : String → Option ParsedUrl) (lookups : List (String × Nat × List IpAddr))
    (url : String) : Prop :=
  ∃ host port addresses, urlTarget parse url = .ok (host, port) ∧
    (host, port, addresses) ∈ lookups ∧ addresses ≠ [] ∧ ∀ address ∈ addresses, address.Routable

/-- The configuration may be used for the oracle: the contract named our registry, every URL is
vetted, there are no more than the settings allow and no fewer than the quorum. -/
structure Admitted (settings : OracleSettings) (parse : String → Option ParsedUrl)
    (registries : List (Address × Address)) (lookups : List (String × Nat × List IpAddr))
    (oracle : Address) (info : OracleInfo) : Prop where
  ours : (oracle, settings.registry) ∈ registries
  vetted : ∀ url ∈ info.rpcUrls, Vetted parse lookups url
  few : info.rpcUrls.length ≤ settings.maxSourceRpcs
  enough : info.quorum.toNat ≤ info.rpcUrls.length

section Grows

variable {settings : OracleSettings} {parse : String → Option ParsedUrl}
  {registries registries' : List (Address × Address)}
  {lookups lookups' : List (String × Nat × List IpAddr)}

theorem Vetted.mono {url : String} (vetted : Vetted parse lookups url)
    (more : lookups ⊆ lookups') : Vetted parse lookups' url := by
  obtain ⟨host, port, addresses, target, looked, found⟩ := vetted
  exact ⟨host, port, addresses, target, more looked, found⟩

theorem Admitted.mono {oracle : Address} {info : OracleInfo}
    (admitted : Admitted settings parse registries lookups oracle info)
    (moreRegistries : registries ⊆ registries') (moreLookups : lookups ⊆ lookups') :
    Admitted settings parse registries' lookups' oracle info :=
  ⟨moreRegistries admitted.ours, fun url member => (admitted.vetted url member).mono moreLookups,
    admitted.few, admitted.enough⟩

end Grows

/-- What a request has heard, and the configuration it goes by. -/
structure Heard where
  registries : List (Address × Address) := []
  lookups : List (String × Nat × List IpAddr) := []
  config : Option (Address × OracleInfo) := none

def Heard.permits (settings : OracleSettings) (parse : String → Option ParsedUrl) (heard : Heard) :
    Command → Prop
  | .insert oracle info => Admitted settings parse heard.registries heard.lookups oracle info
  | .poll oracle url _ _ => ∃ info, heard.config = some (oracle, info) ∧ url ∈ info.rpcUrls
  | .sign oracle report => ∃ info, heard.config = some (oracle, info) ∧
      report.sourceChainId = info.sourceChainId ∧
      report.requiredConfirmations = info.minConfirmations ∧
      report.requireFinalized = info.mandateFinalized
  | _ => True

def Heard.after (heard : Heard) : (command : Command) → Reply command → Heard
  | .registry oracle, some registry =>
      { heard with registries := heard.registries ++ [(oracle, registry)] }
  | .lookupHost host port, some addresses =>
      { heard with lookups := heard.lookups ++ [(host, port, addresses)] }
  | .cached oracle, some info => { heard with config := some (oracle, info) }
  | .insert oracle info, _ => { heard with config := some (oracle, info) }
  | _, _ => heard

def heardDiscipline (settings : OracleSettings) (parse : String → Option ParsedUrl) :
    Discipline Command Reply Heard where
  start := {}
  permits := Heard.permits settings parse
  after := Heard.after

/-! ### Every request goes by what it has heard -/

section Obeys

variable {settings : OracleSettings} {parse : String → Option ParsedUrl} {heard : Heard}
  {oracle : Address}

theorem assertPublicUrl_obeys (raw : String) :
    (assertPublicUrl parse raw).Obeys (heardDiscipline settings parse) heard fun after result =>
      after.registries = heard.registries ∧ heard.lookups ⊆ after.lookups ∧
        (result = .ok () → Vetted parse after.lookups raw) := by
  unfold assertPublicUrl
  split
  · exact ⟨rfl, List.Subset.refl _, fun passed => by cases passed⟩
  · rename_i host port target
    apply Program.obeys_call trivial
    intro looked
    cases looked with
    | none => exact ⟨rfl, List.Subset.refl _, fun passed => by cases passed⟩
    | some addresses =>
        refine ⟨rfl, List.subset_append_left _ _, fun passed => ?_⟩
        obtain ⟨found, same, some, routable⟩ := vetAddresses_ok passed
        cases same
        exact ⟨host, port, addresses, target, List.mem_append_right _ List.mem_cons_self, some,
          routable⟩

/-- What is kept is vetted and no more than what was listed, by induction on the list. -/
theorem keepSafe_obeys (urls : List String) :
    (keepSafe parse urls).Obeys (heardDiscipline settings parse) heard fun after safe =>
      after.registries = heard.registries ∧ heard.lookups ⊆ after.lookups ∧
        (∀ url ∈ safe, Vetted parse after.lookups url) ∧ safe.length ≤ urls.length := by
  induction urls generalizing heard with
  | nil =>
      refine ⟨rfl, List.Subset.refl _, fun url member => ?_, Nat.le_refl _⟩
      cases member
  | cons url rest inductionHypothesis =>
      apply (assertPublicUrl_obeys url).bind
      intro checked result ⟨sameRegistries, more, passed⟩
      cases result with
      | error error =>
          apply inductionHypothesis.weaken
          intro after safe ⟨same, grown, vetted, fewer⟩
          exact ⟨same.trans sameRegistries, List.Subset.trans more grown, vetted,
            Nat.le_succ_of_le fewer⟩
      | ok _ =>
          apply inductionHypothesis.bind
          intro after safe ⟨same, grown, vetted, fewer⟩
          refine ⟨same.trans sameRegistries, List.Subset.trans more grown, ?_,
            Nat.succ_le_succ fewer⟩
          intro kept member
          rcases List.mem_cons.1 member with rfl | later
          · exact (passed rfl).mono grown
          · exact vetted kept later

/-- The configuration that comes back is the one the request goes by. -/
abbrev GoesBy (oracle : Address) (after : Heard)
    (result : Except (Fault OracleError) OracleInfo) : Prop :=
  ∀ info, result = .ok info → after.config = some (oracle, info)

theorem goesBy_error {after : Heard} {fault : Fault OracleError} :
    GoesBy oracle after (.error fault) := by
  intro info given
  cases given

theorem admit_obeys (ours : (oracle, settings.registry) ∈ heard.registries)
    (sourceChainId minConfirmations : UInt64) (mandateFinalized : Bool) {safe : List String}
    (vetted : ∀ url ∈ safe, Vetted parse heard.lookups url)
    (few : safe.length ≤ settings.maxSourceRpcs) (quorum : UInt64) :
    (cacheInfo oracle sourceChainId minConfirmations mandateFinalized safe quorum).Obeys
      (heardDiscipline settings parse) heard (GoesBy oracle) := by
  unfold cacheInfo
  split
  · exact goesBy_error
  · rename_i enough
    apply Program.obeys_call
    · exact ⟨ours, vetted, few, Nat.not_lt.1 enough⟩
    intro _ info given
    cases given
    rfl

theorem readConfig_obeys (ours : (oracle, settings.registry) ∈ heard.registries) :
    (readConfig parse settings oracle).Obeys (heardDiscipline settings parse) heard
      (GoesBy oracle) := by
  apply Program.obeys_call trivial
  intro chainId
  cases chainId with
  | none => exact goesBy_error
  | some chainId =>
  apply Program.obeys_call trivial
  intro confirmations
  cases confirmations with
  | none => exact goesBy_error
  | some confirmations =>
  apply Program.obeys_call trivial
  intro mandate
  cases mandate with
  | none => exact goesBy_error
  | some mandate =>
  apply Program.obeys_call trivial
  intro urls
  cases urls with
  | none => exact goesBy_error
  | some urls =>
  apply Program.obeys_call trivial
  intro quorum
  cases quorum with
  | none => exact goesBy_error
  | some quorum =>
      apply (keepSafe_obeys (urls.take settings.maxSourceRpcs)).bind
      intro after safe ⟨same, _, vetted, fewer⟩
      have few : safe.length ≤ settings.maxSourceRpcs :=
        Nat.le_trans fewer (List.length_take_le _ _)
      exact admit_obeys (same ▸ ours) _ _ mandate vetted few _

theorem oracleInfo_obeys (oracle : Address) :
    (oracleInfo parse settings oracle).Obeys (heardDiscipline settings parse) heard
      (GoesBy oracle) := by
  apply Program.obeys_call trivial
  intro cached
  cases cached with
  | some info =>
      intro given same
      cases same
      rfl
  | none =>
      apply Program.obeys_call trivial
      intro registry
      cases registry with
      | none => exact goesBy_error
      | some registry =>
          dsimp only
          split
          · exact goesBy_error
          · rename_i ours
            apply readConfig_obeys
            rw [← Classical.not_not.1 ours]
            exact List.mem_append_right _ List.mem_cons_self

/-- The polls of a committee, by induction on the URLs that are left. -/
theorem pollAll_obeys {info : OracleInfo} (blockNumber : UInt64)
    (wantFinalized : Bool) (goesBy : heard.config = some (oracle, info)) {urls : List String}
    (listed : urls ⊆ info.rpcUrls) :
    (pollAll oracle blockNumber wantFinalized urls).Obeys (heardDiscipline settings parse) heard
      fun after _ => after = heard := by
  induction urls with
  | nil => rfl
  | cons url rest inductionHypothesis =>
      apply Program.obeys_call
      · exact ⟨info, goesBy, listed List.mem_cons_self⟩
      intro vote
      apply (inductionHypothesis (List.Subset.trans (List.subset_cons_self _ _) listed)).bind
      intro after votes same
      exact same

theorem signFor_obeys (query : Query) :
    (signFor parse settings query).Obeys (heardDiscipline settings parse) heard
      fun _ _ => True := by
  apply (oracleInfo_obeys query.oracle).bind
  intro after result goesBy
  cases result with
  | error fault => trivial
  | ok info =>
      have config := goesBy info rfl
      apply (pollAll_obeys query.blockNumber info.mandateFinalized config
        (List.Subset.refl _)).bind
      rintro _ votes rfl
      split
      · trivial
      · rename_i confirmed _
        apply Program.obeys_call trivial
        intro now
        cases now with
        | none => trivial
        | some now =>
            apply Program.obeys_call
            · exact ⟨info, config, rfl, rfl, rfl⟩
            intro signature
            cases signature with
            | none => trivial
            | some signature => trivial

end Obeys

/-! ### Every run -/

/-- The cached configurations are admitted by what was ever heard, and so is whatever a request goes
by; what a request has heard, it was told. -/
structure Trusted {Thread : Type} (settings : OracleSettings)
    (parse : String → Option ParsedUrl) (world : World) (heard : Thread → Heard) : Prop where
  cached : ∀ oracle info, world.cache oracle = some info →
    Admitted settings parse world.registries world.lookups oracle info
  config : ∀ thread oracle info, (heard thread).config = some (oracle, info) →
    Admitted settings parse world.registries world.lookups oracle info
  registries : ∀ thread, (heard thread).registries ⊆ world.registries
  lookups : ∀ thread, (heard thread).lookups ⊆ world.lookups

section Step

variable {Thread : Type} {settings : OracleSettings} {parse : String → Option ParsedUrl}
  {world : World} {heard : Thread → Heard} {command : Command} {answer : Answer}
  {oracle : Address} {info : OracleInfo}

theorem exec_records (world : World) (command : Command) (answer : Answer) (own : Heard) :
    ∃ registries lookups,
      (exec world command answer).1.registries = world.registries ++ registries ∧
      (exec world command answer).1.lookups = world.lookups ++ lookups ∧
      (own.after command (exec world command answer).2).registries = own.registries ++ registries ∧
      (own.after command (exec world command answer).2).lookups = own.lookups ++ lookups := by
  cases command with
  | registry oracle =>
      cases read : answer.read (world.contracts oracle).registry with
      | none =>
          refine ⟨[], [], ?_⟩
          simp only [exec, read, Heard.after, List.append_nil, and_self]
      | some registry =>
          refine ⟨[(oracle, registry)], [], ?_⟩
          simp only [exec, read, Heard.after, List.append_nil, and_self]
  | lookupHost host port =>
      cases looked : answer.addresses with
      | none =>
          refine ⟨[], [], ?_⟩
          simp only [exec, looked, Heard.after, List.append_nil, and_self]
      | some addresses =>
          refine ⟨[], [(host, port, addresses)], ?_⟩
          simp only [exec, looked, Heard.after, List.append_nil, and_self]
  | cached oracle =>
      refine ⟨[], [], ?_⟩
      cases found : world.cache oracle with
      | none => simp only [exec, found, Heard.after, List.append_nil, and_self]
      | some info => simp only [exec, found, Heard.after, List.append_nil, and_self]
  | _ =>
      refine ⟨[], [], ?_⟩
      simp only [exec, Heard.after, List.append_nil, and_self]

theorem exec_cache
    (found : (exec world command answer).1.cache oracle = some info) :
    world.cache oracle = some info ∨ command = .insert oracle info := by
  cases command with
  | insert written config =>
      by_cases same : oracle = written
      · subst same
        have isConfig : Function.update world.cache oracle (some config) oracle = some info := found
        rw [Function.update_self] at isConfig
        cases isConfig
        exact Or.inr rfl
      · have before : Function.update world.cache written (some config) oracle = some info := found
        rw [Function.update_of_ne same] at before
        exact Or.inl before
  | registry asked =>
      refine Or.inl ?_
      cases read : answer.read (world.contracts asked).registry with
      | none => simpa only [exec, read] using found
      | some registry => simpa only [exec, read] using found
  | lookupHost host port =>
      refine Or.inl ?_
      cases looked : answer.addresses with
      | none => simpa only [exec, looked] using found
      | some addresses => simpa only [exec, looked] using found
  | _ => exact Or.inl found

theorem config_after {own : Heard}
    (goesBy : (own.after command (exec world command answer).2).config = some (oracle, info)) :
    own.config = some (oracle, info) ∨ world.cache oracle = some info ∨
      command = .insert oracle info := by
  cases command with
  | cached asked =>
      cases found : world.cache asked with
      | none => exact Or.inl (by simpa only [exec, found, Heard.after] using goesBy)
      | some cached =>
          simp only [exec, found, Heard.after, Option.some.injEq, Prod.mk.injEq] at goesBy
          obtain ⟨rfl, rfl⟩ := goesBy
          exact Or.inr (Or.inl found)
  | insert written config =>
      simp only [Heard.after, Option.some.injEq, Prod.mk.injEq] at goesBy
      obtain ⟨rfl, rfl⟩ := goesBy
      exact Or.inr (Or.inr rfl)
  | registry asked =>
      cases read : answer.read (world.contracts asked).registry with
      | none => exact Or.inl (by simpa only [exec, read, Heard.after] using goesBy)
      | some registry => exact Or.inl (by simpa only [exec, read, Heard.after] using goesBy)
  | lookupHost host port =>
      cases looked : answer.addresses with
      | none => exact Or.inl (by simpa only [exec, looked, Heard.after] using goesBy)
      | some addresses => exact Or.inl (by simpa only [exec, looked, Heard.after] using goesBy)
  | _ => exact Or.inl goesBy

variable [DecidableEq Thread]

/-- **The step lemma.** -/
theorem Trusted.step (trusted : Trusted settings parse world heard) {thread : Thread}
    {command : Command} (answer : Answer)
    (permitted : (heardDiscipline settings parse).permits (heard thread) command) :
    Trusted settings parse (exec world command answer).1
      (Function.update heard thread
        ((heard thread).after command (exec world command answer).2)) := by
  obtain ⟨registries, lookups, worldRegistries, worldLookups, ownRegistries, ownLookups⟩ :=
    exec_records world command answer (heard thread)
  have moreRegistries : world.registries ⊆ (exec world command answer).1.registries := by
    rw [worldRegistries]
    exact List.subset_append_left _ _
  have moreLookups : world.lookups ⊆ (exec world command answer).1.lookups := by
    rw [worldLookups]
    exact List.subset_append_left _ _
  have inserted : ∀ oracle info, command = .insert oracle info →
      Admitted settings parse world.registries world.lookups oracle info := by
    rintro oracle info rfl
    exact Admitted.mono permitted (trusted.registries thread) (trusted.lookups thread)
  refine ⟨?_, ?_, ?_, ?_⟩
  · intro oracle info found
    refine Admitted.mono ?_ moreRegistries moreLookups
    rcases exec_cache found with before | isInsert
    · exact trusted.cached oracle info before
    · exact inserted oracle info isInsert
  · intro other oracle info goesBy
    refine Admitted.mono ?_ moreRegistries moreLookups
    by_cases same : other = thread
    · subst same
      rw [Function.update_self] at goesBy
      rcases config_after goesBy with before | found | isInsert
      · exact trusted.config other oracle info before
      · exact trusted.cached oracle info found
      · exact inserted oracle info isInsert
    · rw [Function.update_of_ne same] at goesBy
      exact trusted.config other oracle info goesBy
  · intro other
    by_cases same : other = thread
    · subst same
      rw [Function.update_self, ownRegistries, worldRegistries]
      exact List.append_subset.2 ⟨List.Subset.trans (trusted.registries other)
        (List.subset_append_left _ _), List.subset_append_right _ _⟩
    · rw [Function.update_of_ne same]
      exact List.Subset.trans (trusted.registries other) moreRegistries
  · intro other
    by_cases same : other = thread
    · subst same
      rw [Function.update_self, ownLookups, worldLookups]
      exact List.append_subset.2 ⟨List.Subset.trans (trusted.lookups other)
        (List.subset_append_left _ _), List.subset_append_right _ _⟩
    · rw [Function.update_of_ne same]
      exact List.Subset.trans (trusted.lookups other) moreLookups

end Step

section Runs

variable {Thread : Type} [DecidableEq Thread] (deployment : Deployment Thread)

abbrev Deployment.heard : Discipline Command Reply Heard :=
  heardDiscipline deployment.settings deployment.parse

theorem trusted_invariant :
    Invariant deployment.machine deployment.heard (fun _ _ => True)
      (Trusted deployment.settings deployment.parse) where
  step := by
    intro pool thread answer command next world reply _ permitted answered _ trusted
    have same := Option.some.inj answered
    have isWorld : (exec pool.world command answer).1 = world := congrArg Prod.fst same
    have isReply : (exec pool.world command answer).2 = reply := congrArg Prod.snd same
    subst isWorld isReply
    exact trusted.step answer permitted
  restart := by
    intro pool thread _ trusted
    refine ⟨trusted.cached, ?_, ?_, ?_⟩
    · intro other oracle info goesBy
      by_cases same : other = thread
      · subst same
        rw [Function.update_self] at goesBy
        cases goesBy
      · rw [Function.update_of_ne same] at goesBy
        exact trusted.config other oracle info goesBy
    · intro other
      by_cases same : other = thread
      · subst same
        rw [Function.update_self]
        exact List.nil_subset _
      · rw [Function.update_of_ne same]
        exact trusted.registries other
    · intro other
      by_cases same : other = thread
      · subst same
        rw [Function.update_self]
        exact List.nil_subset _
      · rw [Function.update_of_ne same]
        exact trusted.lookups other
  event := by
    intro pool event _ trusted
    exact ⟨trusted.cached, trusted.config, trusted.registries, trusted.lookups⟩

omit [DecidableEq Thread] in
theorem main_obeys (thread : Thread) :
    (deployment.machine.main thread).Obeys deployment.heard deployment.heard.start
      fun _ _ => True :=
  (signFor_obeys (deployment.query thread)).bind fun _ _ _ => trivial

/-- Where a server and its requests begin. -/
def Deployment.start (contracts : Address → OracleContract) :
    Pool Thread World Command Reply Heard :=
  Pool.initial deployment.machine deployment.heard (World.start contracts)

def Deployment.reached (contracts : Address → OracleContract)
    (actions : List (Action Thread Answer Event)) : Pool Thread World Command Reply Heard :=
  run (Pool.move deployment.machine deployment.heard) (deployment.start contracts) actions

theorem reached_trusted (contracts : Address → OracleContract)
    (actions : List (Action Thread Answer Event)) :
    Trusted deployment.settings deployment.parse (deployment.reached contracts actions).world
      (deployment.reached contracts actions).stage := by
  have along : Along (Pool.move deployment.machine deployment.heard) (fun _ _ => True)
      (deployment.start contracts) actions := Along.of_forall_mem _ fun _ _ => trivial
  refine (trusted_invariant deployment).run (main_obeys deployment)
    (Pool.initial_disciplined _ (main_obeys deployment)) along ?_
  refine ⟨?_, ?_, fun _ => List.nil_subset _, fun _ => List.nil_subset _⟩
  · intro oracle info absent
    cases absent
  · intro thread oracle info absent
    cases absent

/-- The configuration is admitted by what was heard up to now. -/
def Deployment.AdmittedIn (world : World) (oracle : Address) (info : OracleInfo) : Prop :=
  Admitted deployment.settings deployment.parse world.registries world.lookups oracle info

end Runs

/-! ### A committee of one -/

def oneRequest : Deployment Unit where
  settings := { registry := 7, maxSourceRpcs := 8, reportTtlSecs := 600, signerEpoch := 1 }
  parse := fun _ => some ⟨"https", some "rpc", none⟩
  query := fun _ => ⟨1, 100, .listed⟩

def trustingContract : OracleContract where
  registry := 7
  expectedSourceChainId := 1
  minConfirmations := 6
  mandateFinalized := false
  sourceRpcUrls := ["https://rpc"]
  sourceRpcQuorum := 1
  urls_fit := by decide

/-- Nine awaits up to the poll, and the contract then names another registry. -/
def upToPoll : List (Action Unit Answer Event) :=
  List.replicate 9 (.step () { addresses := some [.v4 ⟨1, 1, 1, 1⟩] }) ++
    [.event ⟨1, { trustingContract with registry := 8 }⟩]

end CrFaucet.Oracle.Admission
