import CrFaucet.Governance.Ownership

/-!
Owns what runs of `finalize` may leave behind, wherever they stop and however often they are
repeated: the token does not come into the hands of a governance contract with any other signer
than the enclave, and what is announced as permissionless is so.

The order of the tool carries the argument. A transfer of ownership is sent only after the receipt
of the rotation, and from then on until the deployer gives the token away nobody else can set the
signer.
-/

set_option autoImplicit false

namespace CrFaucet.Governance.Finalize

open Interaction
open Token (Address)

/-- What the runs are for: the token, the signer it is to have and its owner. -/
structure Aim where
  token : Address
  kms : Address
  deployer : Address

/-! ### The order of a run -/

/-- What a run has receipts for. -/
structure Progress where
  deployed : Option Address
  signed : Bool
  handed : Option Address
  renounced : Option Address

def Progress.start : Progress := ⟨none, false, none, none⟩

/-- A transaction has succeeded. -/
def Progress.confirm (progress : Progress) (token : Address) (receipt : Receipt) :
    Transaction → Progress
  | .deploy _ _ => { progress with deployed := receipt.contractAddress }
  | .setSigner _ _ => { progress with signed := true }
  | .transferOwnership contract newOwner =>
      if contract = token then { progress with handed := some newOwner } else progress
  | .renounce governance => { progress with renounced := some governance }

/-- A governance contract there was at the start, or that the run created. -/
def Progress.Knows (known : Address → Prop) (progress : Progress) (governance : Address) : Prop :=
  known governance ∨ progress.deployed = some governance

/-- The signer is rotated to the enclave, and only after that the token given away, to a contract.
Permissionless is announced of what was given away and renounced. -/
def watch (aim : Aim) (known : Address → Prop) : Discipline Command Reply Progress where
  start := .start
  permits progress
    | .submit (.setSigner contract signer) => contract = aim.token ∧ signer = aim.kms
    | .submit (.transferOwnership _ newOwner) =>
        progress.signed = true ∧ progress.Knows known newOwner
    | .submit (.renounce governance) => progress.Knows known governance
    | .println .permissionless => ∃ governance,
        progress.handed = some governance ∧ progress.renounced = some governance
    | _ => True
  after progress
    | .submit transaction, .ok receipt =>
        if receipt.status then progress.confirm aim.token receipt transaction else progress
    | _, _ => progress

section Watched

variable {aim : Aim} {known : Address → Prop} {progress : Progress} {config : FinalizeConfig}
  {parse : String → Option Address}

/-- The configuration is for this token and this signer, and a governance contract that it supplies
is one. -/
structure Aimed (aim : Aim) (known : Address → Prop) (parse : String → Option Address)
    (config : FinalizeConfig) : Prop where
  token : ∀ address, parseTrimmed parse config.token = some address → address = aim.token
  signer : ∀ address, parseTrimmed parse config.kmsSigner = some address → address = aim.kms
  supplied : ∀ governance, parseOpt parse config.governance = some (some governance) →
    known governance

def OnSuccess {Value : Type} (post : Progress → Value → Prop) (after : Progress) :
    Except FinalizeError Value → Prop
  | .ok value => post after value
  | .error _ => True

theorem send_watched (transaction : Transaction)
    (permitted : (watch aim known).permits progress (.submit transaction)) :
    (send transaction).Obeys (watch aim known) progress (OnSuccess fun after receipt =>
      after = progress.confirm aim.token receipt transaction) := by
  apply Program.obeys_call trivial
  intro price
  cases price with
  | none => trivial
  | some _ =>
  apply Program.obeys_call permitted
  intro reply
  cases reply with
  | error error => trivial
  | ok receipt =>
      dsimp only
      split
      · rename_i succeeded
        exact if_pos succeeded
      · trivial

theorem chooseGovernance_watched (aimed : Aimed aim known parse config) :
    (chooseGovernance parse config).Obeys (watch aim known) progress
      (OnSuccess (Progress.Knows known)) := by
  unfold chooseGovernance
  cases configured : parseOpt parse config.governance with
  | none => trivial
  | some address =>
  cases address with
  | some governance => exact Or.inl (aimed.supplied governance configured)
  | none =>
  cases parseTrimmed parse config.governor with
  | none => trivial
  | some governor =>
  apply (send_watched (.deploy governor config.delaySecs) trivial).bind
  intro after result confirmed
  cases result with
  | error error => trivial
  | ok receipt =>
  obtain rfl := confirmed
  dsimp only
  cases created : receipt.contractAddress with
  | none => trivial
  | some governance =>
      apply Program.obeys_call trivial
      intro _
      exact Or.inr created

theorem verify_watched (contract governance : Address) :
    (verify config contract governance).Obeys (watch aim known) progress
      fun _ _ => True := by
  apply Program.obeys_call trivial
  intro owner
  cases owner with
  | none => trivial
  | some owner =>
  apply Program.obeys_call trivial
  intro _
  apply Program.obeys_call trivial
  intro _
  split
  · apply Program.obeys_call trivial
    intro renounced
    cases renounced with
    | none => trivial
    | some renounced =>
        apply Program.obeys_call trivial
        intro _
        trivial
  · trivial

theorem renounceIfAsked_watched {governance : Address}
    (knows : progress.Knows known governance) (handed : progress.handed = some governance) :
    (renounceIfAsked config aim.token governance).Obeys (watch aim known) progress
      fun _ _ => True := by
  unfold renounceIfAsked
  split
  · apply (send_watched (.renounce governance) knows).bind
    intro after result confirmed
    cases result with
    | error error => trivial
    | ok receipt =>
        obtain rfl := confirmed
        apply Program.obeys_call
        · exact ⟨governance, handed, rfl⟩
        · intro _
          exact verify_watched aim.token governance
  · exact verify_watched aim.token governance

theorem handOwnership_watched (feeSwapper : Option Address)
    {governance : Address} (knows : progress.Knows known governance)
    (signed : progress.signed = true) :
    (handOwnership config aim.token feeSwapper governance).Obeys (watch aim known) progress
      fun _ _ => True := by
  unfold handOwnership
  apply (send_watched (.transferOwnership aim.token governance) ⟨signed, knows⟩).bind
  intro after result confirmed
  cases result with
  | error error => trivial
  | ok receipt =>
  rw [OnSuccess, Progress.confirm, if_pos rfl] at confirmed
  subst confirmed
  apply Program.obeys_call trivial
  intro _
  cases feeSwapper with
  | none => exact renounceIfAsked_watched knows rfl
  | some swapper =>
  refine Program.Obeys.bind (send_watched (.transferOwnership swapper governance)
    ⟨signed, knows⟩) ?_
  intro after result confirmed
  cases result with
  | error error => trivial
  | ok receipt =>
  rw [OnSuccess, Progress.confirm] at confirmed
  apply Program.obeys_call trivial
  intro _
  apply renounceIfAsked_watched
  · rw [confirmed]
    split <;> exact knows
  · rw [confirmed]
    split <;> rfl

theorem rotateSigner_watched (feeSwapper : Option Address)
    {governance : Address} (knows : progress.Knows known governance) :
    (rotateSigner config aim.token aim.kms feeSwapper governance).Obeys (watch aim known) progress
      fun _ _ => True := by
  unfold rotateSigner
  apply (send_watched (.setSigner aim.token aim.kms) ⟨rfl, rfl⟩).bind
  intro after result confirmed
  cases result with
  | error error => trivial
  | ok receipt =>
  obtain rfl := confirmed
  apply Program.obeys_call trivial
  intro _
  exact handOwnership_watched feeSwapper knows rfl

/-- **The tool keeps to its order.** -/
theorem finalize_watched (deployer : Address) (aimed : Aimed aim known parse config) :
    (finalize parse deployer config).Obeys (watch aim known) progress fun _ _ => True := by
  unfold finalize
  cases parsedToken : parseTrimmed parse config.token with
  | none => trivial
  | some address =>
  obtain rfl := aimed.token address parsedToken
  cases parsedSigner : parseTrimmed parse config.kmsSigner with
  | none => trivial
  | some signer =>
  obtain rfl := aimed.signer signer parsedSigner
  cases parseOpt parse config.feeSwapper with
  | none => trivial
  | some feeSwapper =>
  apply Program.obeys_call trivial
  intro owner
  cases owner with
  | none => trivial
  | some owner =>
  dsimp only
  split
  · trivial
  · apply (chooseGovernance_watched aimed).bind
    intro after result chosen
    cases result with
    | error error => trivial
    | ok governance => exact rotateSigner_watched feeSwapper chosen

end Watched

/-! ### What stays -/

section Standing

variable {Data Id : Type} (aim : Aim)

/-- **The promise.** The deployer still owns the token, or a governance contract does and the
enclave signs. -/
def Safe (chain : Chain Data Id) : Prop :=
  chain.Untouched aim.token → chain.token.owner = aim.deployer ∨
    (chain.token.authorizedSigner = aim.kms ∧ chain.Has chain.token.owner)

def Rotated (chain : Chain Data Id) : Prop :=
  chain.Untouched aim.token → chain.token.owner = aim.deployer →
    chain.token.authorizedSigner = aim.kms

def Given (governance : Address) (chain : Chain Data Id) : Prop :=
  chain.Has governance ∧ (chain.Untouched aim.token → chain.token.owner = governance)

/-- What the tool sends, when it sends it and ever after. -/
def Vetted (chain : Chain Data Id) : Transaction → Prop
  | .deploy _ _ => True
  | .setSigner contract signer => contract = aim.token ∧ signer = aim.kms
  | .transferOwnership _ newOwner =>
      Rotated aim chain ∧ chain.Has newOwner
  | .renounce governance => chain.Has governance

/-- What a run has receipts for is so. -/
structure Recorded (chain : Chain Data Id) (progress : Progress) : Prop where
  deployed : ∀ governance, progress.deployed = some governance →
    chain.Has governance
  signed : progress.signed = true → Rotated aim chain
  handed : ∀ governance, progress.handed = some governance → Given aim governance chain
  renounced : ∀ governance, progress.renounced = some governance →
    ∃ contract, chain.contracts governance = some contract ∧ contract.renounced = true

structure Keeps (chain after : Chain Data Id) : Prop where
  persists : chain.Persists after
  outsider : after.contracts aim.deployer = none
  safe : Safe aim after
  rotated : Rotated aim chain → Rotated aim after
  given : ∀ governance, Given aim governance chain → Given aim governance after

variable {aim} {chain after : Chain Data Id}

theorem Recorded.start : Recorded aim chain .start := ⟨nofun, nofun, nofun, nofun⟩

theorem Recorded.mono {progress : Progress} (recorded : Recorded aim chain progress)
    (keeps : Keeps aim chain after) : Recorded aim after progress where
  deployed := fun governance found => keeps.persists.has (recorded.deployed governance found)
  signed := fun signed => keeps.rotated (recorded.signed signed)
  handed := fun governance handed => keeps.given governance (recorded.handed governance handed)
  renounced := by
    intro governance isRenounced
    obtain ⟨contract, found, renounced⟩ := recorded.renounced governance isRenounced
    obtain ⟨later, isLater, stays⟩ := keeps.persists governance contract found
    exact ⟨later, isLater, stays renounced⟩

theorem Vetted.mono {transaction : Transaction}
    (vetted : Vetted aim chain transaction)
    (keeps : Keeps aim chain after) :
    Vetted aim after transaction := by
  cases transaction with
  | deploy governor delay => trivial
  | setSigner contract signer => exact vetted
  | transferOwnership contract newOwner =>
      exact ⟨keeps.rotated vetted.1, keeps.persists.has vetted.2⟩
  | renounce governance => exact keeps.persists.has vetted

section Keeping

variable (outsider : chain.contracts aim.deployer = none)

include outsider

theorem Keeps.of_quiet (safe : Safe aim chain)
    (quiet : chain.Quiet after aim.token aim.deployer) :
    Keeps aim chain after := by
  have same : after.Untouched aim.token → chain.Untouched aim.token ∧
      after.token.owner = chain.token.owner ∧
      after.token.authorizedSigner = chain.token.authorizedSigner := by
    intro untouched
    have before := quiet.untouched untouched
    obtain ⟨sameOwner, sameSigner, _⟩ :=
      quiet.settings untouched ((safe before).imp id And.right)
    exact ⟨before, sameOwner, sameSigner⟩
  refine ⟨quiet.persists, quiet.outsider outsider, ?_, ?_, ?_⟩
  · intro untouched
    obtain ⟨before, sameOwner, sameSigner⟩ := same untouched
    rw [sameOwner, sameSigner]
    exact (safe before).imp id fun signs => ⟨signs.1, quiet.persists.has signs.2⟩
  · intro rotated untouched own
    obtain ⟨before, sameOwner, sameSigner⟩ := same untouched
    rw [sameSigner]
    exact rotated before (sameOwner ▸ own)
  · intro governance given
    refine ⟨quiet.persists.has given.1, ?_⟩
    intro untouched
    obtain ⟨before, sameOwner, _⟩ := same untouched
    rw [sameOwner]
    exact given.2 before

theorem Keeps.signer (own : chain.token.owner = aim.deployer) :
    Keeps aim chain
      { chain with token := { chain.token with authorizedSigner := aim.kms } } where
  persists := .refl chain
  outsider := outsider
  safe := fun _ => Or.inl own
  rotated := fun _ _ _ => rfl
  given := fun _ given => given

/-- The deployer's own hand: the owner. Contracts are nobody's key, so neither this one nor one the
token was given to before is the deployer. -/
theorem Keeps.owner (own : chain.token.owner = aim.deployer) {newOwner : Address}
    (rotated : Rotated aim chain)
    (isContract : chain.Has newOwner) :
    Keeps aim chain
      { chain with token := { chain.token with owner := newOwner } } := by
  have foreign : ∀ governance, chain.Has governance → governance ≠ aim.deployer := by
    intro governance found same
    rw [Chain.Has, same, outsider] at found
    cases found
  refine ⟨.refl chain, outsider, ?_, ?_, ?_⟩
  · intro untouched
    exact Or.inr ⟨rotated untouched own, isContract⟩
  · intro _ _ owner
    exact absurd owner (foreign newOwner isContract)
  · intro governance given
    refine ⟨given.1, ?_⟩
    intro untouched
    have wasGiven := given.2 untouched
    exact absurd (wasGiven.symm.trans own) (foreign governance given.1)

end Keeping

end Standing

/-! ### One transaction of the deployer -/

/-- What runs of the tool are for, if the enclave signs with `kms`. -/
abbrev Deployment.aim {Data Id Signature Thread : Type}
    (deployment : Deployment Data Id Signature Thread) (kms : Address) : Aim :=
  ⟨deployment.network.token, kms, deployment.deployer⟩

section Landing

variable {Data Id Signature Thread : Type} [DecidableEq Id]
  {deployment : Deployment Data Id Signature Thread} {kms : Address}
  {chain after : Chain Data Id} {landing : Landing} {transaction : Transaction}
  (landed : chain.land deployment.network deployment.deployer landing transaction = some after)

include landed

/-- **Inversion.** A transaction is quiet, or the hand of the owner. -/
theorem land_cases :
    chain.Quiet after deployment.network.token deployment.deployer ∨
      (chain.token.owner = deployment.deployer ∧
        ((∃ signer, transaction = .setSigner deployment.network.token signer ∧
            after = { chain with token := { chain.token with authorizedSigner := signer } }) ∨
          ∃ newOwner, transaction = .transferOwnership deployment.network.token newOwner ∧
            after = { chain with token := { chain.token with owner := newOwner } })) := by
  have foreign : (if landing.accepts then some chain else none) = some after →
      chain.Quiet after deployment.network.token deployment.deployer := by
    intro accepted
    cases (Option.ite_none_right_eq_some.1 accepted).2
    exact .refl
  cases transaction with
  | deploy governor delay => exact Or.inl (deploy_quiet landed)
  | setSigner contract signer =>
      rw [Chain.land] at landed
      split at landed
      · rename_i isToken
        obtain ⟨own, rfl⟩ := callToken_setSigner landed
        exact Or.inr ⟨own.symm, Or.inl ⟨signer, by rw [isToken], rfl⟩⟩
      · exact Or.inl (foreign landed)
  | transferOwnership contract newOwner =>
      rw [Chain.land] at landed
      split at landed
      · rename_i isToken
        obtain ⟨own, rfl⟩ := callToken_transferOwnership landed
        exact Or.inr ⟨own.symm, Or.inr ⟨newOwner, by rw [isToken], rfl⟩⟩
      · exact Or.inl (foreign landed)
  | renounce governance =>
      rw [Chain.land] at landed
      split at landed
      · exact Or.inl (govern_quiet landed)
      · exact Or.inl (foreign landed)

theorem land_keeps (safe : Safe (deployment.aim kms) chain)
    (outsider : chain.contracts deployment.deployer = none)
    (vetted : Vetted (deployment.aim kms) chain transaction) :
    Keeps (deployment.aim kms) chain after := by
  rcases land_cases landed with quiet | ⟨own, ⟨signer, rfl, rfl⟩ | ⟨newOwner, rfl, rfl⟩⟩
  · exact .of_quiet outsider safe quiet
  · obtain ⟨_, rfl⟩ := vetted
    exact .signer outsider own
  · exact .owner outsider own vetted.1 vetted.2

theorem land_recorded (keeps : Keeps (deployment.aim kms) chain after)
    (vetted : Vetted (deployment.aim kms) chain transaction) {progress : Progress}
    (recorded : Recorded (deployment.aim kms) chain progress) :
    Recorded (deployment.aim kms) after (progress.confirm deployment.network.token
      ⟨true, created landing transaction⟩ transaction) := by
  have still := recorded.mono keeps
  cases transaction with
  | deploy governor delay =>
      refine { still with deployed := ?_ }
      intro governance isFresh
      cases isFresh
      obtain ⟨_, _, contract, rfl⟩ := deploy_eq landed
      exact Option.isSome_of_eq_some (Function.update_self ..)
  | setSigner contract signer =>
      obtain ⟨rfl, rfl⟩ := vetted
      refine { still with signed := fun _ => ?_ }
      rw [Chain.land, if_pos rfl] at landed
      obtain ⟨_, rfl⟩ := callToken_setSigner landed
      exact fun _ _ => rfl
  | transferOwnership contract newOwner =>
      rw [Progress.confirm]
      split
      · rename_i isToken
        refine { still with handed := ?_ }
        intro governance isNew
        cases isNew
        refine ⟨keeps.persists.has vetted.2, fun _ => ?_⟩
        rw [Chain.land, if_pos isToken] at landed
        obtain ⟨_, rfl⟩ := callToken_transferOwnership landed
        rfl
      · exact still
  | renounce governance =>
      refine { still with renounced := ?_ }
      intro same isSame
      cases isSame
      have isContract : chain.Has governance := vetted
      rw [Chain.land, if_pos isContract] at landed
      obtain ⟨between, enters, rfl⟩ := Option.map_eq_some_iff.1 landed
      obtain ⟨contract, state, _, entered, rfl⟩ := enter_eq enters
      obtain rfl := renounce_eq entered
      exact ⟨_, Function.update_self .., rfl⟩

end Landing

/-! ### Every run -/

section Runs

variable {Data Id Signature Thread : Type} (deployment : Deployment Data Id Signature Thread)
  (kms : Address) (start : Chain Data Id)

abbrev Deployment.AllAimed : Prop :=
  ∀ thread, Aimed (deployment.aim kms) start.Has deployment.parse (deployment.config thread)

/-- What holds in every state of every run. -/
structure Handing (world : World Data Id) (progress : Thread → Progress) : Prop where
  outsider : world.chain.contracts deployment.deployer = none
  safe : Safe (deployment.aim kms) world.chain
  known : ∀ governance, start.Has governance →
    world.chain.Has governance
  vetted : ∀ transaction ∈ world.inFlight, Vetted (deployment.aim kms) world.chain transaction
  recorded : ∀ thread, Recorded (deployment.aim kms) world.chain (progress thread)

def handoverWatch : Discipline Command Reply Progress :=
  watch (deployment.aim kms) start.Has

section Steps

variable {deployment kms start} {world : World Data Id} {progress : Thread → Progress}
  {thread : Thread}

theorem Handing.keep (handing : Handing deployment kms start world progress)
    {chain : Chain Data Id} (keeps : Keeps (deployment.aim kms) world.chain chain) :
    Handing deployment kms start { world with chain := chain } progress where
  outsider := keeps.outsider
  safe := keeps.safe
  known := fun governance found => keeps.persists.has (handing.known governance found)
  vetted := fun transaction member => (handing.vetted transaction member).mono keeps
  recorded := fun other => (handing.recorded other).mono keeps

theorem Handing.vetted_submit (handing : Handing deployment kms start world progress)
    {transaction : Transaction}
    (permitted : (handoverWatch deployment kms start).permits (progress thread)
      (.submit transaction)) :
    Vetted (deployment.aim kms) world.chain transaction := by
  have isContract : ∀ governance,
      (progress thread).Knows start.Has governance →
        world.chain.Has governance := by
    intro governance knows
    rcases knows with supplied | created
    · exact handing.known governance supplied
    · exact (handing.recorded thread).deployed governance created
  cases transaction with
  | deploy governor delay => trivial
  | setSigner contract signer => exact permitted
  | transferOwnership contract newOwner =>
      exact ⟨(handing.recorded thread).signed permitted.1, isContract newOwner permitted.2⟩
  | renounce governance => exact isContract governance permitted

theorem Handing.stage [DecidableEq Thread] (handing : Handing deployment kms start world progress)
    (thread : Thread) {after : Progress}
    (recorded : Recorded (deployment.aim kms) world.chain after) :
    Handing deployment kms start world (Function.update progress thread after) :=
  { handing with
    recorded := (Function.forall_update_iff progress fun _ progress =>
      Recorded (deployment.aim kms) world.chain progress).2
        ⟨recorded, fun other _ => handing.recorded other⟩ }

variable [DecidableEq Id]

theorem Handing.land (handing : Handing deployment kms start world progress)
    {transaction : Transaction} (landing : Landing)
    (vetted : Vetted (deployment.aim kms) world.chain transaction) :
    let result := land deployment world.chain landing transaction
    Handing deployment kms start { world with chain := result.1 } progress ∧
      ∀ thread, result.2.status = true → Recorded (deployment.aim kms) result.1
        ((progress thread).confirm deployment.network.token result.2 transaction) := by
  unfold Finalize.land
  dsimp only
  split
  · rename_i chain landed
    have keeps := land_keeps landed handing.safe handing.outsider vetted
    exact ⟨handing.keep keeps,
      fun thread _ => land_recorded landed keeps vetted (handing.recorded thread)⟩
  · refine ⟨handing, fun _ wrong => ?_⟩
    cases wrong

/-- **One event.** -/
theorem Handing.occur (handing : Handing deployment kms start world progress)
    (event : Event Data Signature) (genuine : Genuine deployment world.chain event) :
    Handing deployment kms start (occur deployment world event) progress := by
  have quiet : ∀ chain : Option (Chain Data Id), (∀ after, chain = some after →
      world.chain.Quiet after deployment.network.token deployment.deployer) →
      Handing deployment kms start { world with chain := chain.getD world.chain } progress := by
    intro chain isQuiet
    cases chain with
    | none => exact handing
    | some after => exact handing.keep (.of_quiet handing.outsider handing.safe (isQuiet after rfl))
  cases event with
  | land index landing =>
      simp only [Finalize.occur]
      split
      · exact handing
      · rename_i transaction sent
        have landed := (handing.land landing (handing.vetted _ (List.mem_of_getElem? sent))).1
        refine { landed with vetted := ?_ }
        intro other member
        exact landed.vetted other (List.mem_of_mem_eraseIdx member)
  | token sender call =>
      exact quiet _ fun _ done => callToken_quiet genuine (fun _ _ outsider => outsider) done
  | govern timestamp governance sender call => exact quiet _ fun _ done => govern_quiet done

theorem machine_watched (aimed : deployment.AllAimed kms start) (thread : Thread) :
    ((machine deployment).main thread).Obeys (handoverWatch deployment kms start)
      (handoverWatch deployment kms start).start fun _ _ => True :=
  (finalize_watched deployment.deployer (aimed thread)).bind fun _ _ _ => trivial

/-- **One request.** -/
theorem Handing.request [DecidableEq Thread] (handing : Handing deployment kms start world progress)
    (answer : Answer) {command : Command}
    (permitted : (handoverWatch deployment kms start).permits (progress thread) command) :
    Handing deployment kms start (exec deployment world command answer).1
      (Function.update progress thread ((handoverWatch deployment kms start).after
        (progress thread) command (exec deployment world command answer).2)) := by
  have same := handing.stage thread (handing.recorded thread)
  cases command with
  | submit transaction =>
      have vetted := handing.vetted_submit permitted
      cases answer with
      | answered landing =>
          obtain ⟨landed, confirmed⟩ := handing.land landing vetted
          apply landed.stage
          change Recorded _ _ (if _ then _ else _)
          split
          · exact confirmed thread ‹_›
          · exact landed.recorded thread
      | unheard landing error =>
          have landed := (handing.land landing vetted).1
          exact landed.stage thread (landed.recorded thread)
      | late error =>
          refine { same with vetted := ?_ }
          intro other member
          rcases List.mem_cons.1 member with rfl | earlier
          · exact vetted
          · exact handing.vetted other earlier
      | failed error => exact same
  | ownerOf contract | gasPrice | renounced governance => cases answer <;> exact same
  | println line => exact same

end Steps

variable [DecidableEq Id] [DecidableEq Thread]

abbrev Runs (Data Id Thread : Type) := Pool Thread (World Data Id) Command Reply Progress

def Runs.initial : Runs Data Id Thread :=
  Pool.initial (machine deployment) (handoverWatch deployment kms start) ⟨start, []⟩

def Runs.move : Runs Data Id Thread → Action Thread Answer (Event Data Signature) →
    Runs Data Id Thread :=
  Pool.move (machine deployment) (handoverWatch deployment kms start)

def GenuineAction (pool : Runs Data Id Thread) :
    Action Thread Answer (Event Data Signature) → Prop
  | .event event => Genuine deployment pool.world.chain event
  | _ => True

instance (pool : Runs Data Id Thread) : ∀ action, Decidable (GenuineAction deployment pool action)
  | .event event => inferInstanceAs (Decidable (Genuine deployment pool.world.chain event))
  | .step _ _ => isTrue trivial
  | .restart _ => isTrue trivial

variable {deployment kms start} in
theorem handing_invariant :
    Invariant (machine deployment) (handoverWatch deployment kms start)
      (GenuineAction deployment) (Handing deployment kms start) where
  step := by
    intro pool thread answer command next after reply _ permitted answered _ handing
    have same : exec deployment pool.world command answer = (after, reply) :=
      Option.some.inj answered
    have kept := handing.request answer permitted
    rw [same] at kept
    exact kept
  restart := by
    intro pool thread _ handing
    exact handing.stage thread .start
  event := by
    intro pool event genuine handing
    exact handing.occur event genuine

end Runs

/-- **The handover.** However many runs of the tool there are, wherever they stop, whatever is lost
on the way and whatever others call in between: until a governance contract acts on the token, it
belongs to the deployer, or to a governance contract and the enclave is its signer. When a run
announces that the pool is permissionless, such a contract has renounced, and the token is its own
and the enclave's. -/
theorem permissionless_with_the_enclave {Data Id Signature Thread : Type} [DecidableEq Id]
    [DecidableEq Thread] (deployment : Deployment Data Id Signature Thread) (kms : Address)
    (start : Chain Data Id) (aimed : deployment.AllAimed kms start)
    (owned : start.token.owner = deployment.deployer)
    (outsider : start.contracts deployment.deployer = none)
    (schedule : List (Action Thread Answer (Event Data Signature)))
    (genuine : Along (Runs.move deployment kms start) (GenuineAction deployment)
      (Runs.initial deployment kms start) schedule) :
    let pool := run (Runs.move deployment kms start) (Runs.initial deployment kms start) schedule
    let chain := pool.world.chain
    (chain.Untouched deployment.network.token → chain.token.owner = deployment.deployer ∨
      (chain.token.authorizedSigner = kms ∧ chain.Has chain.token.owner)) ∧
    ∀ thread, pool.next? thread = some (.println .permissionless) →
      ∃ governance contract, chain.contracts governance = some contract ∧
        contract.renounced = true ∧
        (chain.Untouched deployment.network.token →
          chain.token.owner = governance ∧ chain.token.authorizedSigner = kms) := by
  intro pool chain
  have watched := machine_watched aimed
  have initially : Handing deployment kms start ⟨start, []⟩ fun _ : Thread => .start := by
    exact ⟨outsider, fun _ => Or.inl owned, fun _ found => found, nofun, fun _ => .start⟩
  have disciplined := Pool.initial_disciplined (⟨start, []⟩ : World Data Id) watched
  have handing := handing_invariant.run watched disciplined genuine initially
  refine ⟨handing.safe, ?_⟩
  intro thread announces
  obtain ⟨governance, handed, isRenounced⟩ :=
    (disciplined.run watched schedule).permits_next announces
  obtain ⟨contract, found, renounced⟩ := (handing.recorded thread).renounced governance isRenounced
  refine ⟨governance, contract, found, renounced, fun untouched => ?_⟩
  have given := ((handing.recorded thread).handed governance handed).2 untouched
  refine ⟨given, ?_⟩
  rcases handing.safe untouched with own | ⟨signs, _⟩
  · have noContract := handing.outsider
    have same : governance = deployment.deployer := given.symm.trans own
    rw [← same, found] at noContract
    cases noContract
  · exact signs

/-! ### A run that is cut off, and the next one -/

/-- The deployer, 7, finalizes the token at 60 for the enclave 5, with a governance contract of
their own. -/
def sampleDeployment : Deployment Address (Operation Address) Unit Unit where
  network := sampleSite
  parse
    | "token" => some 60
    | "enclave" => some 5
    | "deployer" => some 7
    | _ => none
  deployer := 7
  config := fun _ =>
    { token := "token"
      kmsSigner := " enclave"
      feeSwapper := ""
      governance := ""
      governor := "deployer"
      delaySecs := 10
      renounce := true }

def sampleChain : Chain Address (Operation Address) where
  token := Token.deployed 7 9 0
  contracts := fun _ => none
  executed := []

/-- Steps that are answered; a contract that is created is at the address. -/
def goesOn (steps : Nat) (fresh : Address) : List (Action Unit Answer (Event Address Unit)) :=
  List.replicate steps (.step () (.answered ⟨fresh, true⟩))

/-- The first run creates a contract and gives up on the rotation of the signer. The second run
creates another contract and goes to its announcement; the rotation of the first run lands late. -/
def sampleSchedule : List (Action Unit Answer (Event Address Unit)) :=
  goesOn 5 50 ++ [.step () (.late .txReceipt), .restart ()] ++ goesOn 7 51 ++
    [.event (.land 0 ⟨0, true⟩)] ++ goesOn 5 0

/-- The second run announces it, and it is so. -/
theorem permissionless_with_the_enclave_second_run :
    let pool := run (Runs.move sampleDeployment 5 sampleChain)
      (Runs.initial sampleDeployment 5 sampleChain) sampleSchedule
    pool.next? () = some (.println .permissionless) ∧
      pool.world.chain.token.authorizedSigner = 5 := by
  intro pool
  have announces : pool.next? () = some (.println .permissionless) := by decide +kernel
  have untouched : pool.world.chain.Untouched 60 := by decide +kernel
  have aimed : sampleDeployment.AllAimed 5 sampleChain := by
    refine fun () => ⟨?_, ?_, nofun⟩
    all_goals
      intro address parsed
      refine Option.some.inj (parsed.symm.trans ?_)
      decide +kernel
  obtain ⟨_, announced⟩ := permissionless_with_the_enclave sampleDeployment 5 sampleChain aimed rfl
    rfl sampleSchedule (by decide +kernel)
  obtain ⟨_, _, _, _, given⟩ := announced () announces
  exact ⟨announces, (given untouched).2⟩

end CrFaucet.Governance.Finalize
