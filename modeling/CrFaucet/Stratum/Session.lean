import CrFaucet.Stratum.Jobs
import CrFaucet.Stratum.Vardiff
import CrFaucet.Token.Erc20

/-!
Owns a miner session of `stratum_proxy::session`: logins, submits, job pushes and
the difficulties it remembers to have advertised.

A handler is a function from the session and the job store to both of them, the
calls it makes in order, and how the session goes on. A job message is given by
the job and the local difficulty its JSON is made from.

Does not own the two share checks, the framing of lines, or the nonce warning.
-/

set_option autoImplicit false

namespace CrFaucet.Stratum

open Token (Address)

structure StratumConfig where
  minShareDifficulty : Nat
  /-- `share_grace_secs` as a duration. -/
  shareGrace : Nat
  verificationWarmup : Nat
  vardiffSampleSize : Nat

inductive ShareOutcome where
  | accepted (forwarded : Bool)
  | belowDifficulty
  | invalidHash
  | unknownJob
  | badBlob
deriving DecidableEq

/-- `verify_share` and `accept_claimed_result` of a job, the session's difficulty,
a nonce and a claimed result; `none` is an error. -/
structure ShareChecks where
  verifyShare : UpstreamJob → Nat → String → String → Option ShareOutcome
  acceptClaimedResult : UpstreamJob → Nat → String → String → Option ShareOutcome

structure ShareAccepted where
  miner : Address
  jobId : String
  difficulty : Nat
  forwardedUpstream : Bool
deriving DecidableEq

/-- What a session does to the outside. -/
inductive Effect where
  | login (job : Option (UpstreamJob × Nat))
  | pushJob (job : UpstreamJob) (localDiff : Nat)
  | ok
  | keepalived
  | error (code : Int) (message : String)
  /-- One of the two share checks, at the given difficulty. -/
  | check (jobId : String) (difficulty : Nat)
  | credit (share : ShareAccepted)
  | submitUpstream (jobId nonce result : String)
deriving DecidableEq

structure SubmitParams where
  jobId : String
  nonce : String
  result : String

/-- A line of the miner. `none` are parameters that do not parse; a login whose
parameters parse may still not name an address. -/
inductive Request where
  | login (params : Option (Option Address))
  | submit (params : Option SubmitParams)
  | keepalived
  | unknown

/-- `Ok(true)`, `Ok(false)`, `Err(_)` and a panic. -/
inductive Ending where
  | keepOpen
  | close
  | failed
  | panicked
deriving DecidableEq

def advertisedCap : Nat := 16

/-- The difficulty each job was first served at. -/
abbrev AdvertisedRing := Ring advertisedCap (String × Nat)

structure Session where
  miner : Option Address
  vardiff : Vardiff
  advertised : AdvertisedRing
  verifiedCount : Nat

structure Handled where
  session : Session
  store : JobStore
  effects : List Effect := []
  ending : Ending := .keepOpen

/-- First writer wins. -/
def noteAdvertised (advertised : AdvertisedRing) (jobId : String) (diff : Nat) :
    AdvertisedRing :=
  if advertised.items.any fun entry => entry.1 == jobId then advertised
  else advertised.push (jobId, diff)

def advertisedDiff (advertised : AdvertisedRing) (jobId : String) : Option Nat :=
  (advertised.items.reverse.find? fun entry => entry.1 == jobId).map Prod.snd

def shouldVerify (config : StratumConfig) (verifiedCount : Nat) (draw : Bool) : Bool :=
  verifiedCount < config.verificationWarmup || draw

namespace Session

def new (config : StratumConfig) (now : Nat) : Session where
  miner := none
  vardiff := Vardiff.new now config.minShareDifficulty
    (Nat.min (config.minShareDifficulty * 2) u64Max) (u64Max / 2) config.vardiffSampleSize
  advertised := .empty
  verifiedCount := 0

variable (config : StratumConfig) (floats : Floats) (checks : ShareChecks) (now : Nat)
  (session : Session) (store : JobStore)

def servedDiff (job : UpstreamJob) : Option (Vardiff × Nat) :=
  (session.vardiff.setUpstreamCap job.upstreamDiff).retarget floats now

/-- Both places that serve a job: cap, retarget, remember. -/
def serve (job : UpstreamJob) : Option (Session × Nat) :=
  (session.servedDiff floats now job).map fun served =>
    ({ session with
      vardiff := served.1
      advertised := noteAdvertised session.advertised job.jobId served.2 }, served.2)

def handleLogin : Option (Option Address) → Handled
  | none => { session, store, ending := .failed }
  | some none =>
      { session, store, effects := [.error (-1) "login must be a valid 0x... EVM address"] }
  | some (some address) =>
      let session := { session with miner := some address }
      match store.current with
      | none => { session, store, effects := [.login none] }
      | some job =>
          match session.serve floats now job with
          | none => { session, store, ending := .panicked }
          | some (session, advertisedDiff) =>
              { session, store, effects := [.login (some (job, advertisedDiff))] }

/-- The difficulty a share is judged at: the floor when nothing is remembered. -/
def checkDiff (jobId : String) : Nat :=
  (advertisedDiff session.advertised jobId).getD session.vardiff.min

def rejection : ShareOutcome → Int × String
  | .belowDifficulty => (-5, "below local difficulty")
  | .invalidHash => (-6, "invalid hash")
  | .unknownJob => (-4, "unknown job")
  | .badBlob => (-7, "bad blob")
  -- `unreachable!()`: `settle` takes this case first.
  | .accepted _ => (0, "")

def kicks : ShareOutcome → Bool
  | .belowDifficulty => true
  | .invalidHash => true
  | .badBlob => true
  | _ => false

/-- From the outcome of the share check on. -/
def settle (address : Address) (params : SubmitParams) (didVerify : Bool) :
    ShareOutcome → Handled
  | .accepted forwarded =>
      let share : ShareAccepted := {
        miner := address
        jobId := params.jobId
        difficulty := session.checkDiff params.jobId
        forwardedUpstream := forwarded }
      { session := { session with
          verifiedCount :=
            if didVerify then Nat.min (session.verifiedCount + 1) (2 ^ 32 - 1)
            else session.verifiedCount
          vardiff := session.vardiff.onShare now }
        store
        effects := [.check params.jobId (session.checkDiff params.jobId), .credit share] ++
          (if forwarded then [.submitUpstream params.jobId params.nonce params.result] else []) ++
          [.ok] }
  | outcome =>
      let kick := didVerify && session.verifiedCount == 0 && kicks outcome
      { session := { session with verifiedCount := 0 }
        store
        effects := [.check params.jobId (session.checkDiff params.jobId),
          .error (rejection outcome).1 (rejection outcome).2]
        ending := if kick then .close else .keepOpen }

/-- From an accepted `record_submission` on. `draw` is the sampling draw. -/
def judge (address : Address) (params : SubmitParams) (draw : Bool) (job : UpstreamJob) :
    Handled :=
  let checkDiff := session.checkDiff params.jobId
  let didVerify := shouldVerify config session.verifiedCount draw
  let checked :=
    if didVerify then checks.verifyShare job checkDiff params.nonce params.result
    else checks.acceptClaimedResult job checkDiff params.nonce params.result
  match checked with
  | none => { session, store, effects := [.check params.jobId checkDiff], ending := .failed }
  | some outcome => session.settle now store address params didVerify outcome

def handleSubmit (draw : Bool) (params : Option SubmitParams) : Handled :=
  match session.miner, params with
  | none, _ => { session, store, effects := [.error (-2) "not logged in"] }
  | some _, none => { session, store, ending := .failed }
  | some address, some params =>
      let recorded := store.recordSubmission config.shareGrace now params.jobId params.nonce
      match recorded.2 with
      | .accepted job => session.judge config checks now recorded.1 address params draw job
      | .duplicate =>
          { session, store := recorded.1, effects := [.error (-3) "duplicate share"] }
      | .unknownJob => { session, store := recorded.1, effects := [.error (-4) "unknown job"] }
      | .stale => { session, store := recorded.1, effects := [.error (-8) "stale share"] }

def handleRequest (draw : Bool) : Request → Handled
  | .login params => session.handleLogin floats now store params
  | .submit params => session.handleSubmit config checks now store draw params
  | .keepalived => { session, store, effects := [.keepalived] }
  | .unknown => { session, store }

/-- The push arm of `handle_one`. -/
def handleJob (job : UpstreamJob) : Handled :=
  if session.miner.isSome then
    match session.serve floats now job with
    | none => { session, store, ending := .panicked }
    | some (session, advertisedDiff) =>
        { session, store, effects := [.pushJob job advertisedDiff] }
  else { session, store }

end Session

end CrFaucet.Stratum
