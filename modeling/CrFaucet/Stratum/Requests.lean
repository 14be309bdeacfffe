import CrFaucet.Stratum.Blob
import CrFaucet.Stratum.Steps
import CrFaucet.Stratum.Upstream

/-!
Owns `handle_request` as it meets the JSON of a line: the method, the parameters as they
are deserialized, and every place where it can panic.

What it does otherwise is `Session.handleRequest`. A panic ends the task, so the state it
leaves is nobody's.

Does not own the text of a line: a request here is any that a line can hold. The parser
of addresses is a parameter, and so is the sampling draw, which is missing where
`gen_bool` panics because the configured rate is not a number.
-/

set_option autoImplicit false

namespace CrFaucet.Stratum

open SerdeJson (Value)
open Token (Address)
open Utf8

/-! ### Parameters -/

/-- A field of type `Option<String>`: missing and null are `None`; `none` is an error. -/
def optionalText : Option Value → Option (Option String)
  | none => some none
  | some .null => some none
  | some (.string text) => some (some text)
  | some _ => none

/-- `LoginParams`, of which only the login is read. -/
structure LoginParams where
  login : String
  pass : Option String
  agent : Option String
  rigid : Option String

/-- The derived `Deserialize`: an object by its keys, an array by position. Of an array
only the last field has a default. -/
def LoginParams.fromValue : Value → Option LoginParams
  | .object members => do
      let params := Value.object members
      let login ← (params.get "login").bind Value.asStr
      let pass ← optionalText (params.get "pass")
      let agent ← optionalText (params.get "agent")
      let rigid ← optionalText (params.get "rigid")
      return ⟨login, pass, agent, rigid⟩
  | .array [login, pass, agent] => do
      return ⟨← login.asStr, ← optionalText (some pass), ← optionalText (some agent), none⟩
  | .array [login, pass, agent, rigid] => do
      return ⟨← login.asStr, ← optionalText (some pass), ← optionalText (some agent),
        ← optionalText (some rigid)⟩
  | _ => none

/-- The id of the parameters is deserialized and not read. -/
def SubmitParams.fromValue : Value → Option SubmitParams
  | .object members => do
      let params := Value.object members
      let _ ← (params.get "id").bind Value.asStr
      let jobId ← (params.get "job_id").bind Value.asStr
      let nonce ← (params.get "nonce").bind Value.asStr
      let result ← (params.get "result").bind Value.asStr
      return ⟨jobId, nonce, result⟩
  | .array [id, jobId, nonce, result] => do
      let _ ← id.asStr
      return ⟨← jobId.asStr, ← nonce.asStr, ← result.asStr⟩
  | _ => none

/-! ### The handler -/

/-- What a connection has beside its session. -/
structure Line where
  proxy : Proxy
  /-- `EvmAddress::parse` of the trimmed text. -/
  parseAddress : String → Option Address
  workerByte : UInt8

namespace Line

variable (line : Line) (now : Nat) (session : Session) (store : JobStore)

def panic : Handled := { session, store, ending := .panicked }

/-- The login arm: the job is served, and then its blob stamped. -/
def login (params : Value) : Handled :=
  match LoginParams.fromValue params with
  | none => session.handleLogin line.proxy.floats now store none
  | some named =>
      let address := line.parseAddress named.login
      let handled := session.handleLogin line.proxy.floats now store (some address)
      match address, store.current with
      | some _, some job =>
          match stampWorkerByte job.blobHex line.workerByte with
          | some _ => handled
          | none => panic session store
      | _, _ => handled

/-- The submit arm. The high byte of the nonce is read for a warning only; the draw is
made after the submission was recorded, unless the session is still warming up. -/
def submit (draw : Option Bool) (params : Value) : Handled :=
  let config := line.proxy.config
  let named := SubmitParams.fromValue params
  let proceed (draw : Bool) :=
    session.handleSubmit config line.proxy.checks now store draw named
  match session.miner, named with
  | some _, some named =>
      match nonceHighByte named.nonce with
      | none => panic session store
      | some _ =>
          match (store.recordSubmission config.shareGrace now named.jobId named.nonce).2, draw with
          | .accepted _, none =>
              if session.verifiedCount < config.verificationWarmup then proceed false
              else panic session store
          | _, _ => proceed (draw.getD false)
  | _, _ => proceed (draw.getD false)

def handleRequest (draw : Option Bool) (request : RpcRequest) : Handled :=
  if request.method = "login" then line.login now session store request.params
  else if request.method = "submit" then line.submit now session store draw request.params
  else if request.method = "keepalived" then
    session.handleRequest line.proxy.config line.proxy.floats line.proxy.checks now store false
      .keepalived
  else
    session.handleRequest line.proxy.config line.proxy.floats line.proxy.checks now store false
      .unknown

end Line

/-- The requests that panic a session, and why. -/
inductive Panics (line : Line) (now : Nat) (session : Session) (store : JobStore)
    (draw : Option Bool) (request : RpcRequest) : Prop
  /-- Byte 6 of an eight-byte nonce is inside a character. -/
  | splitNonce (params : SubmitParams) (isSubmit : request.method = "submit")
      (loggedIn : session.miner.isSome = true)
      (parsed : SubmitParams.fromValue request.params = some params)
      (eightBytes : byteLength params.nonce = 8) (inside : ¬ IsBoundary params.nonce.toList 6)
  /-- The sampling rate is not a number. -/
  | noDraw (params : SubmitParams) (job : UpstreamJob) (isSubmit : request.method = "submit")
      (loggedIn : session.miner.isSome = true)
      (parsed : SubmitParams.fromValue request.params = some params)
      (accepted : (store.recordSubmission line.proxy.config.shareGrace now params.jobId
        params.nonce).2 = .accepted job)
      (warm : line.proxy.config.verificationWarmup ≤ session.verifiedCount)
      (missing : draw = none)
  /-- The controller's factors are the wrong way round. -/
  | invertedClamp (params : LoginParams) (address : Address) (job : UpstreamJob)
      (isLogin : request.method = "login")
      (parsed : LoginParams.fromValue request.params = some params)
      (named : line.parseAddress params.login = some address)
      (current : store.current = some job)
      (retargeted : session.servedDiff line.proxy.floats now job = none)
  /-- The upstream's blob has a character across the byte to be stamped. -/
  | splitBlob (params : LoginParams) (address : Address) (job : UpstreamJob)
      (isLogin : request.method = "login")
      (parsed : LoginParams.fromValue request.params = some params)
      (named : line.parseAddress params.login = some address)
      (current : store.current = some job)
      (stamped : stampWorkerByte job.blobHex line.workerByte = none)

/-- `nonce_high_byte` panics exactly on eight bytes of which the last two are not cut off
between characters. -/
theorem nonceHighByte_eq_none_iff {nonceHex : String} :
    nonceHighByte nonceHex = none ↔
      byteLength nonceHex = 8 ∧ ¬ IsBoundary nonceHex.toList 6 := by
  have width : nonceLen * 2 = 8 := rfl
  have offset : (nonceLen - 1) * 2 = 6 := rfl
  rw [nonceHighByte, width, offset]
  by_cases eight : byteLength nonceHex = 8
  · rw [if_neg (not_not_intro eight), Option.map_eq_none_iff, sliceFrom, Option.map_eq_none_iff,
      splitAt_eq_none_iff]
    exact ⟨fun inside => ⟨eight, inside⟩, fun both => both.2⟩
  · rw [if_pos eight]
    exact ⟨nofun, fun both => absurd both.1 eight⟩

namespace Line

variable {line : Line} {now : Nat} {session : Session} {store : JobStore}

theorem handleSubmit_calm (proxy : Proxy) (now : Nat) (session : Session) (store : JobStore)
    (draw : Bool) (params : Option SubmitParams) :
    (session.handleSubmit proxy.config proxy.checks now store draw params).ending ≠
      .panicked := by
  have comes : Comes proxy now session store (fun _ => False) draw _ :=
    session.handleSubmit_comes proxy now store draw params
  exact comes.calm fun _ never => never.elim

theorem handleLogin_panics_iff {floats : Floats} {params : Option (Option Address)} :
    (session.handleLogin floats now store params).ending = .panicked ↔
      ∃ address job, params = some (some address) ∧ store.current = some job ∧
        session.servedDiff floats now job = none := by
  constructor
  · intro panicked
    cases params with
    | none => cases panicked
    | some parsed =>
        cases parsed with
        | none => cases panicked
        | some address =>
            cases current : store.current with
            | none =>
                simp only [Session.handleLogin, current] at panicked
                cases panicked
            | some job =>
                cases retargeted : session.servedDiff floats now job with
                | none => exact ⟨address, job, rfl, rfl, retargeted⟩
                | some next =>
                    rw [Session.handleLogin_eq_served address current retargeted] at panicked
                    cases panicked
  · rintro ⟨address, job, rfl, current, retargeted⟩
    rw [Session.handleLogin_eq_panicked address current retargeted]

theorem login_panics_iff {params : Value} :
    (line.login now session store params).ending = .panicked ↔
      ∃ named address job, LoginParams.fromValue params = some named ∧
        line.parseAddress named.login = some address ∧ store.current = some job ∧
        (session.servedDiff line.proxy.floats now job = none ∨
          stampWorkerByte job.blobHex line.workerByte = none) := by
  constructor
  · intro panicked
    unfold login at panicked
    split at panicked
    · cases panicked
    · rename_i named parsed
      dsimp only at panicked
      split at panicked
      · rename_i address job isAddress current
        split at panicked
        · obtain ⟨_, served, _, isCurrent, retargeted⟩ := handleLogin_panics_iff.1 panicked
          rw [current] at isCurrent
          cases isCurrent
          exact ⟨named, address, job, parsed, isAddress, current, Or.inl retargeted⟩
        · rename_i stamped
          exact ⟨named, address, job, parsed, isAddress, current, Or.inr stamped⟩
      · rename_i noJob
        obtain ⟨address, job, isAddress, current, _⟩ := handleLogin_panics_iff.1 panicked
        exact (noJob address job (Option.some.inj isAddress) current).elim
  · rintro ⟨named, address, job, parsed, isAddress, current, reason⟩
    unfold login
    simp only [parsed, isAddress, current]
    cases stamped : stampWorkerByte job.blobHex line.workerByte with
    | none => rfl
    | some _ =>
        rcases reason with retargeted | notStamped
        · exact handleLogin_panics_iff.2 ⟨address, job, rfl, current, retargeted⟩
        · rw [stamped] at notStamped
          cases notStamped

theorem submit_panics_iff {draw : Option Bool} {params : Value} :
    (line.submit now session store draw params).ending = .panicked ↔
      ∃ named, session.miner.isSome = true ∧ SubmitParams.fromValue params = some named ∧
        (nonceHighByte named.nonce = none ∨
          (∃ job, (store.recordSubmission line.proxy.config.shareGrace now named.jobId
            named.nonce).2 = .accepted job) ∧
            line.proxy.config.verificationWarmup ≤ session.verifiedCount ∧ draw = none) := by
  have calm := handleSubmit_calm line.proxy now session store
  constructor
  · intro panicked
    unfold submit at panicked
    dsimp only at panicked
    split at panicked
    · rename_i miner named loggedIn parsed
      have isLoggedIn : session.miner.isSome = true := Option.isSome_iff_exists.2 ⟨miner, loggedIn⟩
      split at panicked
      · rename_i split
        exact ⟨named, isLoggedIn, parsed, Or.inl split⟩
      · split at panicked
        · rename_i job accepted
          split at panicked
          · exact absurd panicked (calm _ _)
          · rename_i warm
            exact ⟨named, isLoggedIn, parsed, Or.inr ⟨⟨job, accepted⟩, Nat.not_lt.1 warm, rfl⟩⟩
        · exact absurd panicked (calm _ _)
    · exact absurd panicked (calm _ _)
  · rintro ⟨named, isLoggedIn, parsed, reason⟩
    obtain ⟨miner, loggedIn⟩ := Option.isSome_iff_exists.1 isLoggedIn
    unfold submit
    simp only [loggedIn, parsed]
    cases high : nonceHighByte named.nonce with
    | none => rfl
    | some _ =>
        rcases reason with split | ⟨⟨job, accepted⟩, warm, missing⟩
        · rw [high] at split
          cases split
        · simp only [accepted, missing, if_neg (Nat.not_lt.2 warm)]
          rfl

end Line

/-- **When a request panics a session**: a miner's nonce of eight bytes that cannot be cut
at the sixth, or a configuration or an upstream job under which a login or a sampled
submit panics. In every state of a session and its store, and for every request. -/
theorem request_panics_iff (line : Line) (now : Nat) (session : Session) (store : JobStore)
    (draw : Option Bool) (request : RpcRequest) :
    (line.handleRequest now session store draw request).ending = .panicked ↔
      Panics line now session store draw request := by
  unfold Line.handleRequest
  by_cases isLogin : request.method = "login"
  · have notSubmit : ¬ request.method = "submit" := by
      rw [isLogin]
      decide
    rw [if_pos isLogin, Line.login_panics_iff]
    constructor
    · rintro ⟨params, address, job, parsed, named, current, retargeted | stamped⟩
      · exact .invertedClamp params address job isLogin parsed named current retargeted
      · exact .splitBlob params address job isLogin parsed named current stamped
    · intro panics
      cases panics with
      | splitNonce params isSubmit => exact absurd isSubmit notSubmit
      | noDraw params job isSubmit => exact absurd isSubmit notSubmit
      | invertedClamp params address job _ parsed named current retargeted =>
          exact ⟨params, address, job, parsed, named, current, Or.inl retargeted⟩
      | splitBlob params address job _ parsed named current stamped =>
          exact ⟨params, address, job, parsed, named, current, Or.inr stamped⟩
  · rw [if_neg isLogin]
    by_cases isSubmit : request.method = "submit"
    · rw [if_pos isSubmit, Line.submit_panics_iff]
      constructor
      · rintro ⟨params, loggedIn, parsed, split | ⟨⟨job, accepted⟩, warm, missing⟩⟩
        · obtain ⟨eightBytes, inside⟩ := nonceHighByte_eq_none_iff.1 split
          exact .splitNonce params isSubmit loggedIn parsed eightBytes inside
        · exact .noDraw params job isSubmit loggedIn parsed accepted warm missing
      · intro panics
        cases panics with
        | splitNonce params _ loggedIn parsed eightBytes inside =>
            exact ⟨params, loggedIn, parsed,
              Or.inl (nonceHighByte_eq_none_iff.2 ⟨eightBytes, inside⟩)⟩
        | noDraw params job _ loggedIn parsed accepted warm missing =>
            exact ⟨params, loggedIn, parsed, Or.inr ⟨⟨job, accepted⟩, warm, missing⟩⟩
        | invertedClamp params address job isLogin' => exact absurd isLogin' isLogin
        | splitBlob params address job isLogin' => exact absurd isLogin' isLogin
    · rw [if_neg isSubmit]
      have calm : ¬ Panics line now session store draw request := by
        intro panics
        cases panics with
        | splitNonce params isSubmit' => exact isSubmit isSubmit'
        | noDraw params job isSubmit' => exact isSubmit isSubmit'
        | invertedClamp params address job isLogin' => exact isLogin isLogin'
        | splitBlob params address job isLogin' => exact isLogin isLogin'
      split
      · exact ⟨nofun, fun panics => (calm panics).elim⟩
      · exact ⟨nofun, fun panics => (calm panics).elim⟩

def sampleLine : Line where
  proxy := sampleProxy
  parseAddress _ := some 1
  workerByte := 0

/-- A nonce of five letters and a currency sign of three bytes. -/
def splitNonceRequest : RpcRequest where
  id := loginId
  jsonrpc := some "2.0"
  method := "submit"
  params := .object [("id", .string ""), ("job_id", .string "J"), ("nonce", .string "aaaaa€"),
    ("result", .string "")]

/-- Any miner that is logged in can panic its session, with no job and a sound
configuration. -/
theorem split_nonce_panics :
    byteLength "aaaaa€" = 8 ∧ ¬ IsBoundary "aaaaa€".toList 6 ∧
      (sampleLine.handleRequest 0
        { Session.new sampleProxy.config 0 with miner := some 1 } JobStore.new (some true)
        splitNonceRequest).ending = .panicked := by
  refine ⟨by decide +kernel, by decide +kernel, by decide +kernel⟩

end CrFaucet.Stratum
