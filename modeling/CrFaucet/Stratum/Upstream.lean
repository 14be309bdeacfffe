import CrFaucet.Interaction.Run
import CrFaucet.SerdeJson
import CrFaucet.Stratum.Jobs
import CrFaucet.Stratum.Target

/-!
Owns `stratum_proxy::upstream`: the one connection to the upstream pool, its login, the
jobs it brings, and the queue of shares to submit, which outlives a connection.

The loop of a connection serves whatever is ready, so a run is any sequence of lines and
queued shares. What a connection has written and received is its log, newest first. A
write that fails ends the connection, and its request is not in the log.

Does not own sockets, TLS, the delay between connections, the metrics, or the texts
that are only logged.
-/

set_option autoImplicit false

namespace CrFaucet.Stratum

open Interaction
open SerdeJson (Value)

/-- `protocol::Request`. -/
structure RpcRequest where
  id : Value
  jsonrpc : Option String
  method : String
  params : Value

structure UpstreamSubmit where
  jobId : String
  nonceHex : String
  resultHex : String

structure UpstreamConfig where
  user : String
  password : String

def parseJob (params : Value) : Option UpstreamJob := do
  let jobId ← (params.get "job_id").bind Value.asStr
  let blobHex ← (params.get "blob").bind Value.asStr
  let targetHex ← (params.get "target").bind Value.asStr
  return {
    jobId := jobId
    blobHex := blobHex
    seedHex := ((params.get "seed_hash").bind Value.asStr).getD ""
    upstreamTargetHex := targetHex
    upstreamDiff := (targetHexToDiff targetHex).toOption.getD 1
    height := (params.get "height").bind Value.asU64 }

/-! ### Messages -/

/-- `json!(login_id)`. -/
def loginId : Value := .number (.posInt ⟨1, by decide⟩)

def loginRequest (config : UpstreamConfig) : RpcRequest where
  id := loginId
  jsonrpc := some "2.0"
  method := "login"
  params := .object [("login", .string config.user), ("pass", .string config.password),
    ("agent", .string "tiny-pool/0.1")]

def submitRequest (submit : UpstreamSubmit) : RpcRequest where
  id := .string ("submit:" ++ submit.jobId)
  jsonrpc := some "2.0"
  method := "submit"
  params := .object [("id", .string ""), ("job_id", .string submit.jobId),
    ("nonce", .string submit.nonceHex), ("result", .string submit.resultHex)]

/-- `v.get("id") == Some(&json!(login_id))`; a float is never equal to an integer. -/
def isLoginId : Option Value → Bool
  | some (.number (.posInt value)) => value.val == 1
  | _ => false

def isJob (value : Value) : Bool := (value.get "method").bind Value.asStr == some "job"

/-- The `result` of a response to the login. -/
def loginResult (value : Value) : Option Value :=
  if isJob value then none
  else if isLoginId (value.get "id") then value.get "result"
  else none

def resultId (result : Value) : Option String := (result.get "id").bind Value.asStr

/-! ### The client -/

inductive WireEvent where
  | wrote (request : RpcRequest)
  | received (value : Value)

structure Connection where
  /-- The id of the login response. -/
  sessionId : String

/-- The queue, the connection if there is one, its log, and the jobs given to the store. -/
structure UpstreamClient where
  queue : List UpstreamSubmit
  connection : Option Connection
  log : List WireEvent
  published : List UpstreamJob

inductive UpstreamAction where
  /-- A miner session calls `UpstreamClient::submit`. -/
  | enqueue (submit : UpstreamSubmit)
  /-- A new connection; the login may not get through. -/
  | connect (written : Bool)
  /-- A line of the upstream, if it parses. -/
  | line (value : Option Value)
  | closed
  /-- The loop serves the queue; the write may fail. -/
  | serve (written : Bool)

namespace UpstreamClient

def queueCapacity : Nat := 1024

def start : UpstreamClient where
  queue := []
  connection := none
  log := []
  published := []

variable (config : UpstreamConfig) (client : UpstreamClient)

def publish (job : Option UpstreamJob) : UpstreamClient :=
  { client with published := job.toList ++ client.published }

/-- The arm of the loop that reads a line. -/
def receive (connection : Connection) (value : Value) : UpstreamClient :=
  let received := { client with log := .received value :: client.log }
  if isJob value then received.publish ((value.get "params").bind parseJob)
  else if isLoginId (value.get "id") then
    match value.get "result" with
    | some result =>
        { received with
          connection := some { sessionId := (resultId result).getD connection.sessionId } }.publish
            ((result.get "job").bind parseJob)
    | none =>
        -- A login that failed ends the connection.
        if (value.get "error").isSome then { received with connection := none } else received
  -- What is left are answers to submits, which are only counted.
  else received

/-- The arm of the loop that serves the queue. -/
def serve (connection : Connection) (written : Bool) : UpstreamClient :=
  match client.queue with
  | [] => client
  | submit :: rest =>
      { client with
        queue := rest
        connection := if written then some connection else none
        log := if written then .wrote (submitRequest submit) :: client.log else client.log }

def step (client : UpstreamClient) : UpstreamAction → UpstreamClient
  | .enqueue submit =>
      -- A sender waits while the queue is full.
      if client.queue.length < queueCapacity then
        { client with queue := client.queue ++ [submit] }
      else client
  | .connect written =>
      if client.connection.isSome then client
      else
        { client with
          connection := if written then some { sessionId := "" } else none
          log := if written then [.wrote (loginRequest config)] else [] }
  | .line value =>
      match client.connection, value with
      | some connection, some value => client.receive connection value
      | _, _ => client
  | .closed => { client with connection := none }
  | .serve written =>
      match client.connection with
      | some connection => client.serve connection written
      | none => client

end UpstreamClient

/-! ### Submits of the session -/

/-- The session id the login responses received so far have brought, if one has been
received. A response without an id keeps the earlier one, at first the empty text. -/
def capturedId : List WireEvent → Option String
  | [] => none
  | .wrote _ :: earlier => capturedId earlier
  | .received value :: earlier =>
      match loginResult value with
      | some result => some ((resultId result).getD ((capturedId earlier).getD ""))
      | none => capturedId earlier

def RpcRequest.paramsId (request : RpcRequest) : Option String :=
  (request.params.get "id").bind Value.asStr

/-- Every submit follows a login response and carries the id captured by then. -/
def SubmitsBelong : List WireEvent → Prop
  | [] => True
  | .received _ :: earlier => SubmitsBelong earlier
  | .wrote request :: earlier =>
      (request.method = "submit" →
        ∃ id, capturedId earlier = some id ∧ request.paramsId = some id) ∧
      SubmitsBelong earlier

/-! ### The trace of a session -/

def loginResults (actions : List UpstreamAction) : List Value :=
  actions.filterMap fun action =>
    match action with
    | .line (some value) => loginResult value
    | _ => none

/-- The session id after a trace: what the last response with an id has brought, and the
empty text if none had one; `none` before the first response. -/
def sessionIdOf (actions : List UpstreamAction) : Option String :=
  match loginResults actions with
  | [] => none
  | results => some ((results.filterMap resultId).getLast?.getD "")

/-- A client, and what has happened since it connected. -/
structure Traced where
  client : UpstreamClient
  seen : List UpstreamAction

namespace Traced

def step (config : UpstreamConfig) (traced : Traced) (action : UpstreamAction) : Traced :=
  ⟨traced.client.step config action, traced.seen ++ [action]⟩

/-- A queued share is served only when a login response was there and no id is known. -/
def ServesGreeted (traced : Traced) : UpstreamAction → Prop
  | .serve true => traced.client.connection.isSome → traced.client.queue ≠ [] →
      sessionIdOf traced.seen = some ""
  | _ => True

theorem client_run (config : UpstreamConfig) (traced : Traced) (actions : List UpstreamAction) :
    (run (step config) traced actions).client =
      run (UpstreamClient.step config) traced.client actions := by
  induction actions generalizing traced with
  | nil => rfl
  | cons action rest inductionHypothesis => exact inductionHypothesis (traced.step config action)

theorem seen_run (config : UpstreamConfig) (traced : Traced) (actions : List UpstreamAction) :
    (run (step config) traced actions).seen = traced.seen ++ actions := by
  induction actions generalizing traced with
  | nil => exact (List.append_nil _).symm
  | cons action rest inductionHypothesis =>
      change (run (step config) (traced.step config action) rest).seen = _
      rw [inductionHypothesis, step, List.append_assoc]
      rfl

end Traced

theorem loginResults_snoc (seen : List UpstreamAction) (action : UpstreamAction) :
    loginResults (seen ++ [action]) = loginResults seen ++ loginResults [action] :=
  List.filterMap_append

theorem sessionIdOf_snoc (seen : List UpstreamAction) {action : UpstreamAction}
    (other : loginResults [action] = []) : sessionIdOf (seen ++ [action]) = sessionIdOf seen := by
  rw [sessionIdOf, loginResults_snoc, other, List.append_nil]
  rfl

theorem sessionIdOf_response {seen : List UpstreamAction} {value result : Value}
    (response : loginResult value = some result) :
    sessionIdOf (seen ++ [.line (some value)]) =
      some ((resultId result).getD ((sessionIdOf seen).getD "")) := by
  have brought : loginResults [.line (some value)] = [result] := by
    simp only [loginResults, List.filterMap_cons, response, List.filterMap_nil]
  have before : (sessionIdOf seen).getD "" =
      ((loginResults seen).filterMap resultId).getLast?.getD "" := by
    unfold sessionIdOf
    cases loginResults seen with
    | nil => rfl
    | cons first rest => rfl
  have after : sessionIdOf (seen ++ [.line (some value)]) =
      some (((loginResults seen ++ [result]).filterMap resultId).getLast?.getD "") := by
    rw [sessionIdOf, loginResults_snoc, brought]
    cases loginResults seen with
    | nil => rfl
    | cons first rest => rfl
  rw [after, before, List.filterMap_append]
  cases found : resultId result with
  | none => simp [found]
  | some id => simp [found]

/-- While the connection is up, it has received what the trace brought. -/
structure Tracks (traced : Traced) : Prop where
  captured : traced.client.connection.isSome →
    capturedId traced.client.log = sessionIdOf traced.seen
  known : ∀ connection, traced.client.connection = some connection →
    connection.sessionId = (sessionIdOf traced.seen).getD ""

theorem log_receive (client : UpstreamClient) (connection : Connection) (value : Value) :
    (client.receive connection value).log = .received value :: client.log := by
  unfold UpstreamClient.receive
  dsimp only
  split
  · rfl
  · split
    · split
      · rfl
      · split
        · rfl
        · rfl
    · rfl

namespace Tracks

variable {traced : Traced} {client : UpstreamClient} {seen : List UpstreamAction}
  {config : UpstreamConfig}

theorem connect (idle : client.connection = none) :
    Tracks ⟨client.step config (.connect true), []⟩ := by
  have connected : client.step config (.connect true) = { client with
      connection := some { sessionId := "" }, log := [.wrote (loginRequest config)] } := by
    simp only [UpstreamClient.step, idle, Option.isSome_none, Bool.false_eq_true, if_false, if_true]
  rw [connected]
  refine ⟨fun _ => rfl, ?_⟩
  intro connection same
  cases same
  rfl

theorem other (tracks : Tracks traced) {next : UpstreamClient} {action : UpstreamAction}
    (quiet : loginResults [action] = [])
    (kept : next.connection = traced.client.connection ∨ next.connection = none)
    (log : next.connection.isSome → capturedId next.log = capturedId traced.client.log) :
    Tracks ⟨next, traced.seen ++ [action]⟩ := by
  have same := sessionIdOf_snoc traced.seen quiet
  refine ⟨?_, ?_⟩
  · intro up
    dsimp only
    rw [same, log up]
    rcases kept with kept | gone
    · exact tracks.captured (kept ▸ up)
    · rw [gone] at up
      cases up
  · intro connection present
    dsimp only at present ⊢
    rw [same]
    rcases kept with kept | gone
    · exact tracks.known connection (kept ▸ present)
    · rw [gone] at present
      cases present

theorem disconnected (gone : client.connection = none) : Tracks ⟨client, seen⟩ := by
  refine ⟨?_, ?_⟩
  · intro up
    rw [gone] at up
    cases up
  · intro connection present
    rw [gone] at present
    cases present

theorem receive (tracks : Tracks traced) {connection : Connection}
    (connected : traced.client.connection = some connection) (value : Value) :
    Tracks ⟨traced.client.receive connection value, traced.seen ++ [.line (some value)]⟩ := by
  -- Any line but a login response leaves the connection as it was.
  have unchanged : loginResult value = none → ∀ published, Tracks
      ⟨{ traced.client with log := .received value :: traced.client.log, published := published },
        traced.seen ++ [.line (some value)]⟩ := by
    intro noResponse published
    have quiet : loginResults [.line (some value)] = [] := by
      simp only [loginResults, List.filterMap_cons, noResponse, List.filterMap_nil]
    refine tracks.other quiet (Or.inl rfl) fun _ => ?_
    rw [capturedId, noResponse]
  unfold UpstreamClient.receive
  dsimp only
  split
  case isTrue job => exact unchanged (if_pos job) _
  case isFalse notJob =>
    split
    case isFalse notLogin => exact unchanged ((if_neg notJob).trans (if_neg notLogin)) _
    case isTrue login =>
      have response : loginResult value = value.get "result" :=
        (if_neg notJob).trans (if_pos login)
      split
      case h_1 result found =>
        rw [found] at response
        have before := tracks.captured (connected ▸ rfl)
        have idBefore := tracks.known connection connected
        refine ⟨?_, ?_⟩
        · intro _
          show capturedId (.received value :: traced.client.log) = _
          rw [sessionIdOf_response response, capturedId, response, before]
        · intro present same
          cases same
          rw [sessionIdOf_response response, Option.getD_some, idBefore]
      case h_2 missing =>
        split
        case isTrue => exact disconnected rfl
        case isFalse => exact unchanged (response.trans missing) _

/-- **The step lemma.** A session goes on to track its trace, and its submits go on to
belong to it exactly if the step serves none too early and none with an id known. -/
theorem step (tracks : Tracks traced) (config : UpstreamConfig) {action : UpstreamAction}
    (oneSession : ∀ written, action ≠ .connect written) :
    Tracks (traced.step config action) ∧
      (SubmitsBelong (traced.step config action).client.log ↔
        SubmitsBelong traced.client.log ∧ traced.ServesGreeted action) := by
  unfold Traced.step UpstreamClient.step
  cases action with
  | enqueue submit =>
      dsimp only
      split
      · exact ⟨tracks.other rfl (Or.inl rfl) fun _ => rfl, (and_iff_left trivial).symm⟩
      · exact ⟨tracks.other rfl (Or.inl rfl) fun _ => rfl, (and_iff_left trivial).symm⟩
  | connect written => exact absurd rfl (oneSession written)
  | closed => exact ⟨disconnected rfl, (and_iff_left trivial).symm⟩
  | line line =>
      cases connected : traced.client.connection with
      | none => exact ⟨disconnected connected, (and_iff_left trivial).symm⟩
      | some connection =>
          cases line with
          | none => exact ⟨tracks.other rfl (Or.inl rfl) fun _ => rfl, (and_iff_left trivial).symm⟩
          | some value =>
              refine ⟨tracks.receive connected value, ?_⟩
              rw [and_iff_left (show traced.ServesGreeted (.line (some value)) from trivial)]
              dsimp only
              rw [log_receive]
              exact Iff.rfl
  | serve written =>
      cases connected : traced.client.connection with
      | none =>
          refine ⟨disconnected connected, (and_iff_left ?_).symm⟩
          cases written with
          | false => trivial
          | true =>
              intro up
              rw [connected] at up
              cases up
      | some connection =>
          dsimp only
          unfold UpstreamClient.serve
          cases waiting : traced.client.queue with
          | nil =>
              refine ⟨tracks.other rfl (Or.inl rfl) fun _ => rfl, (and_iff_left ?_).symm⟩
              cases written with
              | false => trivial
              | true => exact fun _ nonempty => absurd waiting nonempty
          | cons submit rest =>
              cases written with
              | false => exact ⟨disconnected rfl, (and_iff_left trivial).symm⟩
              | true =>
                  refine ⟨tracks.other rfl (Or.inl connected.symm) fun _ => rfl, ?_⟩
                  have before := tracks.captured (connected ▸ rfl)
                  have greeted : traced.ServesGreeted (.serve true) ↔
                      capturedId traced.client.log = some "" := by
                    rw [before]
                    exact ⟨fun greeted => greeted (connected ▸ rfl) (waiting ▸ nofun),
                      fun empty _ _ => empty⟩
                  rw [greeted, and_comm]
                  refine and_congr_left fun _ => ?_
                  constructor
                  · intro belongs
                    obtain ⟨id, capturedThen, carried⟩ := belongs rfl
                    cases carried
                    exact capturedThen
                  · intro empty _
                    exact ⟨"", empty, rfl⟩

/-- **The run lemma.** -/
theorem run (tracks : Tracks traced) (config : UpstreamConfig) {actions : List UpstreamAction}
    (oneSession : ∀ action ∈ actions, ∀ written, action ≠ .connect written) :
    Tracks (Interaction.run (Traced.step config) traced actions) ∧
      (SubmitsBelong (Interaction.run (Traced.step config) traced actions).client.log ↔
        SubmitsBelong traced.client.log ∧
          Along (Traced.step config) Traced.ServesGreeted traced actions) := by
  induction actions generalizing traced with
  | nil => exact ⟨tracks, (and_iff_left trivial).symm⟩
  | cons action rest inductionHypothesis =>
      obtain ⟨next, exactly⟩ := tracks.step config (oneSession action (List.mem_cons_self ..))
      obtain ⟨last, later⟩ := inductionHypothesis next
        fun other member => oneSession other (List.mem_cons_of_mem _ member)
      refine ⟨last, later.trans ?_⟩
      rw [exactly, and_assoc]
      exact Iff.rfl

end Tracks

/-- **When submits belong to the session.** For every session of the client, whatever queue
it finds and whatever lines, shares and failures come: the client knows the id its login
responses brought, but submits carry the empty text; so they belong to the session exactly
if no queued share is served before a login response or after one with an id. -/
theorem submits_belong_iff (config : UpstreamConfig) {client : UpstreamClient}
    (idle : client.connection = none) {actions : List UpstreamAction}
    (oneSession : ∀ action ∈ actions, ∀ written, action ≠ .connect written) :
    let session := client.step config (.connect true)
    let last := run (UpstreamClient.step config) session actions
    (∀ connection, last.connection = some connection →
      connection.sessionId = (sessionIdOf actions).getD "") ∧
    (SubmitsBelong last.log ↔
      Along (Traced.step config) Traced.ServesGreeted ⟨session, []⟩ actions) := by
  have begins : SubmitsBelong (client.step config (.connect true)).log := by
    simp only [UpstreamClient.step, idle, Option.isSome_none, Bool.false_eq_true, if_false, if_true]
    exact ⟨fun isSubmit => absurd isSubmit (by decide : ¬ "login" = "submit"), trivial⟩
  obtain ⟨tracks, exactly⟩ := (Tracks.connect idle).run config oneSession
  have seen := Traced.seen_run config ⟨client.step config (.connect true), []⟩ actions
  have known := tracks.known
  rw [seen, Traced.client_run] at known
  rw [Traced.client_run] at exactly
  exact ⟨known, exactly.trans (and_iff_right begins)⟩

def sampleUpstream : UpstreamConfig := ⟨"wallet", "x"⟩

def sampleSubmit : UpstreamSubmit := ⟨"J", "deadbeef", "00"⟩

/-- A login response with the given session id and no job. -/
def loginAnswer (sessionId : String) : Value :=
  .object [("id", loginId), ("result", .object [("id", .string sessionId)])]

/-- An upstream that assigns no id: a share served after its response belongs. -/
theorem submits_belong_iff_unnamed :
    SubmitsBelong (run (UpstreamClient.step sampleUpstream)
      (UpstreamClient.start.step sampleUpstream (.connect true))
      [.line (some (loginAnswer "")), .enqueue sampleSubmit, .serve true]).log := by
  refine (submits_belong_iff sampleUpstream rfl ?_).2.2 ?_
  · intro action member written
    simp only [List.mem_cons, List.not_mem_nil, or_false] at member
    rcases member with rfl | rfl | rfl <;> nofun
  · exact ⟨trivial, trivial, fun _ _ => rfl, trivial⟩

def leftoverShare : List UpstreamAction :=
  [.enqueue sampleSubmit, .connect true, .serve true]

def shareAfterLogin : List UpstreamAction :=
  [.connect true, .line (some (loginAnswer "s1")), .enqueue sampleSubmit, .serve true]

/-- The one goes out ahead of the login response; the other does not carry the id the
response brought. -/
theorem submits_do_not_belong :
    ¬ SubmitsBelong (run (UpstreamClient.step sampleUpstream) .start leftoverShare).log ∧
      (run (UpstreamClient.step sampleUpstream) .start shareAfterLogin).connection =
        some ⟨"s1"⟩ ∧
      ¬ SubmitsBelong (run (UpstreamClient.step sampleUpstream) .start shareAfterLogin).log := by
  refine ⟨?_, rfl, ?_⟩
  · intro belongs
    obtain ⟨id, capturedThen, _⟩ := belongs.1 rfl
    cases capturedThen
  · intro belongs
    obtain ⟨id, capturedThen, carried⟩ := belongs.1 rfl
    have same : "s1" = "" := Option.some.inj (capturedThen.trans carried.symm)
    exact absurd same (by decide)

end CrFaucet.Stratum
