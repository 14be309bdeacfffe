import CrFaucet.Stratum.Steps

/-!
Owns when a session takes a share on trust: only after the configured number of shares
in a row has been verified.

A watcher keeps the judgements of a session, newest first. Submits that are turned away
before a share check, and a share check that ends the session with an error, are no
judgements.
-/

set_option autoImplicit false

namespace CrFaucet.Stratum

open Interaction

inductive Judgement where
  | credited (verified : Bool)
  | rejected
deriving DecidableEq

namespace Effect

def isCheck : Effect → Bool
  | .check _ _ => true
  | _ => false

def isCredit : Effect → Bool
  | .credit _ => true
  | _ => false

theorem Plain.isCheck {effect : Effect} (plain : effect.Plain) : effect.isCheck = false := by
  cases effect with
  | check jobId difficulty => cases plain.2
  | login | pushJob | ok | keepalived | error | credit | submitUpstream => rfl

theorem Plain.isCredit {effect : Effect} (plain : effect.Plain) : effect.isCredit = false := by
  cases effect with
  | credit share => cases plain.2
  | login | pushJob | ok | keepalived | error | check | submitUpstream => rfl

end Effect

def judgement (didVerify : Bool) (handled : Handled) : Option Judgement :=
  if handled.effects.any Effect.isCredit then some (.credited didVerify)
  else if handled.effects.any Effect.isCheck && handled.ending != .failed then some .rejected
  else none

def noteJudgement (config : StratumConfig) (session : Session) (draw : Bool) (handled : Handled)
    (trace : List Judgement) : List Judgement :=
  (judgement (shouldVerify config session.verifiedCount draw) handled).toList ++ trace

def verifiedSince : List Judgement → Nat
  | [] => 0
  | .rejected :: _ => 0
  | .credited true :: earlier => verifiedSince earlier + 1
  | .credited false :: earlier => verifiedSince earlier

/-- Every share credited on trust comes after `warmup` verified credits. -/
def Earned (warmup : Nat) : List Judgement → Prop
  | [] => True
  | .credited false :: earlier => warmup ≤ verifiedSince earlier ∧ Earned warmup earlier
  | .credited true :: earlier => Earned warmup earlier
  | .rejected :: earlier => Earned warmup earlier

/-- The counter of the session does not run ahead of the trace. -/
structure Trusted (warmup : Nat) (session : Session) (trace : List Judgement) : Prop where
  counted : session.verifiedCount ≤ verifiedSince trace
  earned : Earned warmup trace

namespace Trusted

variable {config : StratumConfig} {session : Session} {draw : Bool} {trace : List Judgement}

theorem unjudged {handled : Handled}
    (trusted : Trusted config.verificationWarmup session trace)
    (noJudgement : judgement (shouldVerify config session.verifiedCount draw) handled = none)
    (sameCount : handled.session.verifiedCount = session.verifiedCount) :
    Trusted config.verificationWarmup handled.session
      (noteJudgement config session draw handled trace) := by
  rw [noteJudgement, noJudgement]
  exact ⟨sameCount ▸ trusted.counted, trusted.earned⟩

theorem credited (trusted : Trusted config.verificationWarmup session trace) {now : Nat}
    {store : JobStore} {address : Token.Address} {params : SubmitParams}
    (forwarded : Bool) :
    let handled := session.settle now store address params
      (shouldVerify config session.verifiedCount draw) (.accepted forwarded)
    Trusted config.verificationWarmup handled.session
      (noteJudgement config session draw handled trace) := by
  have isCredited : ∀ didVerify, judgement didVerify (session.settle now store address params
      didVerify (.accepted forwarded)) = some (.credited didVerify) := fun _ => rfl
  dsimp only
  rw [noteJudgement, isCredited]
  cases verifies : shouldVerify config session.verifiedCount draw with
  | true =>
      have saturates : Nat.min (session.verifiedCount + 1) (2 ^ 32 - 1) ≤
          session.verifiedCount + 1 := Nat.min_le_left _ _
      exact ⟨Nat.le_trans saturates (Nat.succ_le_succ trusted.counted), trusted.earned⟩
  | false =>
      -- Without verification the counter had reached the warmup.
      have warm : config.verificationWarmup ≤ session.verifiedCount := by
        have below := (Bool.or_eq_false_iff.1 verifies).1
        exact Nat.not_lt.1 (of_decide_eq_false below)
      exact ⟨trusted.counted, Nat.le_trans warm trusted.counted, trusted.earned⟩

theorem rejected (trusted : Trusted config.verificationWarmup session trace)
    {handled : Handled}
    (isRejected : judgement (shouldVerify config session.verifiedCount draw) handled =
      some .rejected)
    (reset : handled.session.verifiedCount = 0) :
    Trusted config.verificationWarmup handled.session
      (noteJudgement config session draw handled trace) := by
  rw [noteJudgement, isRejected]
  exact ⟨Nat.le_of_eq reset, trusted.earned⟩

theorem judgement_of_plain {didVerify : Bool} {handled : Handled}
    (plain : ∀ effect ∈ handled.effects, effect.Plain) : judgement didVerify handled = none := by
  have noCredit : handled.effects.any Effect.isCredit = false :=
    List.any_eq_false.2 fun effect member => by
      rw [(plain effect member).isCredit]
      exact Bool.false_ne_true
  have noCheck : handled.effects.any Effect.isCheck = false :=
    List.any_eq_false.2 fun effect member => by
      rw [(plain effect member).isCheck]
      exact Bool.false_ne_true
  rw [judgement, noCredit, noCheck]
  rfl

/-- A rejection closes the session or leaves it open; it never fails it. -/
theorem kick_ne_failed (kick : Bool) :
    ((if kick then Ending.close else Ending.keepOpen) != .failed) = true := by
  cases kick with
  | true | false => rfl

/-- **The step lemma.** -/
theorem comes {proxy : Proxy} {now : Nat} {store : JobStore} {offered : UpstreamJob → Prop}
    {handled : Handled} (comes : Comes proxy now session store offered draw handled)
    (trusted : Trusted proxy.config.verificationWarmup session trace) :
    Trusted proxy.config.verificationWarmup handled.session
      (noteJudgement proxy.config session draw handled trace) := by
  cases comes with
  | quiet miner left effects ending sameJobs plain calm =>
      exact trusted.unjudged (judgement_of_plain plain) rfl
  | panicked miner job isOffered retargeted =>
      exact trusted.unjudged (judgement_of_plain nofun) rfl
  | served miner job next effect isOffered retargeted carries =>
      rcases carries with rfl | rfl
      · exact trusted.unjudged rfl rfl
      · exact trusted.unjudged rfl rfl
  | errored params left sameJobs => exact trusted.unjudged rfl rfl
  | settled address params job left outcome sameJobs known named =>
      cases outcome with
      | accepted forwarded => exact trusted.credited forwarded
      | belowDifficulty | invalidHash | unknownJob | badBlob =>
          refine trusted.rejected ?_ rfl
          exact if_pos (kick_ne_failed _)

end Trusted

/-- **Trust is earned before it is used**, in every run of a session that connects at any
time and to any store, whatever the miner sends and whatever is drawn. -/
theorem trust_is_earned (proxy : Proxy) (store : JobStore) (clock : Nat)
    (happenings : List (Nat × Happening)) :
    Earned proxy.config.verificationWarmup
      (run (Watched.step proxy (noteJudgement proxy.config))
        ⟨Served.connect proxy store clock, []⟩ happenings).record := by
  have initially : Trusted proxy.config.verificationWarmup
      (Served.connect proxy store clock).session [] := ⟨Nat.le_refl 0, trivial⟩
  have trusted := Watched.keeps (Trusted proxy.config.verificationWarmup) Trusted.comes
    ⟨Served.connect proxy store clock, []⟩ initially happenings
  exact trusted.earned

/-- With a warmup of one share, the second is taken on trust. -/
example :
    (run (Watched.step { sampleProxy with config.verificationWarmup := 1 }
        (noteJudgement { sampleProxy.config with verificationWarmup := 1 }))
      ⟨Served.connect sampleProxy JobStore.new 0, []⟩
      [(0, .request false (.login (some (some 1)))),
        (60 * 10 ^ 9, .publish (sampleJob "K")), (0, .takeJob),
        (0, .request false (.submit (some ⟨"K", "00000001", ""⟩))),
        (0, .request false (.submit (some ⟨"K", "00000002", ""⟩)))]).record =
      [.credited false, .credited true] := by
  decide +kernel

end CrFaucet.Stratum
