import CrFaucet.Census
import CrFaucet.Instances.SingleActive
import CrFaucet.Interaction.Run

/-!
Owns any number of pool instances side by side: they register with the runtime, run the
start-up guard, crash, and lose their registrations, in any order.

Of the runtime it takes what the guard's own documentation takes: a registration is
visible from before the instance's first query, one that is gone does not come back (a
replacement is another instance), and a query is answered with the registrations that
are live when it is evaluated. A registration may expire at any time here, also that of
a running instance.

`failures` is a ghost: the queries of an instance that failed in a row.
-/

set_option autoImplicit false

namespace CrFaucet.Instances

open Interaction

structure Site (Instance : Type) where
  cfg : Instance → SingleActiveConfig
  socketExists : Instance → Bool
  /-- What the runtime tells of a registration. -/
  registration : Instance → Value

structure Fleet (Instance : Type) where
  live : List Instance
  registered : Instance → Bool
  crashed : Instance → Bool
  phase : Instance → Phase
  failures : Instance → Nat

inductive Move where
  | start
  | wake
  | query
  | answer
  | fail
deriving DecidableEq

inductive Action (Instance : Type) where
  | register (instance_ : Instance)
  | move (instance_ : Instance) (move : Move)
  | crash (instance_ : Instance)
  | expire (instance_ : Instance)
deriving DecidableEq

/-- The failures in a row after a poll, given those before. -/
def inARow (failures : Nat) : Option Bool → Nat
  | none => failures
  | some true => 0
  | some false => failures + 1

namespace Fleet

variable {Instance : Type}

def initial : Fleet Instance where
  live := []
  registered := fun _ => false
  crashed := fun _ => false
  phase := fun _ => .booting
  failures := fun _ => 0

variable [DecidableEq Instance] (site : Site Instance) (fleet : Fleet Instance)

/-- `rofl.AppInstances`. -/
def appInstances : Value := .array (fleet.live.map site.registration)

/-- What a move means to the process; a query needs a registration. -/
def happening (member : Instance) : Move → Option Happening
  | .start => some .start
  | .wake => some .wake
  | .query => if fleet.registered member then some (.query (fleet.appInstances site)) else none
  | .answer => some .answer
  | .fail => some .fail

/-- The process goes on, unless it has crashed. -/
def advance (member : Instance) (happening : Happening) : Fleet Instance :=
  if fleet.crashed member then fleet
  else { fleet with
    phase := Function.update fleet.phase member
      ((fleet.phase member).next (site.cfg member) (site.socketExists member) happening)
    failures := Function.update fleet.failures member
      (inARow (fleet.failures member) ((fleet.phase member).outcome happening)) }

def step : Action Instance → Fleet Instance
  | .register member =>
      if fleet.registered member then fleet
      else { fleet with
        live := fleet.live ++ [member]
        registered := Function.update fleet.registered member true }
  | .move member move =>
      match fleet.happening site member move with
      | none => fleet
      | some happening => fleet.advance site member happening
  | .crash member => { fleet with crashed := Function.update fleet.crashed member true }
  | .expire member => { fleet with live := fleet.live.filter (· ≠ member) }

/-- Fewer than `MAX_ERRORS` queries of an instance fail in a row. -/
def FewFailures (action : Action Instance) : Prop :=
  match action with
  | .move member _ => (fleet.step site action).failures member < maxErrors
  | _ => True

instance (action : Action Instance) : Decidable (fleet.FewFailures site action) :=
  match action with
  | .move _ _ => inferInstanceAs (Decidable (_ < _))
  | .register _ => isTrue trivial
  | .crash _ => isTrue trivial
  | .expire _ => isTrue trivial

end Fleet

/-- Guarded by strict counting, inside a TEE. -/
structure Site.Strict {Instance : Type} (site : Site Instance) : Prop where
  enabled : ∀ member, (site.cfg member).enabled = true
  counting : ∀ member, (site.cfg member).nodeAware = false
  socket : ∀ member, site.socketExists member = true

end CrFaucet.Instances
