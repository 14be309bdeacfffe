import Mathlib.Data.List.Basic

/-!
Owns `single_active` of the pool's start-up: reading the registrations of the app,
deciding whether this instance is alone, and the loop that waits until it is.

The loop is a machine that moves when something happens to the process. How long a
sleep takes is not owned here, nor the text of errors and log lines; reading the own app
id is part of the query, and fails with it.
-/

set_option autoImplicit false

namespace CrFaucet.Instances

/-! ### CBOR values -/

/-- `ciborium::Value`; a float is its bits. -/
inductive Value where
  | integer (value : Int)
  | bytes (value : List UInt8)
  | float (bits : UInt64)
  | text (value : String)
  | bool (value : Bool)
  | null
  | tag (tag : UInt64) (value : Value)
  | array (items : List Value)
  | map (pairs : List (Value × Value))

namespace Value

/-- Equality of `f64`: not-a-number differs from itself, the two zeros are equal. -/
def floatEq (a b : UInt64) : Bool :=
  let magnitude (bits : UInt64) := bits &&& 0x7FFFFFFFFFFFFFFF
  let isNan (bits : UInt64) := 0x7FF0000000000000 < magnitude bits
  !isNan a && !isNan b && (a == b || (magnitude a == 0 && magnitude b == 0))

mutual

/-- The derived `PartialEq`. -/
def eq : Value → Value → Bool
  | .integer a, .integer b => a == b
  | .bytes a, .bytes b => a == b
  | .float a, .float b => floatEq a b
  | .text a, .text b => a == b
  | .bool a, .bool b => a == b
  | .null, .null => true
  | .tag a value, .tag b other => a == b && value.eq other
  | .array items, .array others => eqItems items others
  | .map pairs, .map others => eqPairs pairs others
  | _, _ => false

def eqItems : List Value → List Value → Bool
  | [], [] => true
  | item :: items, other :: others => item.eq other && eqItems items others
  | _, _ => false

def eqPairs : List (Value × Value) → List (Value × Value) → Bool
  | [], [] => true
  | (key, value) :: pairs, (otherKey, other) :: others =>
      key.eq otherKey && value.eq other && eqPairs pairs others
  | _, _ => false

end

/-- `map_get`: the first pair with this text key. -/
def mapGet (value : Value) (key : String) : Option Value :=
  match value with
  | .map pairs => (pairs.find? fun pair => match pair.1 with
      | .text name => name == key
      | _ => false).map Prod.snd
  | _ => none

end Value

/-! ### The decision -/

/-- `live_node_ids` of what the query returned: one entry for each registration. -/
def liveNodeIds : Value → Option (List Value)
  | .array registrations =>
      some (registrations.map fun registration => (registration.mapGet "node_id").getD .null)
  | _ => none

/-- `distinct_count`. -/
def distinctCount (values : List Value) : Nat :=
  (values.foldl (fun seen value => if seen.any (·.eq value) then seen else seen ++ [value])
    []).length

inductive Decision where
  | proceed
  | standDown (reason : String)
  | skipped (reason : String)
deriving DecidableEq

def decide (nodes : List Value) (nodeAware : Bool) : Decision :=
  let raw := nodes.length
  if nodeAware then
    let distinct := distinctCount nodes
    if distinct ≤ 1 then .proceed
    else .standDown
      s!"{distinct} distinct nodes registered for this app ({raw} registrations)"
  else if raw ≤ 1 then .proceed
  else .standDown s!"{raw} live instances registered for this app"

theorem decide_strict_eq_proceed {nodes : List Value} :
    decide nodes false = .proceed ↔ nodes.length ≤ 1 := by
  simp [decide]

/-- A decision is never `skipped`; the loop has a branch for it all the same. -/
theorem decide_ne_skipped (nodes : List Value) (nodeAware : Bool) (reason : String) :
    decide nodes nodeAware ≠ .skipped reason := by
  intro same
  unfold decide at same
  dsimp only at same
  split at same
  · split at same <;> cases same
  · split at same <;> cases same

/-! ### The loop -/

structure SingleActiveConfig where
  enabled : Bool := true
  settleSecs : Nat := 90
  nodeAware : Bool := false
deriving DecidableEq

/-- Seconds between polls while another instance is live. -/
def pollWait : Nat := 60

/-- Seconds between polls while the check fails. -/
def pollErr : Nat := 10

def maxErrors : Nat := 6

/-- Where `await_sole_instance` is. -/
inductive Phase where
  | booting
  | sleeping (secs errors : Nat)
  | asking (errors : Nat)
  /-- The query was evaluated, and the answer is on its way. -/
  | asked (errors : Nat) (registrations : Value)
  | returned

/-- What can happen to a process. -/
inductive Happening where
  | start
  | wake
  /-- The runtime evaluates the query. -/
  | query (registrations : Value)
  | answer
  /-- The query fails, before or after it was evaluated. -/
  | fail

namespace Phase

variable (cfg : SingleActiveConfig) (socketExists : Bool)

/-- Up to the loop. -/
def enter : Phase :=
  if socketExists = false then .returned
  else if cfg.enabled = false then .returned
  else .sleeping cfg.settleSecs 0

/-- The body of the loop after `live_node_ids`. -/
def poll (errors : Nat) : Option (List Value) → Phase
  | some nodes =>
      match decide nodes cfg.nodeAware with
      | .proceed => .returned
      | .standDown _ => .sleeping pollWait 0
      | .skipped _ => .returned
  | none => if maxErrors ≤ errors + 1 then .returned else .sleeping pollErr (errors + 1)

def next : Phase → Happening → Phase
  | .booting, .start => enter cfg socketExists
  | .sleeping _ errors, .wake => .asking errors
  | .asking errors, .query registrations => .asked errors registrations
  | .asked errors registrations, .answer => poll cfg errors (liveNodeIds registrations)
  | .asking errors, .fail => poll cfg errors none
  | .asked errors _, .fail => poll cfg errors none
  | phase, _ => phase

def errors : Phase → Nat
  | .sleeping _ errors => errors
  | .asking errors => errors
  | .asked errors _ => errors
  | _ => 0

/-- Whether a poll ends here, and whether it was answered. -/
def outcome : Phase → Happening → Option Bool
  | .asked _ registrations, .answer => some (liveNodeIds registrations).isSome
  | .asking _, .fail => some false
  | .asked _ _, .fail => some false
  | _, _ => none

end Phase

end CrFaucet.Instances
