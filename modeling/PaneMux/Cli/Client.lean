import PaneMux.Json.Reader
import PaneMux.Wire.Message

/-!
# Calling a daemon

A request given on the command line is completed, sent as one line, and what the daemon says to it is
shown.

## Main definitions

- `Call.ofText?` : the request that a text stands for
- `CallError` : why a call fails
-/

namespace PaneMux.Cli

/-- Why a call fails. -/
inductive CallError where
  | notJson
  | notObject
  | badId
  /-- nobody listens at the socket -/
  | unreachable (socket : String)
  /-- the daemon has refused the request -/
  | refused
  | unanswered
  deriving DecidableEq, Repr

/-- The cause in words. -/
def CallError.message : CallError → String
  | .notJson => "request is not valid JSON"
  | .notObject => "request must be a JSON object"
  | .badId => "id must be an unsigned integer"
  | .unreachable socket => "cannot connect to " ++ socket
  | .refused => "request failed"
  | .unanswered => "connection closed before a response arrived"

/-- A request that is ready to be sent. -/
structure Call where
  id : Nat
  line : String
  deriving DecidableEq, Repr

/-- The identifier of a request that has none of its own. -/
def defaultId : Nat := 1

/-- The request that a text stands for, with its members sorted. -/
def Call.ofText? (text : String) : Except CallError Call :=
  match (Json.parse? text).map Json.canonical with
  | none => .error .notJson
  | some (.obj members) =>
    let members :=
      if (Json.lookup "id" members).isSome then members
      else Json.insertMember "id" (.nat defaultId) members
    match (Json.lookup "id" members).map Decoder.u64 with
    | some (.ok id) => .ok { id, line := (Json.obj members).compact }
    | _ => .error .badId
  | some _ => .error .notObject

/-- What a call has shown, and how it has ended. -/
structure CallOutcome where
  /-- messages of the daemon, in the order in which they came -/
  shown : List Outbound := []
  ending : Except CallError Unit

namespace CallOutcome

/-- A call that has not reached a daemon. -/
def failed (e : CallError) : CallOutcome := { ending := .error e }

/-- What a call shows: each message over several lines, with its members sorted. -/
def text (o : CallOutcome) : String :=
  String.join (o.shown.map fun m => m.toJson.canonical.pretty ++ "\n")

/-- The responses that it shows. -/
def responses (o : CallOutcome) : List Outbound :=
  o.shown.filter fun
    | .response _ => true
    | .event .. => false

/-- The events that it shows. -/
def events (o : CallOutcome) : List Event :=
  o.shown.filterMap fun
    | .response _ => none
    | .event _ e => some e

/-- The status with which the program ends. -/
def exitCode (o : CallOutcome) : Nat :=
  match o.ending with
  | .ok () => 0
  | .error _ => 1

end CallOutcome

end PaneMux.Cli
