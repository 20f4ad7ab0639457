import PaneMux.Json.Printer
import PaneMux.Wire.Request

/-!
# Messages to a client

Everything the daemon writes to a connection, one JSON object to a line: the response to a request, or
an event of a subscription.
-/

namespace PaneMux

/-- The response to a request. -/
structure Response where
  id : Nat
  ok : Bool
  result : Option Json := none
  error : Option WireError := none

namespace Response

/-- The response to a request that succeeded. Results are in canonical form. -/
def success (id : Nat) (result : Json) : Response := { id, ok := true, result := some result.canonical }

/-- The response to a request that was refused. -/
def failure (id : Nat) (e : WireError) : Response := { id, ok := false, error := some e }

/-- The response to a request with an outcome. -/
def ofOutcome (id : Nat) : Except WireError Json → Response
  | .ok result => success id result
  | .error e => failure id e

/-- A member that is there only when it has a value. -/
def present {α : Type} (key : String) (encode : α → Json) : Option α → List (String × Json)
  | some a => [(key, encode a)]
  | none => []

/-- The members of a response. What there is neither of is left out. -/
def members (r : Response) : List (String × Json) :=
  [("id", .nat r.id), ("ok", .bool r.ok)] ++ present "result" (fun j => j) r.result ++
    present "error" WireError.toJson r.error

/-- The response as JSON. -/
def toJson (r : Response) : Json := .obj r.members

/-- Reads a response. -/
def decode : Decoder Response :=
  ((Record.pure Response.mk).and (.field "id" Decoder.u64) |>.and (.field "ok" Decoder.bool)
    |>.and (.optional "result" fun j => .ok j.canonical)
    |>.and (.optional "error" WireError.decode)).decoder "struct Response"

end Response

/-- A message to a client. -/
inductive Outbound where
  | response (r : Response)
  | event (subscription : Nat) (e : Event)

namespace Outbound

/-- The message as JSON. -/
def toJson : Outbound → Json
  | .response r => .obj (("type", .str "response") :: r.members)
  | .event subscription e =>
    .obj [("type", .str "event"), ("subscription", .nat subscription), ("event", e.toJson)]

/-- The message as a line, without the line end. -/
def line (m : Outbound) : String := m.toJson.compact

end Outbound

end PaneMux
