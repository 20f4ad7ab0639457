import PaneMux.Error
import PaneMux.Json.Reader

/-!
# Requests on the wire

A request is one line that is one JSON object with an `id`, an `op` and arguments. A line that is
none is answered all the same, under whatever `id` can be made out.

## Main definitions

- `Request.parse` : the reader of a line
- `Request.recoverId` : the identifier under which a refusal is sent
-/

namespace PaneMux

/-- Why a request was refused, as a client is told. -/
structure WireError where
  code : ErrorCode
  message : String
  deriving DecidableEq, Repr

namespace WireError

/-- The request makes no sense. -/
def invalidRequest (message : String) : WireError := ⟨.invalidRequest, message⟩

/-- The arguments make no sense. -/
def ofDecode (e : DecodeError) : WireError := invalidRequest e.message

/-- The registry refused. -/
def ofRequest (e : RequestError) : WireError := ⟨e.code, e.message⟩

/-- The error as diagnostics show it. -/
def text (e : WireError) : String := e.code.text ++ ": " ++ e.message

/-- The error as JSON. -/
def toJson (e : WireError) : Json := .obj [("code", e.code.toJson), ("message", .str e.message)]

/-- Reads an error. -/
def decode : Decoder WireError :=
  ((Record.pure WireError.mk).and (.field "code" ErrorCode.decode)
    |>.and (.field "message" Decoder.string)).decoder "struct WireError"

end WireError

/-- A request. -/
structure Request where
  id : Nat
  op : String
  /-- every other member, sorted, the last of a repeated key -/
  args : List (String × Json)

namespace Request

/-- The fields that every request has. -/
def fields : Record (Nat × String) :=
  (Record.field "id" Decoder.u64).both (.field "op" Decoder.string)

/-- Reads a request. What is neither `id` nor `op` is an argument. -/
def decode : Decoder Request :=
  fields.decoderWith "struct Request"
    (fun rest => .ok (Json.sortMembers (Json.canonicalMembers rest)))
    fun head args => { id := head.1, op := head.2, args }

/-- The last `id` of a line that is an object, if it can be one, and otherwise zero. -/
def recoverId (line : String) : Nat :=
  match (Json.parse? line).bind (·.get? "id") with
  | some j => (Decoder.u64 j).toOption.getD 0
  | none => 0

/-- The words in front of every cause why a line is no request. -/
def malformed (cause : DecodeError) : WireError :=
  .invalidRequest ("malformed request: " ++ cause.message)

/-- Reads a line. A refusal comes with the identifier it is to be sent under. -/
def parse (line : String) : Except (Nat × WireError) Request :=
  match Json.parse? line with
  | none => .error (recoverId line, malformed .syntaxError)
  | some j => (decode j).mapError fun e => (recoverId line, malformed e)

end Request

end PaneMux
