import ControlPool.OrderedMap
import ControlPool.Json.Shape

/-!
# Payloads

The body of a control transaction maps keys to byte strings. It is written as a JSON object whose
members stand in key order; of members with one key the last holds when it is read.
-/

namespace ControlPool

/-- The body of a control transaction: byte strings by key, in key order. -/
abbrev Payload := OrderedMap String (List UInt8)

namespace Payload

/-- A payload as a JSON value. -/
def toJson (payload : Payload) : Json :=
  .object (payload.entries.map fun (key, value) => Json.member key (.ofBytes value))

/-- The text of a payload. -/
def encode (payload : Payload) : List UInt8 := payload.toJson.render

/-- The payload that a JSON value writes. -/
def ofJson? (json : Json) : Option Payload := do
  let members ← json.members?
  let entries ← members.mapM fun (key, value) => value.bytes?.map (key, ·)
  return .ofList entries

/-- The payload that a text writes. -/
def decode? (bytes : List UInt8) : Option Payload := (Json.read? bytes).bind ofJson?

end Payload

end ControlPool
