import ControlPool.Json.Scan

/-!
# Reading JSON values

The values of a token list are built with the containers under way held on a stack, so that a
text may nest to any depth. A finished value either ends the text or joins the container on top
of the stack.
-/

namespace ControlPool.Json

/-- A container under way with its items or members so far, last one first, and in an object the
name of the value under way. -/
inductive Frame where
  | array (items : List Json)
  | object (members : List (List UInt8 × Json)) (name : List UInt8)

/-- What may come next: a value, the first item or name or else the end of a container, the next
name, the colon behind a name, or what follows a finished value. Members stand last one first. -/
inductive Focus where
  | value
  | firstItem
  | firstName
  | nextName (members : List (List UInt8 × Json))
  | colon (members : List (List UInt8 × Json)) (name : List UInt8)
  | finished (value : Json)

/-- A reader in the middle of a token list, with the containers under way, innermost first. -/
structure Reader where
  focus : Focus
  frames : List Frame

namespace Reader

/-- A value ends here. -/
def deliver (frames : List Frame) (value : Json) : Option Reader := some ⟨.finished value, frames⟩

/-- Reads the first token of a value. -/
def begin? (frames : List Frame) : Token → Option Reader
  | .null => deliver frames .null
  | .bool value => deliver frames (.bool value)
  | .number text => deliver frames (.number text)
  | .string octets => deliver frames (.string octets)
  | .beginArray => some ⟨.firstItem, .array [] :: frames⟩
  | .beginObject => some ⟨.firstName, frames⟩
  | _ => none

/-- Reads the token after a finished value. -/
def after? (value : Json) : List Frame → Token → Option Reader
  | .array items :: frames, .comma => some ⟨.value, .array (value :: items) :: frames⟩
  | .array items :: frames, .endArray => deliver frames (.array (value :: items).reverse)
  | .object members name :: frames, .comma => some ⟨.nextName ((name, value) :: members), frames⟩
  | .object members name :: frames, .endObject =>
    deliver frames (.object ((name, value) :: members).reverse)
  | _, _ => none

/-- Reads one token. -/
def next? (reader : Reader) (token : Token) : Option Reader :=
  match reader.focus, token with
  | .value, token => begin? reader.frames token
  | .firstItem, .endArray => deliver reader.frames.tail (.array [])
  | .firstItem, token => begin? reader.frames token
  | .firstName, .endObject => deliver reader.frames (.object [])
  | .firstName, .string name => some ⟨.colon [] name, reader.frames⟩
  | .nextName members, .string name => some ⟨.colon members name, reader.frames⟩
  | .colon members name, .colon => some ⟨.value, .object members name :: reader.frames⟩
  | .finished value, token => after? value reader.frames token
  | _, _ => none

/-- The value of a reader that has no container under way. -/
def value? (reader : Reader) : Option Json :=
  match reader.focus, reader.frames with
  | .finished value, [] => some value
  | _, _ => none

end Reader

/-- The value that tokens write. -/
def ofTokens? (tokens : List Token) : Option Json :=
  (tokens.foldlM Reader.next? ⟨.value, []⟩).bind Reader.value?

/-- The value that a text writes. -/
def read? (bytes : List UInt8) : Option Json := (scan? bytes).bind ofTokens?

end ControlPool.Json
