import ControlPool.Json.Value

/-!
# JSON tokens

The tokens of a JSON text and how each is written. In a string only the quote, the backslash
and the bytes below `0x20` are escaped; all other bytes stand for themselves.
-/

namespace ControlPool.Json

/-- A token of a JSON text. A number is held as the bytes it is written with, a string as the bytes
of its content. -/
inductive Token where
  | beginArray
  | endArray
  | beginObject
  | endObject
  | colon
  | comma
  | null
  | bool (value : Bool)
  | number (text : List UInt8)
  | string (octets : List UInt8)
  deriving DecidableEq, Inhabited

/-- The lowercase hexadecimal digit of a number below sixteen. -/
def hexDigit (n : Nat) : UInt8 := ascii (Nat.digitChar n)

/-- A byte of a string's content as it is written between the quotes. -/
def escaped (byte : UInt8) : List UInt8 :=
  if byte = ascii '"' then [ascii '\\', ascii '"']
  else if byte = ascii '\\' then [ascii '\\', ascii '\\']
  else if 0x20 ≤ byte then [byte]
  else if byte = 0x08 then [ascii '\\', ascii 'b']
  else if byte = 0x09 then [ascii '\\', ascii 't']
  else if byte = 0x0A then [ascii '\\', ascii 'n']
  else if byte = 0x0C then [ascii '\\', ascii 'f']
  else if byte = 0x0D then [ascii '\\', ascii 'r']
  else [ascii '\\', ascii 'u', ascii '0', ascii '0',
    hexDigit (byte.toNat / 16), hexDigit (byte.toNat % 16)]

/-- The bytes of `null`. -/
def nullWord : List UInt8 := ['n', 'u', 'l', 'l'].map ascii

/-- The bytes of `true`. -/
def trueWord : List UInt8 := ['t', 'r', 'u', 'e'].map ascii

/-- The bytes of `false`. -/
def falseWord : List UInt8 := ['f', 'a', 'l', 's', 'e'].map ascii

/-- The bytes of a token. -/
def Token.render : Token → List UInt8
  | .beginArray => [ascii '[']
  | .endArray => [ascii ']']
  | .beginObject => [ascii '{']
  | .endObject => [ascii '}']
  | .colon => [ascii ':']
  | .comma => [ascii ',']
  | .null => nullWord
  | .bool true => trueWord
  | .bool false => falseWord
  | .number text => text
  | .string octets => ascii '"' :: (octets.flatMap escaped ++ [ascii '"'])

mutual

/-- Adds the tokens of a value to tokens that are held last one first. -/
def emit : Json → List Token → List Token
  | .null, out => .null :: out
  | .bool value, out => .bool value :: out
  | .number text, out => .number text :: out
  | .string octets, out => .string octets :: out
  | .array [], out => .endArray :: .beginArray :: out
  | .array (item :: items), out => .endArray :: emitItems items (emit item (.beginArray :: out))
  | .object [], out => .endObject :: .beginObject :: out
  | .object ((name, value) :: members), out =>
    .endObject :: emitMembers members (emit value (.colon :: .string name :: .beginObject :: out))

/-- Adds the items of an array that has begun, each after a comma. -/
def emitItems : List Json → List Token → List Token
  | [], out => out
  | item :: items, out => emitItems items (emit item (.comma :: out))

/-- Adds the members of an object that has begun, each after a comma. -/
def emitMembers : List (List UInt8 × Json) → List Token → List Token
  | [], out => out
  | (name, value) :: members, out =>
    emitMembers members (emit value (.colon :: .string name :: .comma :: out))

end

/-- The tokens of a value in the order they are written. -/
def tokens (json : Json) : List Token := (emit json []).reverse

/-- The text of a value, without blanks. -/
def render (json : Json) : List UInt8 := json.tokens.flatMap Token.render

end ControlPool.Json
