/-!
# JSON values

A value as it stands in a JSON text. A number keeps the text it was written with, so that an
integer is told from a fraction that happens to be whole. A string is held as the bytes of its
content; they need not be valid UTF-8 where nobody reads them as text. The members of an object
keep their order and their repetitions.
-/

namespace ControlPool

/-- A JSON value. A number is held as the bytes it is written with, a string or a name as the bytes
of its content. -/
inductive Json where
  | null
  | bool (value : Bool)
  | number (text : List UInt8)
  | string (octets : List UInt8)
  | array (items : List Json)
  | object (members : List (List UInt8 × Json))
  deriving Inhabited

namespace Json

/-- The byte of an ASCII character. -/
def ascii (c : Char) : UInt8 := UInt8.ofNat c.toNat

/-- Whether a byte is a decimal digit. -/
def isDigit (byte : UInt8) : Bool := ascii '0' ≤ byte && byte ≤ ascii '9'

/-- The decimal digits of a number. -/
def decimal (n : Nat) : List UInt8 := (Nat.toDigits 10 n).map ascii

/-- A natural number as a JSON number. -/
def ofNat (n : Nat) : Json := .number (decimal n)

/-- A byte string as the array of its bytes. -/
def ofBytes (bytes : List UInt8) : Json := .array (bytes.map fun byte => ofNat byte.toNat)

end Json

end ControlPool
