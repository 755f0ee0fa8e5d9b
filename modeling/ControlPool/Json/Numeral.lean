import ControlPool.Json.Value

/-!
# JSON numbers

The grammar of a number and the natural numbers among the numbers. An optional minus sign is
followed by an integer part without leading zeros, an optional fraction and an optional
exponent. Only an integer part alone writes a natural number.
-/

namespace ControlPool.Json

/-- Drops one or more digits. -/
def dropDigits? : List UInt8 → Option (List UInt8)
  | [] => none
  | byte :: rest => if isDigit byte then some (rest.dropWhile isDigit) else none

/-- Drops an integer part: a zero, or digits that begin with another digit. -/
def dropInteger? : List UInt8 → Option (List UInt8)
  | [] => none
  | byte :: rest => if byte = ascii '0' then some rest else dropDigits? (byte :: rest)

/-- Drops a fraction if there is one. -/
def dropFraction? : List UInt8 → Option (List UInt8)
  | [] => some []
  | byte :: rest => if byte = ascii '.' then dropDigits? rest else some (byte :: rest)

/-- Drops the sign of an exponent if there is one. -/
def dropSign : List UInt8 → List UInt8
  | [] => []
  | byte :: rest => if byte = ascii '+' ∨ byte = ascii '-' then rest else byte :: rest

/-- Drops an exponent if there is one. -/
def dropExponent? : List UInt8 → Option (List UInt8)
  | [] => some []
  | byte :: rest =>
    if byte = ascii 'e' ∨ byte = ascii 'E' then dropDigits? (dropSign rest)
    else some (byte :: rest)

/-- Drops a minus sign if there is one. -/
def dropMinus : List UInt8 → List UInt8
  | [] => []
  | byte :: rest => if byte = ascii '-' then rest else byte :: rest

/-- Whether bytes write a number. -/
def isNumeral (text : List UInt8) : Bool :=
  ((dropInteger? (dropMinus text)).bind dropFraction?).bind dropExponent? = some []

/-- The number that decimal digits write. -/
def ofDigits (digits : List UInt8) : Nat :=
  digits.foldl (fun n byte => n * 10 + (byte.toNat - (ascii '0').toNat)) 0

/-- The natural number that bytes write without leading zeros. -/
def ofDecimal? (text : List UInt8) : Option Nat :=
  if dropInteger? text = some [] then some (ofDigits text) else none

/-- The natural number that a value is. -/
def natural? : Json → Option Nat
  | .number text => ofDecimal? text
  | _ => none

end ControlPool.Json
