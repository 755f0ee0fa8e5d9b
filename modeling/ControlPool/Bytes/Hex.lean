/-!
# Hexadecimal text

Two lowercase digits for each byte, high half first.
-/

namespace ControlPool.Hex

/-- The lowercase digit of a number below sixteen. -/
def digit (n : Nat) : Char := Nat.digitChar n

/-- The two digits of a byte. -/
def byteDigits (byte : UInt8) : List Char := [digit (byte.toNat / 16), digit (byte.toNat % 16)]

/-- The digits of a byte string. -/
def digits (bytes : List UInt8) : List Char := bytes.flatMap byteDigits

/-- The text of a byte string. -/
def render (bytes : List UInt8) : String := String.ofList (digits bytes)

/-- There are two digits for each byte. -/
theorem length_digits (bytes : List UInt8) : (digits bytes).length = 2 * bytes.length := by
  induction bytes with
  | nil => rfl
  | cons byte rest ih =>
    rw [digits, List.flatMap_cons, List.length_append]
    change 2 + (digits rest).length = _
    rw [ih, List.length_cons]
    omega

/-- The value of a hexadecimal digit of either case. -/
def digitValue? (c : Char) : Option Nat :=
  if '0' ≤ c ∧ c ≤ '9' then some (c.toNat - '0'.toNat)
  else if 'a' ≤ c ∧ c ≤ 'f' then some (c.toNat - 'a'.toNat + 10)
  else if 'A' ≤ c ∧ c ≤ 'F' then some (c.toNat - 'A'.toNat + 10)
  else none

/-- Reads pairs of digits onto the bytes read so far, which are held last one first. -/
def readPairs (read : List UInt8) : List Char → Option (List UInt8)
  | [] => some read.reverse
  | [_] => none
  | high :: low :: rest =>
    match digitValue? high, digitValue? low with
    | some h, some l => readPairs (UInt8.ofNat (h * 16 + l) :: read) rest
    | _, _ => none

/-- The bytes that a text of digit pairs writes. -/
def read? (text : String) : Option (List UInt8) := readPairs [] text.toList

end ControlPool.Hex
