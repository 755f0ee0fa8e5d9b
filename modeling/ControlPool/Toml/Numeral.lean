import ControlPool.Toml.Layout
import ControlPool.Bytes.Hex

/-!
# Numbers

Integers are decimal with an optional sign, or hexadecimal, octal or binary without one, and fit in
64 signed bits. Floats have a fraction or an exponent; a positive one must not be too large to be
finite. An underscore may stand between two digits.
-/

namespace ControlPool.Toml

/-- Takes digits, of which each after the first may follow an underscore. -/
def takeDigits (isDigit : Char → Bool) : List Char → List Char × List Char
  | [] => ([], [])
  | '_' :: c :: rest =>
    if isDigit c then
      let (digits, rest) := takeDigits isDigit rest
      (c :: digits, rest)
    else ([], '_' :: c :: rest)
  | c :: rest =>
    if isDigit c then
      let (digits, rest) := takeDigits isDigit rest
      (c :: digits, rest)
    else ([], c :: rest)

/-- Takes one or more digits. -/
def takeDigits? (isDigit : Char → Bool) : Reader (List Char)
  | [] => none
  | c :: rest =>
    if isDigit c then
      let (digits, rest) := takeDigits isDigit rest
      some (c :: digits, rest)
    else none

/-- The number that digits write in a base. -/
def ofDigits (base : Nat) (digits : List Char) : Nat :=
  digits.foldl (fun n c => n * base + (Hex.digitValue? c).getD 0) 0

/-- An integer that fits in 64 signed bits. -/
def fitting? (n : Int) : Option Int :=
  if -0x8000000000000000 ≤ n ∧ n < 0x8000000000000000 then some n else none

/-- Takes a sign if there is one, and tells whether it is a minus. -/
def takeSign : List Char → Bool × List Char
  | '+' :: rest => (false, rest)
  | '-' :: rest => (true, rest)
  | text => (false, text)

/-- Takes decimal digits without leading zeros. -/
def takeWhole? : Reader (List Char)
  | '0' :: rest => some (['0'], rest)
  | text => takeDigits? Char.isDigit text

/-- Takes an integer in a base other than ten. -/
def takeBased? (base : Nat) (isDigit : Char → Bool) (text : List Char) :
    Option (Int × List Char) := do
  let (digits, rest) ← takeDigits? isDigit text
  return (← fitting? (ofDigits base digits), rest)

/-- Whether a character is a hexadecimal digit. -/
def isHexDigit (c : Char) : Bool := (Hex.digitValue? c).isSome

/-- Takes an integer. -/
def readInteger : Reader Int
  | '0' :: 'x' :: rest => takeBased? 16 isHexDigit rest
  | '0' :: 'o' :: rest => takeBased? 8 (fun c => '0' ≤ c && c ≤ '7') rest
  | '0' :: 'b' :: rest => takeBased? 2 (fun c => c = '0' || c = '1') rest
  | text => do
    let (negative, text) := takeSign text
    let (digits, rest) ← takeWhole? text
    let n : Int := ofDigits 10 digits
    return (← fitting? (if negative then -n else n), rest)

/-- Takes a fraction. -/
def takeFraction? : Reader (List Char)
  | '.' :: rest => takeDigits? Char.isDigit rest
  | _ => none

/-- Takes an exponent. -/
def takeExponent? : Reader Int
  | c :: rest =>
    if c = 'e' || c = 'E' then do
      let (negative, rest) := takeSign rest
      let (digits, rest) ← takeDigits? Char.isDigit rest
      let n : Int := ofDigits 10 digits
      return (if negative then -n else n, rest)
    else none
  | [] => none

/-- The least number that a 64-bit float rounds to infinity: halfway from its greatest finite number
to the next power of two. -/
def infinityThreshold : Nat := ((1 <<< 54) - 1) <<< 970

/-- Whether digits times a power of ten are too large for a finite 64-bit float. Numbers of more
than 310 places are, and those of fewer than 308 are not. -/
def isInfinite (digits : List Char) (exponent : Int) : Bool :=
  let significant := digits.dropWhile (· = '0')
  let places := significant.length + exponent
  if significant.isEmpty || places < 308 then false
  else if 310 < places then true
  else
    let n := ofDigits 10 significant
    if 0 ≤ exponent then infinityThreshold ≤ n * Nat.pow 10 exponent.toNat
    else infinityThreshold * Nat.pow 10 (-exponent).toNat ≤ n

/-- Drops the name of infinity or of what is no number. -/
def dropSpecial? : List Char → Option (List Char)
  | 'i' :: 'n' :: 'f' :: rest => some rest
  | 'n' :: 'a' :: 'n' :: rest => some rest
  | _ => none

/-- Drops a number with a fraction or an exponent. -/
def dropDecimal? (text : List Char) : Option (List Char) := do
  let (negative, text) := takeSign text
  let (whole, text) ← takeWhole? text
  let (fraction, exponent, rest) ←
    match takeExponent? text with
    | some (exponent, rest) => some ([], exponent, rest)
    | none => do
      let (fraction, rest) ← takeFraction? text
      match takeExponent? rest with
      | some (exponent, rest) => some (fraction, exponent, rest)
      | none => some (fraction, 0, rest)
  if !negative && isInfinite (whole ++ fraction) (exponent - fraction.length) then none
  else some rest

/-- Drops a float. -/
def dropFloat? (text : List Char) : Option (List Char) :=
  (dropDecimal? text).or (dropSpecial? (takeSign text).2)

end ControlPool.Toml
