import ControlPool.Json.Token
import ControlPool.Json.Numeral

/-!
# Reading JSON tokens

A text is read byte by byte. The scanner holds what the token under way has shown so far and
the finished tokens, both last one first. Between tokens only the space, the tab, the line feed
and the carriage return are skipped. A string may hold any bytes but unescaped controls. Two
escaped code units that form a surrogate pair are one character; a surrogate that stands alone
gets three bytes that are not valid UTF-8.
-/

namespace ControlPool.Json

/-- The bytes of a number below `0x110000` in the form of UTF-8. -/
def utf8Form (n : Nat) : List UInt8 :=
  if n < 0x80 then [UInt8.ofNat n]
  else if n < 0x800 then [UInt8.ofNat (0xC0 + n / 0x40), UInt8.ofNat (0x80 + n % 0x40)]
  else if n < 0x10000 then
    [UInt8.ofNat (0xE0 + n / 0x1000), UInt8.ofNat (0x80 + n / 0x40 % 0x40),
     UInt8.ofNat (0x80 + n % 0x40)]
  else
    [UInt8.ofNat (0xF0 + n / 0x40000), UInt8.ofNat (0x80 + n / 0x1000 % 0x40),
     UInt8.ofNat (0x80 + n / 0x40 % 0x40), UInt8.ofNat (0x80 + n % 0x40)]

/-- A piece of a string: a byte, or a code unit that was escaped by its number. -/
inductive Piece where
  | octet (byte : UInt8)
  | codeUnit (unit : Nat)
  deriving DecidableEq, Inhabited

/-- The character of a surrogate pair, if two code units form one. -/
def surrogatePair? (high low : Nat) : Option Nat :=
  if 0xD800 ≤ high ∧ high < 0xDC00 ∧ 0xDC00 ≤ low ∧ low < 0xE000 then
    some (0x10000 + (high - 0xD800) * 0x400 + (low - 0xDC00))
  else none

/-- Puts the bytes of pieces that are held last one first in front of other bytes. -/
def gather : List Piece → List UInt8 → List UInt8
  | [], out => out
  | .octet byte :: rest, out => gather rest (byte :: out)
  | .codeUnit low :: .codeUnit high :: rest, out =>
    match surrogatePair? high low with
    | some point => gather rest (utf8Form point ++ out)
    | none => gather (.codeUnit high :: rest) (utf8Form low ++ out)
  | .codeUnit unit :: rest, out => gather rest (utf8Form unit ++ out)

/-- What the scanner is in the middle of. An escaped code unit still lacks digits. -/
inductive Mode where
  | blank
  | word (letters : List UInt8)
  | numeral (text : List UInt8)
  | text (pieces : List Piece)
  | escape (pieces : List Piece)
  | codeUnit (pieces : List Piece) (missing : Nat) (value : Nat)
  deriving Inhabited

/-- A scanner in the middle of a text, with the finished tokens, last one first. -/
structure Scanner where
  mode : Mode
  tokens : List Token
  deriving Inhabited

/-- Whether a byte is skipped between tokens. -/
def isBlank (byte : UInt8) : Bool :=
  byte = 0x20 || byte = 0x09 || byte = 0x0A || byte = 0x0D

/-- Whether a byte is a lowercase letter. -/
def isLetter (byte : UInt8) : Bool := ascii 'a' ≤ byte && byte ≤ ascii 'z'

/-- Whether a byte can stand in a number. -/
def isNumeralByte (byte : UInt8) : Bool :=
  isDigit byte || byte = ascii '-' || byte = ascii '+' || byte = ascii '.' || byte = ascii 'e'
    || byte = ascii 'E'

/-- The token that is a single byte. -/
def punctuation? (byte : UInt8) : Option Token :=
  if byte = ascii '[' then some .beginArray
  else if byte = ascii ']' then some .endArray
  else if byte = ascii '{' then some .beginObject
  else if byte = ascii '}' then some .endObject
  else if byte = ascii ':' then some .colon
  else if byte = ascii ',' then some .comma
  else none

/-- The literal that letters spell. -/
def literal? (letters : List UInt8) : Option Token :=
  if letters = nullWord then some .null
  else if letters = trueWord then some (.bool true)
  else if letters = falseWord then some (.bool false)
  else none

/-- The byte that a backslash and the given byte stand for. -/
def unescaped? (byte : UInt8) : Option UInt8 :=
  if byte = ascii '"' ∨ byte = ascii '\\' ∨ byte = ascii '/' then some byte
  else if byte = ascii 'b' then some 0x08
  else if byte = ascii 't' then some 0x09
  else if byte = ascii 'n' then some 0x0A
  else if byte = ascii 'f' then some 0x0C
  else if byte = ascii 'r' then some 0x0D
  else none

/-- The value of a hexadecimal digit. -/
def hexValue? (byte : UInt8) : Option Nat :=
  if isDigit byte then some (byte.toNat - (ascii '0').toNat)
  else if ascii 'a' ≤ byte ∧ byte ≤ ascii 'f' then some (byte.toNat - (ascii 'a').toNat + 10)
  else if ascii 'A' ≤ byte ∧ byte ≤ ascii 'F' then some (byte.toNat - (ascii 'A').toNat + 10)
  else none

namespace Scanner

/-- Finishes a literal or a number that ends here. -/
def finish? (scanner : Scanner) : Option Scanner :=
  match scanner.mode with
  | .blank => some scanner
  | .word letters => (literal? letters.reverse).map fun token => ⟨.blank, token :: scanner.tokens⟩
  | .numeral text =>
    if isNumeral text.reverse then some ⟨.blank, .number text.reverse :: scanner.tokens⟩ else none
  | _ => none

/-- Reads a byte that stands between two tokens or begins one. -/
def begin? (tokens : List Token) (byte : UInt8) : Option Scanner :=
  if isBlank byte then some ⟨.blank, tokens⟩
  else if byte = ascii '"' then some ⟨.text [], tokens⟩
  else if isDigit byte || byte = ascii '-' then some ⟨.numeral [byte], tokens⟩
  else if isLetter byte then some ⟨.word [byte], tokens⟩
  else (punctuation? byte).map fun token => ⟨.blank, token :: tokens⟩

/-- Reads one byte. -/
def next? (scanner : Scanner) (byte : UInt8) : Option Scanner :=
  match scanner.mode with
  | .blank => begin? scanner.tokens byte
  | .word letters =>
    if isLetter byte then some ⟨.word (byte :: letters), scanner.tokens⟩
    else scanner.finish?.bind fun finished => begin? finished.tokens byte
  | .numeral text =>
    if isNumeralByte byte then some ⟨.numeral (byte :: text), scanner.tokens⟩
    else scanner.finish?.bind fun finished => begin? finished.tokens byte
  | .text pieces =>
    if byte = ascii '"' then some ⟨.blank, .string (gather pieces []) :: scanner.tokens⟩
    else if byte = ascii '\\' then some ⟨.escape pieces, scanner.tokens⟩
    else if byte < 0x20 then none
    else some ⟨.text (.octet byte :: pieces), scanner.tokens⟩
  | .escape pieces =>
    if byte = ascii 'u' then some ⟨.codeUnit pieces 4 0, scanner.tokens⟩
    else (unescaped? byte).map fun meant => ⟨.text (.octet meant :: pieces), scanner.tokens⟩
  | .codeUnit pieces missing value =>
    (hexValue? byte).map fun digit =>
      if missing ≤ 1 then ⟨.text (.codeUnit (value * 16 + digit) :: pieces), scanner.tokens⟩
      else ⟨.codeUnit pieces (missing - 1) (value * 16 + digit), scanner.tokens⟩

end Scanner

/-- The tokens of a text. -/
def scan? (bytes : List UInt8) : Option (List Token) := do
  let scanner ← bytes.foldlM Scanner.next? ⟨.blank, []⟩
  let finished ← scanner.finish?
  return finished.tokens.reverse

end ControlPool.Json
