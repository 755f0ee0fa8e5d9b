import ControlPool.Toml.Layout
import ControlPool.Bytes.Hex

/-!
# Strings

Basic strings stand between double quotes and know escapes; literal strings stand between
apostrophes and are taken as they are. Three quotes open a string of several lines, whose first
line end is dropped when it follows the quotes directly. Such a string ends at three quotes, up to
two more of which may belong to its content. In a basic string of several lines a backslash at the
end of a line drops the line end and all blanks and line ends after it.
-/

namespace ControlPool.Toml

/-- The character with a given number, which must not be a surrogate. -/
def charOf? (n : Nat) : Option Char := if n.isValidChar then some (Char.ofNat n) else none

/-- The number that hexadecimal digits write. -/
def hexNumber? (digits : List Char) : Option Nat :=
  digits.foldlM (fun n c => (Hex.digitValue? c).map (n * 16 + ·)) 0

/-- The character that a backslash and a letter stand for. -/
def escape? : Char → Option Char
  | 'b' => some '\x08'
  | 't' => some '\t'
  | 'n' => some '\n'
  | 'f' => some '\x0c'
  | 'r' => some '\r'
  | '"' => some '"'
  | '\\' => some '\\'
  | _ => none

/-- Whether a backslash followed by this text ends its line. -/
def endsLine (text : List Char) : Bool := (dropNewline? (dropBlanks text)).isSome

/-- Reads the rest of a basic string onto its characters so far, last one first. -/
def readBasic (content : List Char) : Reader String
  | [] => none
  | '"' :: rest => some (String.ofList content.reverse, rest)
  | '\\' :: 'u' :: a :: b :: c :: d :: rest => do
    let meant ← (hexNumber? [a, b, c, d]).bind charOf?
    readBasic (meant :: content) rest
  | '\\' :: 'U' :: a :: b :: c :: d :: e :: f :: g :: h :: rest => do
    let meant ← (hexNumber? [a, b, c, d, e, f, g, h]).bind charOf?
    readBasic (meant :: content) rest
  | '\\' :: c :: rest => do
    let meant ← escape? c
    readBasic (meant :: content) rest
  | c :: rest => if isPlain c && c ≠ '\\' then readBasic (c :: content) rest else none

/-- Reads the rest of a literal string onto its characters so far, last one first. -/
def readLiteral (content : List Char) : Reader String
  | [] => none
  | '\'' :: rest => some (String.ofList content.reverse, rest)
  | c :: rest => if isPlain c then readLiteral (c :: content) rest else none

/-- Reads the rest of a basic string of several lines. After a backslash at the end of a line
`trimming` drops blanks and line ends. -/
def readLongBasic (trimming : Bool) (content : List Char) : Reader String
  | [] => none
  | '"' :: '"' :: '"' :: '"' :: '"' :: rest =>
    some (String.ofList ('"' :: '"' :: content).reverse, rest)
  | '"' :: '"' :: '"' :: '"' :: rest => some (String.ofList ('"' :: content).reverse, rest)
  | '"' :: '"' :: '"' :: rest => some (String.ofList content.reverse, rest)
  | '\r' :: '\n' :: rest =>
    if trimming then readLongBasic true content rest
    else readLongBasic false ('\n' :: content) rest
  | '\\' :: 'u' :: a :: b :: c :: d :: rest => do
    let meant ← (hexNumber? [a, b, c, d]).bind charOf?
    readLongBasic false (meant :: content) rest
  | '\\' :: 'U' :: a :: b :: c :: d :: e :: f :: g :: h :: rest => do
    let meant ← (hexNumber? [a, b, c, d, e, f, g, h]).bind charOf?
    readLongBasic false (meant :: content) rest
  | '\\' :: c :: rest =>
    if endsLine (c :: rest) then readLongBasic true content (c :: rest)
    else do
      let meant ← escape? c
      readLongBasic false (meant :: content) rest
  | c :: rest =>
    if trimming && (isBlank c || c = '\n') then readLongBasic true content rest
    else if c = '\n' || (isPlain c && c ≠ '\\') then readLongBasic false (c :: content) rest
    else none

/-- Reads the rest of a literal string of several lines. -/
def readLongLiteral (content : List Char) : Reader String
  | [] => none
  | '\'' :: '\'' :: '\'' :: '\'' :: '\'' :: rest =>
    some (String.ofList ('\'' :: '\'' :: content).reverse, rest)
  | '\'' :: '\'' :: '\'' :: '\'' :: rest => some (String.ofList ('\'' :: content).reverse, rest)
  | '\'' :: '\'' :: '\'' :: rest => some (String.ofList content.reverse, rest)
  | '\r' :: '\n' :: rest => readLongLiteral ('\n' :: content) rest
  | c :: rest =>
    if c = '\n' || isPlain c then readLongLiteral (c :: content) rest else none

/-- Drops the line end that follows opening quotes directly. -/
def dropFirstNewline (text : List Char) : List Char := (dropNewline? text).getD text

/-- Reads a string of any of the four forms. -/
def readString : Reader String
  | '"' :: '"' :: '"' :: rest => readLongBasic false [] (dropFirstNewline rest)
  | '"' :: rest => readBasic [] rest
  | '\'' :: '\'' :: '\'' :: rest => readLongLiteral [] (dropFirstNewline rest)
  | '\'' :: rest => readLiteral [] rest
  | _ => none

end ControlPool.Toml
