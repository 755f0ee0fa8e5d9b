import ControlPool.Toml.Item
import ControlPool.Toml.Moment
import ControlPool.Toml.Numeral
import ControlPool.Toml.Quotation

/-!
# Keys and values

A key is one or more names with dots between them. A value is a scalar, an array, which may run
over several lines, or a table written inline on one line. Keys of eighty names and values that
nest eighty deep are refused.
-/

namespace ControlPool.Toml

/-- The number of names, and of nested values, that is too much. -/
def nestingLimit : Nat := 80

/-- Whether a character may stand in a name without quotes. -/
def isBare (c : Char) : Bool := c.isAlphanum || c = '_' || c = '-'

/-- Reads a name: bare, or a string of one line. -/
def readName : Reader String
  | '"' :: rest => readBasic [] rest
  | '\'' :: rest => readLiteral [] rest
  | text =>
    let name := text.takeWhile isBare
    if name.isEmpty then none else some (String.ofList name, text.dropWhile isBare)

/-- Reads names with dots between them, at most `fuel` of them, onto the names so far, last one
first. -/
def readNames : Nat → List String → Reader (List String)
  | 0, _, _ => none
  | fuel + 1, names, text => do
    let (name, rest) ← readName (dropBlanks text)
    match dropBlanks rest with
    | '.' :: rest => readNames fuel (name :: names) rest
    | rest => return (name :: names, rest)

/-- A dotted key: the path to a table and the last name. -/
structure Key where
  path : List String
  name : String
  deriving DecidableEq, Inhabited

/-- Reads a key and the blanks around it. -/
def readKey (text : List Char) : Option (Key × List Char) := do
  match ← readNames (nestingLimit - 1) [] text with
  | (name :: path, rest) => return (⟨path.reverse, name⟩, rest)
  | ([], _) => none

/-- Reads the items of an array up to its end. The fuel bounds their number. -/
def readItems (read : Reader Item) : Nat → List Item → Reader (List Item)
  | 0, _, _ => none
  | fuel + 1, items, text =>
    match dropLayout false text with
    | ']' :: rest => some (items.reverse, rest)
    | text => do
      let (item, rest) ← read text
      match dropLayout false rest with
      | ',' :: rest => readItems read fuel (item :: items) rest
      | ']' :: rest => return ((item :: items).reverse, rest)
      | _ => none

/-- Reads the members of an inline table up to its end. The fuel bounds their number. -/
def readMembers (read : Reader Item) : Nat → Members → Reader Members
  | 0, _, _ => none
  | fuel + 1, members, text => do
    let (key, rest) ← readKey text
    match rest with
    | '=' :: rest => do
      let (value, rest) ← read (dropBlanks rest)
      let members ← members.define key.name value key.path
      match dropBlanks rest with
      | ',' :: rest => readMembers read fuel members rest
      | '}' :: rest => return (members, rest)
      | _ => none
    | _ => none

/-- Reads a date, a time or a number, tried in this order. -/
def readNumber (text : List Char) : Option (Item × List Char) :=
  match dropMoment? text with
  | some rest => some (.moment, rest)
  | none =>
    match dropFloat? text with
    | some rest => some (.float, rest)
    | none => (readInteger text).map fun (n, rest) => (.integer n, rest)

/-- Reads a value in which at most `depth` more arrays and tables are nested. -/
def readValue (depth : Nat) (text : List Char) : Option (Item × List Char) :=
  match text with
  | '[' :: rest =>
    match depth with
    | 0 => none
    | depth + 1 =>
      (readItems (readValue depth) (rest.length + 1) [] rest).map fun (items, rest) =>
        (.array items, rest)
  | '{' :: rest =>
    match depth with
    | 0 => none
    | depth + 1 =>
      match dropBlanks rest with
      | '}' :: rest => some (.inlineTable [], rest)
      | _ =>
        (readMembers (readValue depth) (rest.length + 1) [] rest).map fun (members, rest) =>
          (.inlineTable members, rest)
  | 't' :: 'r' :: 'u' :: 'e' :: rest => some (.boolean true, rest)
  | 'f' :: 'a' :: 'l' :: 's' :: 'e' :: rest => some (.boolean false, rest)
  | '"' :: _ => (readString text).map fun (value, rest) => (.string value, rest)
  | '\'' :: _ => (readString text).map fun (value, rest) => (.string value, rest)
  | _ => readNumber text

end ControlPool.Toml
