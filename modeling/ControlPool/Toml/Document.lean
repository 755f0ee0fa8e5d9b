import ControlPool.Toml.Value

/-!
# Documents

A document is a sequence of lines: key and value, the header of a table, the header of an element
of an array of tables, or nothing but layout. A key belongs to the table of the last header before
it.
-/

namespace ControlPool.Toml

/-- A line of a document that says something: a value under a key, the header of a table, or that of
the next element of an array of tables. -/
inductive Statement where
  | value (key : Key) (value : Item)
  | table (key : Key)
  | element (key : Key)

/-- A document under construction, with the path of the last header. -/
structure Builder where
  header : List String
  members : Members

namespace Builder

/-- The document before its first line. -/
def start : Builder := ⟨[], []⟩

/-- Adds a statement. -/
def add? (builder : Builder) : Statement → Option Builder
  | .value key value => do
    let members ←
      builder.members.descend (Members.define key.name value key.path) builder.header
    return { builder with members }
  | .table key => do
    let members ← builder.members.descend (Members.openTable key.name) key.path
    return ⟨key.path ++ [key.name], members⟩
  | .element key => do
    let members ← builder.members.descend (Members.openElement key.name) key.path
    return ⟨key.path ++ [key.name], members⟩

end Builder

/-- Reads a key, an equals sign and a value. -/
def readKeyValue (text : List Char) : Option (Statement × List Char) := do
  let (key, rest) ← readKey text
  match rest with
  | '=' :: rest => do
    let (value, rest) ← readValue (nestingLimit - 1) (dropBlanks rest)
    return (.value key value, rest)
  | _ => none

/-- Reads a statement. -/
def readStatement : Reader Statement
  | '[' :: '[' :: rest => do
    let (key, rest) ← readKey rest
    match rest with
    | ']' :: ']' :: rest => return (.element key, rest)
    | _ => none
  | '[' :: rest => do
    let (key, rest) ← readKey rest
    match rest with
    | ']' :: rest => return (.table key, rest)
    | _ => none
  | text => readKeyValue text

/-- Reads the lines of a document. The fuel bounds their number. -/
def readLines : Nat → Builder → List Char → Option Builder
  | 0, _, _ => none
  | fuel + 1, builder, text =>
    match dropBlanks text with
    | [] => some builder
    | '#' :: rest => do readLines fuel builder (← dropTrailing? ('#' :: rest))
    | text =>
      match dropNewline? text with
      | some rest => readLines fuel builder rest
      | none => do
        let (statement, rest) ← readStatement text
        readLines fuel (← builder.add? statement) (← dropTrailing? rest)

/-- Drops the mark that may stand before the first line. -/
def dropByteOrderMark : List Char → List Char
  | '\uFEFF' :: rest => rest
  | text => text

/-- The members of the document that a text writes. -/
def read? (text : String) : Option Members :=
  let text := dropByteOrderMark text.toList
  (readLines (text.length + 1) .start text).map Builder.members

end ControlPool.Toml
