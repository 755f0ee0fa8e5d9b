/-!
# Blanks, line ends and comments

The layout of a TOML document. A line ends with a line feed, which a carriage return may precede.
A comment runs to the end of its line and holds no control character but the tab. A reader takes
characters from the front of the text and returns what remains.
-/

namespace ControlPool.Toml

/-- What is read from the front of a text, and what remains of it. -/
abbrev Reader (α : Type) := List Char → Option (α × List Char)

/-- Whether a character is a blank within a line. -/
def isBlank (c : Char) : Bool := c = ' ' || c = '\t'

/-- Whether a character may stand in a comment, and in a text that is taken as it is. -/
def isPlain (c : Char) : Bool := c = '\t' || (' ' ≤ c && c ≠ '\x7f')

/-- Drops blanks. -/
def dropBlanks (text : List Char) : List Char := text.dropWhile isBlank

/-- Drops a line end. -/
def dropNewline? : List Char → Option (List Char)
  | '\n' :: rest => some rest
  | '\r' :: '\n' :: rest => some rest
  | _ => none

/-- Drops a comment if there is one. -/
def dropComment : List Char → List Char
  | '#' :: rest => rest.dropWhile isPlain
  | text => text

/-- Drops the end of a line, or nothing at the end of the text. -/
def dropLineEnd? : List Char → Option (List Char)
  | [] => some []
  | text => dropNewline? text

/-- Drops what may follow a statement on its line. -/
def dropTrailing? (text : List Char) : Option (List Char) :=
  dropLineEnd? (dropComment (dropBlanks text))

/-- Drops blanks, line ends and whole comments; `inComment` tells whether a comment has begun. -/
def dropLayout (inComment : Bool) : List Char → List Char
  | [] => []
  | '\r' :: '\n' :: rest => dropLayout false rest
  | c :: rest =>
    if c = '\n' then dropLayout false rest
    else if inComment then if isPlain c then dropLayout true rest else c :: rest
    else if c = '#' then dropLayout true rest
    else if isBlank c then dropLayout false rest
    else c :: rest

end ControlPool.Toml
