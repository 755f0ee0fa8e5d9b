import ControlPool.Text.Printable
import ControlPool.Text.Extending

/-!
# Quoted text

How a text stands inside an error message: between double quotes, with a backslash before
quotes and backslashes, short escapes for NUL, tab, carriage return and line feed, and the
code point in hexadecimal for whatever is not printable or extends the character before it.
-/

namespace ControlPool.Text

/-- A code point as `u` and its lowercase hexadecimal digits in braces, after a backslash. -/
def pointEscape (c : Char) : List Char :=
  ['\\', 'u', '{'] ++ Nat.toDigits 16 c.toNat ++ ['}']

/-- A character as it stands between the quotes. -/
def quoteChar (c : Char) : List Char :=
  if c = '\x00' then ['\\', '0']
  else if c = '\t' then ['\\', 't']
  else if c = '\r' then ['\\', 'r']
  else if c = '\n' then ['\\', 'n']
  else if c = '"' then ['\\', '"']
  else if c = '\\' then ['\\', '\\']
  else if isExtending c then pointEscape c
  else if isPrintable c then [c]
  else pointEscape c

/-- A text between double quotes. -/
def quote (text : String) : String :=
  String.ofList ('"' :: (text.toList.flatMap quoteChar ++ ['"']))

end ControlPool.Text
