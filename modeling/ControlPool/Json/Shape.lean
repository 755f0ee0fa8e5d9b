import ControlPool.Json.Reader
import ControlPool.Text.Utf8

/-!
# Values of a given shape

Reading a JSON value as a number of a given size, a byte string, a record or a choice. A record
is an object with named fields, of which unknown ones are ignored and known ones may not repeat,
or an array of all its fields in order. A choice is the name of an alternative, alone or as the
only name of an object whose value is `null`.
-/

namespace ControlPool.Json

/-- A natural number below the given bound. -/
def below? (bound : Nat) (json : Json) : Option Nat :=
  json.natural?.bind fun n => if n < bound then some n else none

/-- A 64-bit number. -/
def word? (json : Json) : Option UInt64 := (json.below? UInt64.size).map UInt64.ofNat

/-- A byte. -/
def byte? (json : Json) : Option UInt8 := (json.below? UInt8.size).map UInt8.ofNat

/-- The items of an array. -/
def items? : Json → Option (List Json)
  | .array items => some items
  | _ => none

/-- An array of bytes. -/
def bytes? (json : Json) : Option (List UInt8) := json.items?.bind (List.mapM byte?)

/-- The members of an object, whose names are texts. -/
def members? : Json → Option (List (String × Json))
  | .object members => members.mapM fun (name, value) => (Text.ofUtf8? name).map (·, value)
  | _ => none

/-- The value of a field among members, where it may be missing but may not repeat. -/
def field? (members : List (String × Json)) (name : String) : Option (Option Json) :=
  match members.filter (·.1 = name) with
  | [] => some none
  | [(_, value)] => some (some value)
  | _ => none

/-- The values of a record's fields, in the order in which they are named. -/
def record? (names : List String) : Json → Option (List (Option Json))
  | .array items => if items.length = names.length then some (items.map some) else none
  | json => do
    let members ← json.members?
    names.mapM (field? members)

/-- The alternative that a value names. -/
def choice? (json : Json) : Option (List UInt8) :=
  match json with
  | .string name => some name
  | .object [(name, .null)] => some name
  | _ => none

/-- A member of an object under a name that is a text. -/
def member (name : String) (value : Json) : List UInt8 × Json := (Text.utf8 name, value)

/-- A string that is a text. -/
def ofText (text : String) : Json := .string (Text.utf8 text)

end ControlPool.Json
