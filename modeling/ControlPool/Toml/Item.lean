/-!
# Tables under construction

The items of a TOML document and the rules by which statements extend its tables. A table is
implicit while only its children have been named, and dotted when a dotted key made it. A header
may make an implicit table explicit once; a dotted key may extend only tables that dotted keys
made. A table written inline is complete and is never extended. Of an array of tables, names reach
into the last element.
-/

namespace ControlPool.Toml

/-- An item of a document. Of floats, dates and times only the presence is kept, and the
tables of an array stand last one first. -/
inductive Item where
  | string (text : String)
  | integer (n : Int)
  | float
  | boolean (value : Bool)
  | moment
  | array (items : List Item)
  | inlineTable (members : List (String × Item))
  | table (isImplicit isDotted : Bool) (members : List (String × Item))
  | tables (elements : List (List (String × Item)))
  deriving Inhabited

/-- The members of a table in the order in which they were named. -/
abbrev Members := List (String × Item)

namespace Members

/-- The member of a name. -/
def get? (members : Members) (name : String) : Option Item :=
  (members.find? (·.1 = name)).map (·.2)

/-- Changes the member of a name, or adds one; the change may fail. -/
def alter (name : String) (change : Option Item → Option Item) : Members → Option Members
  | [] => (change none).map fun item => [(name, item)]
  | (n, item) :: members =>
    if n = name then (change (some item)).map fun item => (n, item) :: members
    else (alter name change members).map ((n, item) :: ·)

/-- Changes the table that a path of headers leads to. Missing tables are made implicitly. -/
def descend (change : Members → Option Members) : List String → Members → Option Members
  | [], members => change members
  | name :: path, members =>
    members.alter name fun
      | none => (descend change path []).map (.table true false)
      | some (.table isImplicit isDotted members) =>
        (descend change path members).map (.table isImplicit isDotted)
      | some (.tables (last :: earlier)) =>
        (descend change path last).map fun last => .tables (last :: earlier)
      | some _ => none

/-- Adds a value under a name that is new. -/
def addNew (name : String) (value : Item) (members : Members) : Option Members :=
  members.alter name fun
    | none => some value
    | some _ => none

/-- Adds a value under a dotted key: a path, and a last name that is new. The table that holds the
last name must be one that dotted keys made. -/
def define (name : String) (value : Item) : List String → Members → Option Members
  | [], members => members.addNew name value
  | part :: path, members =>
    members.alter part fun
      | none => (define name value path []).map (.table true true)
      | some (.table true isDotted members) =>
        if path.isEmpty && !isDotted then none
        else (define name value path members).map (.table true isDotted)
      | some (.tables (last :: earlier)) =>
        if path.isEmpty then none
        else (define name value path last).map fun last => .tables (last :: earlier)
      | some _ => none

/-- Opens the table of a header. -/
def openTable (name : String) (members : Members) : Option Members :=
  members.alter name fun
    | none => some (.table false false [])
    | some (.table true false members) => some (.table false false members)
    | some _ => none

/-- Opens the next element of an array of tables. -/
def openElement (name : String) (members : Members) : Option Members :=
  members.alter name fun
    | none => some (.tables [[]])
    | some (.tables elements) => some (.tables ([] :: elements))
    | some _ => none

end Members

end ControlPool.Toml
