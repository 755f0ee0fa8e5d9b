import ControlPool.Config
import ControlPool.Toml.Document

/-!
# Settings from a TOML document

The settings stand at the top of a document under three names; what is missing keeps its standard
value and other names are ignored. The policy is a string, or a table whose only name is that of a
policy and whose only member is empty.
-/

namespace ControlPool

namespace Toml.Item

/-- The 64-bit number that an item is. -/
def word? : Item → Option UInt64
  | .integer (.ofNat n) => some (UInt64.ofNat n)
  | _ => none

/-- Whether an item is a container without contents. -/
def isEmptyContainer : Item → Bool
  | .array [] => true
  | .inlineTable [] => true
  | .table _ _ [] => true
  | .tables [] => true
  | _ => false

/-- The alternative that an item names. -/
def choice? : Item → Option String
  | .string name => some name
  | .inlineTable [(name, value)] => if value.isEmptyContainer then some name else none
  | .table _ _ [(name, value)] => if value.isEmptyContainer then some name else none
  | _ => none

/-- The policy that an item names. -/
def policy? (item : Item) : Option SenderPolicy :=
  match item.choice? with
  | some "embedded_first" => some .embeddedFirst
  | some "recovered_only" => some .recoveredOnly
  | _ => none

end Toml.Item

namespace Settings

/-- The value of a name, or a standard value if the name is missing. -/
def member? {α : Type} (members : Toml.Members) (name : String) (read : Toml.Item → Option α)
    (standard : α) : Option α :=
  match members.get? name with
  | none => some standard
  | some item => read item

/-- The settings among the members of a document. -/
def ofMembers? (members : Toml.Members) : Option Settings := do
  return {
    interval :=
      ← member? members "broadcast_interval" Toml.Item.word? standard.interval
    sizeLimit :=
      ← member? members "max_tx_size" Toml.Item.word? standard.sizeLimit
    senderPolicy :=
      ← member? members "sender_strategy" Toml.Item.policy? standard.senderPolicy }

/-- The configuration that a TOML document writes. -/
def ofToml (document : String) : Except PoolError Config :=
  match (Toml.read? document).bind ofMembers? with
  | some settings => settings.check
  | none => .error (.badConfig .unreadable)

end Settings

end ControlPool
