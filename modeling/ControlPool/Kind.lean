import ControlPool.Bytes.Binary
import ControlPool.Text.Decimal
import ControlPool.Text.Search
import ControlPool.Json.Shape

/-!
# Kinds of control message

There are four kinds, each with a tag. The key of a message is the tag of its kind followed by
the decimal number of its epoch. A key is read strictly, by its exact tag, when a message is
admitted, and loosely, by any tag that occurs in it, when a block is scanned.
-/

namespace ControlPool

/-- The kind of a control message: a validator announces a public key or reveals a private key, a
node shows that it is alive, and a broadcaster answers the roll call. -/
inductive Kind where
  | publicKey
  | privateKey
  | heartbeat
  | rollCall
  deriving DecidableEq, Inhabited

namespace Kind

/-- All kinds in their order. -/
def all : List Kind := [publicKey, privateKey, heartbeat, rollCall]

/-- The place of a kind in the order. -/
def position : Kind → Nat
  | publicKey => 0
  | privateKey => 1
  | heartbeat => 2
  | rollCall => 3

/-- The kinds are told apart by their places. -/
theorem position_injective {a b : Kind} (h : a.position = b.position) : a = b := by
  cases a <;> cases b <;> first | rfl | exact absurd h (by decide)

/-- Every kind is listed. -/
theorem mem_all (kind : Kind) : kind ∈ all := by cases kind <;> decide

/-- Kinds are ordered by their places. -/
instance : Ord Kind := ⟨fun a b => compare a.position b.position⟩

/-- Comparing two kinds compares their places. -/
theorem compare_eq (a b : Kind) : compare a b = compare a.position b.position := rfl

instance : Std.TransOrd Kind where
  eq_swap := by simp only [compare_eq]; exact Std.OrientedOrd.eq_swap
  isLE_trans := by simp only [compare_eq]; exact Std.TransOrd.isLE_trans

instance : Std.LawfulEqOrd Kind where
  compare_self := by simp only [compare_eq]; exact Std.ReflOrd.compare_self
  eq_of_compare := by
    simp only [compare_eq]
    exact fun same => position_injective (Std.LawfulEqOrd.eq_of_compare same)

/-- The tag with which the keys of a kind begin. -/
def tag : Kind → String
  | publicKey => "publickey"
  | privateKey => "privatekey"
  | heartbeat => "heartbeat"
  | rollCall => "rollcall"

/-- The kind with exactly the given tag. -/
def ofTag? (tag : String) : Option Kind := all.find? fun kind => kind.tag = tag

/-- The first kind whose tag occurs in a key. -/
def classify? (key : String) : Option Kind :=
  all.find? fun kind => Text.occursIn kind.tag.toList key.toList

/-- The key of this kind's message for an epoch. -/
def key (kind : Kind) (epoch : UInt64) : String := kind.tag ++ Text.decimal epoch.toNat

/-- A kind is found by its tag. -/
theorem ofTag?_tag (kind : Kind) : ofTag? kind.tag = some kind := by cases kind <;> decide

/-- Only a kind's own tag finds it. -/
theorem tag_of_ofTag? {tag : String} {kind : Kind} (h : ofTag? tag = some kind) :
    kind.tag = tag := by
  simpa using List.find?_some h

/-- The name of a kind in JSON. -/
def name : Kind → String
  | publicKey => "PublicKey"
  | privateKey => "PrivateKey"
  | heartbeat => "Heartbeat"
  | rollCall => "RollCall"

/-- A kind as a JSON value. -/
def toJson (kind : Kind) : Json := .ofText kind.name

/-- The kind that a JSON value names. -/
def ofJson? (json : Json) : Option Kind :=
  json.choice?.bind fun octets => all.find? fun kind => Text.utf8 kind.name = octets

/-- A kind in binary. -/
def encode (kind : Kind) : List UInt8 := Binary.variant kind.position

/-- Reads a kind from the front of bytes. -/
def readBinary? (bytes : List UInt8) : Option (Kind × List UInt8) := do
  let (n, rest) ← Binary.readNumber? 4 bytes
  let kind ← all[n]?
  return (kind, rest)

end Kind

end ControlPool
