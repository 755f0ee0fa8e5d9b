import ControlPool.Pool
import ControlPool.Transaction.Json

/-!
# Messages from peers

A peer's message is a list of typed entries. Only the first entry counts, and only if it holds a
control transaction, which is offered to the pool.
-/

namespace ControlPool

/-- The type of an entry: a control transaction, or any other, which is not for this pool. -/
inductive EntryType where
  | broadcast
  | normal
  deriving DecidableEq, Inhabited

/-- An entry of a peer's message, with the JSON text of a transaction. -/
structure PeerEntry where
  type : EntryType
  data : List UInt8
  deriving DecidableEq, Inhabited

/-- A peer's message. -/
structure PeerMessage where
  entries : List PeerEntry
  deriving DecidableEq, Inhabited

namespace EntryType

/-- All types in their order. -/
def all : List EntryType := [broadcast, normal]

/-- The name of a type in JSON. -/
def name : EntryType → String
  | broadcast => "Broadcast"
  | normal => "Normal"

/-- The place of a type in the order. -/
def position : EntryType → Nat
  | broadcast => 0
  | normal => 1

/-- The type that a JSON value names. -/
def ofJson? (json : Json) : Option EntryType :=
  json.choice?.bind fun octets => all.find? fun type => Text.utf8 type.name = octets

end EntryType

namespace PeerEntry

/-- An entry as a JSON record. -/
def toJson (entry : PeerEntry) : Json :=
  .object
    [Json.member "msg_type" (.ofText entry.type.name), Json.member "data" (.ofBytes entry.data)]

/-- The entry that a JSON record writes. -/
def ofJson? (json : Json) : Option PeerEntry := do
  match ← json.record? ["msg_type", "data"] with
  | [some type, some data] => return ⟨← EntryType.ofJson? type, ← data.bytes?⟩
  | _ => none

/-- The binary form of an entry. -/
def encode (entry : PeerEntry) : List UInt8 :=
  Binary.variant entry.type.position ++ Binary.octets entry.data

end PeerEntry

namespace PeerMessage

/-- The message that carries one control transaction. -/
def carrying (tx : Transaction) : PeerMessage := ⟨[⟨.broadcast, tx.jsonText⟩]⟩

/-- A message as a JSON record. -/
def toJson (message : PeerMessage) : Json :=
  .object [Json.member "entries" (.array (message.entries.map PeerEntry.toJson))]

/-- The message that a JSON record writes. -/
def ofJson? (json : Json) : Option PeerMessage := do
  match ← json.record? ["entries"] with
  | [some entries] => return ⟨← (← entries.items?).mapM PeerEntry.ofJson?⟩
  | _ => none

/-- The binary form of a message. -/
def encode (message : PeerMessage) : List UInt8 :=
  Binary.sequence PeerEntry.encode message.entries

end PeerMessage

namespace Pool

variable {ρ : Type} [SignerRecovery ρ]

/-- Handles a peer's message. There is no report if its first entry is not for this pool. -/
def handle (pool : Pool ρ) (message : PeerMessage) :
    Except PoolError (Option FilingReport) × Pool ρ :=
  match message.entries with
  | [] => (.error (.malformed .noEntries), pool)
  | ⟨.normal, _⟩ :: _ => (.ok none, pool)
  | ⟨.broadcast, data⟩ :: _ =>
    match Transaction.ofJsonText? data with
    | none => (.error (.malformed .unreadable), pool)
    | some tx =>
      let (answer, pool) := pool.insert tx
      (answer.map some, pool)

end Pool

end ControlPool
