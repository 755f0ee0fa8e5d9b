import ControlPool.Transaction.Json

/-!
# Blocks

A finalized block: a header and the transactions in their order.
-/

namespace ControlPool

/-- What the pool needs of a block's header. -/
structure BlockHeader where
  number : UInt64
  hash : Hash
  parentHash : Hash
  deriving DecidableEq, Inhabited

/-- A block. -/
structure Block where
  header : BlockHeader
  transactions : List Transaction
  deriving DecidableEq, Inhabited

namespace BlockHeader

/-- A header as a JSON record. -/
def toJson (header : BlockHeader) : Json :=
  .object
    [Json.member "number" (.ofNat header.number.toNat),
     Json.member "hash" header.hash.toJson,
     Json.member "parent_hash" header.parentHash.toJson]

/-- The header that a JSON record writes. -/
def ofJson? (json : Json) : Option BlockHeader := do
  match ← json.record? ["number", "hash", "parent_hash"] with
  | [some number, some hash, some parentHash] =>
    return ⟨← number.word?, ← FixedBytes.ofJson? hash, ← FixedBytes.ofJson? parentHash⟩
  | _ => none

/-- The binary form of a header. -/
def encode (header : BlockHeader) : List UInt8 :=
  Binary.word header.number ++ header.hash.toList ++ header.parentHash.toList

end BlockHeader

namespace Block

/-- A block as a JSON record. -/
def toJson (block : Block) : Json :=
  .object
    [Json.member "header" block.header.toJson,
     Json.member "transactions" (.array (block.transactions.map Transaction.toJson))]

/-- The block that a JSON record writes. -/
def ofJson? (json : Json) : Option Block := do
  match ← json.record? ["header", "transactions"] with
  | [some header, some transactions] =>
    return ⟨← BlockHeader.ofJson? header, ← (← transactions.items?).mapM Transaction.ofJson?⟩
  | _ => none

/-- The binary form of a block. -/
def encode (block : Block) : List UInt8 :=
  block.header.encode ++ Binary.sequence Transaction.encode block.transactions

end Block

end ControlPool
