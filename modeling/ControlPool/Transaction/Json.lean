import ControlPool.Transaction

/-!
# Transactions in JSON

A transaction is a record of six fields. Byte strings are arrays of numbers, a missing or null
sender is no sender, and each type mark is a record of one field.
-/

namespace ControlPool

namespace FixedBytes

/-- A byte string of fixed length that a JSON value writes as an array of exactly that many. -/
def ofJson? {n : Nat} (json : Json) : Option (FixedBytes n) := json.bytes?.bind ofList?

/-- A byte string of fixed length as a JSON array. -/
def toJson {n : Nat} (bytes : FixedBytes n) : Json := .ofBytes bytes.toList

end FixedBytes

namespace Transaction

/-- A type mark as a JSON record. -/
def markToJson (mark : UInt8) : Json :=
  .object [Json.member "tx_type" (.ofNat mark.toNat)]

/-- The type mark that a JSON record writes. -/
def markOfJson? (json : Json) : Option UInt8 := do
  match ← json.record? ["tx_type"] with
  | [some mark] => mark.byte?
  | _ => none

/-- A transaction as a JSON record. -/
def toJson (tx : Transaction) : Json :=
  .object
    [Json.member "chain_id" (.ofNat tx.chainId.toNat),
     Json.member "nonce" (.ofNat tx.nonce.toNat),
     Json.member "from" (match tx.sender with | none => .null | some sender => sender.toJson),
     Json.member "data" (.ofBytes tx.data),
     Json.member "extra" (.array (tx.marks.map markToJson)),
     Json.member "signature" (.ofBytes tx.signature)]

/-- The sender of a record: none if the field is missing or null. -/
def senderOfJson? : Option Json → Option (Option Address)
  | none => some none
  | some .null => some none
  | some json => (FixedBytes.ofJson? json).map some

/-- The names of a transaction's fields. -/
def fieldNames : List String := ["chain_id", "nonce", "from", "data", "extra", "signature"]

/-- The transaction that a JSON record writes. -/
def ofJson? (json : Json) : Option Transaction := do
  match ← json.record? fieldNames with
  | [some chainId, some nonce, sender, some data, some marks, some signature] =>
    return {
      chainId := ← chainId.word?
      nonce := ← nonce.word?
      sender := ← senderOfJson? sender
      data := ← data.bytes?
      marks := ← (← marks.items?).mapM markOfJson?
      signature := ← signature.bytes? }
  | _ => none

/-- The JSON text of a transaction. -/
def jsonText (tx : Transaction) : List UInt8 := tx.toJson.render

/-- The transaction that a JSON text writes. -/
def ofJsonText? (bytes : List UInt8) : Option Transaction := (Json.read? bytes).bind ofJson?

end Transaction

end ControlPool
