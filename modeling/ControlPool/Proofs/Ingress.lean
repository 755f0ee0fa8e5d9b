import ControlPool.Proofs.Run
import ControlPool.Proofs.JsonShape

/-!
# Peers' messages and transactions

The text of a transaction is read back as that transaction, whatever bytes it holds and whether or
not a sender is embedded. So a message that carries a transaction does to the pool exactly what the
insertion of that transaction does. What stands behind the first entry of a message does not count.
-/

namespace ControlPool

open Json (ofMembers)

/-- A byte string of fixed length is read back as it was. -/
theorem FixedBytes.ofJson?_toJson {n : Nat} (bytes : FixedBytes n) :
    ofJson? bytes.toJson = some bytes := by
  rw [ofJson?, toJson, Json.bytes?_ofBytes, Option.bind_some, ofList?_toList]

namespace Transaction

/-- A type mark is read back as it was. -/
theorem markOfJson?_markToJson (mark : UInt8) : markOfJson? (markToJson mark) = some mark := by
  have hrecord : (markToJson mark).record? ["tx_type"] = some [some (.ofNat mark.toNat)] :=
    Json.record?_ofMembers [("tx_type", .ofNat mark.toNat)] (List.nodup_singleton _)
  rw [markOfJson?, hrecord]
  exact Json.byte?_ofNat mark

/-- The sender of a transaction as a JSON value. -/
def senderToJson (sender : Option Address) : Json :=
  match sender with
  | none => .null
  | some sender => sender.toJson

/-- A sender is read back as it was, and so is its absence. -/
theorem senderOfJson?_senderToJson (sender : Option Address) :
    senderOfJson? (some (senderToJson sender)) = some sender := by
  cases sender with
  | none => rfl
  | some sender =>
    change (FixedBytes.ofJson? sender.toJson).map some = some (some sender)
    rw [sender.ofJson?_toJson, Option.map_some]

/-- The fields of a transaction. -/
def fields (tx : Transaction) : List (String × Json) :=
  [("chain_id", .ofNat tx.chainId.toNat), ("nonce", .ofNat tx.nonce.toNat),
    ("from", senderToJson tx.sender), ("data", .ofBytes tx.data),
    ("extra", .array (tx.marks.map markToJson)), ("signature", .ofBytes tx.signature)]

/-- A transaction is written as a record of its fields. -/
theorem toJson_eq_ofMembers (tx : Transaction) : tx.toJson = ofMembers tx.fields := by
  cases hsender : tx.sender <;> simp [toJson, ofMembers, fields, senderToJson, hsender]

/-- A transaction is read back as it was. -/
theorem ofJson?_toJson (tx : Transaction) : ofJson? tx.toJson = some tx := by
  have hrecord : tx.toJson.record? fieldNames = some (tx.fields.map fun field => some field.2) := by
    rw [toJson_eq_ofMembers]
    have hnames : fieldNames.Nodup := by decide
    exact Json.record?_ofMembers tx.fields hnames
  have hmarks : (tx.marks.map markToJson).mapM markOfJson? = some tx.marks :=
    Json.mapM_map_eq_some markOfJson?_markToJson tx.marks
  rw [ofJson?, hrecord]
  simp [fields, Json.word?_ofNat, senderOfJson?_senderToJson, Json.bytes?_ofBytes, Json.items?,
    hmarks]

/-- All numbers in a transaction are natural ones. -/
theorem natural_toJson (tx : Transaction) : tx.toJson.Natural := by
  have hmark (mark : UInt8) : (markToJson mark).Natural :=
    Json.natural_ofMembers [("tx_type", .ofNat mark.toNat)]
      (List.forall_mem_singleton.mpr (Json.natural_ofNat _))
  have hmarks : (Json.array (tx.marks.map markToJson)).Natural := by
    apply Json.natural_array
    intro item hitem
    obtain ⟨mark, -, rfl⟩ := List.mem_map.mp hitem
    exact hmark mark
  have hsender : (senderToJson tx.sender).Natural := by
    cases tx.sender with
    | none => exact List.forall_mem_singleton.mpr trivial
    | some sender => exact Json.natural_ofBytes _
  rw [toJson_eq_ofMembers]
  apply Json.natural_ofMembers
  simp only [fields, List.forall_mem_cons]
  exact ⟨Json.natural_ofNat _, Json.natural_ofNat _, hsender, Json.natural_ofBytes _, hmarks,
    Json.natural_ofBytes _, fun _ h => nomatch h⟩

/-- The text of a transaction is read back as that transaction. -/
theorem ofJsonText?_jsonText (tx : Transaction) : ofJsonText? tx.jsonText = some tx := by
  rw [ofJsonText?, jsonText, Json.read?_render tx.natural_toJson, Option.bind_some,
    ofJson?_toJson]

end Transaction

/-- A message that carries a transaction offers that transaction. -/
theorem PeerMessage.offer?_carrying (tx : Transaction) : (carrying tx).offer? = some tx :=
  tx.ofJsonText?_jsonText

namespace Pool

variable {ρ : Type} [SignerRecovery ρ]

/-- A message that carries a transaction is answered like the insertion of that transaction and
leaves the same pool, and of any message only the first entry counts. -/
theorem handle_agrees_with_insert (pool : Pool ρ) :
    (∀ tx, pool.handle (.carrying tx) = ((pool.insert tx).1.map some, (pool.insert tx).2)) ∧
      ∀ first others, pool.handle ⟨first :: others⟩ = pool.handle ⟨[first]⟩ := by
  constructor
  · intro tx
    exact handle_of_offer pool (PeerMessage.offer?_carrying tx)
  · intro first others
    obtain ⟨type, data⟩ := first
    cases type <;> rfl

end Pool

end ControlPool
