import ControlPool.Transaction
import ControlPool.Proofs.JsonShape

/-!
# Payloads are read back from their texts

The text of a payload is an object with one member for each key, in key order. Its names are texts
and its numbers are natural ones, so it is read back member by member, whatever characters the keys
have and whatever bytes the values. A payload is thus known from its text, and that text is never
empty, which would stand for a payload that could not be written.
-/

namespace ControlPool

namespace Payload

/-- The members of the object that is written. -/
def members (payload : Payload) : List (String × Json) :=
  payload.entries.map fun entry => (entry.1, .ofBytes entry.2)

/-- A payload is written as an object of its members. -/
theorem toJson_eq_ofMembers (payload : Payload) : payload.toJson = .ofMembers payload.members := by
  rw [toJson, Json.ofMembers, members, List.map_map]
  rfl

/-- All numbers in a payload are natural ones. -/
theorem natural_toJson (payload : Payload) : payload.toJson.Natural := by
  rw [toJson_eq_ofMembers]
  apply Json.natural_ofMembers
  intro member hmember
  obtain ⟨entry, -, rfl⟩ := List.mem_map.mp hmember
  exact Json.natural_ofBytes entry.2

/-- A payload is read back as it was. -/
theorem ofJson?_toJson (payload : Payload) : ofJson? payload.toJson = some payload := by
  have hentries : payload.members.mapM (fun member => member.2.bytes?.map (member.1, ·)) =
      some payload.entries := by
    apply Json.mapM_map_eq_some
    intro (key, value)
    rw [Json.bytes?_ofBytes, Option.map_some]
  rw [toJson_eq_ofMembers, ofJson?, Json.members?_ofMembers]
  simp only [Option.bind_eq_bind, Option.bind_some, hentries, OrderedMap.ofList_entries]
  rfl

/-- A payload is read back from its text. -/
theorem decode?_encode (payload : Payload) : decode? payload.encode = some payload := by
  rw [decode?, encode, Json.read?_render payload.natural_toJson, Option.bind_some,
    ofJson?_toJson]

/-- Different payloads have different texts. -/
theorem encode_injective : Function.Injective encode := by
  intro payload other h
  have hread := congrArg decode? h
  rwa [decode?_encode, decode?_encode, Option.some.injEq] at hread

/-- The empty text writes no payload. -/
theorem decode?_nil : decode? [] = none := rfl

/-- A payload is read back from its text and from any transaction that carries it. Payloads have the
same text only if they are equal, and no text is empty. -/
theorem text_reads_back (payload : Payload) :
    decode? payload.encode = some payload ∧
      (∀ chainId nonce, (Transaction.carrying chainId nonce payload).payload? = some payload) ∧
      (∀ other : Payload, other.encode = payload.encode ↔ other = payload) ∧
      payload.encode ≠ [] := by
  refine ⟨payload.decode?_encode, fun _ _ => payload.decode?_encode,
    fun _ => encode_injective.eq_iff, ?_⟩
  intro hempty
  have hread := payload.decode?_encode
  rw [hempty, decode?_nil] at hread
  cases hread

/-- A quote and a line feed in a key are escaped. -/
example : encode (.ofList [("a\"\n", [7, 255])]) =
    Text.utf8 "\x7b\"a\\\"\\n\":[7,255]\x7d" := by
  decide +kernel

end Payload

end ControlPool
