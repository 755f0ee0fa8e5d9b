import ControlPool.StateMap
import Mathlib.Data.List.Perm.Subperm

/-!
# Committed bytes are read back

Reading puts the entries of a bucket, and the buckets of a state, into an empty map one after the
other, as they stand in the bytes. They stand in the order of the map that was written, so this
builds the same map again, and whatever follows it is left. Lengths are written in eight bytes, so
the map must fit: no bucket has more entries, and no payload more bytes, than such a number can say.
-/

namespace ControlPool

namespace Binary

/-- The length of a list that fits is read back. -/
theorem readNumber?_count {n : Nat} (hfits : n < UInt64.size) (rest : List UInt8) :
    readNumber? 8 (count n ++ rest) = some (n, rest) :=
  readNumber?_littleEndian hfits rest

/-- A byte string whose length fits is read back. -/
theorem readOctets?_octets {bytes : List UInt8} (hfits : bytes.length < UInt64.size)
    (rest : List UInt8) : readOctets? (octets bytes ++ rest) = some (bytes, rest) := by
  rw [octets, List.append_assoc, readOctets?, readNumber?_count hfits]
  exact take?_append rfl rest

end Binary

/-- A map has at most as many entries as there are keys for them. -/
theorem OrderedMap.size_le_of_keys {κ α : Type} [Ord κ] [Std.TransOrd κ] [Std.LawfulEqOrd κ]
    (map : OrderedMap κ α) {keys : List κ} (h : ∀ entry ∈ map.entries, entry.1 ∈ keys) :
    map.size ≤ keys.length := by
  have hsubset : map.entries.map (·.1) ⊆ keys := by
    rw [List.subset_def, List.forall_mem_map]
    exact h
  rw [size, ← map.entries.length_map (·.1)]
  exact (List.subperm_of_subset map.nodup_keys hsubset).length_le

/-- A kind is read back. -/
theorem Kind.readBinary?_encode (kind : Kind) (rest : List UInt8) :
    readBinary? (kind.encode ++ rest) = some (kind, rest) := by
  have hposition : kind.position < Nat.pow 256 4 := by cases kind <;> decide
  have hkind : all[kind.position]? = some kind := by cases kind <;> rfl
  rw [readBinary?, encode, Binary.variant, Binary.readNumber?_littleEndian hposition]
  simp [hkind]

/-- A bucket fits if the number of its entries and the lengths of its payloads can be written. -/
structure Bucket.Fits (bucket : Bucket) : Prop where
  size : bucket.size < UInt64.size
  payloads : ∀ entry ∈ bucket.entries, entry.2.length < UInt64.size

namespace StateMap

/-- A state fits if its buckets do. -/
def Fits (state : StateMap) : Prop := ∀ entry ∈ state.entries, Bucket.Fits entry.2

/-- A state from which a bucket is removed fits if the state does. -/
theorem Fits.erase {state : StateMap} (hfits : state.Fits) (kind : Kind) :
    Fits (OrderedMap.erase state kind) :=
  fun entry hentry => hfits entry (List.mem_of_mem_filter hentry)

/-- A state has at most one bucket for each of the four kinds. -/
theorem length_entries_le (state : StateMap) : state.entries.length ≤ 4 :=
  OrderedMap.size_le_of_keys state fun entry _ => entry.1.mem_all

/-- The entries of a bucket are read one after the other. -/
theorem readBucketEntries?_flatMap (entries : List (Address × List UInt8))
    (hfits : ∀ entry ∈ entries, entry.2.length < UInt64.size) (bucket : Bucket)
    (rest : List UInt8) :
    readBucketEntries? entries.length bucket
        (entries.flatMap (fun entry => entry.1.toList ++ Binary.octets entry.2) ++ rest) =
      some (entries.foldl (fun bucket entry => bucket.insert entry.1 entry.2) bucket, rest) := by
  induction entries generalizing bucket with
  | nil => rfl
  | cons entry entries ih =>
    obtain ⟨hentry, hentries⟩ := List.forall_mem_cons.mp hfits
    rw [List.flatMap_cons, List.length_cons, readBucketEntries?, List.append_assoc,
      List.append_assoc, Binary.take?_append entry.1.length_toList]
    simp only [Option.bind_eq_bind, Option.bind_some, FixedBytes.ofList?_toList,
      Binary.readOctets?_octets hentry]
    exact ih hentries _

/-- A bucket that fits is read back. -/
theorem readBucket?_encodeBucket {bucket : Bucket} (hfits : bucket.Fits) (rest : List UInt8) :
    readBucket? (encodeBucket bucket ++ rest) = some (bucket, rest) := by
  have hsize : bucket.entries.length < UInt64.size := hfits.size
  rw [encodeBucket, Binary.sequence, List.append_assoc, readBucket?, Binary.readNumber?_count hsize,
    Option.bind_eq_bind, Option.bind_some]
  simp only [readBucketEntries?_flatMap _ hfits.payloads]
  exact congrArg (fun bucket => some (bucket, rest)) bucket.ofList_entries

/-- The buckets of a state are read one after the other. -/
theorem readBuckets?_flatMap (entries : List (Kind × Bucket))
    (hfits : ∀ entry ∈ entries, Bucket.Fits entry.2) (state : StateMap) (rest : List UInt8) :
    readBuckets? entries.length state
        (entries.flatMap (fun entry => entry.1.encode ++ encodeBucket entry.2) ++ rest) =
      some (entries.foldl (fun state entry => OrderedMap.insert state entry.1 entry.2) state,
        rest) := by
  induction entries generalizing state with
  | nil => rfl
  | cons entry entries ih =>
    obtain ⟨hentry, hentries⟩ := List.forall_mem_cons.mp hfits
    rw [List.flatMap_cons, List.length_cons, readBuckets?, List.append_assoc, List.append_assoc,
      entry.1.readBinary?_encode]
    simp only [Option.bind_eq_bind, Option.bind_some, readBucket?_encodeBucket hentry]
    exact ih hentries _

/-- The state that stands at the front of bytes, and what follows it. -/
def readState? (bytes : List UInt8) : Option (StateMap × List UInt8) :=
  (Binary.readNumber? 8 bytes).bind fun (count, rest) => readBuckets? count .empty rest

/-- Decoding takes the state and drops what follows it. -/
theorem decode?_eq (bytes : List UInt8) : decode? bytes = (readState? bytes).map (·.1) := by
  rw [decode?, readState?]
  cases Binary.readNumber? 8 bytes with
  | none => rfl
  | some found =>
    change (readBuckets? found.1 .empty found.2).bind _ =
      (readBuckets? found.1 .empty found.2).map _
    cases readBuckets? found.1 .empty found.2 <;> rfl

/-- A state that fits is read back, and what follows it is left. -/
theorem readState?_encode {state : StateMap} (hfits : state.Fits) (rest : List UInt8) :
    readState? (state.encode ++ rest) = some (state, rest) := by
  have hsize : state.entries.length < UInt64.size :=
    Nat.lt_of_le_of_lt state.length_entries_le (by decide)
  rw [encode, Binary.sequence, List.append_assoc, readState?, Binary.readNumber?_count hsize,
    Option.bind_some]
  simp only [readBuckets?_flatMap _ hfits]
  exact congrArg (fun state => some (state, rest)) state.ofList_entries

/-- A state that fits is decoded, whatever follows it. -/
theorem decode?_encode {state : StateMap} (hfits : state.Fits) (rest : List UInt8) :
    decode? (state.encode ++ rest) = some state := by
  rw [decode?_eq, readState?_encode hfits, Option.map_some]

/-- A state that fits is decoded from its bytes. -/
theorem decode?_encode_self {state : StateMap} (hfits : state.Fits) :
    decode? state.encode = some state := by
  have hdecode := decode?_encode hfits []
  rwa [List.append_nil] at hdecode

end StateMap

end ControlPool
