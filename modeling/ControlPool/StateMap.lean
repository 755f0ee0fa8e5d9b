import ControlPool.Kind
import ControlPool.OrderedMap
import ControlPool.Bytes.Fixed

/-!
# The committed state

For each kind a bucket of payloads by sender. Kinds and senders stand in order, so equal states
have equal bytes. A bucket may be missing in a state that was read, but a fresh state has all four.
-/

namespace ControlPool

/-- The payloads of one kind by sender. -/
abbrev Bucket := OrderedMap Address (List UInt8)

/-- The payloads by kind and sender. -/
abbrev StateMap := OrderedMap Kind Bucket

namespace StateMap

/-- An empty bucket for every kind. -/
def fresh : StateMap := .ofList (Kind.all.map fun kind => (kind, .empty))

/-- The bucket of a kind. -/
def bucket? (state : StateMap) (kind : Kind) : Option Bucket := state.get? kind

/-- Files a sender's payload under a kind, replacing the one that was there. -/
def file (state : StateMap) (kind : Kind) (sender : Address) (payload : List UInt8) : StateMap :=
  OrderedMap.insert state kind (((state.bucket? kind).getD .empty).insert sender payload)

/-- The number of entries in the bucket of a kind. -/
def bucketSize (state : StateMap) (kind : Kind) : Nat :=
  ((state.bucket? kind).map OrderedMap.size).getD 0

/-- The number of entries in all buckets. -/
def totalSize (state : StateMap) : Nat :=
  state.entries.foldl (fun total entry => total + entry.2.size) 0

/-- A bucket in binary: each sender's twenty bytes and the payload. -/
def encodeBucket (bucket : Bucket) : List UInt8 :=
  Binary.sequence (fun entry => entry.1.toList ++ Binary.octets entry.2) bucket.entries

/-- A state in binary: each kind's number and bucket. -/
def encode (state : StateMap) : List UInt8 :=
  Binary.sequence (fun entry => entry.1.encode ++ encodeBucket entry.2) state.entries

/-- Reads entries of a bucket from the front of bytes. -/
def readBucketEntries? : Nat → Bucket → List UInt8 → Option (Bucket × List UInt8)
  | 0, bucket, bytes => some (bucket, bytes)
  | count + 1, bucket, bytes => do
    let (field, bytes) ← Binary.take? 20 bytes
    let sender ← FixedBytes.ofList? field
    let (payload, bytes) ← Binary.readOctets? bytes
    readBucketEntries? count (bucket.insert sender payload) bytes

/-- Reads a bucket from the front of bytes. -/
def readBucket? (bytes : List UInt8) : Option (Bucket × List UInt8) := do
  let (count, bytes) ← Binary.readNumber? 8 bytes
  readBucketEntries? count .empty bytes

/-- Reads buckets from the front of bytes. -/
def readBuckets? : Nat → StateMap → List UInt8 → Option (StateMap × List UInt8)
  | 0, state, bytes => some (state, bytes)
  | count + 1, state, bytes => do
    let (kind, bytes) ← Kind.readBinary? bytes
    let (bucket, bytes) ← readBucket? bytes
    readBuckets? count (OrderedMap.insert state kind bucket) bytes

/-- The state that stands at the front of bytes; what follows it is ignored. -/
def decode? (bytes : List UInt8) : Option StateMap := do
  let (count, bytes) ← Binary.readNumber? 8 bytes
  let (state, _) ← readBuckets? count .empty bytes
  return state

end StateMap

end ControlPool
