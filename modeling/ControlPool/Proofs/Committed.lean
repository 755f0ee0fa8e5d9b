import ControlPool.Store
import ControlPool.Proofs.Interleaving
import ControlPool.Proofs.PayloadSize
import ControlPool.Proofs.StateCodec

/-!
# Committed state is looked up as it was extracted

A look-up reads the last value that was put under the root and the key of committed data, whatever
was put elsewhere. The state of a block has a bucket for every kind, and it fits: a bucket holds at
most one payload for each transaction and no payload is longer than the body that carries it. So
once it is committed, every bucket of it is looked up as it was extracted, the empty ones included.
If the bucket of one kind is taken out of a state, the look-up of that kind fails, and of no other.
-/

namespace ControlPool

namespace Store

/-- A value with the root and the key under which it is put. -/
structure Put where
  root : Hash
  key : String
  value : List UInt8

/-- The value that is put, if it is put under a root and a key. -/
def Put.valueAt? (root : Hash) (key : String) (put : Put) : Option (List UInt8) :=
  if put.root = root ∧ put.key = key then some put.value else none

/-- The store after values were put one after the other. -/
def putAll (puts : List Put) : Store :=
  puts.foldl (fun store put => store.put put.root put.key put.value) .empty

/-- The last value that was put under a root and a key. -/
def lastValue? (root : Hash) (key : String) (puts : List Put) : Option (List UInt8) :=
  (puts.filterMap (Put.valueAt? root key)).getLast?

/-- A value that is put is found under its root and key, and others are as before. -/
theorem get?_put (store : Store) (put : Put) (root : Hash) (key : String) :
    (store.put put.root put.key put.value).get? root key =
      (put.valueAt? root key).or (store.get? root key) := by
  rw [get?, Store.put, Put.valueAt?, List.find?_cons]
  by_cases hsame : put.root = root ∧ put.key = key
  · simp [hsame]
  · have hother : decide ((put.root, put.key) = (root, key)) = false := by
      rw [decide_eq_false_iff_not, Prod.mk.injEq]
      exact hsame
    rw [hother, if_neg hsame, Option.none_or, get?]

/-- The value found under a root and a key is the last one that was put there. -/
theorem get?_putAll (puts : List Put) (root : Hash) (key : String) :
    (putAll puts).get? root key = lastValue? root key puts := by
  induction puts using List.reverseRecOn with
  | nil => rfl
  | append_singleton puts put ih =>
    rw [putAll, List.foldl_append, ← putAll, List.foldl_cons, List.foldl_nil, get?_put, ih,
      lastValue?, lastValue?, List.filterMap_append, List.getLast?_append]
    cases hvalue : put.valueAt? root key <;> simp [hvalue]

/-- What is put elsewhere does not change the last value. -/
theorem lastValue?_of_later {root : Hash} {key : String} (value : List UInt8) (earlier : List Put)
    {later : List Put} (hlater : ∀ put ∈ later, put.root ≠ root ∨ put.key ≠ key) :
    lastValue? root key (earlier ++ ⟨root, key, value⟩ :: later) = some value := by
  have hnone : later.filterMap (Put.valueAt? root key) = [] := by
    rw [List.filterMap_eq_nil_iff]
    intro put hput
    exact if_neg fun hsame => (hlater put hput).elim (absurd hsame.1) (absurd hsame.2)
  have hown : Put.valueAt? root key ⟨root, key, value⟩ = some value := if_pos ⟨rfl, rfl⟩
  rw [lastValue?, List.filterMap_append, List.filterMap_cons_some hown, hnone,
    List.getLast?_append]
  rfl

end Store

/-- A block fits if its transactions and the bytes of each body can be counted in eight bytes. -/
structure Block.Fits (block : Block) : Prop where
  transactions : block.transactions.length < UInt64.size
  bodies : ∀ tx ∈ block.transactions, tx.data.length < UInt64.size

variable {ρ : Type} [SignerRecovery ρ]

/-- A payload of a bucket that is found in a block is that of a key of one of its readings. -/
theorem Block.exists_reading_of_mem {block : Block} {schedule : Schedule} {recovery : ρ}
    {data : BlockData} (h : (block.extract schedule recovery).1 = .ok (.found data))
    {kind : Kind} {bucket : Bucket} (hbucket : (kind, bucket) ∈ data.state.entries)
    {sender : Address} {payload : List UInt8} (hpayload : (sender, payload) ∈ bucket.entries) :
    ∃ body, some (sender, body) ∈ (readings recovery block.transactions).1 ∧
      ∃ key, (key, payload) ∈ body.entries := by
  have hfound : data.state.payload? kind sender = some payload := by
    rw [StateMap.payload?, StateMap.bucket?, OrderedMap.get?_eq_some_iff.mpr hbucket]
    exact OrderedMap.get?_eq_some_iff.mpr hpayload
  rw [Block.state_eq_fileAll h] at hfound
  obtain ⟨reading, hreading, hentry⟩ :=
    List.mem_flatMap.mp (StateMap.mem_of_payload?_fileAll hfound)
  obtain ⟨body, rfl, hkey⟩ := Reading.exists_of_mem_entries hentry
  exact ⟨body, hreading, hkey⟩

/-- The state that is found in a block that fits fits too. -/
theorem Block.fits_state {block : Block} {schedule : Schedule} {recovery : ρ} {data : BlockData}
    (hfits : block.Fits) (h : (block.extract schedule recovery).1 = .ok (.found data)) :
    data.state.Fits := by
  obtain ⟨hlength, hbodies⟩ := readings_bound recovery block.transactions
  intro entry hbucket
  obtain ⟨kind, bucket⟩ := entry
  constructor
  · -- A bucket has one payload for each sender, and every sender was read in a transaction.
    have hread : ∀ entry ∈ bucket.entries, entry.1 ∈
        (readings recovery block.transactions).1.filterMap fun reading => reading.map (·.1) := by
      intro entry hpayload
      obtain ⟨body, hreading, -⟩ := Block.exists_reading_of_mem h hbucket hpayload
      exact List.mem_filterMap.mpr ⟨_, hreading, rfl⟩
    calc bucket.size
        ≤ ((readings recovery block.transactions).1.filterMap
            fun reading => reading.map (·.1)).length := bucket.size_le_of_keys hread
      _ ≤ (readings recovery block.transactions).1.length := List.length_filterMap_le _ _
      _ ≤ block.transactions.length := hlength
      _ < UInt64.size := hfits.transactions
  · intro entry hpayload
    obtain ⟨sender, payload⟩ := entry
    obtain ⟨body, hreading, key, hkey⟩ := Block.exists_reading_of_mem h hbucket hpayload
    obtain ⟨tx, htx, hbody⟩ := hbodies _ _ hreading
    exact Nat.lt_of_le_of_lt (Payload.length_le_of_decode? hbody hkey) (hfits.bodies tx htx)

/-- The state that is found in a block has a bucket for every kind. -/
theorem Block.isSome_bucket?_state {block : Block} {schedule : Schedule} {recovery : ρ}
    {data : BlockData} (h : (block.extract schedule recovery).1 = .ok (.found data))
    (kind : Kind) : (data.state.bucket? kind).isSome = true := by
  rw [Block.state_eq_fileAll h]
  exact StateMap.isSome_bucket?_fileAll_fresh _ kind

namespace Store

/-- Where a state without the bucket of a kind is committed, that bucket is what a look-up misses,
and the buckets of other kinds are found as in the whole state. -/
theorem lookup_put_erase {state : StateMap} (hfits : state.Fits) (store : Store) (root : Hash)
    (erased kind : Kind) :
    (store.put root controlKey (StateMap.encode (OrderedMap.erase state erased))).lookup root kind =
      if kind = erased then .error (.bucketMissing kind)
      else (store.put root controlKey state.encode).lookup root kind := by
  have hwhole := StateMap.decode?_encode_self hfits
  have hpart := StateMap.decode?_encode_self (hfits.erase erased)
  simp only [lookup, get?_put_self, hwhole, hpart, StateMap.bucket?, OrderedMap.get?_erase]
  by_cases hsame : kind = erased
  · rw [if_pos hsame, if_pos hsame]
  · rw [if_neg hsame, if_neg hsame]

/-- A look-up reads the last value that was put under the root and the key of committed data: it
fails for want of the value, for bytes that write no state or for want of the bucket, and else finds
the bucket. If that value is the state that was found in a block whose sizes can be written in eight
bytes, the bucket of every kind is found as it was extracted. -/
theorem committed_state_reads_back :
    (∀ (puts : List Put) (root : Hash) (kind : Kind),
      (putAll puts).lookup root kind =
        match lastValue? root controlKey puts with
        | none => .error (.valueMissing controlKey root)
        | some bytes =>
          match StateMap.decode? bytes with
          | none => .error .undecodable
          | some state =>
            match StateMap.bucket? state kind with
            | none => .error (.bucketMissing kind)
            | some bucket => .ok bucket) ∧
    ∀ (block : Block) (schedule : Schedule) (recovery : ρ) (data : BlockData) (root : Hash)
      (earlier later : List Put), block.Fits →
      (block.extract schedule recovery).1 = .ok (.found data) →
      (∀ put ∈ later, put.root ≠ root ∨ put.key ≠ controlKey) →
      ∀ kind, ∃ bucket, data.state.bucket? kind = some bucket ∧
        (putAll (earlier ++ ⟨root, controlKey, data.state.encode⟩ :: later)).lookup root kind =
          .ok bucket := by
  constructor
  · intro puts root kind
    rw [← get?_putAll]
    rfl
  · intro block schedule recovery data root earlier later hfits hextract hlater kind
    obtain ⟨bucket, hbucket⟩ :=
      Option.isSome_iff_exists.mp (Block.isSome_bucket?_state hextract kind)
    have hdecode := StateMap.decode?_encode_self (Block.fits_state hfits hextract)
    refine ⟨bucket, hbucket, ?_⟩
    rw [lookup, get?_putAll, lastValue?_of_later _ _ hlater]
    simp only [hdecode, hbucket]

namespace Sample

open Pool.Sample

/-- The block with the validator's public key. -/
def block : Block := blockOf [announced]

/-- What it holds. -/
def data : BlockData := ⟨200, StateMap.fresh.fileAll [⟨.publicKey, validator, [1]⟩], 0, 0⟩

/-- The block fits. -/
theorem fits_block : block.Fits := by
  refine ⟨by decide, ?_⟩
  intro tx htx
  obtain rfl := List.mem_singleton.mp htx
  decide +kernel

/-- Bytes that write no state were put at a root before. -/
def garbled : Put := ⟨default, controlKey, [1]⟩

/-- Later they were put under another key, and at another root. -/
def elsewhere : List Put := [⟨default, "garbled", [1]⟩, ⟨.replicate 32 1, controlKey, [1]⟩]

end Sample

/-- All buckets of the block are looked up as they were extracted, those of the other kinds too. -/
theorem public_key_reads_back :
    (Sample.block.extract Pool.Sample.config.schedule Pool.Sample.table).1 =
        .ok (.found Sample.data) ∧
      ∀ kind, ∃ bucket, Sample.data.state.bucket? kind = some bucket ∧
        (putAll ([Sample.garbled] ++ ⟨default, controlKey, Sample.data.state.encode⟩ ::
          Sample.elsewhere)).lookup default kind = .ok bucket := by
  have hextract : (Sample.block.extract Pool.Sample.config.schedule Pool.Sample.table).1 =
      .ok (.found Sample.data) := by rfl
  refine ⟨hextract, ?_⟩
  apply committed_state_reads_back.2 Sample.block Pool.Sample.config.schedule Pool.Sample.table
    Sample.data default [Sample.garbled] Sample.elsewhere Sample.fits_block hextract
  decide

end Store

end ControlPool
