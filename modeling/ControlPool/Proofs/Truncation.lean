import ControlPool.Store
import ControlPool.Proofs.StateCodec

/-!
# Committed bytes that are cut are refused

A reader takes a field from the front of bytes. If it finds one, it finds the same one when more
bytes follow, and leaves them. So what is read from a front part of an encoded state is read from
the whole of it too, with bytes left over; but the state takes all its bytes. Hence bytes that are
cut short, inside a length, a payload or between two entries, write no state at all.
-/

namespace ControlPool

namespace Binary

variable {α β : Type}

/-- Whether a field that is read is read in the same way when more bytes follow, which are left. -/
def Stable (read : List UInt8 → Option (α × List UInt8)) : Prop :=
  ∀ bytes value rest, read bytes = some (value, rest) →
    ∀ more, read (bytes ++ more) = some (value, rest ++ more)

/-- A value that is not taken from the bytes does not depend on them. -/
theorem Stable.pure (value? : Option α) : Stable fun bytes => value?.map (·, bytes) := by
  intro bytes value rest h more
  obtain ⟨found, hfound, hpair⟩ := Option.map_eq_some_iff.mp h
  obtain ⟨rfl, rfl⟩ := Prod.mk.inj hpair
  change value?.map _ = _
  rw [hfound, Option.map_some]

/-- A reader that goes on with what another one leaves is stable if both are. -/
theorem Stable.bind {read : List UInt8 → Option (α × List UInt8)}
    {next : α → List UInt8 → Option (β × List UInt8)} (hread : Stable read)
    (hnext : ∀ value, Stable (next value)) :
    Stable fun bytes => (read bytes).bind fun (value, rest) => next value rest := by
  intro bytes value rest h more
  obtain ⟨⟨first, middle⟩, hfirst, hrest⟩ := Option.bind_eq_some_iff.mp h
  change (read (bytes ++ more)).bind _ = _
  rw [hread _ _ _ hfirst more, Option.bind_some]
  exact hnext first _ _ _ hrest more

/-- A reader that first needs a value is stable if it is stable with every value. -/
theorem Stable.guard (value? : Option α) {next : α → List UInt8 → Option (β × List UInt8)}
    (hnext : ∀ value, Stable (next value)) :
    Stable fun bytes => value?.bind fun value => next value bytes := by
  intro bytes value rest h more
  obtain ⟨found, hfound, hrest⟩ := Option.bind_eq_some_iff.mp h
  change value?.bind _ = _
  rw [hfound, Option.bind_some]
  exact hnext found _ _ _ hrest more

/-- Bytes that are taken from the front are taken when more bytes follow. -/
theorem stable_take? (length : Nat) : Stable (take? length) := by
  intro bytes field rest h more
  rw [take?] at h
  split at h
  · next henough =>
    obtain ⟨rfl, rfl⟩ := Prod.mk.inj (Option.some.inj h)
    have hmore : length ≤ (bytes ++ more).length :=
      Nat.le_trans henough (by rw [List.length_append]; exact Nat.le_add_right _ _)
    rw [take?, if_pos hmore, List.take_append_of_le_length henough,
      List.drop_append_of_le_length henough]
  · cases h

/-- A number is read when more bytes follow. -/
theorem stable_readNumber? (width : Nat) : Stable (readNumber? width) := by
  intro bytes number rest h more
  obtain ⟨⟨field, left⟩, htake, hpair⟩ := Option.map_eq_some_iff.mp h
  obtain ⟨rfl, rfl⟩ := Prod.mk.inj hpair
  rw [readNumber?, stable_take? width _ _ _ htake more, Option.map_some]

/-- A byte string is read when more bytes follow. -/
theorem stable_readOctets? : Stable readOctets? :=
  (stable_readNumber? 8).bind stable_take?

/-- A reader that takes exactly the bytes of an encoding finds nothing in a proper part of them. -/
theorem Stable.eq_none_of_cut {read : List UInt8 → Option (α × List UInt8)} (hread : Stable read)
    {bytes part : List UInt8} {value : α} (hwhole : read bytes = some (value, []))
    (hpart : part <+: bytes) (hcut : part ≠ bytes) : read part = none := by
  obtain ⟨more, rfl⟩ := hpart
  rw [Option.eq_none_iff_forall_ne_some]
  intro (found, rest) hfound
  have hsame := hread _ _ _ hfound more
  rw [hwhole, Option.some.injEq, Prod.mk.injEq, eq_comm (a := []), List.append_eq_nil_iff] at hsame
  obtain ⟨-, -, rfl⟩ := hsame
  exact hcut (List.append_nil part).symm

end Binary

open Binary (Stable)

/-- A kind is read when more bytes follow. -/
theorem Kind.stable_readBinary? : Stable Kind.readBinary? :=
  (Binary.stable_readNumber? 4).bind fun n =>
    .guard Kind.all[n]? fun kind => .pure (some kind)

namespace StateMap

/-- The entries of a bucket are read when more bytes follow. -/
theorem stable_readBucketEntries? (count : Nat) (bucket : Bucket) :
    Stable (readBucketEntries? count bucket) := by
  induction count generalizing bucket with
  | zero => exact .pure (some bucket)
  | succ count ih =>
    exact (Binary.stable_take? 20).bind fun field =>
      .guard (FixedBytes.ofList? field) fun sender =>
        Binary.stable_readOctets?.bind fun payload => ih (bucket.insert sender payload)

/-- A bucket is read when more bytes follow. -/
theorem stable_readBucket? : Stable readBucket? :=
  (Binary.stable_readNumber? 8).bind fun count => stable_readBucketEntries? count .empty

/-- The buckets of a state are read when more bytes follow. -/
theorem stable_readBuckets? (count : Nat) (state : StateMap) :
    Stable (readBuckets? count state) := by
  induction count generalizing state with
  | zero => exact .pure (some state)
  | succ count ih =>
    exact Kind.stable_readBinary?.bind fun kind =>
      stable_readBucket?.bind fun bucket => ih (OrderedMap.insert state kind bucket)

/-- A state is read when more bytes follow. -/
theorem stable_readState? : Stable readState? :=
  (Binary.stable_readNumber? 8).bind fun count => stable_readBuckets? count .empty

/-- A state is decoded from its bytes, whatever follows them, and not from a part of them that they
begin with, so a look-up where such a part was put fails. Lengths are written in eight bytes, so the
state must fit. -/
theorem decodes_whole_encoding_only {state : StateMap} (hfits : state.Fits) :
    (∀ rest, decode? (state.encode ++ rest) = some state) ∧
      ∀ part, part <+: state.encode → part ≠ state.encode →
        decode? part = none ∧
          ∀ (store : Store) (root : Hash) (kind : Kind),
            (store.put root Store.controlKey part).lookup root kind = .error .undecodable := by
  have hwhole : readState? state.encode = some (state, []) := by
    have hread := readState?_encode hfits []
    rwa [List.append_nil] at hread
  refine ⟨decode?_encode hfits, fun part hpart hcut => ?_⟩
  have hnone : decode? part = none := by
    rw [decode?_eq, stable_readState?.eq_none_of_cut hwhole hpart hcut, Option.map_none]
  refine ⟨hnone, fun store root kind => ?_⟩
  simp only [Store.lookup, Store.get?_put_self, hnone]

namespace Sample

/-- One sender's heartbeat. -/
def heartbeats : Bucket := .ofList [(.replicate 20 7, [1, 2])]

/-- A state in which the buckets of the other kinds are missing. -/
def onlyHeartbeats : StateMap := .ofList [(.heartbeat, heartbeats)]

/-- The state fits. -/
theorem fits_onlyHeartbeats : onlyHeartbeats.Fits := by
  intro entry hentry
  obtain rfl := List.mem_singleton.mp (OrderedMap.mem_of_mem_ofList hentry)
  refine ⟨by decide, fun entry hentry => ?_⟩
  obtain rfl := List.mem_singleton.mp (OrderedMap.mem_of_mem_ofList hentry)
  decide

end Sample

/-- The state is decoded when a byte follows it, and not when the last byte of the payload is
missing. -/
theorem heartbeats_decode_whole :
    decode? (Sample.onlyHeartbeats.encode ++ [9]) = some Sample.onlyHeartbeats ∧
      decode? Sample.onlyHeartbeats.encode.dropLast = none := by
  obtain ⟨hwhole, hcut⟩ := decodes_whole_encoding_only Sample.fits_onlyHeartbeats
  have hne : Sample.onlyHeartbeats.encode.dropLast ≠ Sample.onlyHeartbeats.encode := by
    decide +kernel
  exact ⟨hwhole [9], (hcut _ (List.dropLast_prefix _) hne).1⟩

end StateMap

end ControlPool
