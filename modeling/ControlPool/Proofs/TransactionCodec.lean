import ControlPool.Proofs.Collision
import ControlPool.Proofs.Insertion
import ControlPool.Proofs.StateCodec

/-!
# What is measured and hashed of a transaction

The binary form writes the fields one after the other: two words of eight bytes, a byte that says
whether the twenty bytes of a sender follow, and three byte strings behind their lengths. So each
field tells where the next one begins, and the form belongs to one transaction only, whatever stands
behind it. A length has eight bytes, so a byte string must not be longer than such a number can say,
as no string in memory is and none of a transaction that is small enough for a pool. The size that
the pool limits is that of the bytes that are hashed.
-/

namespace ControlPool

namespace Binary

/-- A value that a reader finds in front of what follows is told apart from it. -/
theorem eq_of_reads {α : Type} {read : List UInt8 → Option (α × List UInt8)}
    {a b : α} {first second rest rest' : List UInt8}
    (hfirst : read (first ++ rest) = some (a, rest))
    (hsecond : read (second ++ rest') = some (b, rest'))
    (h : first ++ rest = second ++ rest') : a = b ∧ rest = rest' := by
  rw [h, hsecond] at hfirst
  obtain ⟨hvalue, hrest⟩ := Prod.mk.inj (Option.some.inj hfirst)
  exact ⟨hvalue.symm, hrest.symm⟩

/-- A word is told apart from what follows. -/
theorem word_append_injective {a b : UInt64} {rest rest' : List UInt8}
    (h : word a ++ rest = word b ++ rest') : a = b ∧ rest = rest' := by
  obtain ⟨hnumber, hrest⟩ := eq_of_reads (readNumber?_count a.toNat_lt_size rest)
    (readNumber?_count b.toNat_lt_size rest') h
  exact ⟨UInt64.toNat_inj.mp hnumber, hrest⟩

/-- A byte string whose length fits is told apart from what follows. -/
theorem octets_append_injective {a b rest rest' : List UInt8} (ha : a.length < UInt64.size)
    (hb : b.length < UInt64.size) (h : octets a ++ rest = octets b ++ rest') :
    a = b ∧ rest = rest' :=
  eq_of_reads (readOctets?_octets ha rest) (readOctets?_octets hb rest') h

/-- A string of fixed length that may be absent is told apart from what follows. -/
theorem optional_append_injective {n : Nat} {a b : Option (FixedBytes n)}
    {rest rest' : List UInt8}
    (h : optional FixedBytes.toList a ++ rest = optional FixedBytes.toList b ++ rest') :
    a = b ∧ rest = rest' := by
  cases a with
  | none =>
    cases b with
    | none => exact ⟨rfl, (List.cons.inj h).2⟩
    | some second => exact absurd (List.cons.inj h).1 (by decide)
  | some first =>
    cases b with
    | none => exact absurd (List.cons.inj h).1 (by decide)
    | some second =>
      obtain ⟨hbytes, hrest⟩ := List.append_inj (List.cons.inj h).2
        (by rw [first.length_toList, second.length_toList])
      exact ⟨congrArg some (FixedBytes.ext hbytes), hrest⟩

end Binary

namespace Transaction

/-- A transaction fits if the lengths of its byte strings can be written. -/
structure Fits (tx : Transaction) : Prop where
  data : tx.data.length < UInt64.size
  marks : tx.marks.length < UInt64.size
  signature : tx.signature.length < UInt64.size

/-- A transaction that is not above a limit of a pool fits. -/
theorem fits_of_length_le {tx : Transaction} {limit : UInt64}
    (h : tx.encode.length ≤ limit.toNat) : tx.Fits := by
  have hlimit := limit.toNat_lt_size
  rw [length_encode, encodedLength] at h
  refine ⟨?_, ?_, ?_⟩ <;> omega

/-- The binary form of a transaction that fits is told apart from what follows. -/
theorem encode_append_injective {tx other : Transaction} {rest rest' : List UInt8}
    (htx : tx.Fits) (hother : other.Fits) (h : tx.encode ++ rest = other.encode ++ rest') :
    tx = other ∧ rest = rest' := by
  simp only [encode, List.append_assoc] at h
  obtain ⟨hchainId, h⟩ := Binary.word_append_injective h
  obtain ⟨hnonce, h⟩ := Binary.word_append_injective h
  obtain ⟨hsender, h⟩ := Binary.optional_append_injective h
  obtain ⟨hdata, h⟩ := Binary.octets_append_injective htx.data hother.data h
  obtain ⟨hmarks, h⟩ := Binary.octets_append_injective htx.marks hother.marks h
  obtain ⟨hsignature, hrest⟩ :=
    Binary.octets_append_injective htx.signature hother.signature h
  cases tx
  cases other
  simp only at hchainId hnonce hsender hdata hmarks hsignature
  subst hchainId hnonce hsender hdata hmarks hsignature
  exact ⟨rfl, hrest⟩

/-- Transactions that fit have the same binary form exactly if they are the same. -/
theorem encode_eq_iff {tx other : Transaction} (htx : tx.Fits) (hother : other.Fits) :
    tx.encode = other.encode ↔ tx = other := by
  constructor
  · intro h
    have hnothing : tx.encode ++ [] = other.encode ++ [] := by rw [h]
    exact (encode_append_injective htx hother hnothing).1
  · exact congrArg encode

/-- Transactions have the same hash exactly if their binary forms are the same or collide. -/
theorem hash_eq_iff {tx other : Transaction} :
    tx.hash = other.hash ↔ tx.encode = other.encode ∨ Keccak.Collide tx.encode other.encode := by
  rw [← Keccak.digest_eq_iff, hash, hash, FixedBytes.mk.injEq]

end Transaction

namespace Pool

/-- The size of a transaction is not in order exactly if it is above the limit. -/
theorem bodyOf_eq_tooLarge_iff {limit bound : UInt64} {tx : Transaction} {size : Nat} :
    bodyOf limit tx = .error (.tooLarge size bound) ↔
      limit.toNat < tx.encodedLength ∧ size = tx.encodedLength ∧ bound = limit := by
  rw [bodyOf]
  by_cases hsize : limit.toNat < tx.encodedLength
  · simp [hsize, eq_comm]
  · rw [if_neg hsize]
    cases tx.isControl
    · simp [hsize]
    · cases tx.payload? <;> simp [hsize]

variable {ρ : Type} [SignerRecovery ρ]

/-- Once size, mark and body are in order, no failure is about them. -/
theorem stage?_insert_of_bodyOf {pool : Pool ρ} {tx : Transaction} {payload : Payload}
    {failure : PoolError} (hbody : bodyOf pool.config.sizeLimit tx = .ok payload)
    (h : (pool.insert tx).1 = .error failure) : failure.stage? ≠ some .form := by
  cases hhearing : pool.hearing? tx with
  | none =>
    rcases insert_turned_away_of_bodyOf hbody hhearing with
      ⟨found, hstage, hinsert⟩ | ⟨found, hstage, hinsert⟩
    all_goals
      rw [hinsert] at h
      obtain rfl : found = failure := Except.error.inj h
      rw [hstage]
      decide
  | some hearing =>
    rw [insert_answer_of_hearing hhearing] at h
    cases hjudge : hearing.judge.2 with
    | none => rw [hjudge] at h; cases h
    | some found =>
      rw [hjudge] at h
      obtain rfl : found = failure := Except.error.inj h
      rw [Hearing.stage?_of_judge hjudge]
      decide

/-- A transaction is answered as too large exactly if its binary form is longer than the limit, and
the answer gives this length and the limit. -/
theorem insert_eq_tooLarge_iff {pool : Pool ρ} {tx : Transaction} {size : Nat} {limit : UInt64} :
    (pool.insert tx).1 = .error (.tooLarge size limit) ↔
      pool.config.sizeLimit.toNat < tx.encode.length ∧ size = tx.encode.length ∧
        limit = pool.config.sizeLimit := by
  rw [Transaction.length_encode, ← bodyOf_eq_tooLarge_iff]
  cases hbody : bodyOf pool.config.sizeLimit tx with
  | error failure =>
    rw [insert, hbody]
    simp only [Except.error.injEq]
  | ok payload =>
    constructor
    · intro h
      exact absurd rfl (stage?_insert_of_bodyOf hbody h)
    · intro h
      cases h

end Pool

namespace Transaction

variable {ρ : Type} [SignerRecovery ρ]

/-- The binary forms of two transactions that fit are the same exactly if the transactions are, and
their hashes exactly if the transactions are the same or their binary forms collide. The size of a
transaction is the length of what is hashed, and an insertion answers that it is too large exactly
if it is above the limit; whatever is not above the limit fits. -/
theorem binary_form_loses_nothing (pool : Pool ρ) (tx other : Transaction) :
    (tx.Fits → other.Fits →
      (tx.encode = other.encode ↔ tx = other) ∧
      (tx.hash = other.hash ↔ tx = other ∨ Keccak.Collide tx.encode other.encode)) ∧
    tx.encodedLength = tx.encode.length ∧
    tx.encode.length = 41 + tx.data.length + tx.marks.length + tx.signature.length +
      (if tx.sender.isSome then 20 else 0) ∧
    (∀ size limit, (pool.insert tx).1 = .error (.tooLarge size limit) ↔
      pool.config.sizeLimit.toNat < tx.encode.length ∧ size = tx.encode.length ∧
        limit = pool.config.sizeLimit) ∧
    (tx.encode.length ≤ pool.config.sizeLimit.toNat → tx.Fits) := by
  refine ⟨?_, tx.length_encode.symm, ?_, fun _ _ => Pool.insert_eq_tooLarge_iff,
    fits_of_length_le⟩
  · intro htx hother
    rw [hash_eq_iff, encode_eq_iff htx hother]
    exact ⟨Iff.rfl, Iff.rfl⟩
  · rw [length_encode, encodedLength]
    omega

namespace Sample

/-- A transaction with a byte in its body. -/
def bodyByte : Transaction := ⟨1, 0, none, [1], [], []⟩

/-- A transaction with the same byte as its mark. -/
def markByte : Transaction := ⟨1, 0, none, [], [1], []⟩

/-- A pool that takes only transactions that are shorter by one byte. -/
def narrow : Pool SignerTable :=
  .new ⟨⟨100, 41, .embeddedFirst⟩, by decide⟩ ⟨.ok default, fun _ _ => .ok []⟩ ⟨[]⟩

end Sample

/-- The two transactions have the same bytes in their fields, and still different binary forms, and
the first of them is too large by one byte. -/
theorem binary_form_of_bodyByte :
    Sample.bodyByte.encode ≠ Sample.markByte.encode ∧
      (Sample.narrow.insert Sample.bodyByte).1 = .error (.tooLarge 42 41) := by
  have hbody : Sample.bodyByte.Fits := ⟨by decide, by decide, by decide⟩
  have hmark : Sample.markByte.Fits := ⟨by decide, by decide, by decide⟩
  obtain ⟨hforms, -, -, hsize, -⟩ :=
    binary_form_loses_nothing Sample.narrow Sample.bodyByte Sample.markByte
  constructor
  · exact mt (hforms hbody hmark).1.mp (by decide)
  · exact (hsize 42 41).mpr (by decide)

end Transaction

end ControlPool
