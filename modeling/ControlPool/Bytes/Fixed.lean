/-!
# Byte strings of a fixed length

An address is twenty bytes and a hash is thirty-two. Both are ordered byte by byte from the
front, and both are read as big-endian numbers, which is how a block hash selects senders.
-/

namespace ControlPool

/-- A string of exactly `n` bytes, first one first. -/
@[ext] structure FixedBytes (n : Nat) where
  toList : List UInt8
  length_toList : toList.length = n
  deriving DecidableEq

namespace FixedBytes

variable {n : Nat}

/-- The given bytes, if there are `n` of them. -/
def ofList? (bytes : List UInt8) : Option (FixedBytes n) :=
  if h : bytes.length = n then some ⟨bytes, h⟩ else none

/-- The bytes of a string of length `n` read back as that string. -/
@[simp] theorem ofList?_toList (bytes : FixedBytes n) : ofList? bytes.toList = some bytes := by
  simp [ofList?, bytes.length_toList]

/-- The byte `byte`, `n` times. -/
def replicate (n : Nat) (byte : UInt8) : FixedBytes n :=
  ⟨List.replicate n byte, List.length_replicate⟩

/-- The zero bytes stand for a value that was left out. -/
instance : Inhabited (FixedBytes n) := ⟨replicate n 0⟩

/-- The order of the first byte that differs. -/
instance : Ord (FixedBytes n) := ⟨fun a b => compare a.toList b.toList⟩

/-- Comparing two strings compares their bytes. -/
theorem compare_eq (a b : FixedBytes n) : compare a b = compare a.toList b.toList := rfl

instance : Std.TransOrd (FixedBytes n) where
  eq_swap := by simp only [compare_eq]; exact Std.OrientedOrd.eq_swap
  isLE_trans := by simp only [compare_eq]; exact Std.TransOrd.isLE_trans

instance : Std.LawfulEqOrd (FixedBytes n) where
  compare_self := by simp only [compare_eq]; exact Std.ReflOrd.compare_self
  eq_of_compare := by
    simp only [compare_eq]
    exact fun same => FixedBytes.ext (Std.LawfulEqOrd.eq_of_compare same)

/-- The number written by bytes in base 256, first byte most significant. -/
def bigEndian (bytes : List UInt8) : Nat :=
  bytes.foldl (fun high byte => high * 256 + byte.toNat) 0

/-- The big-endian value of the bytes. -/
def value (bytes : FixedBytes n) : Nat := bigEndian bytes.toList

end FixedBytes

/-- An account address. -/
abbrev Address := FixedBytes 20

/-- Addresses are ordered. -/
instance Address.transOrd : Std.TransOrd Address := inferInstance

/-- Addresses that compare as equal are equal. -/
instance Address.lawfulEqOrd : Std.LawfulEqOrd Address := inferInstance

/-- A hash: of a block, a message identity or an encoded transaction. -/
abbrev Hash := FixedBytes 32

end ControlPool
