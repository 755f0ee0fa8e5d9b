/-!
# Binary fields

Numbers are written with a fixed width, lowest byte first. A field of variable length is
preceded by its length in eight bytes. A reader takes a field from the front of the bytes and
returns it with what remains; it fails when fewer bytes remain than the field needs.
-/

namespace ControlPool.Binary

/-- The `width` lowest bytes of a number, lowest first. -/
def littleEndian : Nat → Nat → List UInt8
  | 0, _ => []
  | width + 1, n => UInt8.ofNat n :: littleEndian width (n / 256)

/-- The number that bytes write, lowest first. -/
def ofLittleEndian : List UInt8 → Nat
  | [] => 0
  | byte :: rest => byte.toNat + 256 * ofLittleEndian rest

/-- Every byte multiplies the bound on the number by 256. -/
theorem ofLittleEndian_lt (bytes : List UInt8) :
    ofLittleEndian bytes < Nat.pow 256 bytes.length := by
  induction bytes with
  | nil => exact Nat.one_pos
  | cons byte rest ih =>
    have hbyte := byte.toNat_lt
    have hpower : Nat.pow 256 (rest.length + 1) = Nat.pow 256 rest.length * 256 := rfl
    rw [ofLittleEndian, List.length_cons, hpower]
    omega

/-- A number of width `width` has that many bytes. -/
@[simp] theorem length_littleEndian (width n : Nat) : (littleEndian width n).length = width := by
  induction width generalizing n with
  | zero => rfl
  | succ width ih => simp [littleEndian, ih]

/-- A number that fits its width reads back. -/
theorem ofLittleEndian_littleEndian {width n : Nat} (fits : n < Nat.pow 256 width) :
    ofLittleEndian (littleEndian width n) = n := by
  induction width generalizing n with
  | zero =>
    have fits : n < 1 := fits
    simp only [littleEndian, ofLittleEndian]
    omega
  | succ width ih =>
    have fits' : n / 256 < Nat.pow 256 width := by
      rw [Nat.div_lt_iff_lt_mul (by decide)]
      exact fits
    rw [littleEndian, ofLittleEndian, ih fits']
    simp only [UInt8.toNat_ofNat']
    omega

/-- The number that bytes write is written by these bytes. -/
theorem littleEndian_ofLittleEndian (bytes : List UInt8) :
    littleEndian bytes.length (ofLittleEndian bytes) = bytes := by
  induction bytes with
  | nil => rfl
  | cons byte rest ih =>
    have hbyte := byte.toNat_lt
    have hlow : UInt8.ofNat (byte.toNat + 256 * ofLittleEndian rest) = byte := by
      apply UInt8.toNat_inj.mp
      rw [UInt8.toNat_ofNat']
      omega
    have hhigh : (byte.toNat + 256 * ofLittleEndian rest) / 256 = ofLittleEndian rest := by omega
    rw [List.length_cons, ofLittleEndian, littleEndian, hlow, hhigh, ih]

/-- A 64-bit number. -/
def word (n : UInt64) : List UInt8 := littleEndian 8 n.toNat

/-- The length of a list, as it stands before the items. -/
def count (n : Nat) : List UInt8 := littleEndian 8 n

/-- The number of a variant among its alternatives. -/
def variant (n : Nat) : List UInt8 := littleEndian 4 n

/-- A byte string with its length before it. -/
def octets (bytes : List UInt8) : List UInt8 := count bytes.length ++ bytes

/-- A value that may be absent: a zero byte, or a one and the value. -/
def optional {α : Type} (write : α → List UInt8) : Option α → List UInt8
  | none => [0]
  | some value => 1 :: write value

/-- A list with its length before it. -/
def sequence {α : Type} (write : α → List UInt8) (items : List α) : List UInt8 :=
  count items.length ++ items.flatMap write

/-- Takes `length` bytes from the front, if there are as many. -/
def take? (length : Nat) (bytes : List UInt8) : Option (List UInt8 × List UInt8) :=
  if length ≤ bytes.length then some (bytes.take length, bytes.drop length) else none

/-- Bytes that were written first are taken first. -/
theorem take?_append {length : Nat} {first : List UInt8} (h : first.length = length)
    (rest : List UInt8) : take? length (first ++ rest) = some (first, rest) := by
  simp [take?, ← h]

/-- Reads a number of the given width. -/
def readNumber? (width : Nat) (bytes : List UInt8) : Option (Nat × List UInt8) :=
  (take? width bytes).map fun (field, rest) => (ofLittleEndian field, rest)

/-- A written number is read back, whatever follows it. -/
theorem readNumber?_littleEndian {width n : Nat} (fits : n < Nat.pow 256 width) (rest : List UInt8) :
    readNumber? width (littleEndian width n ++ rest) = some (n, rest) := by
  simp [readNumber?, take?_append (length_littleEndian width n), ofLittleEndian_littleEndian fits]

/-- Reads a byte string with its length before it. -/
def readOctets? (bytes : List UInt8) : Option (List UInt8 × List UInt8) := do
  let (length, rest) ← readNumber? 8 bytes
  take? length rest

end ControlPool.Binary
