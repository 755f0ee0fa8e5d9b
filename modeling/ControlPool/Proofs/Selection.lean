import ControlPool.Bytes.Binary
import ControlPool.Proofs.Decision
import Mathlib.Data.Nat.ModEq
import Mathlib.Order.Interval.Finset.Nat

/-!
# How evenly heartbeats are selected

The bytes of an address write each number below `2 ^ 160` in exactly one way, so addresses can be
taken in a row by their values. Among as many of them as there are residues, each residue is left
once, and a block hash selects exactly one. It is its own residue that counts and nothing else: two
hashes that are not congruent differ already on the addresses whose values are residues.
-/

namespace ControlPool

namespace FixedBytes

variable {n : Nat}

/-- Read from the other end, bytes write the same number lowest byte first. -/
theorem bigEndian_reverse (bytes : List UInt8) :
    bigEndian bytes.reverse = Binary.ofLittleEndian bytes := by
  induction bytes with
  | nil => rfl
  | cons byte rest ih =>
    rw [List.reverse_cons, bigEndian, List.foldl_append]
    change bigEndian rest.reverse * 256 + byte.toNat = byte.toNat + 256 * _
    rw [ih, Nat.add_comm, Nat.mul_comm]

/-- The string of `n` bytes that writes a number, highest byte first. -/
def ofValue (n number : Nat) : FixedBytes n :=
  ⟨(Binary.littleEndian n number).reverse, by
    rw [List.length_reverse, Binary.length_littleEndian]⟩

/-- A string of `n` bytes has a value below `256 ^ n`. -/
theorem value_lt (bytes : FixedBytes n) : bytes.value < Nat.pow 256 n := by
  have hreversed := Binary.ofLittleEndian_lt bytes.toList.reverse
  rwa [← bigEndian_reverse, List.reverse_reverse, List.length_reverse,
    bytes.length_toList] at hreversed

/-- The value of the bytes that write a number is that number. -/
theorem value_ofValue {number : Nat} (hfits : number < Nat.pow 256 n) :
    (ofValue n number).value = number := by
  rw [value, ofValue, bigEndian_reverse, Binary.ofLittleEndian_littleEndian hfits]

/-- The bytes that write the value of a string are those of the string. -/
theorem ofValue_value (bytes : FixedBytes n) : ofValue n bytes.value = bytes := by
  have hvalue : bytes.value = Binary.ofLittleEndian bytes.toList.reverse := by
    rw [← bigEndian_reverse, List.reverse_reverse, value]
  have hwritten := Binary.littleEndian_ofLittleEndian bytes.toList.reverse
  rw [List.length_reverse, bytes.length_toList, ← hvalue] at hwritten
  apply FixedBytes.ext
  change (Binary.littleEndian n bytes.value).reverse = bytes.toList
  rw [hwritten, List.reverse_reverse]

/-- Different strings have different values. -/
theorem value_injective : Function.Injective (value : FixedBytes n → Nat) :=
  Function.LeftInverse.injective ofValue_value

end FixedBytes

/-- Every number below `2 ^ 160` is the value of an address. -/
theorem Address.exists_value {number : Nat} (h : number < 2 ^ 160) :
    ∃ address : Address, address.value = number :=
  ⟨.ofValue 20 number, FixedBytes.value_ofValue h⟩

/-- The addresses whose values are as many numbers in a row as given, from the first one on. -/
def Address.row (first count : Nat) : Set Address :=
  {address | address.value ∈ Set.Ico first (first + count)}

/-- A row has one address for each of its numbers. -/
theorem Address.bijOn_value_row {first count : Nat} (h : first + count ≤ 2 ^ 160) :
    Set.BijOn FixedBytes.value (row first count) (Set.Ico first (first + count)) := by
  refine ⟨fun _ haddress => haddress, FixedBytes.value_injective.injOn, ?_⟩
  intro number hnumber
  obtain ⟨address, rfl⟩ := exists_value (Nat.lt_of_lt_of_le hnumber.2 h)
  exact ⟨address, hnumber, rfl⟩

namespace Schedule

/-- The addresses that a block hash selects. -/
def selected (schedule : Schedule) (hash : Hash) : Set Address :=
  {address | schedule.selectsHeartbeat address hash = true}

variable {schedule : Schedule}

/-- An address is selected if its value is congruent to that of the hash. -/
theorem mem_selected_iff (hinterval : 2 ≤ schedule.interval) {hash : Hash} {address : Address} :
    address ∈ schedule.selected hash ↔
      address.value ≡ hash.value [MOD schedule.interval.toNat - 1] :=
  selectsHeartbeat_iff hinterval

/-- Among as many addresses in a row as there are residues one is selected. -/
theorem existsUnique_selected (hinterval : 2 ≤ schedule.interval) (hash : Hash) {first : Nat}
    (h : first + (schedule.interval.toNat - 1) ≤ 2 ^ 160) :
    ∃! address, address ∈ Address.row first (schedule.interval.toNat - 1) ∩
      schedule.selected hash := by
  have hlong : 2 ≤ schedule.interval.toNat := UInt64.le_iff_toNat_le.mp hinterval
  have hresidue : hash.value % (schedule.interval.toNat - 1) ∈
      Finset.range (schedule.interval.toNat - 1) :=
    Finset.mem_range.mpr (Nat.mod_lt _ (by omega))
  rw [← Nat.image_Ico_mod first, Finset.mem_image] at hresidue
  obtain ⟨number, hnumber, hcongruent⟩ := hresidue
  obtain ⟨address, hrow, rfl⟩ := (Address.bijOn_value_row h).surjOn (Finset.mem_Ico.mp hnumber)
  refine ⟨address, ⟨hrow, (mem_selected_iff hinterval).mpr hcongruent⟩, ?_⟩
  rintro other ⟨hother, hselected⟩
  apply FixedBytes.value_injective
  apply Nat.mod_injOn_Ico first (schedule.interval.toNat - 1)
  · exact Finset.mem_Ico.mpr hother
  · exact hnumber
  · exact ((mem_selected_iff hinterval).mp hselected).trans hcongruent.symm

/-- Every residue is the value of an address. -/
theorem exists_value_eq_mod (hinterval : 2 ≤ schedule.interval) (number : Nat) :
    ∃ address : Address, address.value = number % (schedule.interval.toNat - 1) := by
  have hlong : 2 ≤ schedule.interval.toNat := UInt64.le_iff_toNat_le.mp hinterval
  have hword := schedule.interval.toNat_lt
  have hresidue := Nat.mod_lt number (by omega : 0 < schedule.interval.toNat - 1)
  exact Address.exists_value (by omega)

/-- Two hashes select the same addresses exactly if their values are congruent. -/
theorem selected_eq_iff (hinterval : 2 ≤ schedule.interval) {hash other : Hash} :
    schedule.selected hash = schedule.selected other ↔
      hash.value ≡ other.value [MOD schedule.interval.toNat - 1] := by
  constructor
  · intro hsame
    obtain ⟨address, haddress⟩ := exists_value_eq_mod hinterval hash.value
    have hcongruent : address.value ≡ hash.value [MOD schedule.interval.toNat - 1] := by
      rw [haddress]
      exact Nat.mod_modEq _ _
    have hselected := (mem_selected_iff hinterval).mpr hcongruent
    rw [hsame, mem_selected_iff hinterval] at hselected
    exact hcongruent.symm.trans hselected
  · intro hcongruent
    ext address
    rw [mem_selected_iff hinterval, mem_selected_iff hinterval]
    exact ⟨fun h => h.trans hcongruent, fun h => h.trans hcongruent.symm⟩

end Schedule

/-- In a row of as many addresses as the interval is long, less one, there is one for each value,
and a block hash selects exactly one of them. Two hashes select the same addresses exactly if their
values are congruent modulo one less than the interval. -/
theorem heartbeats_selected_evenly (schedule : Schedule) (hinterval : 2 ≤ schedule.interval) :
    (∀ (hash : Hash) (first : Nat), first + (schedule.interval.toNat - 1) ≤ 2 ^ 160 →
      Set.BijOn FixedBytes.value (Address.row first (schedule.interval.toNat - 1))
          (Set.Ico first (first + (schedule.interval.toNat - 1))) ∧
        ∃! address, address ∈ Address.row first (schedule.interval.toNat - 1) ∩
          schedule.selected hash) ∧
    ∀ hash other : Hash, schedule.selected hash = schedule.selected other ↔
      hash.value ≡ other.value [MOD schedule.interval.toNat - 1] :=
  ⟨fun hash _ h => ⟨Address.bijOn_value_row h, Schedule.existsUnique_selected hinterval hash h⟩,
    fun _ _ => Schedule.selected_eq_iff hinterval⟩

open Decision.Sample in
/-- One of the last addresses of all is selected. Hashes whose values are ninety-nine apart select
the same addresses, and hashes of neighbouring values do not. -/
theorem heartbeat_selected_in_last_row :
    (∃! address, address ∈ Address.row (2 ^ 160 - 99) 99 ∩
      schedule.selected (.ofValue 32 104)) ∧
    schedule.selected (.ofValue 32 104) = schedule.selected (.ofValue 32 5) ∧
    schedule.selected (.ofValue 32 104) ≠ schedule.selected (.ofValue 32 105) := by
  have hinterval : 2 ≤ schedule.interval := by decide
  obtain ⟨hrows, hhashes⟩ := heartbeats_selected_evenly schedule hinterval
  refine ⟨(hrows (.ofValue 32 104) (2 ^ 160 - 99) (by decide)).2, ?_, ?_⟩
  · exact (hhashes _ _).mpr (by decide)
  · exact mt (hhashes _ _).mp (by decide)

end ControlPool
