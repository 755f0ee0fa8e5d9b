import ControlPool.Message
import ControlPool.Proofs.Key
import Mathlib.Data.List.Basic

/-!
# What the text of an identity tells

The text that is hashed into an identity is the key of the message with the sender's address behind
it, and nothing between them. All addresses are equally long, so the text tells the key and the
sender apart, hexadecimal digits read back tell which address it is, and the key tells its kind and
its epoch.
-/

namespace ControlPool

namespace Hex

/-- A digit has the value that it was written for. -/
theorem digitValue?_digit {n : Nat} (h : n < 16) : digitValue? (digit n) = some n := by
  have hall : ∀ n < 16, digitValue? (digit n) = some n := by decide
  exact hall n h

/-- Digits of bytes are read as these bytes, behind those read before. -/
theorem readPairs_digits (read bytes : List UInt8) :
    readPairs read (digits bytes) = some (read.reverse ++ bytes) := by
  induction bytes generalizing read with
  | nil => rw [List.append_nil]; rfl
  | cons byte bytes ih =>
    have hbyte := byte.toNat_lt
    have hhigh := digitValue?_digit (by omega : byte.toNat / 16 < 16)
    have hlow := digitValue?_digit (by omega : byte.toNat % 16 < 16)
    have hvalue : UInt8.ofNat (byte.toNat / 16 * 16 + byte.toNat % 16) = byte := by
      rw [Nat.div_add_mod', UInt8.ofNat_toNat]
    change readPairs read
      (digit (byte.toNat / 16) :: digit (byte.toNat % 16) :: digits bytes) = _
    rw [readPairs, hhigh, hlow]
    simp only [hvalue, ih, List.reverse_cons, List.append_assoc, List.singleton_append]

/-- Different bytes have different digits. -/
theorem digits_injective {a b : List UInt8} (h : digits a = digits b) : a = b := by
  have hread := readPairs_digits [] a
  rw [h, readPairs_digits] at hread
  exact (Option.some.inj hread).symm

end Hex

namespace Address

/-- The text of an address is its digits behind `0x`. -/
theorem toList_text (address : Address) :
    address.text.toList = '0' :: 'x' :: Hex.digits address.toList := by
  have hdigits : (Hex.render address.toList).toList = Hex.digits address.toList :=
    String.toList_ofList
  rw [text, String.toList_append, hdigits]
  rfl

/-- The text of an address has forty-two characters. -/
theorem length_toList_text (address : Address) : address.text.toList.length = 42 := by
  rw [toList_text, List.length_cons, List.length_cons, Hex.length_digits, address.length_toList]

/-- Different addresses have different texts. -/
theorem text_injective {a b : Address} (h : a.text = b.text) : a = b := by
  have hdigits := congrArg String.toList h
  rw [toList_text, toList_text] at hdigits
  exact FixedBytes.ext (Hex.digits_injective (List.cons.inj (List.cons.inj hdigits).2).2)

end Address

/-- The text of an identity is the key with the address behind it. -/
theorem identityText_eq (kind : Kind) (epoch : UInt64) (sender : Address) :
    identityText kind epoch sender = kind.key epoch ++ sender.text := rfl

/-- Messages with the same text have the same key and the same sender. -/
theorem key_and_sender_of_identityText_eq {kind other : Kind} {epoch later : UInt64}
    {sender stranger : Address}
    (h : identityText kind epoch sender = identityText other later stranger) :
    kind.key epoch = other.key later ∧ sender = stranger := by
  have hlists := congrArg String.toList h
  rw [identityText_eq, identityText_eq, String.toList_append, String.toList_append] at hlists
  obtain ⟨hkey, hsender⟩ := List.append_inj' hlists
    (by rw [Address.length_toList_text, Address.length_toList_text])
  exact ⟨String.toList_inj.mp hkey, Address.text_injective (String.toList_inj.mp hsender)⟩

/-- Messages have the same text exactly if they agree in kind, epoch and sender. -/
theorem identityText_eq_iff {kind other : Kind} {epoch later : UInt64}
    {sender stranger : Address} :
    identityText kind epoch sender = identityText other later stranger ↔
      kind = other ∧ epoch = later ∧ sender = stranger := by
  constructor
  · intro h
    obtain ⟨hkey, hsender⟩ := key_and_sender_of_identityText_eq h
    obtain ⟨hkind, hepoch⟩ := Kind.key_injective hkey
    exact ⟨hkind, hepoch, hsender⟩
  · rintro ⟨rfl, rfl, rfl⟩
    rfl

end ControlPool
