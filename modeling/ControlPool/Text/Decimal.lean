/-!
# Decimal text

Numbers are written in base ten without sign or leading zeros.
-/

namespace ControlPool.Text

/-- The decimal text of a number. -/
def decimal (n : Nat) : String := Nat.repr n

/-- The characters of a decimal text are the digits of its number. -/
theorem toList_decimal (n : Nat) : (decimal n).toList = Nat.toDigits 10 n := by
  simp [decimal, Nat.repr_eq_ofList_toDigits]

/-- Different numbers have different decimal texts. -/
theorem decimal_injective {m n : Nat} (h : decimal m = decimal n) : m = n := by
  have digits : Nat.toDigits 10 m = Nat.toDigits 10 n := by
    rw [← toList_decimal, ← toList_decimal, h]
  have value := congrArg (Nat.ofDigitChars 10 · 0) digits
  simpa [Nat.ofDigitChars_toDigits] using value

/-- The elements of a list between brackets, each after a comma and a space but the first. -/
def bracketed (items : List String) : String := "[" ++ String.intercalate ", " items ++ "]"

/-- The bytes of a byte string as decimal numbers between brackets. -/
def byteList (bytes : List UInt8) : String := bracketed (bytes.map fun byte => decimal byte.toNat)

/-- The decimal text of a number that may be absent. -/
def optional (n : Option Nat) : String :=
  match n with
  | none => "None"
  | some n => "Some(" ++ decimal n ++ ")"

end ControlPool.Text
