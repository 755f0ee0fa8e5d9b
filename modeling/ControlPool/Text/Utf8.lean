/-!
# UTF-8 text

A text and the bytes that write it. Bytes that are not valid UTF-8 write no text.
-/

namespace ControlPool.Text

/-- The bytes of a text. -/
def utf8 (text : String) : List UInt8 := text.toUTF8.data.toList

/-- The text that bytes write, if they are valid UTF-8. -/
def ofUtf8? (bytes : List UInt8) : Option String := String.fromUTF8? ⟨bytes.toArray⟩

/-- The bytes of a text read back as that text. -/
@[simp] theorem ofUtf8?_utf8 (text : String) : ofUtf8? (utf8 text) = some text := by
  have valid : text.toByteArray.IsValidUTF8 := text.isValidUTF8
  simp [ofUtf8?, utf8, String.fromUTF8?, String.fromUTF8, valid]

/-- Different texts have different bytes. -/
theorem utf8_injective {a b : String} (h : utf8 a = utf8 b) : a = b := by
  have hread := ofUtf8?_utf8 a
  rw [h, ofUtf8?_utf8] at hread
  exact (Option.some.inj hread).symm

end ControlPool.Text
