import Outdent.Text.Basic

/-!
# UTF-8

A text as bytes. Main statement: `decode?_eq_some_iff`, bytes are read as a text exactly if they are
the bytes of that text, so a text has one form and what is no such form is refused.
-/
namespace Outdent.Text

/-- The bytes of a text. -/
def encode (text : Text) : List UInt8 := text.flatMap String.utf8EncodeChar

/-- The text that bytes write. -/
def decode? (bytes : List UInt8) : Option Text := bytes.toByteArray.utf8Decode?.map Array.toList

/-- The bytes of a text are the encoding of its characters. -/
theorem toByteArray_encode (text : Text) : (encode text).toByteArray = text.utf8Encode := rfl

/-- The bytes of a text are read as the text. -/
theorem decode?_encode (text : Text) : decode? (encode text) = some text := by
  simp [decode?, toByteArray_encode]

/-- Bytes are read as a text exactly if they are the bytes of that text. -/
theorem decode?_eq_some_iff {bytes : List UInt8} {text : Text} :
    decode? bytes = some text ↔ bytes = encode text := by
  constructor
  · intro read
    have readable : bytes.toByteArray.utf8Decode?.isSome := by
      cases found : bytes.toByteArray.utf8Decode? with
      | none => simp [decode?, found] at read
      | some characters => rfl
    obtain ⟨written, same⟩ := ByteArray.isSome_utf8Decode?_iff.mp readable
    have bytesSame : bytes = encode written := by
      have lists := congrArg (fun array => array.data.toList) same
      simpa [← toByteArray_encode] using lists
    rw [bytesSame, decode?_encode] at read
    rw [bytesSame, Option.some.inj read]
  · intro same
    rw [same, decode?_encode]

end Outdent.Text
