import Outdent.Source.Extent

/-!
# Forms of string literals

The letters in front of a string literal and the quotes around it. Main statement:
`delimiter?_text`, quotes are read back.
-/
namespace Outdent.Template

open Source

/-- Prefix and quotes of a string literal. -/
structure Form where
  /-- The letters of the prefix, in small form. -/
  letters : Text
  /-- The quotes. -/
  delimiter : Delimiter
  deriving DecidableEq

namespace Form

/-- Backslashes have no meaning. -/
def isRaw (form : Form) : Bool := form.letters.contains 'r'

/-- The literal may have replacement fields. -/
def isFormatted (form : Form) : Bool := form.letters.contains 'f'

/-- The literal is of bytes, not of characters. -/
def isBytes (form : Form) : Bool := form.letters.contains 'b'

/-- The number of letters that a text has in front of its first quote. -/
def letterCount (text : Text) : Nat := (text.takeWhile fun letter => !isQuote letter).length

/-- The form of the literal that a text begins with. -/
def ofOpening? (text : Text) : Option Form :=
  (delimiter? (text.drop (letterCount text))).map fun delimiter =>
    ⟨Text.lower (text.take (letterCount text)), delimiter⟩

/-- The number of characters in front of the text of a literal. -/
def openingLength (form : Form) : Nat := form.letters.length + form.delimiter.text.length

/-- The text between the opening and the closing quotes of a literal. -/
def body (form : Form) (literal : Text) : Text :=
  let rest := literal.drop form.openingLength
  rest.take (rest.length - form.delimiter.text.length)

/-- A literal with another text between its quotes. -/
def withBody (form : Form) (literal body : Text) : Text :=
  literal.take form.openingLength ++ body ++ form.delimiter.text

end Form

/-- Quotes are read back from their text. -/
theorem delimiter?_text (delimiter : Delimiter) (quote : isQuote delimiter.quote = true) :
    delimiter? delimiter.text = some delimiter := by
  obtain ⟨character, triple⟩ := delimiter
  cases triple <;> simp_all [Delimiter.text, delimiter?]

end Outdent.Template
