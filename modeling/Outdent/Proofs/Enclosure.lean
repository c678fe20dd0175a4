import Outdent.Proofs.Edits

/-!
# Texts of string literals

What the text of a plain string literal is: letters, quotes, a static text that ends safely, and the
same quotes. Main statements: `Form.Encloses.ofOpening?`, form and body of such a text are read back
from it, `encloses_of_closingLength`, a literal that is read is such a text, and
`Form.Encloses.withBody`, it remains one around another static text that ends safely.
-/
namespace Outdent.Template

open Source Text

/-- Letters may stand in front of the quotes of a literal: none of them is a quote or ends a line. -/
def AreLetters (letters : Text) : Prop :=
  ∀ letter ∈ letters, isQuote letter = false ∧ isBreak letter = false

/-- A text is a string literal of a form around a body. -/
structure Form.Encloses (form : Form) (body literal : Text) : Prop where
  /-- The quotes are quotes. -/
  quotes : isQuote form.delimiter.quote = true
  /-- The prefix of the form, in letters of any size, and the quotes stand around the body. -/
  shape : ∃ letters, lower letters = form.letters ∧ AreLetters letters ∧
    literal = letters ++ (form.delimiter.text ++ (body ++ form.delimiter.text))
  /-- Nothing in the body closes the literal. -/
  static : Static form false body
  /-- Nothing at the end of the body keeps the quotes from closing the literal. -/
  safe : ending form.delimiter.quote body = .safe

/-- A text begins with the delimiter that is found in front of it. -/
theorem prefix_of_delimiter? {text : Text} {delimiter : Delimiter}
    (found : delimiter? text = some delimiter) :
    isQuote delimiter.quote = true ∧ delimiter.text <+: text := by
  unfold delimiter? at found
  split at found
  · rename_i first second third rest
    split at found
    · rename_i quotes
      obtain rfl := Option.some.inj found
      refine ⟨quotes, ?_⟩
      cases triple : second == first && third == first with
      | false => simp [Delimiter.text]
      | true =>
        obtain ⟨rfl, rfl⟩ : second = first ∧ third = first := by simpa using triple
        simp [Delimiter.text]
    · simp at found
  · split at found
    · rename_i quotes
      obtain rfl := Option.some.inj found
      exact ⟨quotes, by simp [Delimiter.text]⟩
    · simp at found
  · simp at found

/-- The form of a literal is read back from letters and what is found behind them. -/
theorem ofOpening?_append {letters rest : Text} {delimiter : Delimiter}
    (plain : AreLetters letters) (found : delimiter? rest = some delimiter) :
    Form.ofOpening? (letters ++ rest) = some ⟨lower letters, delimiter⟩ := by
  obtain ⟨quotes, more, rfl⟩ := prefix_of_delimiter? found
  have count : Form.letterCount (letters ++ (delimiter.text ++ more)) = letters.length := by
    have stops : ((delimiter.text ++ more).takeWhile fun letter => !isQuote letter) = [] := by
      cases triple : delimiter.triple <;> simp [Delimiter.text, triple, quotes]
    unfold Form.letterCount
    rw [List.takeWhile_append_of_pos fun letter member => by simp [(plain letter member).1], stops,
      List.append_nil]
  rw [Form.ofOpening?, count, List.drop_left, found, List.take_left]
  rfl

/-- A static text does not begin with a quote of its own. -/
theorem Static.head?_ne {form : Form} (quotes : isQuote form.delimiter.quote = true)
    (single : form.delimiter.triple = false) {named : Bool} {text : Text}
    (static : Static form named text) : text.head? ≠ some form.delimiter.quote := by
  have other : ∀ {character : Char}, isQuote character = false →
      some character ≠ some form.delimiter.quote := by
    intro character noQuote same
    exact ne_of_isQuote quotes noQuote (Option.some.inj same)
  cases static with
  | nil => simp
  | plain _ _ unclosed =>
    intro same
    exact unclosed (by simp [Delimiter.text, single, Option.some.inj same])
  | dangling => exact other rfl
  | escapedBreak => exact other rfl
  | escaped => exact other rfl
  | beforeBrace => exact other rfl
  | doubledOpening => exact other rfl
  | doubledClosing => exact other rfl
  | rawName => exact other rfl
  | name => exact other rfl
  | nameEnd => exact other rfl

/-- A delimiter is found in front of a text that does not begin with its quote, and closing quotes
behind that. -/
theorem delimiter?_append {delimiter : Delimiter} (quotes : isQuote delimiter.quote = true)
    {body : Text} (apart : delimiter.triple = false → body.head? ≠ some delimiter.quote) :
    delimiter? (delimiter.text ++ (body ++ delimiter.text)) = some delimiter := by
  obtain ⟨quote, triple⟩ := delimiter
  cases triple with
  | true => simp_all [Delimiter.text, delimiter?]
  | false =>
    have apart := apart rfl
    cases body with
    | nil => simp_all [Delimiter.text, delimiter?]
    | cons first body =>
      cases body with
      | nil => simp_all [Delimiter.text, delimiter?]
      | cons second body => simp_all [Delimiter.text, delimiter?]

/-- The body between letters, quotes and quotes. -/
theorem body_append {form : Form} {letters : Text} (small : lower letters = form.letters)
    (body : Text) :
    form.body (letters ++ (form.delimiter.text ++ (body ++ form.delimiter.text))) = body := by
  have length : form.openingLength = (letters ++ form.delimiter.text).length := by
    rw [Form.openingLength, ← small]
    simp [lower]
  rw [Form.body, ← List.append_assoc, length, List.drop_left]
  simp

/-- Another body between the same letters, quotes and quotes. -/
theorem withBody_append {form : Form} {letters : Text} (small : lower letters = form.letters)
    (rest body : Text) :
    form.withBody (letters ++ (form.delimiter.text ++ rest)) body =
      letters ++ (form.delimiter.text ++ (body ++ form.delimiter.text)) := by
  have length : form.openingLength = (letters ++ form.delimiter.text).length := by
    rw [Form.openingLength, ← small]
    simp [lower]
  rw [Form.withBody, ← List.append_assoc letters, length, List.take_left]
  simp

namespace Form.Encloses

variable {form : Form} {body literal : Text}

/-- The form of a literal is read back from its text. -/
theorem ofOpening? (encloses : form.Encloses body literal) :
    Form.ofOpening? literal = some form := by
  obtain ⟨letters, small, plain, rfl⟩ := encloses.shape
  rw [ofOpening?_append plain
    (delimiter?_append encloses.quotes (encloses.static.head?_ne encloses.quotes)), small]

/-- The body of a literal is read back from its text. -/
theorem body_eq (encloses : form.Encloses body literal) : form.body literal = body := by
  obtain ⟨letters, small, plain, rfl⟩ := encloses.shape
  exact body_append small body

/-- A literal remains one around another static text that ends safely. -/
theorem withBody (encloses : form.Encloses body literal) {other : Text}
    (static : Static form false other) (safe : ending form.delimiter.quote other = .safe) :
    form.Encloses other (form.withBody literal other) := by
  obtain ⟨letters, small, plain, rfl⟩ := encloses.shape
  exact ⟨encloses.quotes, ⟨letters, small, plain, withBody_append small _ other⟩, static, safe⟩

/-- The closing quotes of a literal are found at its end, whatever stands behind it. -/
theorem closingLength (encloses : form.Encloses body literal) (rest : Text) :
    Source.closingLength form.delimiter (body ++ (form.delimiter.text ++ rest)) =
      some (body.length + form.delimiter.text.length) :=
  closingLength_of_static encloses.quotes encloses.static encloses.safe rest

end Form.Encloses

/-- What is read as a plain string literal is one. -/
theorem encloses_of_closingLength (form : Form) (plain : form.isFormatted = false)
    {letters rest : Text} (small : lower letters = form.letters)
    (areLetters : AreLetters letters)
    (opens : delimiter? rest = some form.delimiter) {length : Nat}
    (closes : closingLength form.delimiter (rest.drop form.delimiter.text.length) = some length) :
    ∃ body, form.Encloses body
      ((letters ++ rest).take (letters.length + form.delimiter.text.length + length)) := by
  obtain ⟨quotes, more, rfl⟩ := prefix_of_delimiter? opens
  rw [List.drop_left] at closes
  obtain ⟨body, behind, rfl, rfl, static, safe⟩ := static_of_closingLength quotes plain closes
  refine ⟨body, quotes, ⟨letters, small, areLetters, ?_⟩, static, safe⟩
  have whole : letters ++ (form.delimiter.text ++ (body ++ (form.delimiter.text ++ behind))) =
      (letters ++ (form.delimiter.text ++ (body ++ form.delimiter.text))) ++ behind := by
    simp
  rw [whole, List.take_left' (by simp; omega)]

end Outdent.Template
