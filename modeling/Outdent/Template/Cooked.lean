import Outdent.Source.Lexemes
import Outdent.Template.Escape
import Outdent.Template.Form

/-!
# Resolved text

What the literal text of a template reads as. The text is put between quotes and read as a source
that consists of string literals only, so text that closes its quotes and opens them again is a row
of literals, and text that leaves something else behind has no resolved form. Raw text is its own.
-/
namespace Outdent.Template

open Source

variable [CharacterNames]

/-- The value of a string literal, unless it is of bytes or holds an escape without a meaning. -/
def literalValue? (text : Text) : Option Points := do
  let form ← Form.ofOpening? text
  if form.isBytes then none
  else if form.isRaw then some (form.body text).points
  else resolve (form.body text)

/-- The value of string literals in a row, up to the end of a source. -/
def valueFrom? : List Lexeme → Option Points
  | [] => none
  | lexeme :: rest =>
    match lexeme.kind with
    | .string => do
      let first ← literalValue? lexeme.text
      let others ← valueFrom? rest
      some (first ++ others)
    | .lineEnd => match rest with
      | [_] => some []
      | _ => none
    | _ => none

/-- The value of a source that consists of string literals. -/
def value? (source : Text) : Option Points :=
  if source.contains '\x00' then none
  else (lexemes? (Text.unifyBreaks source)).bind valueFrom?

/-- The quotes that a text is read between: those of its literal, unless the text begins or ends
with the quote character; then three of the other one. -/
def readingQuotes (delimiter : Delimiter) (raw : Text) : Text :=
  if raw.head? = some delimiter.quote ∨ raw.getLast? = some delimiter.quote then
    if delimiter.quote = '"' then "'''" else "\"\"\""
  else delimiter.text

/-- Doubled braces as single ones. -/
def singleBraces (points : Points) : Points :=
  Text.replaceAll [.char '\x7d', .char '\x7d'] [.char '\x7d']
    (Text.replaceAll [.char '\x7b', .char '\x7b'] [.char '\x7b'] points)

/-- What the text of a segment reads as, if it can be read. -/
def cook (form : Form) (raw : Text) : Option Points :=
  let quotes := readingQuotes form.delimiter raw
  let resolved := if form.isRaw then some raw.points else value? (quotes ++ raw ++ quotes)
  if form.isFormatted then resolved.map singleBraces else resolved

end Outdent.Template
