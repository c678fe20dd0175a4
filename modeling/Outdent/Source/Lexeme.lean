import Outdent.Text.Identifier

/-!
# Lexemes

The units that Python source is read as. A lexeme carries the blanks, comments and line breaks in
front of it, so the lexemes of a source in order are the source. The text in front is kept in two
forms: as it is written in the source, and as it is shown when the lexeme stands in a piece of code
that is shown by itself; the two differ inside brackets, where the block's own indentation is not
shown and the source's usual line break is shown as a line feed. Main statement: `written_append`,
writing a concatenation is concatenating what is written.
-/
namespace Outdent.Source

/-- What a lexeme is. -/
inductive Kind where
  /-- An identifier that is no keyword. -/
  | name
  /-- A reserved word. -/
  | keyword
  /-- A number. -/
  | number
  /-- A string literal without replacement fields, its prefix and quotes included. -/
  | string
  /-- Prefix and opening quote of a formatted string. -/
  | formattedOpening
  /-- Prefix and opening quote of a template string. -/
  | templateOpening
  /-- Literal text of a formatted or template string. -/
  | literalText
  /-- The closing quote of a formatted or template string. -/
  | literalClosing
  /-- An operator, bracket or other punctuation. -/
  | mark
  /-- The end of a logical line. -/
  | lineEnd
  /-- The begin of a block. -/
  | blockBegin
  /-- The end of a block. -/
  | blockEnd
  /-- The end of the source. -/
  | finish
  deriving DecidableEq

/-- A unit of source text. -/
structure Lexeme where
  /-- What it is. -/
  kind : Kind
  /-- Blanks, comments and line breaks in front of it, as written. -/
  lead : Text
  /-- The same, as shown in a piece of code that stands by itself. -/
  shown : Text
  /-- Its own text. -/
  text : Text
  deriving DecidableEq

namespace Lexeme

/-- The text of a lexeme in its source. -/
def written (lexeme : Lexeme) : Text := lexeme.lead ++ lexeme.text

/-- The text of a lexeme in a piece of code that is shown by itself. -/
def alone (lexeme : Lexeme) : Text := lexeme.shown ++ lexeme.text

/-- The same lexeme with what stands in front of another. -/
def withLeadOf (lexeme other : Lexeme) : Lexeme :=
  { lexeme with lead := other.lead, shown := other.shown }

/-- Is it the given word or punctuation? -/
def isWord (lexeme : Lexeme) (text : Text) : Bool :=
  (lexeme.kind == .name || lexeme.kind == .keyword || lexeme.kind == .mark) && lexeme.text == text

end Lexeme

/-- The source text of lexemes in order. -/
def written (lexemes : List Lexeme) : Text := lexemes.flatMap Lexeme.written

/-- A piece of code by itself: what stands in front of its first lexeme is not shown. -/
def alone : List Lexeme → Text
  | [] => []
  | first :: rest => first.text ++ rest.flatMap Lexeme.alone

/-- Nothing is written for no lexeme. -/
@[simp] theorem written_nil : written [] = [] := rfl

/-- The first lexeme is written first. -/
@[simp] theorem written_cons (lexeme : Lexeme) (lexemes : List Lexeme) :
    written (lexeme :: lexemes) = lexeme.lead ++ lexeme.text ++ written lexemes := by
  simp [written, Lexeme.written]

/-- Lexemes in two parts are written part by part. -/
@[simp] theorem written_append (left right : List Lexeme) :
    written (left ++ right) = written left ++ written right := by
  simp [written]

/-- The reserved words. -/
def keywords : List Text := List.map String.toList
  ["False", "None", "True", "and", "as", "assert", "async", "await", "break", "class", "continue",
    "def", "del", "elif", "else", "except", "finally", "for", "from", "global", "if", "import",
    "in", "is", "lambda", "nonlocal", "not", "or", "pass", "raise", "return", "try", "while",
    "with", "yield"]

end Outdent.Source
