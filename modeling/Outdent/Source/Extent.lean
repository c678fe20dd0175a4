import Outdent.Source.Lexeme

/-!
# Extent of lexemes

How long each kind of lexeme is that a text begins with: identifiers, numbers, string literals, the
literal text of formatted strings, and punctuation. Each function returns a number of characters, so
that a reader who takes that many and drops that many loses nothing.
-/
namespace Outdent.Source

/-- How a string literal is opened and closed. -/
structure Delimiter where
  /-- The quote character. -/
  quote : Char
  /-- Three quotes rather than one. -/
  triple : Bool
  deriving DecidableEq

/-- The opening or closing text of a delimiter. -/
def Delimiter.text (delimiter : Delimiter) : Text :=
  if delimiter.triple then [delimiter.quote, delimiter.quote, delimiter.quote]
  else [delimiter.quote]

/-- Is a character a quote? -/
def isQuote (character : Char) : Bool := character == '"' || character == '\''

/-- The delimiter that a text begins with. -/
def delimiter? : Text → Option Delimiter
  | first :: second :: third :: _ =>
    if isQuote first then some ⟨first, second == first && third == first⟩ else none
  | first :: _ => if isQuote first then some ⟨first, false⟩ else none
  | [] => none

/-- The letters, in small form, that may stand in front of a string literal. -/
def literalPrefixes : List Text := List.map String.toList
  ["r", "u", "b", "f", "t", "br", "rb", "fr", "rf", "tr", "rt"]

/-- Length of the rest of a string literal up to the end of its closing quote. A backslash
protects the character after it, and a line break ends only a literal in single quotes, as an
error. -/
def closingLength (delimiter : Delimiter) : Text → Option Nat
  | [] => none
  | '\\' :: '\r' :: '\n' :: rest => (closingLength delimiter rest).map (· + 3)
  | '\\' :: _ :: rest => (closingLength delimiter rest).map (· + 2)
  | character :: rest =>
    if delimiter.text.isPrefixOf (character :: rest) then some delimiter.text.length
    else if !delimiter.triple && Text.isBreak character then none
    else (closingLength delimiter rest).map (· + 1)

/-- Where the literal text of a formatted string is read. -/
structure LiteralMode where
  /-- How the string is delimited. -/
  delimiter : Delimiter
  /-- Backslashes have no meaning of their own. -/
  raw : Bool
  /-- The text is the format of a replacement field. -/
  inFormat : Bool

/-- Length of the literal text of a formatted string up to the next replacement field, closing
brace of a format, or closing quote. Outside of formats a doubled brace is text and a single closing
brace an error; a backslash protects the next character unless it is a brace. `inName` is set
between the braces of a named character. -/
def literalLength (mode : LiteralMode) : Bool → Text → Option Nat
  | _, [] => none
  | inName, '{' :: rest =>
    if mode.inFormat then some 0
    else match rest with
      | '{' :: more => (literalLength mode inName more).map (· + 2)
      | _ => some 0
  | inName, '}' :: rest =>
    if inName then (literalLength mode false rest).map (· + 1)
    else if mode.inFormat then some 0
    else match rest with
      | '}' :: more => (literalLength mode false more).map (· + 2)
      | _ => none
  | inName, '\\' :: '{' :: rest => (literalLength mode inName ('{' :: rest)).map (· + 1)
  | inName, '\\' :: '}' :: rest => (literalLength mode inName ('}' :: rest)).map (· + 1)
  | inName, '\\' :: 'N' :: '{' :: rest =>
    if mode.raw || mode.inFormat then (literalLength mode inName ('{' :: rest)).map (· + 2)
    else (literalLength mode true rest).map (· + 3)
  | inName, '\\' :: '\r' :: '\n' :: rest => (literalLength mode inName rest).map (· + 3)
  | inName, '\\' :: _ :: rest => (literalLength mode inName rest).map (· + 2)
  | inName, character :: rest =>
    if mode.delimiter.text.isPrefixOf (character :: rest) then some 0
    else if !mode.delimiter.triple && Text.isBreak character then none
    else (literalLength mode inName rest).map (· + 1)

/-- Length of the identifier characters that a text begins with. Every character beyond ASCII is
counted here; whether it belongs into an identifier is asked of the whole word. -/
def wordLength (text : Text) : Nat :=
  (text.takeWhile fun character =>
    character.isAlphanum || character == '_' || 128 ≤ character.toNat).length

/-- Is a word an identifier? -/
def isIdentifier : Text → Bool
  | [] => false
  | first :: rest => Text.startsIdentifier first && rest.all Text.continuesIdentifier

/-- Length of digits that single underscores may separate, after a first digit. -/
def moreDigits (isDigit : Char → Bool) : Text → Nat
  | '_' :: digit :: rest => if isDigit digit then moreDigits isDigit rest + 2 else 0
  | digit :: rest => if isDigit digit then moreDigits isDigit rest + 1 else 0
  | [] => 0

/-- Length of a run of digits that single underscores may separate; zero if there is none. -/
def digitsLength (isDigit : Char → Bool) : Text → Nat
  | digit :: rest => if isDigit digit then moreDigits isDigit rest + 1 else 0
  | [] => 0

/-- Length of an exponent with its letter and sign; zero if there is none. -/
def exponentLength : Text → Nat
  | letter :: rest =>
    if letter == 'e' || letter == 'E' then
      match rest with
      | sign :: more =>
        if sign == '+' || sign == '-' then
          match digitsLength Char.isDigit more with
          | 0 => 0
          | length => length + 2
        else match digitsLength Char.isDigit rest with
          | 0 => 0
          | length => length + 1
      | [] => 0
    else 0
  | [] => 0

/-- Length of the letter that makes a number imaginary; zero if there is none. -/
def imaginaryLength : Text → Nat
  | letter :: _ => if letter == 'j' || letter == 'J' then 1 else 0
  | [] => 0

/-- Is a digit of base sixteen? -/
def isHexadecimal (character : Char) : Bool :=
  character.isDigit || ('a' ≤ character && character ≤ 'f') || ('A' ≤ character && character ≤ 'F')

/-- Length of a number written in base two, eight or sixteen after its two-character prefix. -/
def basedLength (isDigit : Char → Bool) (text : Text) : Option Nat :=
  let start := match text with
    | '_' :: _ => 1
    | _ => 0
  match digitsLength isDigit (text.drop start) with
  | 0 => none
  | length =>
    let total := start + length
    match text.drop total with
    | next :: _ => if next.isDigit || next == '_' then none else some (total + 2)
    | [] => some (total + 2)

/-- Length of a decimal number: digits, fraction, exponent and imaginary letter. Digits that begin
with a zero and are not all zero need one of the other parts. -/
def decimalLength (text : Text) : Option Nat :=
  let whole := digitsLength Char.isDigit text
  let afterWhole := text.drop whole
  match afterWhole with
  | '_' :: _ => none
  | _ =>
    let fraction := match afterWhole with
      | '.' :: rest => digitsLength Char.isDigit rest + 1
      | _ => 0
    let afterFraction := afterWhole.drop fraction
    let exponent := exponentLength afterFraction
    let imaginary := imaginaryLength (afterFraction.drop exponent)
    let digits := text.take whole
    if fraction == 0 && exponent == 0 && imaginary == 0 && digits.head? == some '0' &&
        digits.any (fun digit => digit != '0' && digit != '_') then none
    else if fraction != 0 && afterFraction.head? == some '_' then none
    else some (whole + fraction + exponent + imaginary)

/-- Length of the number that a text begins with. -/
def numberLength : Text → Option Nat
  | '0' :: letter :: rest =>
    if letter == 'x' || letter == 'X' then basedLength isHexadecimal rest
    else if letter == 'o' || letter == 'O' then
      basedLength (fun digit => '0' ≤ digit && digit ≤ '7') rest
    else if letter == 'b' || letter == 'B' then
      basedLength (fun digit => digit == '0' || digit == '1') rest
    else decimalLength ('0' :: letter :: rest)
  | text => decimalLength text

/-- Punctuation of several characters, longest first. -/
def longMarks : List Text := List.map String.toList
  ["**=", "//=", ">>=", "<<=", "...", "**", "//", ">>", "<<", "<=", ">=", "==", "!=", "->", "+=",
    "-=", "*=", "/=", "%=", "&=", "|=", "^=", "@=", ":=", "<>"]

/-- Punctuation of one character. -/
def shortMarks : Text := "+-*/%&|^~<>()[]\x7b\x7d,:.;@="

/-- Length of the punctuation that a text begins with. -/
def markLength (text : Text) : Option Nat :=
  match longMarks.find? (·.isPrefixOf text) with
  | some mark => some mark.length
  | none =>
    match text with
    | character :: _ => if shortMarks.contains character then some 1 else none
    | [] => none

end Outdent.Source
