import Outdent.Text.Digits

/-!
# Strings of settings files

The four forms of strings of a settings file: in double quotes with escapes or in single quotes
without, on one line or, in three quotes, on several. A reader takes a text from the front of
another one and gives back what is left.
-/
namespace Outdent.Toml

open Text

/-- A reader of one kind of thing at the front of a text. -/
abbrev Reader (α : Type) := Text → Option (α × Text)

/-- Blanks between the parts of a line. -/
def isLineBlank (character : Char) : Bool := character == ' ' || character == '\t'

/-- A text without the blanks at its front. -/
def skipBlanks (text : Text) : Text := text.dropWhile isLineBlank

/-- Is a character kept out of strings and comments? Control characters are, apart from tabs and,
where several lines are allowed, line feeds. -/
def isIllegal (severalLines : Bool) (character : Char) : Bool :=
  (character.toNat < 32 || character.toNat == 127) && character != '\t' &&
    !(severalLines && character == '\n')

/-- A character of a number of digits in base sixteen. -/
def codedCharacter? (width : Nat) (text : Text) : Option (Text × Text) :=
  if (text.take width).length = width then do
    let code ← number? 16 (text.take width)
    let character ← character? code
    some ([character], text.drop width)
  else none

/-- What is left after a line break that a backslash joined, and the blanks in front of it and the
empty space behind it. -/
def joinedLines? (text : Text) : Option Text :=
  let behind := match text.dropWhile isLineBlank with
    | [] => some []
    | '\n' :: rest => some rest
    | _ => none
  behind.map fun rest => rest.dropWhile fun character => isLineBlank character || character == '\n'

/-- What an escape stands for, behind its backslash. -/
def escape? (severalLines : Bool) : Reader Text
  | 'b' :: rest => some (['\x08'], rest)
  | 't' :: rest => some (['\t'], rest)
  | 'n' :: rest => some (['\n'], rest)
  | 'f' :: rest => some (['\x0c'], rest)
  | 'r' :: rest => some (['\r'], rest)
  | '"' :: rest => some (['"'], rest)
  | '\\' :: rest => some (['\\'], rest)
  | 'u' :: rest => codedCharacter? 4 rest
  | 'U' :: rest => codedCharacter? 8 rest
  | text => if severalLines then (joinedLines? text).map fun rest => ([], rest) else none

/-- A text in double quotes, behind the opening ones. The fuel is at least the length of the text.
-/
def basicBody? (severalLines : Bool) : Nat → Reader Text
  | 0, _ => none
  | _, [] => none
  | fuel + 1, character :: rest =>
    if character = '"' && (!severalLines || ['"', '"'].isPrefixOf rest) then
      some ([], if severalLines then rest.drop 2 else rest)
    else if character = '\\' then do
      let (meaning, rest) ← escape? severalLines rest
      let (others, rest) ← basicBody? severalLines fuel rest
      some (meaning ++ others, rest)
    else if isIllegal severalLines character then none
    else do
      let (others, rest) ← basicBody? severalLines fuel rest
      some (character :: others, rest)

/-- A text in single quotes on one line, behind the opening one. -/
def literalLine? (text : Text) : Option (Text × Text) :=
  let body := text.takeWhile (· != '\'')
  match text.dropWhile (· != '\'') with
  | _ :: rest => if body.any (isIllegal false) then none else some (body, rest)
  | [] => none

/-- A text in three single quotes, behind the opening ones. -/
def literalLines? : Reader Text
  | [] => none
  | character :: rest =>
    if ['\'', '\'', '\''].isPrefixOf (character :: rest) then some ([], rest.drop 2)
    else if isIllegal true character then none
    else (literalLines? rest).map fun (others, left) => (character :: others, left)

/-- One or two more quotes that stand behind three closing ones belong to the text. -/
def withLastQuotes (quote : Char) (body rest : Text) : Text × Text :=
  let more := ((rest.take 2).takeWhile (· == quote)).length
  (body ++ List.replicate more quote, rest.drop more)

/-- A text without the line feed that it may begin with. -/
def withoutFirstBreak : Text → Text
  | '\n' :: rest => rest
  | text => text

/-- A string of a settings file in any of its forms. -/
def string? (text : Text) : Option (Text × Text) :=
  if ['"', '"', '"'].isPrefixOf text then do
    let (body, rest) ← basicBody? true text.length (withoutFirstBreak (text.drop 3))
    some (withLastQuotes '"' body rest)
  else if ['\'', '\'', '\''].isPrefixOf text then do
    let (body, rest) ← literalLines? (withoutFirstBreak (text.drop 3))
    some (withLastQuotes '\'' body rest)
  else match text with
    | '"' :: rest => basicBody? false text.length rest
    | '\'' :: rest => literalLine? rest
    | _ => none

/-- A string on one line. -/
def lineString? : Reader Text
  | '"' :: rest => basicBody? false (rest.length + 1) rest
  | '\'' :: rest => literalLine? rest
  | _ => none

end Outdent.Toml
