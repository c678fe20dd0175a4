import Outdent.Text.Points

/-!
# Escapes

What a backslash and the characters after it stand for in a string literal that is not raw. Half of
a surrogate pair can be written by its code. A character can be written by its name; which names
there are is not fixed here (`CharacterNames`). Main statements: `resolve_of_not_mem`, text without
a backslash stands for itself, and `resolve_backslash`, what an escape stands for comes before what
is after it.
-/
namespace Outdent.Template

open Text

/-- Can a character stand in the name of one? -/
def isNameLetter (letter : Char) : Bool := letter.isAlphanum || letter == ' ' || letter == '-'

/-- The names that characters can be written by, in capital letters or small ones. -/
class CharacterNames where
  /-- The character of a name. -/
  character? : Text → Option Char
  /-- Names are made of letters, digits, spaces and hyphens. -/
  isNameLetter_of_mem : ∀ {name character}, character? name = some character →
    ∀ letter ∈ name, isNameLetter letter = true

/-- The names of a table, where they stand in small letters. -/
abbrev CharacterNames.ofTable (table : List (Text × Char)) : CharacterNames where
  character? name :=
    if name.all isNameLetter then (table.find? fun entry => entry.1 == lower name).map (·.2)
    else none
  isNameLetter_of_mem found := by
    rw [Option.ite_none_right_eq_some] at found
    exact List.all_eq_true.mp found.1

/-- What a code of a fixed number of digits in base sixteen stands for, and the length of its escape
with the letter in front. -/
def coded? (width : Nat) (rest : Text) : Option (Points × Nat) :=
  if (rest.take width).length = width then do
    let code ← number? 16 (rest.take width)
    let point ← Point.ofCode? code
    some ([point], width + 1)
  else none

variable [CharacterNames]

/-- What an escape stands for and how long it is, given what is behind its backslash. A line break
stands for nothing; a backslash before a character without a meaning stands for itself. -/
def escape? : Text → Option (Points × Nat)
  | [] => none
  | '\n' :: _ => some ([], 1)
  | 'a' :: _ => some ([.char '\x07'], 1)
  | 'b' :: _ => some ([.char '\x08'], 1)
  | 'f' :: _ => some ([.char '\x0c'], 1)
  | 'n' :: _ => some ([.char '\n'], 1)
  | 'r' :: _ => some ([.char '\r'], 1)
  | 't' :: _ => some ([.char '\t'], 1)
  | 'v' :: _ => some ([.char '\x0b'], 1)
  | 'x' :: rest => coded? 2 rest
  | 'u' :: rest => coded? 4 rest
  | 'U' :: rest => coded? 8 rest
  | 'N' :: '\x7b' :: rest => do
    let name := rest.takeWhile (· != '\x7d')
    let character ← CharacterNames.character? name
    if name.length < rest.length then some ([.char character], name.length + 3) else none
  | 'N' :: _ => none
  | first :: rest =>
    if first = '\\' ∨ first = '\'' ∨ first = '"' then some ([.char first], 1)
    else
      let digits := ((first :: rest).take 3).takeWhile (isDigit 8)
      if digits.isEmpty then some ([.char '\\', .char first], 1)
      else (Point.ofCode? (ofDigits 8 digits)).map fun point => ([point], digits.length)

/-- What a text stands for while `skip` characters of an escape are still to be passed over. -/
def resolveFrom : Nat → Text → Option Points
  | _, [] => some []
  | skip + 1, _ :: rest => resolveFrom skip rest
  | 0, character :: rest =>
    if character = '\\' then
      (escape? rest).bind fun found => (resolveFrom found.2 rest).map (found.1 ++ ·)
    else (resolveFrom 0 rest).map (.char character :: ·)

/-- What a text stands for, if all its escapes have a meaning. -/
def resolve (text : Text) : Option Points := resolveFrom 0 text

/-- Passing over characters is dropping them. -/
theorem resolveFrom_eq_drop (skip : Nat) (text : Text) :
    resolveFrom skip text = resolve (text.drop skip) := by
  induction skip generalizing text with
  | zero => rfl
  | succ skip ih =>
    cases text with
    | nil => rfl
    | cons character rest => exact ih rest

/-- What an escape stands for comes before what is after it. -/
theorem resolve_backslash (rest : Text) :
    resolve ('\\' :: rest) = (escape? rest).bind fun found =>
      (resolve (rest.drop found.2)).map (found.1 ++ ·) := by
  rw [resolve, resolveFrom, if_pos rfl]
  simp only [resolveFrom_eq_drop]

/-- The letters of a name may be large or small, and halves of pairs stay apart. -/
example : @resolve (.ofTable [("digit one", '1')]) "\\N\x7bDigit ONE\x7d\\ud83d\\udcaf" =
    some [.char '1', .surrogate 0x3d, .surrogate 0x4af] := by
  decide

/-- A character other than a backslash stands for itself. -/
theorem resolve_cons {character : Char} (plain : character ≠ '\\') (rest : Text) :
    resolve (character :: rest) = (resolve rest).map (.char character :: ·) := by
  unfold resolve
  rw [resolveFrom, if_neg plain]

/-- Text without a backslash stands for itself. -/
theorem resolve_of_not_mem (text : Text) (plain : '\\' ∉ text) :
    resolve text = some text.points := by
  induction text with
  | nil => rfl
  | cons character rest ih =>
    have here : character ≠ '\\' := fun same => plain (same ▸ List.mem_cons_self)
    rw [resolve_cons here, ih fun member => plain (List.mem_cons_of_mem _ member)]
    rfl

end Outdent.Template
