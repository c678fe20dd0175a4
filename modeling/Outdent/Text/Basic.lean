/-!
# Text

Text is a list of characters, so that what is proved of it is a law of lists. This module holds
the operations that several parts of the library share: the two kinds of blank that indent a
line, line breaks, replacement of a fixed pattern, and cutting at a separator. Main statements:
`join_cutAt`, the pieces of a cut joined again are the text, and `unifyBreaks_of_not_mem`, text
without carriage returns has its breaks unified already.
-/
namespace Outdent

/-- A list of characters. -/
abbrev Text := List Char

instance : Coe String Text := ⟨String.toList⟩

namespace Text

/-- The characters that indent a line; each counts as one column. -/
def isBlank (character : Char) : Bool := character == ' ' || character == '\t'

/-- The characters that end a line. -/
def isBreak (character : Char) : Bool := character == '\n' || character == '\r'

/-- The number of blanks that a text begins with. -/
def margin (text : Text) : Nat := (text.takeWhile isBlank).length

/-- Replacement while `skip` characters of an occurrence are still to be passed over. -/
def replaceAllFrom {α : Type} [BEq α] (pattern replacement : List α) : Nat → List α → List α
  | _, [] => []
  | skip + 1, _ :: rest => replaceAllFrom pattern replacement skip rest
  | 0, character :: rest =>
    if pattern.isPrefixOf (character :: rest) then
      replacement ++ replaceAllFrom pattern replacement (pattern.length - 1) rest
    else character :: replaceAllFrom pattern replacement 0 rest

/-- Every occurrence of a non-empty pattern, taken from left to right without overlap, is
replaced. -/
def replaceAll {α : Type} [BEq α] (pattern replacement text : List α) : List α :=
  replaceAllFrom pattern replacement 0 text

/-- Cut a text at every occurrence of one character; there is one more piece than occurrences. -/
def cutAt (separator : Char) : Text → List Text
  | [] => [[]]
  | character :: rest =>
    match cutAt separator rest with
    | [] => [[character]]
    | piece :: pieces =>
      if character == separator then [] :: piece :: pieces else (character :: piece) :: pieces

/-- Pieces in order with a separator between neighbours. -/
def join {α : Type} (separator : List α) : List (List α) → List α
  | [] => []
  | [piece] => piece
  | piece :: next :: pieces => piece ++ separator ++ join separator (next :: pieces)

/-- Line breaks as one character: a carriage return, with the line feed after it if there is
one, becomes a line feed. -/
def unifyBreaks : Text → Text
  | [] => []
  | '\r' :: '\n' :: rest => '\n' :: unifyBreaks rest
  | '\r' :: rest => '\n' :: unifyBreaks rest
  | character :: rest => character :: unifyBreaks rest

/-- The letters `A` to `Z` in their small form; other characters are left alone. -/
def lower (text : Text) : Text := text.map Char.toLower

/-- A natural number in base ten. -/
def ofNat (value : Nat) : Text := Nat.toDigits 10 value

/-- An integer in base ten, with a minus sign in front if it is negative. -/
def ofInt : Int → Text
  | .ofNat value => ofNat value
  | .negSucc value => '-' :: ofNat (value + 1)

/-- Text that holds no carriage return has its line breaks already unified. -/
theorem unifyBreaks_of_not_mem (text : Text) (plain : '\r' ∉ text) : unifyBreaks text = text := by
  induction text with
  | nil => rfl
  | cons character rest ih =>
    have here : character ≠ '\r' := fun same => plain (same ▸ List.mem_cons_self)
    have there := ih fun member => plain (List.mem_cons_of_mem _ member)
    rw [unifyBreaks]
    · rw [there]
    · intro _ same; exact absurd same here
    · intro same; exact absurd same here

/-- A cut has at least one piece. -/
theorem cutAt_ne_nil (separator : Char) (text : Text) : cutAt separator text ≠ [] := by
  cases text with
  | nil => simp [cutAt]
  | cons character rest =>
    rw [cutAt]
    split
    · simp
    · split <;> simp

/-- Pieces joined by the separator at which they were cut are the text. -/
theorem join_cutAt (separator : Char) (text : Text) :
    join [separator] (cutAt separator text) = text := by
  induction text with
  | nil => rfl
  | cons character rest ih =>
    rw [cutAt]
    cases pieces : cutAt separator rest with
    | nil => exact absurd pieces (cutAt_ne_nil separator rest)
    | cons piece others =>
      rw [pieces] at ih
      by_cases same : character = separator
      · subst same
        simp [join, ih]
      · cases others with
        | nil => simp only [join] at ih; simp [same, join, ih]
        | cons next more =>
          simp only [join] at ih
          simp [same, join, ih]

end Text

end Outdent
