import Outdent.Text.Digits
import Outdent.Text.Quoted

/-!
# Points

What escapes can stand for: characters, and halves of surrogate pairs that stand alone, which are
none. Points that are no characters cut a row of points into texts, and an edit of texts goes on
between them. Main statements: `joinRuns_runs`, the texts between the surrogates make up the points
with these, and `editRuns_points`, points that are characters are edited as their text is.
-/
namespace Outdent

/-- A character, or half of a surrogate pair that stands alone. -/
inductive Point where
  /-- A character. -/
  | char (character : Char)
  /-- Half of a surrogate pair, counted from the first one. -/
  | surrogate (index : Fin 0x800)
  deriving DecidableEq

/-- A list of points. -/
abbrev Points := List Point

namespace Point

/-- The character that a point is. -/
def char? : Point → Option Char
  | char character => some character
  | surrogate _ => none

/-- The code of a point. -/
def code : Point → Nat
  | char character => character.toNat
  | surrogate index => 0xD800 + index

/-- The point of a code, if it has one. -/
def ofCode? (code : Nat) : Option Point :=
  if half : 0xD800 ≤ code ∧ code < 0xE000 then some (surrogate ⟨code - 0xD800, by omega⟩)
  else (Text.character? code).map char

end Point

/-- The points of a text. -/
def Text.points (text : Text) : Points := text.map .char

/-- The characters among the points of a text are those of the text. -/
@[simp] theorem Text.char_mem_points {text : Text} {character : Char} :
    .char character ∈ text.points ↔ character ∈ text := by
  simp [points]

namespace Points

/-- The text that points are, if all of them are characters. -/
def text? (points : Points) : Option Text := points.mapM Point.char?

/-- The texts before, between and behind the surrogates among some points. -/
def runs : Points → List Text
  | [] => [[]]
  | .char character :: points => (runs points).modifyHead (character :: ·)
  | .surrogate _ :: points => [] :: runs points

/-- The surrogates among some points. -/
def surrogates : Points → List (Fin 0x800)
  | [] => []
  | .char _ :: points => surrogates points
  | .surrogate index :: points => index :: surrogates points

/-- Texts with surrogates between them. -/
def joinRuns : List Text → List (Fin 0x800) → Points
  | [], _ => []
  | text :: _, [] => text.points
  | text :: texts, index :: indices => text.points ++ .surrogate index :: joinRuns texts indices

/-- Points where the texts before, between and behind the surrogates are edited. -/
def editRuns (edit : List Text → List Text) (points : Points) : Points :=
  joinRuns (edit points.runs) points.surrogates

/-- Points inside quotes. -/
def quoted (points : Points) : Text :=
  let quote := Text.quoteFor points.runs.flatten
  quote :: points.flatMap (fun
    | .char character => Text.quotedCharacter quote character
    | half => '\\' :: 'u' :: Text.hexadecimal 4 half.code) ++ [quote]

/-- There is a text more than surrogates. -/
theorem runs_length (points : Points) : points.runs.length = points.surrogates.length + 1 := by
  induction points with
  | nil => rfl
  | cons point rest ih =>
    cases point with
    | char character => rw [runs, List.length_modifyHead, ih, surrogates]
    | surrogate index => rw [runs, List.length_cons, ih, surrogates, List.length_cons]

/-- A character in front of the first text is in front of the points. -/
theorem joinRuns_modifyHead {texts : List Text} (filled : texts ≠ []) (character : Char)
    (indices : List (Fin 0x800)) :
    joinRuns (texts.modifyHead (character :: ·)) indices =
      .char character :: joinRuns texts indices := by
  cases texts with
  | nil => exact absurd rfl filled
  | cons text texts => cases indices <;> rfl

/-- The texts between the surrogates make up the points with these. -/
theorem joinRuns_runs (points : Points) : joinRuns points.runs points.surrogates = points := by
  induction points with
  | nil => rfl
  | cons point rest ih =>
    have filled : runs rest ≠ [] := List.ne_nil_of_length_eq_add_one (runs_length rest)
    cases point with
    | char character => rw [runs, surrogates, joinRuns_modifyHead filled, ih]
    | surrogate index =>
      rw [runs, surrogates, joinRuns, ih]
      rfl

/-- Points that are characters are one text. -/
@[simp] theorem runs_points (text : Text) : runs text.points = [text] := by
  induction text with
  | nil => rfl
  | cons character rest ih => exact congrArg (List.modifyHead (character :: ·)) ih

/-- There is no surrogate among characters. -/
@[simp] theorem surrogates_points (text : Text) : surrogates text.points = [] := by
  induction text with
  | nil => rfl
  | cons character rest ih => exact ih

/-- Points that are characters are edited as their text is. -/
theorem editRuns_points {edit : List Text → List Text} {text other : Text}
    (edited : edit [text] = [other]) : editRuns edit text.points = other.points := by
  rw [editRuns, runs_points, surrogates_points, edited, joinRuns]

/-- Points that are characters are their text. -/
@[simp] theorem text?_points (text : Text) : text? text.points = some text := by
  induction text with
  | nil => rfl
  | cons character rest ih =>
    rw [text?] at ih ⊢
    rw [Text.points, List.map_cons, List.mapM_cons, ← Text.points, ih]
    rfl

end Points

end Outdent
