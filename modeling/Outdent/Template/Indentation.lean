import Outdent.Template.Segment

/-!
# Indentation of a template

Removal of the indentation that a template has only because of where it stands. The steps are
taken in a fixed order: the closing line, a line break with nothing but blanks after it, is cut off
the last segment; the common indent, the least number of blanks that any line break is followed by,
is measured over all segments; that many blanks are taken from behind every line break that has
them; and a line break at the very beginning of the first segment is dropped. The closing line is
gone before the indent is measured, so its own indentation never counts. A text that no line break
is followed by blanks in is left as it is by the middle steps (`stripIndent_zero`). Main statements:
`outdent_length` and `outdent_cooked`, no segment and no resolved form is made or lost.
-/
namespace Outdent

/-- Which ends of a template lose their line break. -/
structure Trims where
  /-- Drop a line break at the beginning of the first segment. -/
  left : Bool := true
  /-- Drop the closing line of the last segment. -/
  right : Bool := true
  deriving DecidableEq

namespace Text

/-- The widths of the blank runs that follow line breaks, in order. -/
def indents : Text → List Nat
  | [] => []
  | character :: rest =>
    if character = '\n' then
      if margin rest = 0 then indents rest else margin rest :: indents rest
    else indents rest

/-- Take `width` blanks from behind every line break that has them, while `skip` characters of
an earlier one are still to be dropped. -/
def stripIndentFrom (width : Nat) : Nat → Text → Text
  | _, [] => []
  | skip + 1, _ :: rest => stripIndentFrom width skip rest
  | 0, character :: rest =>
    if character = '\n' then
      character :: stripIndentFrom width (if width ≤ margin rest then width else 0) rest
    else character :: stripIndentFrom width 0 rest

/-- Take `width` blanks from behind every line break that is followed by at least as many. -/
def stripIndent (width : Nat) (text : Text) : Text := stripIndentFrom width 0 text

/-- The width of the closing line, if only blanks follow the last line break. -/
def closingWidth? (text : Text) : Option Nat :=
  match text.reverse.dropWhile isBlank with
  | '\n' :: _ => some (text.reverse.takeWhile isBlank).length
  | _ => none

/-- Drop a final line break that exactly `width` blanks follow. -/
def dropClosing (width : Nat) (text : Text) : Text :=
  if width ≤ (text.reverse.takeWhile isBlank).length then
    match text.reverse.drop width with
    | '\n' :: '\r' :: before => before.reverse
    | '\n' :: before => before.reverse
    | _ => text
  else text

/-- Drop a line break at the beginning. -/
def dropOpening : Text → Text
  | '\n' :: rest => rest
  | '\r' :: '\n' :: rest => rest
  | text => text

/-- Does a text begin with a line break? -/
def hasOpening : Text → Bool
  | '\n' :: _ => true
  | '\r' :: '\n' :: _ => true
  | _ => false

/-- Taking no blanks changes nothing. -/
@[simp] theorem stripIndent_zero (text : Text) : stripIndent 0 text = text := by
  unfold stripIndent
  induction text with
  | nil => rfl
  | cons character rest ih =>
    simp only [stripIndentFrom, ite_self]
    rw [ih]

end Text

/-- Edit the last of some values. -/
def onLast {α : Type} (edit : α → α) : List α → List α
  | [] => []
  | [value] => [edit value]
  | value :: next :: rest => value :: onLast edit (next :: rest)

/-- Editing the last value keeps the number of values. -/
@[simp] theorem onLast_length {α : Type} (edit : α → α) (values : List α) :
    (onLast edit values).length = values.length := by
  fun_induction onLast edit values with
  | case1 => rfl
  | case2 => rfl
  | case3 value next rest ih => simp_all

/-- What an edit of the last value does not change in it is changed in no value. -/
theorem map_onLast {α β : Type} (edit : α → α) (view : α → β)
    (keeps : ∀ value, view (edit value) = view value) (values : List α) :
    (onLast edit values).map view = values.map view := by
  fun_induction onLast edit values with
  | case1 => rfl
  | case2 value => simp [keeps]
  | case3 value next rest ih => simp_all

namespace Segment

/-- Cut the closing line off a segment. Its width is measured on the written form, and the
resolved form loses a closing line of that width. -/
def trimRight (segment : Segment) : Segment :=
  match segment.raw.closingWidth? with
  | some width => segment.map (Text.dropClosing width) (onLast (Text.dropClosing width))
  | none => segment

/-- Take `width` blanks from behind every line break that has them. -/
def stripIndent (width : Nat) (segment : Segment) : Segment :=
  segment.map (Text.stripIndent width) (List.map (Text.stripIndent width))

/-- Drop the line break that a segment begins with. Whether there is one is decided on the
written form. -/
def trimLeft (segment : Segment) : Segment :=
  if segment.raw.hasOpening then segment.map Text.dropOpening (List.modifyHead Text.dropOpening)
  else segment

/-- Cutting the closing line keeps the resolved form if there is one. -/
@[simp] theorem trimRight_cooked_isSome (segment : Segment) :
    segment.trimRight.cooked.isSome = segment.cooked.isSome := by
  unfold trimRight
  split <;> simp

/-- Taking blanks keeps the resolved form if there is one. -/
@[simp] theorem stripIndent_cooked_isSome (width : Nat) (segment : Segment) :
    (segment.stripIndent width).cooked.isSome = segment.cooked.isSome :=
  map_cooked_isSome _ _ segment

/-- Dropping the first line break keeps the resolved form if there is one. -/
@[simp] theorem trimLeft_cooked_isSome (segment : Segment) :
    segment.trimLeft.cooked.isSome = segment.cooked.isSome := by
  unfold trimLeft
  split <;> simp

end Segment

/-- The least width of an indented line over all segments, or zero if no line is indented. -/
def commonIndent (segments : List Segment) : Nat :=
  (segments.flatMap fun segment => segment.raw.indents).min?.getD 0

/-- Remove the indentation that all lines of a template share, and the line breaks at its ends as
the trims say. -/
def outdent (trims : Trims) (segments : List Segment) : List Segment :=
  let closed := if trims.right then onLast Segment.trimRight segments else segments
  let stripped := closed.map (Segment.stripIndent (commonIndent closed))
  if trims.left then stripped.modifyHead Segment.trimLeft else stripped

/-- The number of segments is kept. -/
@[simp] theorem outdent_length (trims : Trims) (segments : List Segment) :
    (outdent trims segments).length = segments.length := by
  unfold outdent
  split <;> split <;> simp

/-- The same segments have a resolved form before and after. -/
theorem outdent_cooked (trims : Trims) (segments : List Segment) :
    (outdent trims segments).map (·.cooked.isSome) = segments.map (·.cooked.isSome) := by
  have head : ∀ values : List Segment,
      (values.modifyHead Segment.trimLeft).map (·.cooked.isSome) =
        values.map (·.cooked.isSome) := by
    intro values
    cases values <;> simp
  have last : ∀ values : List Segment,
      (onLast Segment.trimRight values).map (·.cooked.isSome) =
        values.map (·.cooked.isSome) :=
    fun values => map_onLast _ _ (fun value => by simp) values
  unfold outdent
  split <;> split <;> simp [head, last, Function.comp_def]

end Outdent
