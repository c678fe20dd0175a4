import Outdent.Template.Indentation
import Outdent.Value

/-!
# Items

A template can be handed over as any list of values, of which only segments make a template. A list
that is no template is refused before anything is edited. Main statement:
`outdentItems_segments`, a list of segments is edited as the template that it is.
-/
namespace Outdent.Template

/-- A segment, or a value that is none. -/
inductive Item where
  /-- A segment. -/
  | segment (segment : Segment)
  /-- A value that is no segment. -/
  | other (value : Value)

namespace Item

/-- The segment that an item is. -/
def segment? : Item → Option Segment
  | segment found => some found
  | other _ => none

/-- The text of an item. -/
def expression : Item → Text
  | segment ⟨raw, cooked⟩ =>
    "Segment(raw=".toList ++ Text.quoted raw ++ ", cooked=".toList ++
      (match cooked with
        | some points => points.quoted
        | none => "None".toList) ++ [')']
  | other value => value.expression

end Item

/-- Why items cannot be edited. -/
inductive ItemFault where
  /-- The items are no template. -/
  | noTemplate (items : List Item)
  /-- There is no item at a place. -/
  | noItem
  /-- The item at a place is no segment. -/
  | noSegment

/-- The sentence on items that are no template. -/
def noTemplateMessage (items : List Item) : Text :=
  "dedent() expects a non-empty sequence of Segment, got [".toList ++
    Text.join [',', ' '] (items.map Item.expression) ++ [']']

/-- The segments that items are. -/
def segmentsOf? : List Item → Option (List Segment)
  | [] => some []
  | .segment segment :: items => (segmentsOf? items).map (segment :: ·)
  | .other _ :: _ => none

/-- The items without the indentation that their lines share, if they are a template. -/
def outdentItems (trims : Trims) (items : List Item) : Except ItemFault (List Item) :=
  match segmentsOf? items with
  | some (segment :: segments) =>
    .ok ((outdent trims (segment :: segments)).map .segment)
  | _ => .error (.noTemplate items)

/-- The indentation that the lines of the items share. -/
def indentOfItems (items : List Item) : Except ItemFault Nat :=
  match segmentsOf? items with
  | some segments => .ok (commonIndent segments)
  | none => .error .noSegment

/-- The place that an index names; a negative one counts from the end. -/
def place? (length : Nat) (index : Int) : Option Nat :=
  let place := if index < 0 then index + length else index
  if 0 ≤ place ∧ place < length then some place.toNat else none

/-- The items with an edited segment at a place. -/
def editItem (edit : Segment → Segment) (index : Int) (items : List Item) :
    Except ItemFault (List Item) :=
  match place? items.length index with
  | none => .error .noItem
  | some place =>
    match items[place]? with
    | some (.segment segment) => .ok (items.set place (.segment (edit segment)))
    | some (.other _) => .error .noSegment
    | none => .error .noItem

/-- The items with another one at a place. -/
def setItem (new : Item) (index : Int) (items : List Item) : Except ItemFault (List Item) :=
  match place? items.length index with
  | none => .error .noItem
  | some place => .ok (items.set place new)

/-- Segments are the segments that they are. -/
@[simp] theorem segmentsOf?_map (segments : List Segment) :
    segmentsOf? (segments.map .segment) = some segments := by
  induction segments with
  | nil => rfl
  | cons segment rest ih => simp [segmentsOf?, ih]

/-- A list of segments is edited as the template that it is. -/
theorem outdentItems_segments (trims : Trims) {segments : List Segment} (filled : segments ≠ []) :
    outdentItems trims (segments.map .segment) = .ok ((outdent trims segments).map .segment) := by
  cases segments with
  | nil => exact absurd rfl filled
  | cons segment rest => rw [outdentItems, segmentsOf?_map]

end Outdent.Template
