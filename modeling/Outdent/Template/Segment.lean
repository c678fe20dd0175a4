import Outdent.Text.Points

/-!
# Segments

The literal text of a template between its interpolations: a template with `n` interpolations has
`n + 1` segments, empty ones included. A segment holds its text as it is written and, unless an
escape in it has no meaning, as it reads after its escapes are resolved. Main statement: an edit
that reaches a segment changes both forms and never makes or loses the resolved one
(`map_cooked_isSome`).
-/
namespace Outdent

/-- One piece of literal text of a template. -/
structure Segment where
  /-- The text as it is written, escapes unresolved. -/
  raw : Text
  /-- The text with its escapes resolved, if all of them can be. -/
  cooked : Option Points := none
  deriving DecidableEq

namespace Segment

/-- Edit the text as it is written, and the texts between the surrogates of what it reads as. -/
def map (edit : Text → Text) (runs : List Text → List Text) (segment : Segment) : Segment :=
  ⟨edit segment.raw, segment.cooked.map (Points.editRuns runs)⟩

/-- An edit keeps the resolved form if there is one and makes none otherwise. -/
@[simp] theorem map_cooked_isSome (edit : Text → Text) (runs : List Text → List Text)
    (segment : Segment) : (segment.map edit runs).cooked.isSome = segment.cooked.isSome := by
  simp [map]

end Segment

end Outdent
