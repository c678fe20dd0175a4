import Outdent.Text.Basic

/-!
# Paths

A path is a list of steps from a base folder: into a folder or file of a name, or up. Places are
paths without detours, and steps up stand only at the front of one; such a place lies above the base
folder. Main statements: `resolved_of_names`, a path without steps up is a place, and
`resolved_append_up`, the folders above a place are those that further steps up lead to.
-/
namespace Outdent.Files

/-- Steps from the base folder. -/
abbrev Path := List Text

namespace Path

/-- The step to the folder around. -/
def up : Text := ['.', '.']

/-- The path that a text writes with slashes between the steps. Empty steps and single points stay
where they are. -/
def ofText (text : Text) : Path :=
  (Text.cutAt '/' text).filter fun step => !(step.isEmpty || step == ['.'])

/-- A path with slashes between the steps. -/
def text (path : Path) : Text := Text.join ['/'] path

/-- The path without its last step; the base folder lies in the folder above. -/
def parent (path : Path) : Path := if path.isEmpty then [up] else path.dropLast

/-- The place that one more step leads to. -/
def enter (place : Path) (step : Text) : Path :=
  if step = up then
    if place.all (· == up) then place ++ [up] else place.dropLast
  else place ++ [step]

/-- The place that a path leads to, whatever is on its way. -/
def resolved (path : Path) : Path := path.foldl enter []

/-- How far above the base folder a place begins. -/
def height (place : Path) : Nat := place.countP (· == up)

/-- The folder that is so many steps above a place. -/
def above (place : Path) : Nat → Path
  | 0 => place
  | steps + 1 => (place.above steps).enter up

/-- A place and the folders that it lies in, the nearest first, up to a number of steps above. -/
def around (place : Path) (steps : Nat) : List Path := (List.range (steps + 1)).map place.above

/-- Steps without one up lead on from a place. -/
theorem foldl_enter_of_names (place path : Path) (names : up ∉ path) :
    path.foldl enter place = place ++ path := by
  induction path generalizing place with
  | nil => simp
  | cons step path ih =>
    have differ : step ≠ up := fun same => names (same ▸ List.mem_cons_self)
    rw [List.foldl_cons, ih _ fun member => names (List.mem_cons_of_mem _ member), enter,
      if_neg differ]
    simp

/-- A path without steps up is a place. -/
theorem resolved_of_names (path : Path) (names : up ∉ path) : resolved path = path :=
  foldl_enter_of_names [] path names

/-- Going up from the place of a path is following it and then steps up. -/
theorem resolved_append_up (path : Path) (steps : Nat) :
    resolved (path ++ List.replicate steps up) = path.resolved.above steps := by
  induction steps with
  | zero => rw [List.replicate_zero, List.append_nil, above]
  | succ steps ih =>
    rw [List.replicate_succ', ← List.append_assoc, resolved, List.foldl_append, above, ← ih]
    rfl

/-- Every step above a place adds one to it, or leaves one out. -/
theorem length_above (place : Path) (steps : Nat) :
    ((place.above steps).all (· == up) = true ∧ steps ≤ place.length + (place.above steps).length) ∨
      steps + (place.above steps).length = place.length := by
  induction steps with
  | zero => exact Or.inr (Nat.zero_add _)
  | succ steps ih =>
    rw [above, enter, if_pos rfl]
    split
    · rename_i front
      refine Or.inl ⟨by simp [front], ?_⟩
      rw [List.length_append, List.length_singleton]
      omega
    · rename_i inside
      have reached := ih.resolve_left fun front => inside front.1
      have positive : (place.above steps).length ≠ 0 := fun empty =>
        inside (by rw [List.eq_nil_of_length_eq_zero empty]; rfl)
      rw [List.length_dropLast]
      exact Or.inr (by omega)

/-- The folders far above a place have long paths. -/
theorem le_length_above (place : Path) (steps : Nat) :
    steps ≤ place.length + (place.above steps).length := by
  rcases place.length_above steps with front | reached
  · exact front.2
  · omega

end Path

end Outdent.Files
