import Outdent.Value

/-!
# Entries

Values with names, in the order in which the names were first given; a name that is given again
takes its new value and keeps its place. Main statements: `lookup?_put`, only the name that is
given changes, and `names_put`, its place is the old one or the end.
-/
namespace Outdent

/-- Values with names in order. -/
abbrev Entries := List (Text × Value)

namespace Entries

/-- The value of a name. -/
def lookup? (entries : Entries) (name : Text) : Option Value :=
  (entries.find? fun entry => entry.1 == name).map (·.2)

/-- Give a name a value. -/
def put : Entries → Text → Value → Entries
  | [], name, value => [(name, value)]
  | (other, old) :: entries, name, value =>
    if other = name then (name, value) :: entries else (other, old) :: put entries name value

/-- Give names values one after another. -/
def putAll (entries more : Entries) : Entries :=
  more.foldl (fun entries (name, value) => entries.put name value) entries

/-- Entries of pairs of which a later one with the same name wins. -/
def ofPairs (pairs : List (Text × Value)) : Entries := putAll [] pairs

/-- Entries without those of some names. -/
def without (entries : Entries) (names : List Text) : Entries :=
  entries.filter fun entry => !names.contains entry.1

/-- The names in order. -/
def names (entries : Entries) : List Text := entries.map (·.1)

/-- The value of the name that is given changes, and no other. -/
theorem lookup?_put (entries : Entries) (name other : Text) (value : Value) :
    (entries.put name value).lookup? other =
      if name = other then some value else entries.lookup? other := by
  induction entries with
  | nil => by_cases same : name = other <;> simp [put, lookup?, same]
  | cons entry rest ih =>
    obtain ⟨first, old⟩ := entry
    rw [put]
    unfold lookup? at ih ⊢
    by_cases here : first = name
    · subst here
      by_cases same : first = other <;> simp [same]
    · rw [if_neg here]
      by_cases same : first = other
      · have differ : name ≠ other := fun equal => here (same.trans equal.symm)
        simp [same, differ]
      · simpa [same] using ih

/-- A name keeps its place, or takes the last one. -/
theorem names_put (entries : Entries) (name : Text) (value : Value) :
    (entries.put name value).names =
      if name ∈ entries.names then entries.names else entries.names ++ [name] := by
  induction entries with
  | nil => simp [put, names]
  | cons entry rest ih =>
    obtain ⟨first, old⟩ := entry
    rw [put]
    unfold names at ih ⊢
    by_cases here : first = name
    · simp [here]
    · have differ : name ≠ first := fun equal => here equal.symm
      simp only [here, if_false, List.map_cons, ih, List.mem_cons, differ, false_or]
      split <;> simp

end Entries

end Outdent
