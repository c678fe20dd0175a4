import Outdent.Text.Basic

/-!
# Order of texts

Texts are ordered character by character, by code, and a beginning of a text comes before it. A
sorted set of texts holds each text once. Main statements: `mem_sortedSet`, sorting loses no text
and makes none up, and `sortedSet_pairwise`, every text comes before those behind it.
-/
namespace Outdent.Text

/-- Does one text come before another? -/
def precedes : Text → Text → Bool
  | _, [] => false
  | [], _ :: _ => true
  | first :: rest, other :: others =>
    first.toNat < other.toNat || (first == other && precedes rest others)

/-- A text put at its place among sorted texts, unless it is there already. -/
def insertSorted (text : Text) : List Text → List Text
  | [] => [text]
  | other :: others =>
    if text = other then other :: others
    else if precedes text other then text :: other :: others
    else other :: insertSorted text others

/-- Texts in order, each once. -/
def sortedSet (texts : List Text) : List Text := texts.foldr insertSorted []

/-- A text that is put among others is there, and so are the others. -/
theorem mem_insertSorted (text found : Text) (texts : List Text) :
    found ∈ insertSorted text texts ↔ found = text ∨ found ∈ texts := by
  induction texts with
  | nil => simp [insertSorted]
  | cons other others ih =>
    rw [insertSorted]
    split
    · rename_i same
      subst same
      simp
    · split
      · simp
      · simp only [List.mem_cons, ih]
        exact or_left_comm

/-- Sorting loses no text and makes none up. -/
theorem mem_sortedSet (found : Text) (texts : List Text) :
    found ∈ sortedSet texts ↔ found ∈ texts := by
  induction texts with
  | nil => simp [sortedSet]
  | cons text others ih =>
    change found ∈ insertSorted text (sortedSet others) ↔ _
    rw [mem_insertSorted, ih, List.mem_cons]

/-- Of two texts that differ one comes before the other. -/
theorem precedes_of_not {text other : Text} (differ : text ≠ other)
    (not : precedes text other = false) : precedes other text = true := by
  induction text generalizing other with
  | nil =>
    cases other with
    | nil => exact absurd rfl differ
    | cons first rest => simp [precedes] at not
  | cons first rest ih =>
    cases other with
    | nil => rfl
    | cons next others =>
      simp only [precedes, Bool.or_eq_false_iff, decide_eq_false_iff_not] at not
      simp only [precedes, Bool.or_eq_true, decide_eq_true_eq]
      by_cases same : first = next
      · subst same
        simp only [beq_self_eq_true, Bool.true_and] at not ⊢
        exact Or.inr (ih (fun equal => differ (by rw [equal])) not.2)
      · have codes : first.toNat ≠ next.toNat := fun equal => same (Char.toNat_inj.mp equal)
        exact Or.inl (by omega)

/-- The order of texts is transitive. -/
theorem precedes_trans {left middle right : Text} (first : precedes left middle = true)
    (second : precedes middle right = true) : precedes left right = true := by
  induction left generalizing middle right with
  | nil =>
    cases right with
    | nil => cases middle <;> simp [precedes] at second
    | cons => rfl
  | cons head rest ih =>
    cases middle with
    | nil => simp [precedes] at first
    | cons next others =>
      cases right with
      | nil => simp [precedes] at second
      | cons last more =>
        simp only [precedes, Bool.or_eq_true, decide_eq_true_eq, Bool.and_eq_true,
          beq_iff_eq] at first second ⊢
        rcases first with lower | ⟨same, lower⟩
        · rcases second with lower' | ⟨same', _⟩
          · exact Or.inl (by omega)
          · subst same'; exact Or.inl lower
        · subst same
          rcases second with lower' | ⟨same', lower'⟩
          · exact Or.inl lower'
          · exact Or.inr ⟨same', ih lower lower'⟩

/-- A text put among sorted texts keeps them sorted. -/
theorem insertSorted_pairwise (text : Text) (texts : List Text)
    (sorted : texts.Pairwise fun left right => precedes left right = true) :
    (insertSorted text texts).Pairwise fun left right => precedes left right = true := by
  induction texts with
  | nil => simp [insertSorted]
  | cons other others ih =>
    obtain ⟨before, rest⟩ := List.pairwise_cons.mp sorted
    rw [insertSorted]
    split
    · exact sorted
    · rename_i differ
      split
      · rename_i lower
        refine List.pairwise_cons.mpr ⟨fun found member => ?_, sorted⟩
        rcases List.mem_cons.mp member with rfl | member
        · exact lower
        · exact precedes_trans lower (before found member)
      · rename_i notLower
        refine List.pairwise_cons.mpr ⟨fun found member => ?_, ih rest⟩
        rcases (mem_insertSorted text found others).mp member with rfl | member
        · exact precedes_of_not differ (by simpa using notLower)
        · exact before found member

/-- In a sorted set every text comes before those behind it. -/
theorem sortedSet_pairwise (texts : List Text) :
    (sortedSet texts).Pairwise fun left right => precedes left right = true := by
  induction texts with
  | nil => exact List.Pairwise.nil
  | cons text others ih => exact insertSorted_pairwise text _ ih

end Outdent.Text
