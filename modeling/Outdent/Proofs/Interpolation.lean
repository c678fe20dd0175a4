import Outdent.Proofs.Depth

/-!
# Interpolations

A template is its literal texts with interpolations between them. To the removal of indentation an
interpolation is nothing but a text that it does not look into, and that separates what is in front
of it from what is behind it: no line begins, no indentation ends and no closing line is found
across it. Each step treats the texts one by one as it treats them joined (`trimClosing_interleave`,
`indents_interleave`, `stripIndent_interleave`, `dropOpening_interleave`). Main statement:
`outdent_interleave`, the joined template comes out as the texts do, joined by the same
interpolations.
-/
namespace Outdent

/-- Texts in order with a field behind each but the last. There is one field less than texts. -/
def interleave : List Text → List Text → Text
  | text :: texts, field :: fields => text ++ (field ++ interleave texts fields)
  | text :: _, [] => text
  | [], _ => []

namespace Text

/-- A closing line has blanks and line breaks only. -/
theorem isBlank_or_isBreak_of_mem {text : Text} (closes : isClosingLine text = true)
    {character : Char} (member : character ∈ text) :
    isBlank character = true ∨ isBreak character = true := by
  have behind : ∀ {rest : Text}, rest.all isBlank = true → character ∈ rest →
      isBlank character = true := fun blank inside => List.all_eq_true.mp blank _ inside
  unfold isClosingLine at closes
  split at closes
  · obtain rfl | inside := List.mem_cons.mp member
    · exact Or.inr rfl
    · exact Or.inl (behind closes inside)
  · obtain rfl | inside := List.mem_cons.mp member
    · exact Or.inr rfl
    obtain rfl | inside := List.mem_cons.mp inside
    · exact Or.inr rfl
    · exact Or.inl (behind closes inside)
  · simp at closes

/-- The closing line of a text with something inert in it is that of what is behind. -/
theorem trimClosing_append_inert {inert : Text} (still : Inert inert) (text rest : Text) :
    trimClosing (text ++ (inert ++ rest)) = text ++ (inert ++ trimClosing rest) := by
  obtain ⟨first, others, same⟩ := List.exists_cons_of_ne_nil still.filled
  have visible : isBlank first = false := still.visible first (by rw [same]; rfl)
  have unbroken : isBreak first = false := still.unbroken first (by rw [same]; simp)
  induction text with
  | nil => exact trimClosing_append_of_unbroken still.unbroken rest
  | cons character text ih =>
    have opened : isClosingLine (character :: (text ++ (inert ++ rest))) = false := by
      by_contra closes
      have inside : first ∈ character :: (text ++ (inert ++ rest)) := by simp [same]
      obtain blank | breaks := isBlank_or_isBreak_of_mem (by simpa using closes) inside
      · rw [visible] at blank
        exact absurd blank (by decide)
      · rw [unbroken] at breaks
        exact absurd breaks (by decide)
    rw [List.cons_append, trimClosing_cons, opened, if_neg (by decide), ih, List.cons_append]

section Interleaving

variable {texts fields : List Text} (fits : texts.length = fields.length + 1)
  (still : ∀ field ∈ fields, Inert field)

include fits still in
/-- The closing line of the joined template is that of the last text. -/
theorem trimClosing_interleave :
    trimClosing (interleave texts fields) = interleave (onLast trimClosing texts) fields := by
  induction fields generalizing texts with
  | nil =>
    obtain ⟨text, rfl⟩ := List.length_eq_one_iff.mp fits
    rfl
  | cons field fields ih =>
    obtain _ | ⟨text, _ | ⟨next, texts⟩⟩ := texts
    · simp at fits
    · simp at fits
    · have others : (next :: texts).length = fields.length + 1 := Nat.succ.inj fits
      have later := ih others fun other member => still other (.tail _ member)
      rw [interleave, trimClosing_append_inert (still field List.mem_cons_self), later, onLast,
        interleave]

include fits still in
/-- The indented lines of the joined template are those of its texts. -/
theorem indents_interleave : indents (interleave texts fields) = texts.flatMap indents := by
  induction fields generalizing texts with
  | nil =>
    obtain ⟨text, rfl⟩ := List.length_eq_one_iff.mp fits
    rw [interleave, List.flatMap_singleton]
  | cons field fields ih =>
    cases texts with
    | nil => simp at fits
    | cons text texts =>
      have later := ih (by simpa using fits) fun other member => still other (.tail _ member)
      rw [interleave, indents_append_inert (still field List.mem_cons_self), later,
        List.flatMap_cons]

include fits still in
/-- Blanks are taken from the joined template as they are taken from its texts. -/
theorem stripIndent_interleave (width : Nat) :
    stripIndent width (interleave texts fields) =
      interleave (texts.map (stripIndent width)) fields := by
  induction fields generalizing texts with
  | nil =>
    obtain ⟨text, rfl⟩ := List.length_eq_one_iff.mp fits
    rfl
  | cons field fields ih =>
    cases texts with
    | nil => simp at fits
    | cons text texts =>
      have later := ih (by simpa using fits) fun other member => still other (.tail _ member)
      rw [stripIndent] at later
      rw [interleave, stripIndent,
        stripIndentFrom_append_inert (still field List.mem_cons_self) _ _ _ _ (Nat.zero_le _),
        later, List.map_cons, interleave, stripIndent]

include fits still in
/-- The indentation that all lines share is taken from the joined template as it is taken from its
texts. -/
theorem stripShared_interleave :
    stripIndent (leastIndent [interleave texts fields]) (interleave texts fields) =
      interleave (texts.map (stripIndent (leastIndent texts))) fields := by
  have least : leastIndent [interleave texts fields] = leastIndent texts := by
    rw [leastIndent, leastIndent, List.flatMap_singleton, indents_interleave fits still]
  rw [least, stripIndent_interleave fits still]

include fits still in
/-- The line break that the joined template begins with is that of the first text. -/
theorem dropOpening_interleave :
    dropOpening (interleave texts fields) = interleave (texts.modifyHead dropOpening) fields := by
  obtain _ | ⟨text, texts⟩ := texts
  · simp at fits
  cases fields with
  | nil => rfl
  | cons field fields =>
    rw [interleave, dropOpening_append_inert (still field List.mem_cons_self),
      List.modifyHead_cons, interleave]

end Interleaving

end Text

open Text

/-- The removal of indentation treats the texts of a template as it treats the joined template. -/
theorem outdentAlone_interleave (trims : Trims) {texts fields : List Text}
    (fits : texts.length = fields.length + 1) (still : ∀ field ∈ fields, Inert field) :
    outdentAlone trims (interleave texts fields) =
      interleave (outdentTexts trims texts) fields := by
  have closedFits : (onLast trimClosing texts).length = fields.length + 1 := by
    rw [onLast_length, fits]
  have opened : ∀ {others : List Text}, others.length = fields.length + 1 →
      (if trims.left then (interleave others fields).dropOpening else interleave others fields) =
        interleave (if trims.left then others.modifyHead dropOpening else others) fields := by
    intro others othersFit
    split
    · exact dropOpening_interleave othersFit still
    · rfl
  unfold outdentAlone outdentTexts
  cases trims.right with
  | true =>
    simp only [↓reduceIte, trimClosing_interleave fits still,
      stripShared_interleave closedFits still]
    exact opened (by rw [List.length_map, closedFits])
  | false =>
    simp only [Bool.false_eq_true, ↓reduceIte, stripShared_interleave fits still]
    exact opened (by rw [List.length_map, fits])

/-- Interpolations are not looked into: a template of one segment in which texts stand that are not
empty, do not begin with a blank and end no line, comes out as the segments around these texts do
with the same texts between them. -/
theorem outdent_interleave (trims : Trims) {segments : List Segment} {fields : List Text}
    (fits : segments.length = fields.length + 1) (still : ∀ field ∈ fields, Inert field)
    (cooked : Option Points) :
    (outdent trims [⟨interleave (segments.map Segment.raw) fields, cooked⟩]).map Segment.raw =
      [interleave ((outdent trims segments).map Segment.raw) fields] := by
  have textsFit : (segments.map Segment.raw).length = fields.length + 1 := by
    rw [List.length_map, fits]
  rw [map_raw_outdent, map_raw_outdent, List.map_singleton, outdentTexts_singleton,
    outdentAlone_interleave trims textsFit still]

/-- Two interpolations with nothing between them, one of them with a blank at its end; indentation
in front of the first, and a closing line behind the second. -/
theorem outdent_interleave_adjacent :
    ((outdent {} [⟨"\n    \x7ba\x7dif \n      b\n    ", none⟩]).map Segment.raw =
      [interleave ((outdent {} [⟨"\n    ", none⟩, ⟨[], none⟩, ⟨"\n      b\n    ", none⟩]).map
        Segment.raw) ["\x7ba\x7d", "if "]]) ∧
      (outdent {} [⟨"\n    ", none⟩, ⟨[], none⟩, ⟨"\n      b\n    ", none⟩]).map Segment.raw =
        [[], [], "\n  b".toList] := by
  have still : ∀ field ∈ ["\x7ba\x7d".toList, "if ".toList], Inert field := by
    intro field member
    rcases List.mem_cons.mp member with rfl | member
    · exact ⟨by simp, by simp [isBlank], by simp [isBreak]⟩
    · obtain rfl := List.mem_singleton.mp member
      exact ⟨by simp, by simp [isBlank], by simp [isBreak]⟩
  exact ⟨@outdent_interleave {} [⟨"\n    ", none⟩, ⟨[], none⟩, ⟨"\n      b\n    ", none⟩] _ rfl still
    none, by decide +kernel⟩

end Outdent
