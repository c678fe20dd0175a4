import Outdent.Proofs.Lines

/-!
# Indentation line by line

What the removal of indentation comes to, told in lines and without a scan of characters. A closing
line is a blank last line; the shared width is the least of the widths that are not zero among the
lines behind line feeds, over all texts of a template; each line with such a width loses so many
characters and keeps the rest of its indentation; an empty first line is left out. Main statement:
`outdent_linewise`, the texts of a template come out as this says.
-/
namespace Outdent

namespace Text

/-- The lines of a text that stand behind a line feed. -/
def linesBehind (text : Text) : List Text := (cutAt '\n' text).tail

/-- The widths of the indented lines of a text that stand behind a line feed. -/
def widths (text : Text) : List Nat := (text.linesBehind.map margin).filter (0 < ·)

/-- A text without its last line if that is blank and not the only one. The line feed in front of it
goes too, with a carriage return in front of that. -/
def closeLines (text : Text) : Text :=
  let lines := cutAt '\n' text
  if 1 < lines.length ∧ (lines.getLast?.getD []).all isBlank then
    join ['\n'] (onLast withoutReturn lines.dropLast)
  else text

/-- A line without its first `width` characters, if it is indented. -/
def shortenLine (width : Nat) (line : Text) : Text :=
  if 0 < margin line then line.drop width else line

/-- A text whose indented lines behind line feeds have lost their first `width` characters. -/
def shortenLines (width : Nat) (text : Text) : Text :=
  join ['\n'] ((cutAt '\n' text).take 1 ++ text.linesBehind.map (shortenLine width))

/-- A text without its first line if that is empty, apart from a carriage return, and not the only
one. -/
def openLines (text : Text) : Text :=
  let lines := cutAt '\n' text
  if 1 < lines.length ∧ (lines.head? = some [] ∨ lines.head? = some ['\r']) then
    join ['\n'] text.linesBehind
  else text

end Text

open Text

/-- The least width of an indented line that stands behind a line feed, over all texts, if there is
such a line. -/
def sharedWidth? (texts : List Text) : Option Nat := (texts.flatMap widths).min?

/-- The texts of a template, of which the last has lost its closing line if the trims say so. -/
def closedTexts (trims : Trims) (texts : List Text) : List Text :=
  if trims.right then onLast closeLines texts else texts

/-- The texts of a template without the indentation that their lines share, line by line. -/
def outdentLines (trims : Trims) (texts : List Text) : List Text :=
  let closed := closedTexts trims texts
  let shortened := match sharedWidth? closed with
    | some width => closed.map (shortenLines width)
    | none => closed
  if trims.left then shortened.modifyHead openLines else shortened

namespace Text

/-! ## Texts and their lines -/

/-- A text is a first line and others with line feeds in front of them. -/
theorem exists_lines (text : Text) : ∃ first behind, cutAt '\n' text = first :: behind ∧
    text.linesBehind = behind ∧ join ['\n'] (first :: behind) = text ∧
      ∀ line ∈ first :: behind, '\n' ∉ line := by
  obtain ⟨first, behind, cut⟩ := List.exists_cons_of_ne_nil (cutAt_ne_nil '\n' text)
  refine ⟨first, behind, cut, ?_, ?_, ?_⟩
  · rw [linesBehind, cut, List.tail_cons]
  · rw [← cut, join_cutAt]
  · rw [← cut]
    exact fun line => not_mem_of_mem_cutAt

/-! ## The closing line -/

/-- A text is kept if its last line is the only one or is not blank. -/
theorem trimClosing_of_visible {text last : Text} {front : List Text}
    (cut : cutAt '\n' text = front ++ [last])
    (visible : front = [] ∨ ¬ last.all isBlank = true) : trimClosing text = text := by
  obtain ⟨before, blanks, blank, rfl⟩ | same := trimClosing_cases text
  · -- The blanks behind the last line feed are the last line.
    have blankLine : '\n' ∉ blanks := feed_not_mem_of_unbroken (unbroken_of_isBlank blank)
    rw [cutAt_append, cutAt_of_not_mem blankLine] at cut
    obtain ⟨rfl, ends⟩ := List.append_inj' cut rfl
    obtain rfl := List.singleton_inj.mp ends
    rcases visible with empty | visible
    · exact absurd empty (cutAt_ne_nil _ _)
    · exact absurd (List.all_eq_true.mpr blank) visible
  · exact same

/-- The closing line is a line. -/
theorem closeLines_eq_trimClosing (text : Text) : closeLines text = trimClosing text := by
  obtain empty | ⟨front, last, cut⟩ := List.eq_nil_or_concat (cutAt '\n' text)
  · exact absurd empty (cutAt_ne_nil _ _)
  rw [List.concat_eq_append] at cut
  have whole : join ['\n'] (front ++ [last]) = text := by rw [← cut, join_cutAt]
  simp only [closeLines, cut, List.length_append, List.length_singleton, List.getLast?_concat,
    Option.getD_some, List.dropLast_concat]
  split
  · rename_i closes
    have filled : front ≠ [] := by
      rintro rfl
      exact absurd closes.1 (by decide)
    rw [← whole, trimClosing_join (List.all_eq_true.mp closes.2) filled]
  · rename_i stays
    refine (trimClosing_of_visible cut ?_).symm
    by_cases single : front = []
    · exact Or.inl single
    · have more := List.length_pos_iff.mpr single
      exact Or.inr fun blank => stays ⟨by omega, blank⟩

/-! ## The shared width -/

/-- The widths of the blank runs behind line feeds are those of indented lines. -/
theorem indents_eq_widths (text : Text) : indents text = widths text := by
  obtain ⟨first, behind, _, lines, whole, free⟩ := exists_lines text
  rw [widths, lines, ← whole, indents_join free]

end Text

/-- The width that is taken is the shared one, or zero. -/
theorem leastIndent_eq (texts : List Text) : leastIndent texts = (sharedWidth? texts).getD 0 := by
  have same : indents = widths := funext indents_eq_widths
  rw [leastIndent, same, sharedWidth?]

/-- Every indented line behind a line feed has the shared width, and that is not zero. -/
theorem sharedWidth?_le {texts : List Text} {width : Nat} (found : sharedWidth? texts = some width) :
    0 < width ∧
      ∀ text ∈ texts, ∀ line ∈ text.linesBehind, 0 < margin line → width ≤ margin line := by
  have least := List.min?_eq_some_iff.mp found
  refine ⟨?_, fun text among line member indented => ?_⟩
  · obtain ⟨text, _, inside⟩ := List.mem_flatMap.mp least.1
    exact of_decide_eq_true (List.mem_filter.mp inside).2
  · refine least.2 _ (List.mem_flatMap.mpr ⟨text, among, ?_⟩)
    exact List.mem_filter.mpr ⟨List.mem_map_of_mem member, decide_eq_true indented⟩

namespace Text

/-! ## Shortened lines -/

/-- A line that has the width if it is indented loses it if it is indented. -/
theorem dropIndent_eq_shortenLine {width : Nat} (positive : 0 < width) {line : Text}
    (least : 0 < margin line → width ≤ margin line) :
    dropIndent width line = shortenLine width line := by
  unfold dropIndent shortenLine
  by_cases indented : 0 < margin line
  · rw [if_pos (least indented), if_pos indented]
  · rw [if_neg (by omega), if_neg indented]

/-- The shared width is taken from indented lines. -/
theorem stripIndent_eq_shortenLines {width : Nat} (positive : 0 < width) {text : Text}
    (least : ∀ line ∈ text.linesBehind, 0 < margin line → width ≤ margin line) :
    stripIndent width text = shortenLines width text := by
  obtain ⟨first, behind, cut, lines, whole, free⟩ := exists_lines text
  have each : behind.map (dropIndent width) = behind.map (shortenLine width) :=
    List.map_congr_left fun line member =>
      dropIndent_eq_shortenLine positive (least line (lines ▸ member))
  rw [shortenLines, cut, lines, ← each, ← whole, stripIndent_join width free]
  rfl

/-- A line that loses a part of its indentation keeps the rest. -/
theorem margin_drop_le {width : Nat} {line : Text} (enough : width ≤ margin line) :
    margin (line.drop width) = margin line - width := by
  have split : margin line = width + margin (line.drop width) := by
    have blank : ∀ character ∈ line.take width, isBlank character = true :=
      fun character => isBlank_of_mem_take enough
    have long : (line.take width).length = width := by
      rw [List.length_take]
      exact Nat.min_eq_left (Nat.le_trans enough (margin_le_length line))
    have whole := margin_append_blanks blank (line.drop width)
    rwa [List.take_append_drop, long] at whole
  omega

/-! ## The opening line -/

/-- A line without its carriage return is empty if it is empty or a carriage return. -/
theorem withoutReturn_eq_nil_iff (line : Text) :
    withoutReturn line = [] ↔ line = [] ∨ line = ['\r'] := by
  fun_cases withoutReturn line with
  | case1 => simp
  | case2 => simp
  | case3 character rest other => simpa using other

/-- The line break in front of a text ends an empty line. -/
theorem openLines_eq_dropOpening (text : Text) : openLines text = dropOpening text := by
  obtain ⟨first, behind, cut, lines, whole, free⟩ := exists_lines text
  have opens := hasOpening_join (free first List.mem_cons_self) behind
  rw [whole, withoutReturn_eq_nil_iff] at opens
  simp only [openLines, cut, lines, List.head?_cons, Option.some.injEq, List.length_cons]
  split
  · rename_i begins
    have filled : behind ≠ [] := by
      rintro rfl
      exact absurd begins.1 (by decide)
    rw [← whole, dropOpening_join ((withoutReturn_eq_nil_iff first).mpr begins.2) filled]
  · rename_i stays
    have closed : ¬ hasOpening text = true := by
      intro begins
      obtain ⟨bare, filled⟩ := opens.mp begins
      have more := List.length_pos_iff.mpr filled
      exact stays ⟨by omega, bare⟩
    unfold hasOpening at closed
    unfold dropOpening
    split <;> simp_all

end Text

/-! ## Templates -/

/-- The texts of a template come out as the lines say. -/
theorem outdentTexts_eq_outdentLines (trims : Trims) (texts : List Text) :
    outdentTexts trims texts = outdentLines trims texts := by
  have close : trimClosing = closeLines := (funext closeLines_eq_trimClosing).symm
  have opening : dropOpening = openLines := (funext openLines_eq_dropOpening).symm
  have shorten : ∀ closed : List Text, closed.map (stripIndent (leastIndent closed)) =
      match sharedWidth? closed with
      | some width => closed.map (shortenLines width)
      | none => closed := by
    intro closed
    rw [leastIndent_eq]
    cases found : sharedWidth? closed with
    | none => exact (List.map_congr_left fun text _ => stripIndent_zero text).trans (List.map_id _)
    | some width =>
      obtain ⟨positive, least⟩ := sharedWidth?_le found
      exact List.map_congr_left fun text member =>
        stripIndent_eq_shortenLines positive (least text member)
  unfold outdentTexts outdentLines closedTexts
  simp only [close, opening, shorten]

/-- The texts of a template come out as the lines say: without a closing line, with the shared width
taken from each indented line behind a line feed, which keeps the rest of its indentation, and
without an empty first line, as the trims say. No segment and no resolved form is made or lost. -/
theorem outdent_linewise (trims : Trims) (segments : List Segment) :
    (outdent trims segments).map Segment.raw = outdentLines trims (segments.map Segment.raw) ∧
      (∀ width, sharedWidth? (closedTexts trims (segments.map Segment.raw)) = some width →
        ∀ text ∈ closedTexts trims (segments.map Segment.raw), ∀ line ∈ text.linesBehind,
          0 < margin line → margin (shortenLine width line) + width = margin line) ∧
      (outdent trims segments).length = segments.length ∧
      (outdent trims segments).map (·.cooked.isSome) = segments.map (·.cooked.isSome) := by
  refine ⟨?_, ?_, outdent_length trims segments, outdent_cooked trims segments⟩
  · rw [map_raw_outdent, outdentTexts_eq_outdentLines]
  · intro width found text member line behind indented
    have enough := (sharedWidth?_le found).2 text member line behind indented
    rw [shortenLine, if_pos indented, margin_drop_le enough]
    omega

/-- The least width of an indented line is shared over both texts of a template, whose blank first
and last lines go. -/
theorem outdent_linewise_shared :
    let segments : List Segment := [⟨"\n    foo\n  ".toList, none⟩, ⟨"\n    bar\n  ".toList, none⟩]
    sharedWidth? (closedTexts {} (segments.map Segment.raw)) = some 2 ∧
      (outdent {} segments).map Segment.raw = ["  foo\n".toList, "\n  bar".toList] ∧
      (∀ line ∈ Text.linesBehind "\n    bar".toList,
        0 < margin line → margin (shortenLine 2 line) + 2 = margin line) := by
  intro segments
  have shared : sharedWidth? (closedTexts {} (segments.map Segment.raw)) = some 2 := by
    decide +kernel
  obtain ⟨texts, kept, _, _⟩ := outdent_linewise {} segments
  refine ⟨shared, texts.trans (by decide +kernel), kept 2 shared _ (by decide +kernel)⟩

end Outdent
