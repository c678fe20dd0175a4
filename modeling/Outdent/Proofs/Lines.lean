import Outdent.Proofs.Texts

/-!
# Lines of a text

A text is its lines with line feeds between them, and what the removal of indentation does to the
text it does to the lines: a line behind a line feed loses its blanks if it has enough of them
(`stripIndent_join`), and a closing line and a line break in front are lines that are left out
(`trimClosing_join`, `dropOpening_join`). A carriage return in front of a line feed is the last
character of its line.
-/
namespace Outdent.Text

/-! ## Pieces -/

section Pieces

variable {separator : Char}

/-- A text without the separator is one piece. -/
theorem cutAt_of_not_mem {text : Text} (free : separator ∉ text) :
    cutAt separator text = [text] := by
  induction text with
  | nil => rfl
  | cons character rest ih =>
    have other : character ≠ separator := fun same => free (same ▸ List.mem_cons_self)
    rw [cutAt, ih fun member => free (.tail _ member)]
    simp [other]

/-- A text is cut at a separator in it. -/
theorem cutAt_append (left right : Text) :
    cutAt separator (left ++ separator :: right) =
      cutAt separator left ++ cutAt separator right := by
  induction left with
  | nil =>
    obtain ⟨piece, pieces, same⟩ := List.exists_cons_of_ne_nil (cutAt_ne_nil separator right)
    simp [cutAt, same]
  | cons character left ih =>
    obtain ⟨piece, pieces, same⟩ := List.exists_cons_of_ne_nil (cutAt_ne_nil separator left)
    rw [List.cons_append, cutAt, cutAt, ih, same, List.cons_append]
    by_cases cut : character = separator <;> simp [cut]

/-- No piece holds the separator. -/
theorem not_mem_of_mem_cutAt {text piece : Text} (member : piece ∈ cutAt separator text) :
    separator ∉ piece := by
  induction text generalizing piece with
  | nil =>
    rw [cutAt, List.mem_singleton] at member
    simp [member]
  | cons character rest ih =>
    obtain ⟨first, pieces, same⟩ := List.exists_cons_of_ne_nil (cutAt_ne_nil separator rest)
    rw [same] at ih
    simp only [cutAt, same] at member
    split at member
    · obtain rfl | member := List.mem_cons.mp member
      · simp
      · exact ih member
    · rename_i other
      obtain rfl | member := List.mem_cons.mp member
      · have different : separator ≠ character := fun same => other (by simp [same])
        rw [List.mem_cons, not_or]
        exact ⟨different, ih List.mem_cons_self⟩
      · exact ih (.tail _ member)

/-- A character of a piece is one of the text. -/
theorem mem_of_mem_cutAt {text piece : Text} (member : piece ∈ cutAt separator text)
    {character : Char} (inside : character ∈ piece) : character ∈ text := by
  induction text generalizing piece with
  | nil =>
    rw [cutAt, List.mem_singleton] at member
    simp [member] at inside
  | cons first rest ih =>
    obtain ⟨next, pieces, same⟩ := List.exists_cons_of_ne_nil (cutAt_ne_nil separator rest)
    rw [same] at ih
    simp only [cutAt, same] at member
    split at member
    · obtain rfl | member := List.mem_cons.mp member
      · simp at inside
      · exact .tail _ (ih member inside)
    · obtain rfl | member := List.mem_cons.mp member
      · obtain rfl | inside := List.mem_cons.mp inside
        · exact List.mem_cons_self
        · exact .tail _ (ih List.mem_cons_self inside)
      · exact .tail _ (ih (.tail _ member) inside)

/-- Pieces in front of others are joined in front of them. -/
theorem join_cons {α : Type} {separator : List α} (piece : List α) {pieces : List (List α)}
    (filled : pieces ≠ []) :
    join separator (piece :: pieces) = piece ++ (separator ++ join separator pieces) := by
  obtain ⟨next, others, rfl⟩ := List.exists_cons_of_ne_nil filled
  rw [join, List.append_assoc]

/-- A last piece is joined behind the others. -/
theorem join_append {α : Type} {separator : List α} {pieces : List (List α)}
    (filled : pieces ≠ []) (last : List α) :
    join separator (pieces ++ [last]) = join separator pieces ++ (separator ++ last) := by
  induction pieces with
  | nil => exact absurd rfl filled
  | cons piece pieces ih =>
    by_cases single : pieces = []
    · rw [single]
      simp [join]
    · rw [List.cons_append, join_cons _ (by simp), join_cons _ single, ih single]
      simp

/-- Pieces whose items are exchanged are joined with the items of the separator exchanged. -/
theorem map_join {α β : Type} (view : α → β) (separator : List α) (pieces : List (List α)) :
    (join separator pieces).map view = join (separator.map view) (pieces.map (List.map view)) := by
  induction pieces with
  | nil => rfl
  | cons piece pieces ih =>
    by_cases single : pieces = []
    · rw [single]
      rfl
    · have filled : pieces.map (List.map view) ≠ [] := by simpa using single
      rw [join_cons _ single, List.map_cons, join_cons _ filled, List.map_append, List.map_append,
        ih]

/-- Joined pieces are cut into these again. -/
theorem cutAt_join {pieces : List Text} (filled : pieces ≠ [])
    (free : ∀ piece ∈ pieces, separator ∉ piece) :
    cutAt separator (join [separator] pieces) = pieces := by
  induction pieces with
  | nil => exact absurd rfl filled
  | cons piece pieces ih =>
    have here := cutAt_of_not_mem (free piece List.mem_cons_self)
    by_cases single : pieces = []
    · rw [single, join, here]
    · rw [join_cons _ single, List.singleton_append, cutAt_append, here,
        ih single fun later member => free later (.tail _ member)]
      rfl

end Pieces

/-! ## Lines -/

/-- A line without `width` blanks in front, if it has as many. -/
def dropIndent (width : Nat) (line : Text) : Text :=
  if width ≤ margin line then line.drop width else line

section Lines

variable {line : Text} {lines : List Text}

/-- What is behind a line feed does not indent the line in front of it. -/
theorem margin_append_feed (line rest : Text) : margin (line ++ '\n' :: rest) = margin line := by
  induction line with
  | nil => rfl
  | cons character line ih =>
    simp only [margin, List.cons_append, List.takeWhile_cons] at ih ⊢
    split
    · rw [List.length_cons, List.length_cons, ih]
    · rfl

/-- A text is indented as its first line is. -/
theorem margin_join (line : Text) (lines : List Text) :
    margin (join ['\n'] (line :: lines)) = margin line := by
  by_cases single : lines = []
  · rw [single, join]
  · rw [join_cons _ single]
    exact margin_append_feed line _

/-- The widths that are measured are those of the indented lines behind line feeds. -/
theorem indents_join {first : Text} (free : ∀ line ∈ first :: lines, '\n' ∉ line) :
    indents (join ['\n'] (first :: lines)) = (lines.map margin).filter (0 < ·) := by
  induction lines generalizing first with
  | nil =>
    have alone := indents_append_of_not_mem (free first List.mem_cons_self) []
    rw [List.append_nil] at alone
    rw [join, alone]
    rfl
  | cons next others ih =>
    have later := ih fun line member => free line (.tail _ member)
    rw [join_cons _ (List.cons_ne_nil _ _),
      indents_append_of_not_mem (free first List.mem_cons_self), List.singleton_append, indents,
      if_pos rfl, margin_join, later, List.map_cons, List.filter_cons]
    by_cases indented : margin next = 0
    · simp [indented]
    · simp [indented, Nat.pos_of_ne_zero indented]

/-- The indentation of a line that stands behind a line feed and is indented is measured. -/
theorem margin_mem_indents {first : Text} (free : ∀ line ∈ first :: lines, '\n' ∉ line)
    (member : line ∈ lines) (indented : 0 < margin line) :
    margin line ∈ indents (join ['\n'] (first :: lines)) := by
  rw [indents_join free]
  exact List.mem_filter.mpr ⟨List.mem_map_of_mem member, decide_eq_true indented⟩

/-- Blanks are taken from the lines behind line feeds that have enough of them. -/
theorem stripIndentFrom_join (width : Nat) {first : Text}
    (free : ∀ line ∈ first :: lines, '\n' ∉ line) {skip : Nat} (short : skip ≤ first.length) :
    stripIndentFrom width skip (join ['\n'] (first :: lines)) =
      join ['\n'] (first.drop skip :: lines.map (dropIndent width)) := by
  induction lines generalizing first skip with
  | nil =>
    have here := stripIndentFrom_append_of_not_mem (free first List.mem_cons_self) width [] short
    rw [List.append_nil] at here
    exact here.trans (List.append_nil _)
  | cons next others ih =>
    have fits : (if width ≤ margin next then width else 0) ≤ next.length := by
      split
      · rename_i enough
        exact Nat.le_trans enough (margin_le_length next)
      · exact Nat.zero_le _
    have dropped : next.drop (if width ≤ margin next then width else 0) =
        dropIndent width next := by
      unfold dropIndent
      split <;> rfl
    have behind := ih (fun line member => free line (.tail _ member)) fits
    rw [join_cons _ (List.cons_ne_nil _ _),
      stripIndentFrom_append_of_not_mem (free first List.mem_cons_self) width _ short,
      List.singleton_append, stripIndentFrom, if_pos rfl, margin_join, behind, dropped,
      List.map_cons, join_cons _ (List.cons_ne_nil _ _)]
    rfl

/-- The same for a whole text. -/
theorem stripIndent_join (width : Nat) {first : Text}
    (free : ∀ line ∈ first :: lines, '\n' ∉ line) :
    stripIndent width (join ['\n'] (first :: lines)) =
      join ['\n'] (first :: lines.map (dropIndent width)) :=
  stripIndentFrom_join width free (Nat.zero_le _)

/-- A carriage return at the end of a text is one at the end of its last line. -/
theorem withoutReturn_append_feed (line rest : Text) :
    withoutReturn (line ++ '\n' :: rest) = line ++ '\n' :: withoutReturn rest := by
  induction line with
  | nil =>
    rw [List.nil_append, List.nil_append, withoutReturn]
    intro same
    exact absurd same (by decide)
  | cons character line ih =>
    rw [List.cons_append, withoutReturn, ih, List.cons_append]
    intro _ empty
    simp at empty

/-- The same for lines. -/
theorem withoutReturn_join (lines : List Text) :
    withoutReturn (join ['\n'] lines) = join ['\n'] (onLast withoutReturn lines) := by
  fun_induction onLast withoutReturn lines with
  | case1 => rfl
  | case2 line => rfl
  | case3 line next rest ih =>
    have filled : onLast withoutReturn (next :: rest) ≠ [] := by
      rw [ne_eq, ← List.length_eq_zero_iff, onLast_length]
      simp
    rw [join_cons _ (List.cons_ne_nil _ _), join_cons _ filled, List.singleton_append,
      withoutReturn_append_feed, ih]
    rfl

/-- A blank last line is cut off with the line break in front of it. -/
theorem trimClosing_join {blanks : Text} (blank : ∀ character ∈ blanks, isBlank character = true)
    (filled : lines ≠ []) :
    trimClosing (join ['\n'] (lines ++ [blanks])) = join ['\n'] (onLast withoutReturn lines) := by
  rw [join_append filled, List.singleton_append, trimClosing_append blank, withoutReturn_join]

/-- A text begins with a line break if its first line, without a carriage return, is empty and
others follow. -/
theorem hasOpening_join {first : Text} (free : '\n' ∉ first) (lines : List Text) :
    hasOpening (join ['\n'] (first :: lines)) = true ↔ withoutReturn first = [] ∧ lines ≠ [] := by
  by_cases single : lines = []
  · rw [single, join]
    refine iff_of_false ?_ (by simp)
    unfold hasOpening
    split <;> simp_all
  · rw [join_cons _ single, List.singleton_append]
    cases first with
    | nil => simp [hasOpening, withoutReturn, single]
    | cons character behind =>
      simp only [List.mem_cons, not_or] at free
      cases behind with
      | nil =>
        by_cases returns : character = '\r'
        · simp [returns, hasOpening, withoutReturn, single]
        · have kept : withoutReturn [character] ≠ [] := by
            simp [withoutReturn, returns]
          refine iff_of_false ?_ fun both => kept both.1
          rw [List.singleton_append]
          unfold hasOpening
          split <;> simp_all
      | cons next rest =>
        have kept : withoutReturn (character :: next :: rest) ≠ [] := by simp [withoutReturn]
        simp only [List.mem_cons, not_or] at free
        refine iff_of_false ?_ fun both => kept both.1
        rw [List.cons_append, List.cons_append]
        unfold hasOpening
        split <;> simp_all

/-- An empty first line is dropped with the line break behind it. -/
theorem dropOpening_join {first : Text} (bare : withoutReturn first = []) (filled : lines ≠ []) :
    dropOpening (join ['\n'] (first :: lines)) = join ['\n'] lines := by
  rw [join_cons _ filled, List.singleton_append]
  unfold withoutReturn at bare
  split at bare
  · rfl
  · rfl
  · cases bare

end Lines

end Outdent.Text
