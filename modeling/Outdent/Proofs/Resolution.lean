import Outdent.Proofs.PointLines
import Outdent.Proofs.Readings
import Outdent.Proofs.Rewritten

/-!
# Resolved text under edits

The steps of the removal of indentation are measured on the written text of a segment and taken on
its resolved text too. They do to one what they do to the other if both have the same lines: a line
that is `Steady` reads as one line, blanks in front of it are read as they are, and the carriage
return in front of its line break is no part of what it reads as. Segments that are read line by
line stay so under every step (`ReadsAs.trimRight`, `ReadsAs.stripIndent`, `ReadsAs.trimLeft`).
Escapes that make a line break, take one away or indent a line are what `Tame` excludes; they do set
the two texts apart. Text without escapes is tame (`Tame.of_not_mem`). Main statements:
`readsAs_outdent`, and `cooked_outdent`, the resolved forms of tame template literals are what their
texts read as after the removal of indentation.
-/
namespace Outdent.Template

open Source Text

/-! ## Braces of a form -/

section Singled

/-- Points are indented as they are without their doubled braces. -/
theorem margin_singleBraces (points : Points) : (singleBraces points).margin = points.margin := by
  induction points with
  | nil => rfl
  | cons point rest ih =>
    by_cases blank : Points.isBlank point = true
    · have noBrace : point ≠ .char '\x7b' ∧ point ≠ .char '\x7d' := by
        constructor <;> rintro rfl <;> exact absurd blank (by decide)
      rw [singleBraces_cons noBrace, Points.margin, Points.margin,
        List.takeWhile_cons_of_pos blank, List.takeWhile_cons_of_pos blank, List.length_cons,
        List.length_cons]
      exact congrArg (· + 1) ih
    · have first := head?_singleBraces (point :: rest)
      obtain ⟨others, same⟩ := List.head?_eq_some_iff.mp first
      rw [same, Points.margin, Points.margin, List.takeWhile_cons_of_neg blank,
        List.takeWhile_cons_of_neg blank]

/-- A carriage return at the end is left out before or after doubled braces are made single. -/
theorem withoutReturn_singleBraces (points : Points) :
    (singleBraces points).withoutReturn = singleBraces points.withoutReturn := by
  unfold Points.withoutReturn
  rw [getLast?_singleBraces]
  split
  · rename_i returns
    obtain ⟨front, rfl⟩ := List.getLast?_eq_some_iff.mp returns
    rw [singleBraces_append (by decide), List.dropLast_concat]
    exact List.dropLast_concat
  · rfl

variable (form : Form)

/-- Points begin with as many blanks as their form reads. -/
theorem margin_singled (points : Points) : (singled form points).margin = points.margin := by
  unfold singled
  split
  · exact margin_singleBraces points
  · rfl

/-- A carriage return at the end is left out before or after braces are read. -/
theorem withoutReturn_singled (points : Points) :
    (singled form points).withoutReturn = singled form points.withoutReturn := by
  unfold singled
  split
  · exact withoutReturn_singleBraces points
  · rfl

/-- A blank in front is read as it is. -/
theorem singled_cons {blank : Char} (isBlank : isBlank blank = true) (rest : Points) :
    singled form (.char blank :: rest) = .char blank :: singled form rest := by
  unfold singled
  split
  · refine singleBraces_cons ⟨fun same => ?_, fun same => ?_⟩ rest
    · exact ne_of_isBlank isBlank rfl (Point.char.inj same)
    · exact ne_of_isBlank isBlank rfl (Point.char.inj same)
  · rfl

/-- A line feed that is read was there before. -/
theorem feed_mem_of_mem_singled {points : Points} (member : .char '\n' ∈ singled form points) :
    .char '\n' ∈ points := by
  unfold singled at member
  split at member
  · exact mem_of_mem_singleBraces (by decide) member
  · exact member

end Singled

/-! ## Steady lines -/

/-- A text is indented as much without the carriage return that it may end with. -/
theorem margin_withoutReturn (text : Text) : margin (withoutReturn text) = margin text := by
  fun_induction withoutReturn text with
  | case1 => rfl
  | case2 => rfl
  | case3 character rest _ ih =>
    simp only [margin, List.takeWhile_cons] at ih ⊢
    split
    · rw [List.length_cons, List.length_cons, ih]
    · rfl

/-- A blank in front stays when the carriage return at the end is left out. -/
theorem withoutReturn_cons_of_isBlank {blank : Char} (isBlank : isBlank blank = true)
    (rest : Text) : withoutReturn (blank :: rest) = blank :: withoutReturn rest := by
  rw [withoutReturn]
  exact fun returns => absurd returns (ne_of_isBlank isBlank rfl)

/-- A line that reads as one line: no line feed is in it, and outside of raw literals no escape in
it stands for a line break or takes the line feed behind it away. -/
structure Steady [CharacterNames] (form : Form) (line : Text) : Prop where
  /-- There is no line feed. -/
  single : '\n' ∉ line
  /-- Outside of raw literals escapes keep away from line breaks. -/
  plain : form.isRaw = false → '\r' ∉ withoutReturn line ∧ Unescaped (withoutReturn line) ∧
    ∀ read ∈ resolve (withoutReturn line), .char '\n' ∉ read ∧ .char '\r' ∉ read

/-- A line that is not indented does not read as one that is. -/
def Flush [CharacterNames] (form : Form) (line : Text) : Prop :=
  margin line = 0 → ∀ read, readLine form line = some read → read.margin = 0

section Steady

variable [CharacterNames] {form : Form} {line : Text} {read : Points}

/-- An empty line reads as one. -/
@[simp] theorem readLine_nil (form : Form) : readLine form [] = some [] := by
  unfold readLine singled
  split <;> split <;> rfl

/-- A blank in front of a line is read in front of it. -/
theorem readLine_cons (form : Form) {blank : Char} (isBlank : isBlank blank = true)
    (rest : Text) : readLine form (blank :: rest) = (readLine form rest).map (.char blank :: ·) := by
  have plain : blank ≠ '\\' := ne_of_isBlank isBlank rfl
  unfold readLine
  split
  · exact congrArg some (singled_cons form isBlank rest.points)
  · rw [withoutReturn_cons_of_isBlank isBlank, resolve_cons plain, Option.map_map, Option.map_map]
    congr 1
    funext text
    exact singled_cons form isBlank text

/-- Blanks read as they are. -/
theorem readLine_of_isBlank (form : Form) {blanks : Text}
    (blank : ∀ character ∈ blanks, isBlank character = true) :
    readLine form blanks = some blanks.points := by
  induction blanks with
  | nil => exact readLine_nil form
  | cons first rest ih =>
    rw [readLine_cons form (blank first List.mem_cons_self),
      ih fun character member => blank character (.tail _ member)]
    rfl

/-- A steady line reads as one without a line feed. -/
theorem Steady.feed_not_mem (steady : Steady form line) (found : readLine form line = some read) :
    .char '\n' ∉ read := by
  unfold readLine at found
  obtain ⟨points, inner, rfl⟩ := Option.map_eq_some_iff.mp found
  intro feeds
  have inside := feed_mem_of_mem_singled form feeds
  cases raw : form.isRaw with
  | true =>
    simp only [raw, ↓reduceIte, Option.some.injEq] at inner
    obtain ⟨feed, member, same⟩ := List.mem_map.mp (inner ▸ inside)
    exact steady.single (Point.char.inj same ▸ member)
  | false =>
    simp only [raw, Bool.false_eq_true, ↓reduceIte] at inner
    exact ((steady.plain raw).2.2 points inner).1 inside

/-- A steady line has no carriage return but one at its end, without which it is read without one.
-/
theorem Steady.withoutReturn (steady : Steady form line) :
    Steady form (withoutReturn line) ∧
      readLine form (withoutReturn line) = (readLine form line).map Points.withoutReturn := by
  have single : '\n' ∉ Text.withoutReturn line :=
    fun member => steady.single ((withoutReturn_sublist line).subset member)
  cases raw : form.isRaw with
  | true =>
    refine ⟨⟨single, fun plain => by simp [raw] at plain⟩, ?_⟩
    simp [readLine, raw, withoutReturn_singled]
  | false =>
    obtain ⟨none, unescaped, unbroken⟩ := steady.plain raw
    have kept : Text.withoutReturn (Text.withoutReturn line) = Text.withoutReturn line :=
      withoutReturn_of_getLast?_ne fun ends => none (List.mem_of_getLast? ends)
    refine ⟨⟨single, fun _ => by rw [kept]; exact ⟨none, unescaped, unbroken⟩⟩, ?_⟩
    simp only [readLine, raw, Bool.false_eq_true, ↓reduceIte, kept]
    cases found : resolve (Text.withoutReturn line) with
    | none => rfl
    | some points =>
      have plain : points.getLast? ≠ some (.char '\r') := fun ends =>
        (unbroken points found).2 (List.mem_of_getLast? ends)
      rw [Option.map_some, Option.map_some, withoutReturn_singled, Points.withoutReturn,
        if_neg plain]

/-- A steady line is steady without a blank in front of it. -/
theorem Steady.tail {blank : Char} (isBlank : isBlank blank = true)
    (steady : Steady form (blank :: line)) : Steady form line := by
  have plain : blank ≠ '\\' := ne_of_isBlank isBlank rfl
  refine ⟨fun member => steady.single (.tail _ member), fun cooked => ?_⟩
  obtain ⟨none, unescaped, unbroken⟩ := steady.plain cooked
  rw [withoutReturn_cons_of_isBlank isBlank] at none unescaped unbroken
  refine ⟨fun member => none (.tail _ member), (unescaped_cons plain).mp unescaped, ?_⟩
  intro read found
  have front : resolve (blank :: Text.withoutReturn line) = some (.char blank :: read) := by
    rw [resolve_cons plain, Option.mem_def.mp found]
    rfl
  obtain ⟨feed, returns⟩ := unbroken (.char blank :: read) front
  exact ⟨fun member => feed (.tail _ member), fun member => returns (.tail _ member)⟩

/-- A steady line is steady without blanks in front of it, and these are read as they are. -/
theorem Steady.drop (steady : Steady form line) {width : Nat} (enough : width ≤ margin line) :
    Steady form (line.drop width) ∧
      readLine form line =
        (readLine form (line.drop width)).map (Text.points (line.take width) ++ ·) := by
  induction width generalizing line with
  | zero => exact ⟨steady, by simp [Text.points]⟩
  | succ width ih =>
    cases line with
    | nil => simp [margin] at enough
    | cons first rest =>
      rw [margin, List.takeWhile_cons] at enough
      split at enough
      · rename_i blank
        rw [List.length_cons] at enough
        obtain ⟨inner, same⟩ := ih (steady.tail blank) (Nat.le_of_succ_le_succ enough)
        refine ⟨inner, ?_⟩
        rw [readLine_cons form blank, same, Option.map_map]
        rfl
      · simp at enough

/-- A line that does not read as an indented one does not without its carriage return. -/
theorem Flush.withoutReturn (flush : Flush form line) (steady : Steady form line) :
    Flush form (withoutReturn line) := by
  intro none read found
  rw [steady.withoutReturn.2] at found
  obtain ⟨whole, here, rfl⟩ := Option.map_eq_some_iff.mp found
  rw [margin_withoutReturn] at none
  rw [Points.margin_withoutReturn]
  exact flush none whole here

/-- A line loses its indentation before or after it is read. -/
theorem readLine_dropIndent (steady : Steady form line) (flush : Flush form line) {width : Nat}
    (least : 0 < margin line → width ≤ margin line) :
    Steady form (dropIndent width line) ∧
      readLine form (dropIndent width line) =
        (readLine form line).map (Points.dropIndent width) := by
  unfold dropIndent Points.dropIndent
  split
  · rename_i enough
    obtain ⟨inner, same⟩ := steady.drop enough
    refine ⟨inner, ?_⟩
    rw [same, Option.map_map]
    cases readLine form (line.drop width) with
    | none => rfl
    | some read =>
      have length : (line.take width).length = width := by
        rw [List.length_take]
        exact Nat.min_eq_left (Nat.le_trans enough (margin_le_length line))
      have wide : width ≤ Points.margin (Text.points (line.take width) ++ read) := by
        rw [Points.margin_append_blanks fun blank => isBlank_of_mem_take enough, length]
        exact Nat.le_add_right _ _
      have points : (Text.points (line.take width)).length = width :=
        (List.length_map _).trans length
      simp [wide, points]
  · rename_i short
    have none : margin line = 0 := by
      by_contra indented
      exact short (least (Nat.pos_of_ne_zero indented))
    refine ⟨steady, ?_⟩
    cases found : readLine form line with
    | none => rfl
    | some read =>
      have flat := flush none read found
      have wide : ¬ width ≤ read.margin := by omega
      rw [Option.map_some, if_neg wide]

end Steady

/-! ## Edited lines -/

/-- Lines that are edited before or after they are read. -/
theorem mapM_comm {read : Text → Option Points} {edit : Text → Text} {other : Points → Points}
    {lines : List Text}
    (same : ∀ line ∈ lines, read (edit line) = (read line).map other) :
    (lines.map edit).mapM read = (lines.mapM read).map (List.map other) := by
  rw [mapM_map, map_mapM]
  induction lines with
  | nil => rfl
  | cons line lines ih =>
    rw [mapM_cons, mapM_cons, same line List.mem_cons_self,
      ih fun later member => same later (.tail _ member)]

/-- A last line that is edited before or after it is read. -/
theorem mapM_onLast {read : Text → Option Points} {edit : Text → Text} {other : Points → Points}
    {lines : List Text} (same : ∀ line ∈ lines, read (edit line) = (read line).map other) :
    (onLast edit lines).mapM read = (lines.mapM read).map (onLast other) := by
  fun_induction onLast edit lines with
  | case1 => rfl
  | case2 line =>
    rw [mapM_cons, mapM_cons, same line List.mem_cons_self]
    cases read line <;> rfl
  | case3 line next rest ih =>
    rw [mapM_cons, mapM_cons, ih fun later member => same later (.tail _ member)]
    cases read line with
    | none => rfl
    | some first =>
      cases found : (next :: rest).mapM read with
      | none => rfl
      | some others =>
        cases forall₂_of_mapM found
        rfl

/-- A line behind the first one, where the last is edited, was behind the first one. -/
theorem mem_tail_onLast {edit : Text → Text} {lines : List Text} {line : Text}
    (member : line ∈ (onLast edit lines).tail) :
    line ∈ lines.tail ∨ ∃ whole ∈ lines.tail, edit whole = line := by
  match lines with
  | [] => simp [onLast] at member
  | [_] => simp [onLast] at member
  | _ :: next :: rest => exact mem_onLast member

/-! ## Segments that are read line by line -/

/-- A segment has steady lines, and it reads as these do, one by one. -/
structure ReadsAs [CharacterNames] (form : Form) (lines : List Text) (segment : Segment) :
    Prop where
  /-- There is a line. -/
  filled : lines ≠ []
  /-- The lines are written with line feeds between them. -/
  raw : segment.raw = join ['\n'] lines
  /-- Every line is steady. -/
  steady : ∀ line ∈ lines, Steady form line
  /-- What the lines read as has line feeds between them too. -/
  cooked : segment.cooked = (lines.mapM (readLine form)).map (join [.char '\n'])

section ReadsAs

variable [CharacterNames] {form : Form} {lines : List Text} {segment : Segment}

/-- What steady lines read as has no line feeds. -/
theorem feed_not_mem_of_mapM {reads : List Points} (steady : ∀ line ∈ lines, Steady form line)
    (found : lines.mapM (readLine form) = some reads) : ∀ read ∈ reads, .char '\n' ∉ read := by
  have each := forall₂_of_mapM found
  clear found
  induction each with
  | nil => simp
  | cons here behind ih =>
    intro other member
    obtain rfl | member := List.mem_cons.mp member
    · exact (steady _ List.mem_cons_self).feed_not_mem here
    · exact ih (fun later among => steady later (.tail _ among)) other member

/-- The lines are those of the written text. -/
theorem ReadsAs.cutAt (reads : ReadsAs form lines segment) :
    cutAt '\n' segment.raw = lines := by
  rw [reads.raw]
  exact cutAt_join reads.filled fun line member => (reads.steady line member).single

/-- A segment that is read line by line is so without its closing line, and as many lines that are
not indented do not read as ones that are. -/
theorem ReadsAs.trimRight (reads : ReadsAs form lines segment)
    (flush : ∀ line ∈ lines.tail, Flush form line) :
    ∃ others, ReadsAs form others segment.trimRight ∧ ∀ line ∈ others.tail, Flush form line := by
  unfold Segment.trimRight
  split
  · rename_i width found
    obtain ⟨before, blanks, blank, same⟩ := exists_of_closingWidth? found
    have blankLine : '\n' ∉ blanks :=
      feed_not_mem_of_unbroken (unbroken_of_isBlank blank)
    have front := cutAt_ne_nil '\n' before
    have split : lines = Text.cutAt '\n' before ++ [blanks] := by
      rw [← reads.cutAt, same, cutAt_append, cutAt_of_not_mem blankLine]
    subst split
    generalize Text.cutAt '\n' before = lines at front reads flush
    have steady : ∀ line ∈ lines, Steady form line :=
      fun line member => reads.steady line (List.mem_append_left _ member)
    have wide : width = blanks.length := by
      rw [reads.raw, join_append front, List.singleton_append, closingWidth?_append blank] at found
      exact (Option.some.inj found).symm
    have closes : dropClosing width (join ['\n'] (lines ++ [blanks])) =
        join ['\n'] (onLast withoutReturn lines) := by
      rw [← trimClosing_join blank front, trimClosing, join_append front, List.singleton_append,
        closingWidth?_append blank, wide]
    refine ⟨onLast withoutReturn lines, ⟨?_, ?_, ?_, ?_⟩, ?_⟩
    · rw [ne_eq, ← List.length_eq_zero_iff, onLast_length, List.length_eq_zero_iff]
      exact front
    · rw [Segment.map, reads.raw, closes]
    · intro line member
      obtain among | ⟨whole, among, rfl⟩ := mem_onLast member
      · exact steady line among
      · exact (steady whole among).withoutReturn.1
    · rw [Segment.map, reads.cooked, mapM_concat (readLine_of_isBlank form blank),
        mapM_onLast fun line member => (steady line member).withoutReturn.2]
      cases found : lines.mapM (readLine form) with
      | none => rfl
      | some others =>
        rw [wide]
        exact congrArg some (Points.dropClosing_join blank (filled_of_mapM front found))
    · have behind : (lines ++ [blanks]).tail = lines.tail ++ [blanks] :=
        List.tail_append_of_ne_nil front
      intro line member
      obtain among | ⟨whole, among, rfl⟩ := mem_tail_onLast member
      · exact flush line (behind ▸ List.mem_append_left _ among)
      · exact (flush whole (behind ▸ List.mem_append_left _ among)).withoutReturn
          (steady whole (List.mem_of_mem_tail among))
  · exact ⟨lines, reads, flush⟩

/-- A segment that is read line by line is so without indentation that all its indented lines have.
-/
theorem ReadsAs.stripIndent (reads : ReadsAs form lines segment)
    (flush : ∀ line ∈ lines.tail, Flush form line) {width : Nat}
    (least : ∀ indent ∈ indents segment.raw, width ≤ indent) :
    ∃ others, ReadsAs form others (segment.stripIndent width) := by
  obtain ⟨first, rest, rfl⟩ := List.exists_cons_of_ne_nil reads.filled
  have free : ∀ line ∈ first :: rest, '\n' ∉ line := fun line member =>
    (reads.steady line member).single
  have each : ∀ line ∈ rest, Steady form (dropIndent width line) ∧
      readLine form (dropIndent width line) =
        (readLine form line).map (Points.dropIndent width) := by
    intro line member
    refine readLine_dropIndent (reads.steady line (.tail _ member)) (flush line member) ?_
    intro indented
    apply least
    rw [reads.raw]
    exact margin_mem_indents free member indented
  refine ⟨first :: rest.map (dropIndent width), ⟨List.cons_ne_nil _ _, ?_, ?_, ?_⟩⟩
  · rw [Segment.stripIndent, Segment.map, reads.raw]
    exact stripIndent_join width free
  · intro line member
    obtain rfl | member := List.mem_cons.mp member
    · exact reads.steady line List.mem_cons_self
    · obtain ⟨whole, among, rfl⟩ := List.mem_map.mp member
      exact (each whole among).1
  · rw [Segment.stripIndent, Segment.map, reads.cooked, mapM_cons, mapM_cons,
      mapM_comm fun line member => (each line member).2]
    cases here : readLine form first with
    | none => rfl
    | some read =>
      cases behind : rest.mapM (readLine form) with
      | none => rfl
      | some others =>
        have found : (first :: rest).mapM (readLine form) = some (read :: others) := by
          rw [mapM_cons, here, behind]
          rfl
        have free := feed_not_mem_of_mapM reads.steady found
        exact congrArg some (Points.stripIndent_join width free)

/-- A segment that is read line by line is so without the line break that it begins with. -/
theorem ReadsAs.trimLeft (reads : ReadsAs form lines segment) :
    ∃ others, ReadsAs form others segment.trimLeft := by
  unfold Segment.trimLeft
  split
  · rename_i opens
    obtain ⟨first, rest, rfl⟩ := List.exists_cons_of_ne_nil reads.filled
    rw [reads.raw, hasOpening_join (reads.steady first List.mem_cons_self).single] at opens
    obtain ⟨bare, filled⟩ := opens
    obtain ⟨read, here, empty⟩ : ∃ read, readLine form first = some read ∧
        read.withoutReturn = [] := by
      have same := (reads.steady first List.mem_cons_self).withoutReturn.2
      rw [bare, readLine_nil] at same
      obtain ⟨read, here, empty⟩ := Option.map_eq_some_iff.mp same.symm
      exact ⟨read, here, empty⟩
    refine ⟨rest, ⟨filled, ?_, fun line member => reads.steady line (.tail _ member), ?_⟩⟩
    · rw [Segment.map, reads.raw, dropOpening_join bare filled]
    · rw [Segment.map, reads.cooked, mapM_cons, here, Option.bind_some]
      cases found : rest.mapM (readLine form) with
      | none => rfl
      | some others =>
        exact congrArg some (Points.dropOpening_join empty (filled_of_mapM filled found))
  · exact ⟨lines, reads⟩

end ReadsAs

/-! ## Templates -/

/-- The indentation that segments share is no more than that of any of their lines. -/
theorem commonIndent_le {segments : List Segment} {segment : Segment} (member : segment ∈ segments)
    {indent : Nat} (inside : indent ∈ indents segment.raw) : commonIndent segments ≤ indent := by
  have among : indent ∈ segments.flatMap fun segment => indents segment.raw :=
    List.mem_flatMap.mpr ⟨segment, member, inside⟩
  unfold commonIndent
  cases found : (segments.flatMap fun segment => indents segment.raw).min? with
  | none =>
    rw [List.min?_eq_none_iff.mp found] at among
    simp at among
  | some least => exact (List.min?_eq_some_iff.mp found).2 indent among

/-- Segments that are read line by line, where no line that is not indented reads as one that is,
are so without their indentation. -/
theorem readsAs_outdent [CharacterNames] {form : Form} {segments : List Segment} (trims : Trims)
    (reads : ∀ segment ∈ segments, ∃ lines, ReadsAs form lines segment ∧
      ∀ line ∈ lines.tail, Flush form line) :
    ∀ segment ∈ outdent trims segments, ∃ lines, ReadsAs form lines segment := by
  have closed : ∀ segment ∈ (if trims.right then onLast Segment.trimRight segments else segments),
      ∃ lines, ReadsAs form lines segment ∧ ∀ line ∈ lines.tail, Flush form line := by
    intro segment member
    split at member
    · obtain member | ⟨whole, among, rfl⟩ := mem_onLast member
      · exact reads segment member
      · obtain ⟨lines, read, flush⟩ := reads whole among
        exact read.trimRight flush
    · exact reads segment member
  unfold outdent
  generalize (if trims.right then onLast Segment.trimRight segments else segments) = segments
    at closed
  have stripped : ∀ segment ∈ segments.map (Segment.stripIndent (commonIndent segments)),
      ∃ lines, ReadsAs form lines segment := by
    intro segment member
    obtain ⟨whole, among, rfl⟩ := List.mem_map.mp member
    obtain ⟨lines, read, flush⟩ := closed whole among
    exact read.stripIndent flush fun indent => commonIndent_le among
  intro segment member
  simp only at member
  split at member
  · generalize segments.map (Segment.stripIndent (commonIndent segments)) = segments
      at stripped member
    cases segments with
    | nil => simp at member
    | cons first rest =>
      rw [List.modifyHead_cons] at member
      obtain rfl | member := List.mem_cons.mp member
      · obtain ⟨lines, read⟩ := stripped first List.mem_cons_self
        exact read.trimLeft
      · exact stripped segment (.tail _ member)
  · exact stripped segment member

/-! ## Tame texts -/

/-- A text whose escapes keep away from its lines: none stands for a line break, takes one away or
indents a line that is not indented. Carriage returns are parts of line breaks only. -/
structure Tame [CharacterNames] (text : Text) : Prop where
  /-- Every carriage return stands in front of a line feed. -/
  paired : Paired text
  /-- No line feed is part of an escape. -/
  unescaped : ∀ line ∈ cutAt '\n' text, Unescaped (withoutReturn line)
  /-- No escape stands for a line break. -/
  unbroken : ∀ line ∈ cutAt '\n' text, ∀ read ∈ resolve (withoutReturn line),
    .char '\n' ∉ read ∧ .char '\r' ∉ read
  /-- No escape behind a line feed stands for a blank. -/
  flush : ∀ line ∈ (cutAt '\n' text).tail, margin line = 0 →
    ∀ read ∈ resolve (withoutReturn line), read.margin = 0

section Tame

variable [CharacterNames] {form : Form}

/-- Text without a backslash is tame if its carriage returns are parts of line breaks. -/
theorem Tame.of_not_mem {text : Text} (plain : '\\' ∉ text) (paired : Paired text) : Tame text := by
  have lines : join ['\n'] (cutAt '\n' text) = text := join_cutAt '\n' text
  have free : ∀ line ∈ cutAt '\n' text, '\n' ∉ line := fun line => not_mem_of_mem_cutAt
  have returns := (unifyBreaks_join (cutAt_ne_nil _ _) free (lines.symm ▸ paired)).1
  have none : ∀ line ∈ cutAt '\n' text, '\\' ∉ withoutReturn line := fun line member inside =>
    plain (mem_of_mem_cutAt member ((withoutReturn_sublist line).subset inside))
  have reads : ∀ line ∈ cutAt '\n' text, ∀ read ∈ resolve (withoutReturn line),
      read = (withoutReturn line).points := by
    intro line member read found
    rw [resolve_of_not_mem _ (none line member)] at found
    exact (Option.some.inj found).symm
  refine ⟨paired, fun line member => ?_, fun line member read found => ?_,
    fun line member flat read found => ?_⟩
  · have longer : '\\' ∉ withoutReturn line ++ ['\n'] := by simp [none line member]
    rw [Unescaped, resolve_of_not_mem _ (none line member), resolve_of_not_mem _ longer]
    simp [Text.points]
  · rw [reads line member read found, char_mem_points, char_mem_points]
    exact ⟨fun inside => free line member ((withoutReturn_sublist line).subset inside),
      returns line member⟩
  · rw [reads line (List.mem_of_mem_tail member) read found, Points.margin_points,
      margin_withoutReturn, flat]

/-- Tame text is read line by line, and no line that is not indented reads as one that is. -/
theorem Tame.readsAs (quotes : isQuote form.delimiter.quote = true) {text : Text}
    (plain : form.isRaw = false → Fits form text ∧ Tame text) :
    ReadsAs form (cutAt '\n' text) ⟨text, cook form text⟩ ∧
      ∀ line ∈ (cutAt '\n' text).tail, Flush form line := by
  have lines : join ['\n'] (cutAt '\n' text) = text := join_cutAt '\n' text
  have free : ∀ line ∈ cutAt '\n' text, '\n' ∉ line := fun line => not_mem_of_mem_cutAt
  refine ⟨⟨cutAt_ne_nil _ _, lines.symm, fun line member => ⟨free line member, fun cooked => ?_⟩,
    cook_eq_lines quotes fun cooked => ?_⟩, fun line member none read found => ?_⟩
  · obtain ⟨-, tame⟩ := plain cooked
    have returns := (unifyBreaks_join (cutAt_ne_nil _ _) free (lines.symm ▸ tame.paired)).1
    exact ⟨returns line member, tame.unescaped line member, tame.unbroken line member⟩
  · obtain ⟨fits, tame⟩ := plain cooked
    exact ⟨fits, tame.paired, tame.unescaped⟩
  · unfold readLine at found
    obtain ⟨whole, inner, rfl⟩ := Option.map_eq_some_iff.mp found
    rw [margin_singled]
    cases raw : form.isRaw with
    | true =>
      rw [raw, if_pos rfl] at inner
      rwa [← Option.some.inj inner, Points.margin_points]
    | false =>
      rw [raw, if_neg Bool.false_ne_true] at inner
      exact (plain raw).2.flush line member none whole inner

/-- The resolved form of a segment that is read line by line is what its text reads as. -/
theorem ReadsAs.cooked_eq (quotes : isQuote form.delimiter.quote = true) {lines : List Text}
    {segment : Segment} (reads : ReadsAs form lines segment)
    (plain : form.isRaw = false → Fits form segment.raw ∧ Paired segment.raw) :
    segment.cooked = cook form segment.raw := by
  rw [reads.cooked, cook_eq_lines quotes fun cooked => ?_, reads.cutAt]
  obtain ⟨fits, paired⟩ := plain cooked
  refine ⟨fits, paired, fun line member => ?_⟩
  rw [reads.cutAt] at member
  exact ((reads.steady line member).plain cooked).2.1

/-- The resolved forms of a template literal of a source are what its texts read as, before its
indentation is removed and after. Outside of raw literals its escapes must keep away from lines, and
quotes that its texts are read between must not be closed by them. -/
theorem cooked_outdent {source : Text} {tree literal : Tree} (parsed : parse? source = some tree)
    (inside : literal ∈ tree.subtrees) (template : templateForm? literal = some form)
    (trims : Trims) (tame : form.isRaw = false → ∀ text ∈ texts form literal, Tame text)
    (fits : form.isRaw = false →
      ∀ text ∈ texts form literal ++ outdentTexts trims (texts form literal), Fits form text) :
    ∀ segment ∈ outdent trims (segments form literal), segment.cooked = cook form segment.raw := by
  have quotes := (Tree.isLiteral_of_parse? parsed inside template).quotes
  have reads : ∀ segment ∈ segments form literal, ∃ lines, ReadsAs form lines segment ∧
      ∀ line ∈ lines.tail, Flush form line := by
    intro segment member
    obtain ⟨text, among, rfl⟩ := List.mem_map.mp member
    exact ⟨_, Tame.readsAs quotes fun cooked =>
      ⟨fits cooked text (List.mem_append_left _ among), tame cooked text among⟩⟩
  intro segment member
  obtain ⟨lines, read⟩ := readsAs_outdent trims reads segment member
  have written : segment.raw ∈ outdentTexts trims (texts form literal) := by
    rw [← map_raw_segments, ← map_raw_outdent]
    exact List.mem_map_of_mem member
  refine read.cooked_eq quotes fun cooked => ⟨?_, ?_⟩
  · exact fits cooked segment.raw (List.mem_append_right _ written)
  · have paired : ∀ text ∈ texts form literal, Paired text :=
      fun text among => (tame cooked text among).paired
    exact (outdentTexts_unifyBreaks trims paired).1 segment.raw written

end Tame

/-- A written tab stays one behind the indentation, in front of a replacement field, and so does half
of a surrogate pair. -/
theorem cooked_outdent_tab :
    letI : CharacterNames := .ofTable []
    ∃ tree literal form,
      parse? "x = dedent(f\"\"\"\n    a\\t\\ud800\x7bb\x7d\n      c\n    \"\"\")\n" = some tree ∧
        literal ∈ tree.subtrees ∧ templateForm? literal = some form ∧
        (outdent {} (segments form literal)).map Segment.raw =
          ["a\\t\\ud800".toList, "\n  c".toList] ∧
        ∀ segment ∈ outdent {} (segments form literal),
          segment.cooked = cook form segment.raw := by
  let _ : CharacterNames := .ofTable []
  have first : Tame "\n    a\\t\\ud800".toList := by
    have lines : cutAt '\n' "\n    a\\t\\ud800".toList = [[], "    a\\t\\ud800".toList] := rfl
    have read : resolve (withoutReturn "    a\\t\\ud800".toList) =
        some (Text.points "    a\t" ++ [.surrogate 0]) := rfl
    refine ⟨.of_not_mem (by decide), ?_, ?_, ?_⟩
    · rw [lines]
      exact List.forall_mem_cons.mpr ⟨rfl, List.forall_mem_singleton.mpr rfl⟩
    · rw [lines]
      refine List.forall_mem_cons.mpr ⟨?_, List.forall_mem_singleton.mpr ?_⟩
      · rintro _ ⟨⟩
        decide
      · rw [read]
        rintro _ ⟨⟩
        decide
    · rw [lines]
      exact List.forall_mem_singleton.mpr fun flat => absurd flat (by decide)
  have last : Tame "\n      c\n    ".toList :=
    .of_not_mem (by decide) (.of_not_mem (by decide))
  have found : ((parse? "x = dedent(f\"\"\"\n    a\\t\\ud800\x7bb\x7d\n      c\n    \"\"\")\n").any
      fun tree => tree.subtrees.any fun literal => (templateForm? literal).any fun form =>
        form == ⟨['f'], ⟨'"', true⟩⟩ &&
          texts form literal == ["\n    a\\t\\ud800".toList, "\n      c\n    ".toList]) = true := by
    decide +kernel
  rw [Option.any_eq_true] at found
  obtain ⟨tree, parsed, found⟩ := found
  obtain ⟨literal, inside, found⟩ := List.any_eq_true.mp found
  rw [Option.any_eq_true] at found
  obtain ⟨form, template, found⟩ := found
  rw [Bool.and_eq_true, beq_iff_eq, beq_iff_eq] at found
  obtain ⟨rfl, written⟩ := found
  refine ⟨tree, literal, _, parsed, inside, template, ?_, ?_⟩
  · rw [map_raw_outdent, map_raw_segments, written]
    decide +kernel
  · refine cooked_outdent parsed inside template {} (fun _ => ?_) fun _ => ?_
    · rw [written]
      exact List.forall_mem_cons.mpr ⟨first, List.forall_mem_singleton.mpr last⟩
    · rw [written]
      have closes : ∀ text ∈ ["\n    a\\t\\ud800".toList, "\n      c\n    ".toList] ++
          outdentTexts {} ["\n    a\\t\\ud800".toList, "\n      c\n    ".toList],
          (closingLength (readingDelimiter ⟨'"', true⟩ text)
            (unifyBreaks text ++ (readingDelimiter ⟨'"', true⟩ text).text) =
              some ((unifyBreaks text).length + (readingDelimiter ⟨'"', true⟩ text).text.length)) ∧
            '\x00' ∉ text := by
        decide +kernel
      exact fun text member => ⟨(closes text member).1, (closes text member).2⟩

/-- An escape that stands for a line break loses the blanks behind it, which no written line break
is in front of. -/
example : letI : CharacterNames := .ofTable []
    (outdent {} [⟨"\n    a\\n    b\n    ", some (Text.points "\n    a\n    b\n    ")⟩]).map
      (fun segment => (segment.cooked, cook ⟨[], ⟨'"', true⟩⟩ segment.raw)) =
        [(some (Text.points "a\nb"), some (Text.points "a\n    b"))] := by
  decide +kernel

end Outdent.Template
