import Mathlib.Data.List.Forall2
import Outdent.Proofs.Texts

/-!
# Templates at another depth

Code that is moved to another depth takes its templates along: every indented line of a template,
the closing line included, gets more blanks in front. `Deeper` relates a text to the same text with
so many blanks put behind every line break that blanks follow already. Each step of the removal of
indentation keeps the relation or undoes it: the closing line is cut off both
(`Deeper.trimClosing`), the widths of all indented lines grow alike (`Deeper.indents`), and with as
many blanks more taken the texts are the same (`Deeper.stripIndentFrom`). Main statement:
`outdent_deeper`, the texts of a template do not depend on the depth at which it stands.
-/
namespace Outdent

namespace Text

/-- A text with more blanks directly behind every line break that blanks follow, as many as `width`.
Which blanks they are may differ from line to line. -/
inductive Deeper (width : Nat) : Text → Text → Prop where
  /-- No text. -/
  | nil : Deeper width [] []
  /-- A line break in front of an indented line. -/
  | line {rest other blanks : Text} (indented : 0 < margin rest)
      (blank : ∀ character ∈ blanks, isBlank character = true) (long : blanks.length = width)
      (behind : Deeper width rest other) : Deeper width ('\n' :: rest) ('\n' :: (blanks ++ other))
  /-- Any other character. -/
  | cons {character : Char} {rest other : Text} (flush : character = '\n' → margin rest = 0)
      (behind : Deeper width rest other) : Deeper width (character :: rest) (character :: other)

/-- Is a text another one with so many more blanks behind every line break that blanks follow? -/
def isDeeper (width : Nat) : Text → Text → Bool
  | [], [] => true
  | character :: rest, first :: other =>
    if character = '\n' ∧ 0 < margin rest then
      first == '\n' && (other.take width).length == width && (other.take width).all isBlank &&
        isDeeper width rest (other.drop width)
    else first == character && isDeeper width rest other
  | _, _ => false

/-- The test decides the relation. -/
theorem isDeeper_iff {width : Nat} {text other : Text} :
    isDeeper width text other = true ↔ Deeper width text other := by
  constructor
  · intro passed
    fun_induction isDeeper width text other with
    | case1 => exact .nil
    | case2 character rest first other breaks ih =>
      simp only [Bool.and_eq_true, beq_iff_eq, List.all_eq_true] at passed
      obtain ⟨⟨⟨same, long⟩, blank⟩, behind⟩ := passed
      rw [breaks.1, same, ← List.take_append_drop width other]
      exact .line breaks.2 blank long (ih behind)
    | case3 character rest first other flush ih =>
      simp only [Bool.and_eq_true, beq_iff_eq] at passed
      rw [passed.1]
      exact .cons (fun breaks => Nat.eq_zero_of_not_pos fun some => flush ⟨breaks, some⟩)
        (ih passed.2)
    | case4 => simp at passed
  · intro deeper
    induction deeper with
    | nil => rfl
    | line indented blank long behind ih =>
      rw [isDeeper, if_pos ⟨rfl, indented⟩, List.take_left' long, List.drop_left' long, ih, long,
        List.all_eq_true.mpr blank]
      simp
    | @cons character rest other flush behind ih =>
      have still : ¬ (character = '\n' ∧ 0 < margin rest) := by
        rintro ⟨breaks, some⟩
        rw [flush breaks] at some
        exact absurd some (Nat.lt_irrefl 0)
      rw [isDeeper, if_neg still, ih]
      simp

instance (width : Nat) (text other : Text) : Decidable (Deeper width text other) :=
  decidable_of_iff _ isDeeper_iff

/-! ## Blanks in front -/

/-- Blanks in front of a text are dropped first. -/
theorem stripIndentFrom_append (width skip : Nat) (front text : Text) :
    stripIndentFrom width (front.length + skip) (front ++ text) =
      stripIndentFrom width skip text := by
  induction front with
  | nil => rw [List.length_nil, Nat.zero_add, List.nil_append]
  | cons first rest ih =>
    have more : (first :: rest).length + skip = (rest.length + skip) + 1 := by
      rw [List.length_cons]
      omega
    rw [more, List.cons_append, stripIndentFrom, ih]

/-! ## The closing line, character by character -/

/-- Is a text a line break with nothing but blanks behind it? -/
def isClosingLine : Text → Bool
  | '\n' :: rest => rest.all isBlank
  | '\r' :: '\n' :: rest => rest.all isBlank
  | _ => false

/-- A text that is no closing line keeps its first character. -/
theorem withoutReturn_cons {character : Char} {before blanks : Text}
    (blank : ∀ other ∈ blanks, isBlank other = true)
    (opened : isClosingLine (character :: (before ++ '\n' :: blanks)) = false) :
    withoutReturn (character :: before) = character :: withoutReturn before := by
  rw [withoutReturn]
  intro returns empty
  have closes : blanks.all isBlank = true := List.all_eq_true.mpr blank
  rw [returns, empty, List.nil_append, isClosingLine, closes] at opened
  exact absurd opened (by decide)

/-- A closing line is cut off, and every character in front of it is kept. -/
theorem trimClosing_cons (character : Char) (rest : Text) :
    trimClosing (character :: rest) =
      if isClosingLine (character :: rest) then [] else character :: trimClosing rest := by
  cases closing : isClosingLine (character :: rest) with
  | true =>
    rw [if_pos rfl]
    unfold isClosingLine at closing
    split at closing
    · rename_i blanks same
      rw [same]
      exact trimClosing_append (List.all_eq_true.mp closing) []
    · rename_i blanks same
      rw [same]
      exact trimClosing_append (List.all_eq_true.mp closing) ['\r']
    · simp at closing
  | false =>
    rw [if_neg (by decide)]
    have inside : ∀ before blanks, (∀ other ∈ blanks, isBlank other = true) →
        rest = before ++ '\n' :: blanks →
          trimClosing (character :: rest) = character :: trimClosing rest := by
      rintro before blanks blank rfl
      rw [trimClosing_append blank, ← List.cons_append, trimClosing_append blank,
        withoutReturn_cons blank closing]
    obtain ⟨before, blanks, blank, same⟩ | kept := trimClosing_cases rest
    · exact inside before blanks blank same
    · obtain ⟨before, blanks, blank, same⟩ | keptThen := trimClosing_cases (character :: rest)
      · cases before with
        | nil =>
          have closes : blanks.all isBlank = true := List.all_eq_true.mpr blank
          rw [same, List.nil_append, isClosingLine, closes] at closing
          exact absurd closing (by decide)
        | cons first before => exact inside before blanks blank (List.cons.inj same).2
      · rw [keptThen, kept]

/-- A text begins with as many blanks without its closing line. -/
theorem margin_trimClosing (text : Text) : margin (trimClosing text) = margin text := by
  induction text with
  | nil => rfl
  | cons character rest ih =>
    rw [trimClosing_cons]
    cases closing : isClosingLine (character :: rest) with
    | true =>
      have first : isBlank character = false := by
        unfold isClosingLine at closing
        split at closing
        · rename_i same
          rw [(List.cons.inj same).1]
          rfl
        · rename_i same
          rw [(List.cons.inj same).1]
          rfl
        · simp at closing
      simp [margin, first]
    | false =>
      rw [if_neg (by decide)]
      unfold margin at ih ⊢
      rw [List.takeWhile_cons, List.takeWhile_cons]
      split
      · rw [List.length_cons, List.length_cons, ih]
      · rfl

/-- A closing line begins with a line break. -/
theorem isClosingLine_cons_of_unbroken {character : Char} (unbroken : isBreak character = false)
    (rest : Text) : isClosingLine (character :: rest) = false := by
  obtain ⟨feed, returns⟩ := ne_of_isBreak_eq_false unbroken
  simp [isClosingLine, feed, returns]

/-- Text that ends no line is kept when the closing line behind it is cut off. -/
theorem trimClosing_append_of_unbroken {front : Text}
    (unbroken : ∀ character ∈ front, isBreak character = false) (text : Text) :
    trimClosing (front ++ text) = front ++ trimClosing text := by
  induction front with
  | nil => rfl
  | cons first front ih =>
    have opened : isClosingLine (first :: (front ++ text)) = false :=
      isClosingLine_cons_of_unbroken (unbroken first List.mem_cons_self) _
    rw [List.cons_append, trimClosing_cons, opened, if_neg (by decide),
      ih fun character member => unbroken character (.tail _ member), List.cons_append]

/-! ## Steps -/

section Steps

variable {width : Nat} {text other : Text}

/-- A text begins with as many blanks at another depth: its first line is not moved. -/
theorem Deeper.margin (deeper : Deeper width text other) : margin other = margin text := by
  induction deeper with
  | nil => rfl
  | line => rfl
  | cons flush behind ih =>
    unfold Text.margin at ih ⊢
    rw [List.takeWhile_cons, List.takeWhile_cons]
    split
    · rw [List.length_cons, List.length_cons, ih]
    · rfl

/-- Every indented line is indented by as much more. -/
theorem Deeper.indents (deeper : Deeper width text other) :
    indents other = (indents text).map (· + width) := by
  induction deeper with
  | nil => rfl
  | @line rest other blanks indented blank long behind ih =>
    have wide := margin_append_blanks blank other
    rw [long, behind.margin] at wide
    rw [Text.indents, Text.indents, if_pos rfl, if_pos rfl, if_neg (by omega), if_neg (by omega),
      indents_append_of_not_mem (feed_not_mem_of_unbroken (unbroken_of_isBlank blank)), ih, wide,
      List.map_cons, Nat.add_comm width]
  | @cons character rest other flush behind ih =>
    rw [Text.indents, Text.indents, ih, behind.margin]
    by_cases breaks : character = '\n'
    · rw [if_pos breaks, if_pos breaks, if_pos (flush breaks), if_pos (flush breaks)]
    · rw [if_neg breaks, if_neg breaks]

/-- A text without an indented line is the same at every depth. -/
theorem Deeper.eq_of_indents (deeper : Deeper width text other) (flush : text.indents = []) :
    other = text := by
  induction deeper with
  | nil => rfl
  | line indented _ _ _ _ =>
    rw [Text.indents, if_pos rfl, if_neg (by omega)] at flush
    exact absurd flush (List.cons_ne_nil _ _)
  | @cons character rest other still behind ih =>
    have inner : Text.indents rest = [] := by
      rw [Text.indents] at flush
      split at flush
      · rename_i breaks
        rwa [if_pos (still breaks)] at flush
      · exact flush
    rw [ih inner]

/-- The same texts are blank at every depth. -/
theorem Deeper.all_isBlank (deeper : Deeper width text other) :
    other.all isBlank = text.all isBlank := by
  induction deeper with
  | nil => rfl
  | line => rfl
  | cons flush behind ih => rw [List.all_cons, List.all_cons, ih]

/-- The same texts are closing lines at every depth. -/
theorem Deeper.isClosingLine (deeper : Deeper width text other) :
    isClosingLine other = isClosingLine text := by
  have feed : ∀ {text other : Text}, Deeper width ('\n' :: text) other →
      ∃ rest, other = '\n' :: rest ∧ rest.all isBlank = text.all isBlank := by
    intro text other deeper
    cases deeper with
    | @line _ other blanks indented blank long behind =>
      refine ⟨blanks ++ other, rfl, ?_⟩
      rw [List.all_append, List.all_eq_true.mpr blank, Bool.true_and, behind.all_isBlank]
    | cons flush behind => exact ⟨_, rfl, behind.all_isBlank⟩
  cases deeper with
  | nil => rfl
  | @line rest other blanks indented blank long behind =>
    obtain ⟨others, same, all⟩ := feed (.line indented blank long behind)
    rw [same]
    exact all
  | @cons character rest other flush behind =>
    by_cases breaks : character = '\n'
    · rw [breaks]
      exact behind.all_isBlank
    by_cases returns : character = '\r'
    · rw [returns]
      cases behind with
      | nil => rfl
      | @line rest other blanks indented blank long behind =>
        obtain ⟨others, same, all⟩ := feed (.line indented blank long behind)
        rw [same]
        exact all
      | @cons next rest other flushThen behind =>
        by_cases breaksThen : next = '\n'
        · rw [breaksThen]
          exact behind.all_isBlank
        · simp [Text.isClosingLine, breaksThen]
    · simp [Text.isClosingLine, breaks, returns]

/-- The closing line is cut off at every depth. -/
theorem Deeper.trimClosing (deeper : Deeper width text other) :
    Deeper width text.trimClosing other.trimClosing := by
  induction deeper with
  | nil => exact .nil
  | @line rest other blanks indented blank long behind ih =>
    have same := (Deeper.line indented blank long behind).isClosingLine
    rw [trimClosing_cons, trimClosing_cons, same]
    split
    · exact .nil
    · rw [trimClosing_append_of_unbroken (unbroken_of_isBlank blank)]
      exact .line (by rwa [margin_trimClosing]) blank long ih
  | @cons character rest other flush behind ih =>
    have same := (Deeper.cons flush behind).isClosingLine
    rw [trimClosing_cons, trimClosing_cons, same]
    split
    · exact .nil
    · exact .cons (fun breaks => by rw [margin_trimClosing, flush breaks]) ih

/-- With as many blanks more taken, what is left is the same at every depth. -/
theorem Deeper.stripIndentFrom (deeper : Deeper width text other) {least : Nat}
    (some : 0 < least) (wide : ∀ indent ∈ text.indents, least ≤ indent) {skip : Nat}
    (short : skip ≤ Text.margin text) :
    Text.stripIndentFrom (least + width) skip other = Text.stripIndentFrom least skip text := by
  induction deeper generalizing skip with
  | nil => rw [Text.stripIndentFrom, Text.stripIndentFrom]
  | @line rest other blanks indented blank long behind ih =>
    obtain rfl : skip = 0 := Nat.le_zero.mp short
    have lines : Text.indents ('\n' :: rest) = Text.margin rest :: Text.indents rest := by
      rw [Text.indents, if_pos rfl, if_neg (by omega)]
    rw [lines] at wide
    have reaches : least ≤ Text.margin rest := wide _ List.mem_cons_self
    have deep : least + width ≤ Text.margin (blanks ++ other) := by
      rw [margin_append_blanks blank, long, behind.margin]
      omega
    have inner := ih (fun indent member => wide indent (.tail _ member)) reaches
    -- Behind the line break `least + width` blanks are taken: first the new ones, then as many as
    -- were taken before.
    have order : least + width = blanks.length + least := by omega
    rw [stripIndentFrom_cons, stripIndentFrom_cons, taken, taken, if_pos ⟨rfl, deep⟩,
      if_pos ⟨rfl, reaches⟩, ← inner]
    conv_lhs => rw [order]
    rw [stripIndentFrom_append, order]
  | @cons character rest other flush behind ih =>
    have inside : ∀ indent ∈ Text.indents rest, least ≤ indent := by
      intro indent member
      apply wide indent
      rw [Text.indents]
      split
      · split
        · exact member
        · exact .tail _ member
      · exact member
    cases skip with
    | zero =>
      have none : ∀ {more : Nat} {text : Text}, 0 < more → Text.margin text = Text.margin rest →
          taken more character text = 0 := by
        intro more text positive same
        rw [taken, if_neg]
        rintro ⟨breaks, reaches⟩
        have empty := flush breaks
        omega
      rw [stripIndentFrom_cons, stripIndentFrom_cons, none some rfl,
        none (by omega) behind.margin, ih inside (Nat.zero_le _)]
    | succ skip =>
      have fits : skip ≤ Text.margin rest := by
        unfold Text.margin at short ⊢
        rw [List.takeWhile_cons] at short
        split at short
        · rw [List.length_cons] at short
          omega
        · simp at short
      rw [Text.stripIndentFrom, Text.stripIndentFrom, ih inside fits]

end Steps

end Text

open Text

/-! ## Templates -/

section Templates

variable {width : Nat} {texts others : List Text}

/-- The closing line of the last text is cut off at every depth. -/
theorem forall₂_deeper_onLast (deeper : List.Forall₂ (Deeper width) texts others) :
    List.Forall₂ (Deeper width) (onLast trimClosing texts) (onLast trimClosing others) := by
  induction deeper with
  | nil => exact .nil
  | @cons text other texts others here behind ih =>
    cases behind with
    | nil => exact .cons here.trimClosing .nil
    | cons next later => exact .cons here ih

/-- Every indented line of all texts is indented by as much more. -/
theorem flatMap_indents_deeper (deeper : List.Forall₂ (Deeper width) texts others) :
    others.flatMap indents = (texts.flatMap indents).map (· + width) := by
  induction deeper with
  | nil => rfl
  | cons here behind ih =>
    rw [List.flatMap_cons, List.flatMap_cons, List.map_append, here.indents, ih]

/-- If no line is indented the texts are the same. -/
theorem eq_of_flatMap_indents (deeper : List.Forall₂ (Deeper width) texts others)
    (flush : texts.flatMap indents = []) : others = texts := by
  induction deeper with
  | nil => rfl
  | cons here behind ih =>
    rw [List.flatMap_cons, List.append_eq_nil_iff] at flush
    rw [here.eq_of_indents flush.1, ih flush.2]

/-- The indentation that all lines share is removed at every depth. -/
theorem map_stripIndent_deeper (deeper : List.Forall₂ (Deeper width) texts others) :
    others.map (stripIndent (leastIndent others)) =
      texts.map (stripIndent (leastIndent texts)) := by
  cases found : (texts.flatMap indents).min? with
  | none => rw [eq_of_flatMap_indents deeper (List.min?_eq_none_iff.mp found)]
  | some least =>
    obtain ⟨member, smallest⟩ := List.min?_eq_some_iff.mp found
    have before : leastIndent texts = least := by rw [leastIndent, found, Option.getD_some]
    have after : leastIndent others = least + width := by
      have moved : (others.flatMap indents).min? = some (least + width) := by
        rw [flatMap_indents_deeper deeper, List.min?_eq_some_iff]
        refine ⟨List.mem_map_of_mem member, fun indent inside => ?_⟩
        obtain ⟨old, among, rfl⟩ := List.mem_map.mp inside
        exact Nat.add_le_add_right (smallest old among) width
      rw [leastIndent, moved, Option.getD_some]
    have positive : 0 < least := by
      obtain ⟨text, _, inside⟩ := List.mem_flatMap.mp member
      exact pos_of_mem_indents inside
    have wide : ∀ text ∈ texts, ∀ indent ∈ text.indents, least ≤ indent :=
      fun text among indent inside => smallest indent (List.mem_flatMap.mpr ⟨text, among, inside⟩)
    rw [before, after]
    -- From here on the width is fixed, and the texts are compared one by one.
    clear found member smallest before after
    induction deeper with
    | nil => rfl
    | @cons text other texts others here behind ih =>
      have first : stripIndent (least + width) other = stripIndent least text :=
        here.stripIndentFrom positive (wide text List.mem_cons_self) (Nat.zero_le _)
      rw [List.map_cons, List.map_cons, first,
        ih fun later among => wide later (.tail _ among)]

/-- Texts come out the same without their indentation at whatever depth they stand. -/
theorem outdentTexts_deeper (trims : Trims) (deeper : List.Forall₂ (Deeper width) texts others) :
    outdentTexts trims others = outdentTexts trims texts := by
  unfold outdentTexts
  cases trims.right with
  | true => simp only [↓reduceIte, map_stripIndent_deeper (forall₂_deeper_onLast deeper)]
  | false => simp only [Bool.false_eq_true, ↓reduceIte, map_stripIndent_deeper deeper]

end Templates

/-- A template that stands deeper, because as many blanks more are behind each of its line breaks
that blanks follow, has the same texts when its indentation is removed. -/
theorem outdent_deeper (trims : Trims) {width : Nat} {segments others : List Segment}
    (deeper : List.Forall₂ (Deeper width) (segments.map Segment.raw) (others.map Segment.raw)) :
    (outdent trims others).map Segment.raw = (outdent trims segments).map Segment.raw := by
  rw [map_raw_outdent, map_raw_outdent]
  exact outdentTexts_deeper trims deeper

/-- One blank more, a tab or a space, in front of each indented line of a template with a
replacement field, an empty line, and a closing line that is not indented as far as the others. -/
theorem outdent_deeper_mixed :
    List.Forall₂ (Deeper 1) ["\n \ta\n\n   b".toList, "c\n ".toList]
        ["\n\t \ta\n\n    b".toList, "c\n\t ".toList] ∧
      (outdent {} [⟨"\n\t \ta\n\n    b", none⟩, ⟨"c\n\t ", none⟩]).map Segment.raw =
        ["a\n\n b".toList, "c".toList] := by
  have deeper : List.Forall₂ (Deeper 1) ["\n \ta\n\n   b".toList, "c\n ".toList]
      ["\n\t \ta\n\n    b".toList, "c\n\t ".toList] :=
    .cons (by decide +kernel) (.cons (by decide +kernel) .nil)
  have same := @outdent_deeper {} 1 [⟨"\n \ta\n\n   b", none⟩, ⟨"c\n ", none⟩]
    [⟨"\n\t \ta\n\n    b", none⟩, ⟨"c\n\t ", none⟩] deeper
  refine ⟨deeper, ?_⟩
  rw [same]
  decide +kernel

end Outdent
