import Mathlib.Data.List.Forall2
import Mathlib.Logic.Function.Iterate
import Outdent.Proofs.Texts

/-!
# Fixed points of the removal of indentation

A template is outdented if there is nothing to remove: no line is indented, and its ends have no
line break that the trims would drop (`IsOutdented`). Every step leaves out characters of a text and
changes none, so a template keeps its length only if no step finds anything. Main statement:
`outdent_fixed`, the outdented templates are the ones that stay as they are, every other one gets
shorter, and so it becomes outdented when the removal is repeated.
-/
namespace Outdent

namespace Text

/-! ## What there is to find -/

/-- A text begins with no blank exactly if its first character is not blank. -/
theorem margin_eq_zero_iff {text : Text} :
    margin text = 0 ↔ ∀ blank, isBlank blank = true → ¬ [blank] <+: text := by
  cases text with
  | nil => simp [margin]
  | cons first rest =>
    rw [margin, List.takeWhile_cons]
    constructor
    · intro none blank blanks begins
      obtain rfl : blank = first := by simpa using begins
      rw [if_pos blanks, List.length_cons] at none
      omega
    · intro visible
      by_cases blanks : isBlank first = true
      · exact absurd ⟨rest, rfl⟩ (visible first blanks)
      · rw [if_neg blanks]
        rfl

/-- No line of a text is indented exactly if no line feed has a blank directly behind it. -/
theorem indents_eq_nil_iff {text : Text} :
    text.indents = [] ↔ ∀ blank, isBlank blank = true → ¬ ['\n', blank] <:+: text := by
  induction text with
  | nil => simp [indents]
  | cons character rest ih =>
    have apart : (∀ blank, isBlank blank = true → ¬ ['\n', blank] <:+: character :: rest) ↔
        (character = '\n' → margin rest = 0) ∧
          ∀ blank, isBlank blank = true → ¬ ['\n', blank] <:+: rest := by
      simp only [List.infix_cons_iff, List.cons_prefix_cons, margin_eq_zero_iff]
      constructor
      · intro free
        constructor
        · intro breaks blank blanks begins
          exact free blank blanks (.inl ⟨breaks.symm, begins⟩)
        · intro blank blanks within
          exact free blank blanks (.inr within)
      · intro free blank blanks found
        obtain ⟨breaks, begins⟩ | within := found
        · exact free.1 breaks.symm blank blanks begins
        · exact free.2 blank blanks within
    rw [apart, ← ih, indents]
    by_cases breaks : character = '\n'
    · by_cases flush : margin rest = 0
      · simp [breaks, flush]
      · simp [breaks, flush]
    · simp [breaks]

/-- A text has no closing line exactly if it does not end in a line feed and blanks. -/
theorem closingWidth?_eq_none_iff {text : Text} :
    text.closingWidth? = none ↔
      ∀ before blanks, (∀ character ∈ blanks, isBlank character = true) →
        text ≠ before ++ '\n' :: blanks := by
  constructor
  · intro none before blanks blank same
    rw [same, closingWidth?_append blank] at none
    exact absurd none (by simp)
  · intro free
    cases found : text.closingWidth? with
    | none => rfl
    | some width =>
      obtain ⟨before, blanks, blank, same⟩ := exists_of_closingWidth? found
      exact absurd same (free before blanks blank)

/-- A text has no line break to drop at its begin exactly if it begins with neither of the two. -/
theorem hasOpening_eq_false_iff {text : Text} :
    text.hasOpening = false ↔ ¬ ['\n'] <+: text ∧ ¬ ['\r', '\n'] <+: text := by
  unfold hasOpening
  split
  · simp
  · simp
  · rename_i single pair
    simp only [true_iff]
    constructor
    · rintro ⟨rest, same⟩
      exact single rest same.symm
    · rintro ⟨rest, same⟩
      exact pair rest same.symm

/-! ## What each step leaves out -/

/-- A closing line that is cut off makes a text shorter. -/
theorem length_trimClosing_lt {text : Text} {width : Nat}
    (found : text.closingWidth? = some width) : text.trimClosing.length < text.length := by
  obtain ⟨before, blanks, blank, rfl⟩ := exists_of_closingWidth? found
  have short := (withoutReturn_sublist before).length_le
  rw [trimClosing_append blank, List.length_append, List.length_cons]
  omega

/-- Only a text without a closing line is kept when the closing line is cut off. -/
theorem trimClosing_eq_self_iff {text : Text} :
    text.trimClosing = text ↔ text.closingWidth? = none := by
  constructor
  · intro same
    cases found : text.closingWidth? with
    | none => rfl
    | some width =>
      have shorter := length_trimClosing_lt found
      rw [same] at shorter
      omega
  · intro none
    rw [trimClosing, none]

/-- The line break that is dropped from the begin of a text makes it shorter. -/
theorem length_dropOpening_lt {text : Text} (opens : text.hasOpening = true) :
    text.dropOpening.length < text.length := by
  unfold hasOpening at opens
  unfold dropOpening
  split at opens
  · simp
  · simp only [List.length_cons]
    omega
  · simp at opens

/-- Only a text that begins with no line break is kept when that is dropped. -/
theorem dropOpening_eq_self_iff {text : Text} :
    text.dropOpening = text ↔ text.hasOpening = false := by
  constructor
  · intro same
    cases opens : text.hasOpening with
    | false => rfl
    | true =>
      have shorter := length_dropOpening_lt opens
      rw [same] at shorter
      omega
  · intro plain
    unfold hasOpening at plain
    unfold dropOpening
    split at plain
    · simp at plain
    · simp at plain
    · rfl

/-- Characters to be dropped make a text shorter. -/
theorem length_stripIndentFrom_lt_of_skip {text : Text} {skip : Nat} (some : 0 < skip)
    (filled : 0 < text.length) (width : Nat) :
    (stripIndentFrom width skip text).length < text.length := by
  cases text with
  | nil => simp at filled
  | cons character rest =>
    obtain ⟨fewer, rfl⟩ := Nat.exists_eq_succ_of_ne_zero (Nat.ne_of_gt some)
    have short := (stripIndentFrom_sublist width fewer rest).length_le
    rw [stripIndentFrom, List.length_cons]
    omega

/-- Blanks that are taken from a line that is indented as far make a text shorter. -/
theorem length_stripIndentFrom_lt {text : Text} {width indent : Nat} (blanks : 0 < width)
    (member : indent ∈ text.indents) (wide : width ≤ indent) (skip : Nat) :
    (stripIndentFrom width skip text).length < text.length := by
  induction text generalizing skip with
  | nil => simp [Text.indents] at member
  | cons character rest ih =>
    cases skip with
    | succ skip => exact length_stripIndentFrom_lt_of_skip (Nat.succ_pos skip) (by simp) width
    | zero =>
      rw [stripIndentFrom_cons, List.length_cons, List.length_cons]
      by_cases takes : character = '\n' ∧ width ≤ margin rest
      · have filled : 0 < rest.length := by
          have begin := margin_le_length rest
          omega
        have shorter := length_stripIndentFrom_lt_of_skip blanks filled width
        rw [taken, if_pos takes]
        omega
      · have later : indent ∈ Text.indents rest := by
          rw [Text.indents] at member
          split at member
          · rename_i breaks
            split at member
            · exact member
            · obtain rfl | member := List.mem_cons.mp member
              · exact absurd ⟨breaks, wide⟩ takes
              · exact member
          · exact member
        have shorter := ih later (taken width character rest)
        omega

end Text

open Text

/-- The indentation that the lines of some texts share is removed without any effect exactly if no
line is indented. -/
theorem map_stripIndent_eq_self_iff {texts : List Text} :
    texts.map (stripIndent (leastIndent texts)) = texts ↔ ∀ text ∈ texts, text.indents = [] := by
  constructor
  · intro same
    have kept : ∀ text ∈ texts, stripIndent (leastIndent texts) text = text :=
      List.map_inj_left.mp (same.trans (List.map_id texts).symm)
    cases least : (texts.flatMap indents).min? with
    | none => exact List.flatMap_eq_nil_iff.mp (List.min?_eq_none_iff.mp least)
    | some width =>
      have found : width ∈ texts.flatMap indents := List.min?_mem least
      obtain ⟨text, among, member⟩ := List.mem_flatMap.mp found
      have whole : leastIndent texts = width := by rw [leastIndent, least, Option.getD_some]
      have shorter := length_stripIndentFrom_lt (pos_of_mem_indents member) member (Nat.le_refl _) 0
      have still := kept text among
      rw [whole, stripIndent] at still
      rw [still] at shorter
      omega
  · intro flush
    have none : leastIndent texts = 0 := by
      rw [leastIndent, List.flatMap_eq_nil_iff.mpr flush]
      rfl
    rw [none]
    exact (List.map_congr_left fun text _ => stripIndent_zero text).trans (List.map_id texts)

/-! ## Texts that are left as they are -/

/-- There is nothing to remove from a template: no line is indented, and its ends have no line break
that is to be dropped. -/
structure IsOutdented (trims : Trims) (texts : List Text) : Prop where
  /-- No line feed has a blank directly behind it. -/
  flush : ∀ text ∈ texts, ∀ blank, isBlank blank = true → ¬ ['\n', blank] <:+: text
  /-- The last text does not end in a line feed and blanks. -/
  closing : trims.right = true → ∀ last, texts.getLast? = some last →
    ∀ before blanks, (∀ character ∈ blanks, isBlank character = true) →
      last ≠ before ++ '\n' :: blanks
  /-- The first text does not begin with a line break. -/
  opening : trims.left = true → ∀ first, texts.head? = some first →
    ¬ ['\n'] <+: first ∧ ¬ ['\r', '\n'] <+: first

/-- Whether a template is outdented is seen from what the steps look for. -/
theorem isOutdented_iff {trims : Trims} {texts : List Text} :
    IsOutdented trims texts ↔
      (∀ text ∈ texts, text.indents = []) ∧
        (trims.right = true → ∀ last, texts.getLast? = some last → last.closingWidth? = none) ∧
        (trims.left = true → ∀ first, texts.head? = some first → first.hasOpening = false) := by
  simp only [indents_eq_nil_iff, closingWidth?_eq_none_iff, hasOpening_eq_false_iff]
  constructor
  · intro outdented
    exact ⟨outdented.flush, outdented.closing, outdented.opening⟩
  · intro found
    exact ⟨found.1, found.2.1, found.2.2⟩

/-- Only the last value can differ after an edit of it. -/
theorem onLast_eq_self_iff {α : Type} {edit : α → α} {values : List α} :
    onLast edit values = values ↔ ∀ last, values.getLast? = some last → edit last = last := by
  fun_induction onLast edit values with
  | case1 => simp
  | case2 value => simp
  | case3 value next rest ih => simpa [List.getLast?_cons_cons] using ih

/-- Only the first value can differ after an edit of it. -/
theorem modifyHead_eq_self_iff {α : Type} {edit : α → α} {values : List α} :
    values.modifyHead edit = values ↔ ∀ first, values.head? = some first → edit first = first := by
  cases values with
  | nil => simp
  | cons value rest => simp

/-- The number of characters of some texts. -/
def totalLength (texts : List Text) : Nat := texts.flatten.length

/-- Texts of which some characters are left out are as long as before only if they are the same. -/
theorem eq_of_forall₂_sublist {texts others : List Text}
    (within : List.Forall₂ List.Sublist others texts) :
    totalLength others ≤ totalLength texts ∧
      (totalLength texts ≤ totalLength others → others = texts) := by
  induction within with
  | nil => exact ⟨Nat.le_refl _, fun _ => rfl⟩
  | @cons other text others texts first rest ih =>
    have short := first.length_le
    simp only [totalLength, List.flatten_cons, List.length_append] at ih ⊢
    constructor
    · omega
    · intro long
      have same : other = text := first.eq_of_length (by omega)
      rw [same, ih.2 (by omega)]

/-- Nothing is left out of a text that is kept. -/
theorem forall₂_sublist_refl (texts : List Text) : List.Forall₂ List.Sublist texts texts :=
  List.forall₂_same.mpr fun text _ => .refl text

/-- Cutting off the closing line leaves out characters. -/
theorem forall₂_sublist_onLast (texts : List Text) :
    List.Forall₂ List.Sublist (onLast trimClosing texts) texts := by
  fun_induction onLast trimClosing texts with
  | case1 => exact .nil
  | case2 text => exact .cons (trimClosing_sublist text) .nil
  | case3 text next rest ih => exact .cons (List.Sublist.refl text) ih

/-- Taking indentation leaves out characters. -/
theorem forall₂_sublist_stripIndent (width : Nat) (texts : List Text) :
    List.Forall₂ List.Sublist (texts.map (stripIndent width)) texts := by
  induction texts with
  | nil => exact .nil
  | cons text rest ih => exact .cons (stripIndentFrom_sublist width 0 text) ih

/-- Dropping the first line break leaves out characters. -/
theorem forall₂_sublist_modifyHead (texts : List Text) :
    List.Forall₂ List.Sublist (texts.modifyHead dropOpening) texts := by
  cases texts with
  | nil => exact .nil
  | cons first rest =>
    exact .cons (dropOpening_sublist first) (forall₂_sublist_refl rest)

/-- An outdented template stays as it is. -/
theorem outdentTexts_of_isOutdented {trims : Trims} {texts : List Text}
    (outdented : IsOutdented trims texts) : outdentTexts trims texts = texts := by
  obtain ⟨flush, closing, opening⟩ := isOutdented_iff.mp outdented
  have closed : (if trims.right then onLast trimClosing texts else texts) = texts := by
    by_cases right : trims.right = true
    · rw [if_pos right, onLast_eq_self_iff]
      intro last found
      exact trimClosing_eq_self_iff.mpr (closing right last found)
    · rw [if_neg right]
  unfold outdentTexts
  simp only [closed, map_stripIndent_eq_self_iff.mpr flush]
  by_cases left : trims.left = true
  · rw [if_pos left, modifyHead_eq_self_iff]
    intro first found
    exact dropOpening_eq_self_iff.mpr (opening left first found)
  · rw [if_neg left]

/-- A template that does not get shorter is outdented. -/
theorem isOutdented_of_totalLength_le {trims : Trims} {texts : List Text}
    (long : totalLength texts ≤ totalLength (outdentTexts trims texts)) :
    IsOutdented trims texts := by
  let closed := if trims.right then onLast trimClosing texts else texts
  let stripped := closed.map (stripIndent (leastIndent closed))
  let opened := if trims.left then stripped.modifyHead dropOpening else stripped
  have whole : outdentTexts trims texts = opened := rfl
  rw [whole] at long
  have first : List.Forall₂ List.Sublist closed texts := by
    by_cases right : trims.right = true
    · simpa only [closed, if_pos right] using forall₂_sublist_onLast texts
    · simpa only [closed, if_neg right] using forall₂_sublist_refl texts
  have second : List.Forall₂ List.Sublist stripped closed := forall₂_sublist_stripIndent _ closed
  have third : List.Forall₂ List.Sublist opened stripped := by
    by_cases left : trims.left = true
    · simpa only [opened, if_pos left] using forall₂_sublist_modifyHead stripped
    · simpa only [opened, if_neg left] using forall₂_sublist_refl stripped
  -- No step may make the texts shorter, because none makes them longer.
  have shorterFirst := (eq_of_forall₂_sublist first).1
  have shorterSecond := (eq_of_forall₂_sublist second).1
  have shorterThird := (eq_of_forall₂_sublist third).1
  have keepsFirst : closed = texts := (eq_of_forall₂_sublist first).2 (by omega)
  have keepsSecond : stripped = closed := (eq_of_forall₂_sublist second).2 (by omega)
  have keepsThird : opened = stripped := (eq_of_forall₂_sublist third).2 (by omega)
  rw [isOutdented_iff]
  refine ⟨?_, ?_, ?_⟩
  · rw [← keepsFirst]
    exact map_stripIndent_eq_self_iff.mp keepsSecond
  · intro right last found
    simp only [closed, if_pos right] at keepsFirst
    exact trimClosing_eq_self_iff.mp (onLast_eq_self_iff.mp keepsFirst last found)
  · intro left first found
    simp only [opened, if_pos left, keepsSecond, keepsFirst] at keepsThird
    exact dropOpening_eq_self_iff.mp (modifyHead_eq_self_iff.mp keepsThird first found)

/-- The texts that the removal of indentation leaves as they are are the outdented ones. -/
theorem outdentTexts_eq_self_iff {trims : Trims} {texts : List Text} :
    outdentTexts trims texts = texts ↔ IsOutdented trims texts := by
  constructor
  · intro same
    apply isOutdented_of_totalLength_le
    exact Nat.le_of_eq (congrArg totalLength same.symm)
  · exact outdentTexts_of_isOutdented

/-- After some repetitions a template is outdented, or each of them has made it shorter. -/
theorem isOutdented_or_totalLength_iterate (trims : Trims) (segments : List Segment) (count : Nat) :
    IsOutdented trims (((outdent trims)^[count] segments).map Segment.raw) ∨
      totalLength (((outdent trims)^[count] segments).map Segment.raw) + count ≤
        totalLength (segments.map Segment.raw) := by
  induction count with
  | zero => exact .inr (Nat.le_refl _)
  | succ count ih =>
    rw [Function.iterate_succ_apply', map_raw_outdent]
    obtain outdented | short := ih
    · rw [outdentTexts_of_isOutdented outdented]
      exact .inl outdented
    · by_cases long : totalLength (((outdent trims)^[count] segments).map Segment.raw) ≤
          totalLength (outdentTexts trims (((outdent trims)^[count] segments).map Segment.raw))
      · have outdented := isOutdented_of_totalLength_le long
        rw [outdentTexts_of_isOutdented outdented]
        exact .inl outdented
      · exact .inr (by omega)

/-- The templates that the removal of indentation leaves as they are are the outdented ones. Every
other one gets shorter, and a template becomes outdented, and stays so, when the removal is repeated
as often as it has characters. -/
theorem outdent_fixed (trims : Trims) (segments : List Segment) :
    ((outdent trims segments).map Segment.raw = segments.map Segment.raw ↔
        IsOutdented trims (segments.map Segment.raw)) ∧
      (¬ IsOutdented trims (segments.map Segment.raw) →
        totalLength ((outdent trims segments).map Segment.raw) <
          totalLength (segments.map Segment.raw)) ∧
      ∀ count, totalLength (segments.map Segment.raw) ≤ count →
        IsOutdented trims (((outdent trims)^[count] segments).map Segment.raw) := by
  rw [map_raw_outdent]
  refine ⟨outdentTexts_eq_self_iff, ?_, ?_⟩
  · intro indented
    apply Nat.lt_of_not_le
    intro long
    exact indented (isOutdented_of_totalLength_le long)
  · intro count enough
    obtain outdented | short := isOutdented_or_totalLength_iterate trims segments count
    · exact outdented
    · -- No character is left, so nothing can get shorter any more.
      apply isOutdented_of_totalLength_le
      omega

/-- A line that is indented further than the others is flush behind the second removal only. -/
example : outdentTexts {} ["\n  a\n    b\n  ".toList] = ["a\n  b".toList] ∧
    outdentTexts {} ["a\n  b".toList] = ["a\nb".toList] := by
  decide +kernel

end Outdent
