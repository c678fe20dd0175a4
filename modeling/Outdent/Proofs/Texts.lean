import Outdent.Template.Indentation

/-!
# Texts of a template

What the removal of indentation does to the written texts of the segments, apart from their resolved
forms: the texts after it depend on the texts before it only (`map_raw_outdent`). The steps are
described by what they do to characters in a row: a closing line is a line break with blanks behind
it, up to the end (`trimClosing_append`, `trimClosing_cases`), and blanks are taken from directly
behind a line break (`stripIndentFrom_cons`, `isBlank_of_mem_taken`).
-/
namespace Outdent

namespace Text

/-- A text without the carriage return that it may end with. -/
def withoutReturn : Text → Text
  | [] => []
  | ['\r'] => []
  | character :: rest => character :: withoutReturn rest

/-- A text without its closing line, if it has one. -/
def trimClosing (text : Text) : Text :=
  match text.closingWidth? with
  | some width => text.dropClosing width
  | none => text

/-! ## The closing line -/

/-- A carriage return at the end is left out. -/
@[simp] theorem withoutReturn_append (text : Text) : withoutReturn (text ++ ['\r']) = text := by
  induction text with
  | nil => rfl
  | cons character rest ih =>
    rw [List.cons_append, withoutReturn, ih]
    intro _ empty
    simp at empty

/-- A text that does not end with a carriage return is kept. -/
theorem withoutReturn_of_getLast?_ne {text : Text} (other : text.getLast? ≠ some '\r') :
    withoutReturn text = text := by
  fun_induction withoutReturn text with
  | case1 => rfl
  | case2 => simp at other
  | case3 character rest filled ih =>
    cases rest with
    | nil => rfl
    | cons next rest => rw [ih (by rwa [List.getLast?_cons_cons] at other)]

/-- What is left without the carriage return at the end is in the text. -/
theorem withoutReturn_sublist (text : Text) : (withoutReturn text).Sublist text := by
  fun_induction withoutReturn text with
  | case1 => exact List.Sublist.refl []
  | case2 => exact List.nil_sublist _
  | case3 character rest _ ih => exact ih.cons_cons character

/-- Blanks behind a line break, up to the end of a text, are counted. -/
theorem closingWidth?_append {blanks : Text} (blank : ∀ character ∈ blanks, isBlank character = true)
    (before : Text) : (before ++ '\n' :: blanks).closingWidth? = some blanks.length := by
  have all : ∀ character ∈ blanks.reverse, isBlank character = true := by simpa using blank
  have whole : (before ++ '\n' :: blanks).reverse = blanks.reverse ++ '\n' :: before.reverse := by
    simp
  have drops : (blanks.reverse ++ '\n' :: before.reverse).dropWhile isBlank =
      '\n' :: before.reverse := by
    rw [List.dropWhile_append_of_pos all]
    rfl
  have takes : (blanks.reverse ++ '\n' :: before.reverse).takeWhile isBlank = blanks.reverse := by
    rw [List.takeWhile_append_of_pos all]
    simp [isBlank]
  rw [closingWidth?, whole, drops, takes]
  simp

/-- A closing line is cut off together with its line break. -/
theorem trimClosing_append {blanks : Text} (blank : ∀ character ∈ blanks, isBlank character = true)
    (before : Text) : trimClosing (before ++ '\n' :: blanks) = withoutReturn before := by
  have all : ∀ character ∈ blanks.reverse, isBlank character = true := by simpa using blank
  have whole : (before ++ '\n' :: blanks).reverse = blanks.reverse ++ '\n' :: before.reverse := by
    simp
  have takes : (blanks.reverse ++ '\n' :: before.reverse).takeWhile isBlank = blanks.reverse := by
    rw [List.takeWhile_append_of_pos all]
    simp [isBlank]
  have drops : (blanks.reverse ++ '\n' :: before.reverse).drop blanks.length =
      '\n' :: before.reverse := List.drop_left' (by simp)
  rw [trimClosing, closingWidth?_append blank]
  simp only [dropClosing, whole, takes, drops]
  rw [if_pos (by simp)]
  obtain rfl | ⟨before, last, rfl⟩ := List.eq_nil_or_concat before
  · rfl
  · rw [List.concat_eq_append, List.reverse_append, List.reverse_singleton, List.singleton_append]
    by_cases same : last = '\r'
    · rw [same, withoutReturn_append]
      simp
    · have other : (before ++ [last]).getLast? ≠ some '\r' := by simpa using same
      rw [withoutReturn_of_getLast?_ne other]
      split
      · rename_i found
        exact absurd (List.cons.inj (List.cons.inj found).2).1 same
      · rename_i others _ found
        rw [← (List.cons.inj found).2]
        simp
      · rename_i none
        exact absurd rfl (none _)

/-- A closing line is a line break with blanks behind it, up to the end. -/
theorem exists_of_closingWidth? {text : Text} {width : Nat}
    (found : text.closingWidth? = some width) :
    ∃ before blanks, (∀ character ∈ blanks, isBlank character = true) ∧
      text = before ++ '\n' :: blanks := by
  unfold closingWidth? at found
  split at found
  · rename_i before behind
    refine ⟨before.reverse, (text.reverse.takeWhile isBlank).reverse, ?_, ?_⟩
    · intro character member
      exact List.all_eq_true.mp List.all_takeWhile _ (List.mem_reverse.mp member)
    · have whole := List.takeWhile_append_dropWhile (p := isBlank) (l := text.reverse)
      rw [behind] at whole
      have back := congrArg List.reverse whole
      rw [List.reverse_reverse] at back
      exact back.symm.trans (by simp)
  · simp at found

/-- A text has a closing line, or is kept. -/
theorem trimClosing_cases (text : Text) :
    (∃ before blanks, (∀ character ∈ blanks, isBlank character = true) ∧
      text = before ++ '\n' :: blanks) ∨ trimClosing text = text := by
  cases found : text.closingWidth? with
  | some width => exact Or.inl (exists_of_closingWidth? found)
  | none =>
    rw [trimClosing, found]
    exact Or.inr rfl

/-- A text without its closing line is a begin of the text that a line break follows, or all of
it. -/
theorem trimClosing_prefix (text : Text) :
    trimClosing text = text ∨ ∃ character after, isBreak character = true ∧
      text = trimClosing text ++ character :: after := by
  obtain ⟨before, blanks, blank, rfl⟩ | same := trimClosing_cases text
  · rw [trimClosing_append blank]
    by_cases returns : before.getLast? = some '\r'
    · obtain ⟨front, rfl⟩ := List.getLast?_eq_some_iff.mp returns
      rw [withoutReturn_append]
      exact Or.inr ⟨'\r', '\n' :: blanks, rfl, by simp⟩
    · rw [withoutReturn_of_getLast?_ne returns]
      exact Or.inr ⟨'\n', _, rfl, rfl⟩
  · exact Or.inl same

/-! ## Indentation -/

/-- An indented line has blanks. -/
theorem pos_of_mem_indents {text : Text} {width : Nat} (member : width ∈ text.indents) :
    0 < width := by
  fun_induction Text.indents text with
  | case1 => simp at member
  | case2 rest _ ih => exact ih member
  | case3 rest wide ih =>
    obtain rfl | member := List.mem_cons.mp member
    · exact Nat.pos_of_ne_zero wide
    · exact ih member
  | case4 character rest _ ih => exact ih member

/-- The number of blanks to be taken behind a character: none unless it is a line break that has
them. -/
def taken (width : Nat) (character : Char) (rest : Text) : Nat :=
  if character = '\n' ∧ width ≤ margin rest then width else 0

/-- A character is kept when no characters are to be dropped. -/
theorem stripIndentFrom_cons (width : Nat) (character : Char) (rest : Text) :
    stripIndentFrom width 0 (character :: rest) =
      character :: stripIndentFrom width (taken width character rest) rest := by
  rw [stripIndentFrom, taken]
  by_cases breaks : character = '\n'
  · simp [breaks]
  · simp [breaks]

/-- Behind anything but a line break nothing is taken. -/
theorem taken_of_ne {character : Char} (other : character ≠ '\n') (width : Nat) (rest : Text) :
    taken width character rest = 0 := by
  simp [taken, other]

/-- Blanks in front of a text add to the blanks that it begins with. -/
theorem margin_append_blanks {blanks : Text}
    (blank : ∀ character ∈ blanks, isBlank character = true) (text : Text) :
    margin (blanks ++ text) = blanks.length + margin text := by
  unfold margin
  rw [List.takeWhile_append_of_pos blank, List.length_append]

/-- A blank is no other character that is not. -/
theorem ne_of_isBlank {blank other : Char} (isBlank : isBlank blank = true)
    (visible : Text.isBlank other = false) : blank ≠ other := by
  rintro rfl
  exact absurd (isBlank.symm.trans visible) (by decide)

/-- Blanks end no line. -/
theorem unbroken_of_isBlank {blanks : Text}
    (blank : ∀ character ∈ blanks, isBlank character = true) :
    ∀ character ∈ blanks, isBreak character = false := by
  intro character member
  have visible := blank character member
  simp only [isBlank, Bool.or_eq_true, beq_iff_eq] at visible
  rcases visible with rfl | rfl <;> rfl

/-- A text does not begin with more blanks than it has characters. -/
theorem margin_le_length (text : Text) : margin text ≤ text.length :=
  (List.takeWhile_prefix isBlank).length_le

/-- The characters that the margin of a text reaches over are blank. -/
theorem isBlank_of_mem_take {width : Nat} {blank : Char} {text : Text}
    (enough : width ≤ margin text) (member : blank ∈ text.take width) : isBlank blank = true := by
  have inside : text.take width <+: text.takeWhile isBlank := by
    have all : text.takeWhile isBlank <+: text := List.takeWhile_prefix _
    refine List.prefix_of_prefix_length_le (List.take_prefix _ _) all ?_
    rw [List.length_take]
    exact Nat.le_trans (Nat.min_le_left _ _) enough
  exact List.all_eq_true.mp List.all_takeWhile _ (inside.subset member)

/-- What is taken is blank. -/
theorem isBlank_of_mem_taken {width : Nat} {character blank : Char} {rest : Text}
    (member : blank ∈ rest.take (taken width character rest)) : isBlank blank = true := by
  refine isBlank_of_mem_take ?_ member
  rw [taken]
  split
  · rename_i long
    exact long.2
  · exact Nat.zero_le _

/-- A text that is no blank is not dropped from. -/
theorem eq_zero_of_isBlank {character : Char} (visible : isBlank character = false) {rest : Text}
    {skip : Nat} (blank : ∀ other ∈ (character :: rest).take skip, isBlank other = true) :
    skip = 0 := by
  cases skip with
  | zero => rfl
  | succ skip => simp [visible] at blank

/-- A stripped text begins with the same character. -/
theorem head?_stripIndentFrom (width : Nat) (text : Text) :
    (stripIndentFrom width 0 text).head? = text.head? := by
  cases text with
  | nil => rfl
  | cons character rest => rw [stripIndentFrom_cons]; rfl

end Text

open Text

/-! ## Texts of segments -/

/-- The least width of an indented line over some texts, or zero if no line is indented. -/
def leastIndent (texts : List Text) : Nat := (texts.flatMap indents).min?.getD 0

/-- Texts without the indentation that their lines share, and the line breaks at their ends as the
trims say. -/
def outdentTexts (trims : Trims) (texts : List Text) : List Text :=
  let closed := if trims.right then onLast trimClosing texts else texts
  let stripped := closed.map (stripIndent (leastIndent closed))
  if trims.left then stripped.modifyHead dropOpening else stripped

namespace Segment

/-- The text of a segment without its closing line. -/
@[simp] theorem raw_trimRight (segment : Segment) :
    segment.trimRight.raw = segment.raw.trimClosing := by
  unfold trimRight trimClosing
  cases segment.raw.closingWidth? <;> rfl

/-- The text of a segment without the line break that it begins with. -/
@[simp] theorem raw_trimLeft (segment : Segment) :
    segment.trimLeft.raw = segment.raw.dropOpening := by
  unfold trimLeft
  split
  · rfl
  · rename_i plain
    unfold dropOpening
    split
    · rename_i same
      simp [same, hasOpening] at plain
    · rename_i same
      simp [same, hasOpening] at plain
    · rfl

end Segment

/-- An edit of the last value that is seen as another edit is seen as that edit of the last one. -/
theorem map_onLast_comm {α β : Type} {edit : α → α} {view : α → β} {other : β → β}
    (same : ∀ value, view (edit value) = other (view value)) (values : List α) :
    (onLast edit values).map view = onLast other (values.map view) := by
  fun_induction onLast edit values with
  | case1 => rfl
  | case2 value => simp [onLast, same]
  | case3 value next rest ih => simp_all [onLast]

/-- The texts of the segments of an outdented template depend on their texts only. -/
theorem map_raw_outdent (trims : Trims) (segments : List Segment) :
    (outdent trims segments).map Segment.raw = outdentTexts trims (segments.map Segment.raw) := by
  have least : ∀ values : List Segment,
      commonIndent values = leastIndent (values.map Segment.raw) := by
    intro values
    simp [commonIndent, leastIndent, List.flatMap_map]
  have right : (if trims.right then onLast Segment.trimRight segments else segments).map
      Segment.raw = if trims.right then onLast trimClosing (segments.map Segment.raw)
        else segments.map Segment.raw := by
    split
    · exact map_onLast_comm Segment.raw_trimRight segments
    · rfl
  have strip : ∀ (width : Nat) (values : List Segment),
      (values.map (Segment.stripIndent width)).map Segment.raw =
        (values.map Segment.raw).map (stripIndent width) := by
    intro width values
    simp [Segment.stripIndent, Segment.map, Function.comp_def]
  have left : ∀ values : List Segment, (values.modifyHead Segment.trimLeft).map Segment.raw =
      (values.map Segment.raw).modifyHead dropOpening := by
    intro values
    cases values <;> simp
  unfold outdent outdentTexts
  simp only [least, ← right]
  split
  · rw [left, strip]
  · rw [strip]

/-- As many texts come out as went in. -/
@[simp] theorem length_outdentTexts (trims : Trims) (texts : List Text) :
    (outdentTexts trims texts).length = texts.length := by
  unfold outdentTexts
  split <;> split <;> simp

/-! ## A single text -/

/-- A text without the indentation that its lines share, and the line breaks at its ends as the
trims say. -/
def outdentAlone (trims : Trims) (text : Text) : Text :=
  let closed := if trims.right then text.trimClosing else text
  let stripped := closed.stripIndent (leastIndent [closed])
  if trims.left then stripped.dropOpening else stripped

/-- A template of one text. -/
@[simp] theorem outdentTexts_singleton (trims : Trims) (text : Text) :
    outdentTexts trims [text] = [outdentAlone trims text] := by
  unfold outdentTexts outdentAlone
  cases trims.right <;> cases trims.left <;> rfl

namespace Text

/-- What is left without the closing line is in the text. -/
theorem trimClosing_sublist (text : Text) : (trimClosing text).Sublist text := by
  obtain same | ⟨character, after, _, same⟩ := trimClosing_prefix text
  · rewrite [same]
    exact List.Sublist.refl text
  · have begins : trimClosing text <+: text := ⟨character :: after, same.symm⟩
    exact begins.sublist

/-- What is left when blanks are taken is in the text. -/
theorem stripIndentFrom_sublist (width skip : Nat) (text : Text) :
    (stripIndentFrom width skip text).Sublist text := by
  induction text generalizing skip with
  | nil =>
    rewrite [stripIndentFrom]
    exact List.Sublist.refl []
  | cons character rest ih =>
    cases skip with
    | succ skip =>
      rw [stripIndentFrom]
      exact (ih skip).cons _
    | zero =>
      rw [stripIndentFrom_cons]
      exact (ih _).cons_cons _

/-- What is left without the first line break is in the text. -/
theorem dropOpening_sublist (text : Text) : (dropOpening text).Sublist text := by
  unfold dropOpening
  split
  · exact List.sublist_cons_self _ _
  · exact (List.sublist_cons_self _ _).cons _
  · exact List.Sublist.refl _

/-- What is left of a text without its indentation is in the text. -/
theorem outdentAlone_sublist (trims : Trims) (text : Text) :
    (outdentAlone trims text).Sublist text := by
  have closed : (if trims.right then text.trimClosing else text).Sublist text := by
    split
    · exact trimClosing_sublist text
    · exact List.Sublist.refl text
  unfold outdentAlone
  simp only
  split
  · exact (dropOpening_sublist _).trans ((stripIndentFrom_sublist _ 0 _).trans closed)
  · exact (stripIndentFrom_sublist _ 0 _).trans closed

/-- A character that ends no line is neither a line feed nor a carriage return. -/
theorem ne_of_isBreak_eq_false {character : Char} (unbroken : isBreak character = false) :
    character ≠ '\n' ∧ character ≠ '\r' := by
  simpa [isBreak] using unbroken

/-- A text that does not begin with a line break is kept. -/
theorem dropOpening_cons {character : Char} {rest : Text} (feed : character ≠ '\n')
    (apart : character = '\r' → rest.head? ≠ some '\n') :
    dropOpening (character :: rest) = character :: rest := by
  unfold dropOpening
  split
  · rename_i same
    exact absurd (List.cons.inj same).1 feed
  · rename_i same
    obtain ⟨returns, rfl⟩ := List.cons.inj same
    exact absurd rfl (apart returns)
  · rfl

/-- A text that the removal of indentation does not look into: it has a character, does not begin
with a blank, and ends no line. -/
structure Inert (text : Text) : Prop where
  /-- There is a character. -/
  filled : text ≠ []
  /-- The first character is not blank. -/
  visible : ∀ first, text.head? = some first → isBlank first = false
  /-- No character ends a line. -/
  unbroken : ∀ character ∈ text, isBreak character = false

/-- A text of which no character is blank or ends a line, and that has a character. -/
structure Solid (text : Text) : Prop where
  /-- There is a character. -/
  filled : text ≠ []
  /-- No character is blank. -/
  visible : ∀ character ∈ text, isBlank character = false
  /-- No character ends a line. -/
  unbroken : ∀ character ∈ text, isBreak character = false

/-- The removal of indentation does not look into solid text. -/
theorem Solid.inert {solid : Text} (ends : Solid solid) : Inert solid :=
  ⟨ends.filled, fun first found => ends.visible first (List.mem_of_head? found), ends.unbroken⟩

/-- Text that ends no line has no line feed. -/
theorem feed_not_mem_of_unbroken {text : Text}
    (unbroken : ∀ character ∈ text, isBreak character = false) : '\n' ∉ text :=
  fun member => absurd (unbroken _ member) (by decide)

/-- No line begins behind text without a line feed. -/
theorem indents_append_of_not_mem {front : Text} (free : '\n' ∉ front) (rest : Text) :
    indents (front ++ rest) = indents rest := by
  induction front with
  | nil => rfl
  | cons character front ih =>
    rw [List.mem_cons, not_or] at free
    rw [List.cons_append, indents, if_neg (Ne.symm free.1)]
    exact ih free.2

/-- From text without a line feed only what is still to be dropped is taken. -/
theorem stripIndentFrom_append_of_not_mem {front : Text} (free : '\n' ∉ front) (width : Nat)
    (rest : Text) {skip : Nat} (short : skip ≤ front.length) :
    stripIndentFrom width skip (front ++ rest) =
      front.drop skip ++ stripIndentFrom width 0 rest := by
  induction front generalizing skip with
  | nil =>
    obtain rfl : skip = 0 := Nat.le_zero.mp short
    rfl
  | cons character front ih =>
    rw [List.mem_cons, not_or] at free
    cases skip with
    | succ skip =>
      rw [List.cons_append, stripIndentFrom, List.drop_succ_cons]
      exact ih free.2 (Nat.le_of_succ_le_succ short)
    | zero =>
      rw [List.cons_append, stripIndentFrom_cons, taken_of_ne (Ne.symm free.1),
        ih free.2 (Nat.zero_le _)]
      rfl

section Inert

variable {inert : Text} (still : Inert inert)

include still in
/-- A text begins with as many blanks if something inert follows. -/
theorem margin_append_inert (text rest : Text) :
    margin (text ++ (inert ++ rest)) = margin text := by
  induction text with
  | nil =>
    cases inert with
    | nil => exact absurd rfl still.filled
    | cons first others =>
      have visible : isBlank first = false := still.visible first rfl
      simp [margin, visible]
  | cons character text ih =>
    simp only [margin, List.cons_append, List.takeWhile_cons] at ih ⊢
    split
    · rw [List.length_cons, List.length_cons, ih]
    · rfl

include still in
/-- The indented lines of a text with something inert in it are those in front of it and those
behind it. -/
theorem indents_append_inert (text rest : Text) :
    indents (text ++ (inert ++ rest)) = indents text ++ indents rest := by
  induction text with
  | nil => exact indents_append_of_not_mem (feed_not_mem_of_unbroken still.unbroken) rest
  | cons character text ih =>
    rw [List.cons_append, indents, indents, margin_append_inert still, ih]
    split
    · split
      · rfl
      · rfl
    · rfl

include still in
/-- When blanks are taken something inert is kept, and it separates what is in front of it from what
is behind it. -/
theorem stripIndentFrom_append_inert (width : Nat) (text rest : Text) (skip : Nat)
    (short : skip ≤ text.length) :
    stripIndentFrom width skip (text ++ (inert ++ rest)) =
      stripIndentFrom width skip text ++ (inert ++ stripIndentFrom width 0 rest) := by
  induction text generalizing skip with
  | nil =>
    obtain rfl : skip = 0 := Nat.le_zero.mp short
    exact stripIndentFrom_append_of_not_mem (feed_not_mem_of_unbroken still.unbroken) width rest
      (Nat.zero_le _)
  | cons character text ih =>
    cases skip with
    | succ skip =>
      rw [List.cons_append, stripIndentFrom, stripIndentFrom]
      exact ih skip (Nat.le_of_succ_le_succ short)
    | zero =>
      have same : taken width character (text ++ (inert ++ rest)) = taken width character text := by
        rw [taken, taken, margin_append_inert still]
      have fits : taken width character text ≤ text.length := by
        rw [taken]
        split
        · rename_i long
          exact Nat.le_trans long.2 (margin_le_length text)
        · exact Nat.zero_le _
      rw [List.cons_append, stripIndentFrom_cons, stripIndentFrom_cons, same, ih _ fits,
        List.cons_append]

include still in
/-- Something inert is kept when the first line break is dropped. -/
theorem dropOpening_append_inert (text rest : Text) :
    dropOpening (text ++ (inert ++ rest)) = dropOpening text ++ (inert ++ rest) := by
  cases inert with
  | nil => exact absurd rfl still.filled
  | cons first others =>
    have unbroken := ne_of_isBreak_eq_false (still.unbroken first List.mem_cons_self)
    cases text with
    | nil => exact dropOpening_cons unbroken.1 fun returns => absurd returns unbroken.2
    | cons character text =>
      by_cases feed : character = '\n'
      · rw [feed]
        rfl
      by_cases pair : character = '\r' ∧ text.head? = some '\n'
      · obtain ⟨rfl, found⟩ := pair
        obtain ⟨later, rfl⟩ := List.head?_eq_some_iff.mp found
        rfl
      · have apart : character = '\r' → text.head? ≠ some '\n' :=
          fun returns found => pair ⟨returns, found⟩
        rw [dropOpening_cons feed apart, List.cons_append]
        refine dropOpening_cons feed fun returns => ?_
        cases text with
        | nil => simpa using unbroken.1
        | cons next later => exact apart returns

end Inert

variable {solid : Text} (ends : Solid solid)

include ends in
/-- What is solid ends in a character that is neither blank nor ends a line. -/
theorem exists_getLast?_solid : ∃ last, solid.getLast? = some last ∧ isBlank last = false ∧
    isBreak last = false := by
  cases found : solid.getLast? with
  | none => exact absurd (List.getLast?_eq_none_iff.mp found) ends.filled
  | some last =>
    have member : last ∈ solid := List.mem_of_getLast? found
    exact ⟨last, rfl, ends.visible last member, ends.unbroken last member⟩

include ends in
/-- No closing line is cut off where a text ends solidly. -/
theorem trimClosing_append_solid (text : Text) : trimClosing (text ++ solid) = text ++ solid := by
  obtain ⟨before, blanks, blank, same⟩ | kept := trimClosing_cases (text ++ solid)
  · obtain ⟨last, found, visible, unbroken⟩ := exists_getLast?_solid ends
    have whole : (before ++ '\n' :: blanks).getLast? = some last := by
      rw [← same, List.getLast?_append, found]
      rfl
    rw [List.getLast?_append, Option.or_of_isSome (by simp)] at whole
    obtain rfl | member := List.mem_cons.mp (List.mem_of_getLast? whole)
    · exact absurd unbroken (by decide)
    · rw [blank last member] at visible
      exact absurd visible (by decide)
  · exact kept

include ends in
/-- What is solid at the end of a text is kept, and what is in front of it is edited in the same way
whatever it is. -/
theorem outdentAlone_append_solid (trims : Trims) (text : Text) :
    outdentAlone trims (text ++ solid) = outdentAlone ⟨trims.left, false⟩ text ++ solid := by
  have closed : (if trims.right then trimClosing (text ++ solid) else text ++ solid) =
      text ++ solid := by
    split
    · exact trimClosing_append_solid ends text
    · rfl
  -- Nothing stands behind the solid text.
  have indented := indents_append_inert ends.inert text []
  have least : leastIndent [text ++ solid] = leastIndent [text] := by
    simpa [leastIndent, indents] using congrArg (fun widths => widths.min?.getD 0) indented
  have stripped := stripIndentFrom_append_inert ends.inert (leastIndent [text]) text [] 0
    (Nat.zero_le _)
  have opened := fun front => dropOpening_append_inert ends.inert front []
  simp only [List.append_nil, stripIndentFrom] at stripped opened
  unfold outdentAlone
  simp only [closed, least, Bool.false_eq_true, ↓reduceIte]
  rw [stripIndent, stripped]
  split
  · exact opened _
  · rfl

end Text

end Outdent
