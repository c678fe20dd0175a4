import Outdent.Proofs.Lines

/-!
# Lines of points

An edit of the texts between surrogates is one of lines too. Where points are lines with line feeds
between them, the three steps of the removal of indentation do to a resolved text what they do to
a written one: blanks are taken from lines (`stripIndent_join`), a blank last line is cut off
(`dropClosing_join`) and an empty first one is dropped (`dropOpening_join`). Surrogates are neither
blanks nor parts of line breaks, so points are cut at one of them and each side is edited by itself.
-/
namespace Outdent.Points

open Text

/-! ## Cuts at surrogates -/

section Cuts

variable {edit : Text → Text}

/-- Points are characters, or some of them stand before a first surrogate. -/
theorem eq_points_or_first (points : Points) :
    (∃ text : Text, points = text.points) ∨
      ∃ (text : Text) (index : Fin 0x800) (back : Points),
        points = text.points ++ .surrogate index :: back := by
  induction points with
  | nil => exact Or.inl ⟨[], rfl⟩
  | cons point rest ih =>
    cases point with
    | surrogate index => exact Or.inr ⟨[], index, rest, rfl⟩
    | char character =>
      obtain ⟨text, rfl⟩ | ⟨text, index, back, rfl⟩ := ih
      · exact Or.inl ⟨character :: text, rfl⟩
      · exact Or.inr ⟨character :: text, index, back, rfl⟩

/-- Points are characters, or some of them stand behind a last surrogate. -/
theorem eq_points_or_last (points : Points) :
    (∃ text : Text, points = text.points) ∨
      ∃ (front : Points) (index : Fin 0x800) (text : Text),
        points = front ++ .surrogate index :: text.points := by
  induction points with
  | nil => exact Or.inl ⟨[], rfl⟩
  | cons point rest ih =>
    obtain ⟨text, rfl⟩ | ⟨front, index, text, rfl⟩ := ih
    · cases point with
      | char character => exact Or.inl ⟨character :: text, rfl⟩
      | surrogate index => exact Or.inr ⟨[], index, text, rfl⟩
    · exact Or.inr ⟨point :: front, index, text, rfl⟩

/-- The texts on both sides of a surrogate are apart. -/
theorem runs_append (front : Points) (index : Fin 0x800) (back : Points) :
    runs (front ++ .surrogate index :: back) = runs front ++ runs back := by
  induction front with
  | nil => rfl
  | cons point front ih =>
    cases point with
    | surrogate other => simp only [List.cons_append, runs, ih]
    | char character =>
      have filled : runs front ≠ [] := List.ne_nil_of_length_eq_add_one (runs_length front)
      obtain ⟨text, texts, same⟩ := List.exists_cons_of_ne_nil filled
      simp only [List.cons_append, runs, ih, same, List.modifyHead_cons]

/-- The surrogates on both sides of one are apart. -/
theorem surrogates_append (front : Points) (index : Fin 0x800) (back : Points) :
    surrogates (front ++ .surrogate index :: back) =
      surrogates front ++ index :: surrogates back := by
  induction front with
  | nil => rfl
  | cons point front ih => cases point <;> simp only [List.cons_append, surrogates, ih]

/-- Texts with surrogates between them are joined on both sides of one. -/
theorem joinRuns_append {texts : List Text} {indices : List (Fin 0x800)}
    (same : texts.length = indices.length + 1) (others : List Text) (index : Fin 0x800)
    (more : List (Fin 0x800)) :
    joinRuns (texts ++ others) (indices ++ index :: more) =
      joinRuns texts indices ++ .surrogate index :: joinRuns others more := by
  induction texts generalizing indices with
  | nil => simp at same
  | cons text texts ih =>
    cases indices with
    | nil =>
      obtain rfl : texts = [] := List.length_eq_zero_iff.mp (Nat.succ.inj same)
      rfl
    | cons first indices =>
      rw [List.cons_append, List.cons_append, joinRuns, joinRuns, ih (Nat.succ.inj same)]
      simp

/-- An edit of the last of some values is one of the last behind others. -/
theorem onLast_append {α : Type} {change : α → α} {values : List α} (filled : values ≠ [])
    (front : List α) : onLast change (front ++ values) = front ++ onLast change values := by
  obtain ⟨value, rest, rfl⟩ := List.exists_cons_of_ne_nil filled
  induction front with
  | nil => rfl
  | cons first front ih => cases front <;> exact congrArg (first :: ·) ih

/-- An edit of all texts is one on each side of a surrogate. -/
theorem editRuns_map (front : Points) (index : Fin 0x800) (back : Points) :
    editRuns (List.map edit) (front ++ .surrogate index :: back) =
      editRuns (List.map edit) front ++ .surrogate index :: editRuns (List.map edit) back := by
  simp only [editRuns, runs_append, surrogates_append, List.map_append]
  exact joinRuns_append (by simp [runs_length]) _ index _

/-- An edit of the first text is one in front of a surrogate. -/
theorem editRuns_modifyHead (front : Points) (index : Fin 0x800) (back : Points) :
    editRuns (List.modifyHead edit) (front ++ .surrogate index :: back) =
      editRuns (List.modifyHead edit) front ++ .surrogate index :: back := by
  have filled : runs front ≠ [] := List.ne_nil_of_length_eq_add_one (runs_length front)
  have head : (runs front ++ runs back).modifyHead edit =
      (runs front).modifyHead edit ++ runs back := by
    obtain ⟨text, texts, same⟩ := List.exists_cons_of_ne_nil filled
    simp [same]
  simp only [editRuns, runs_append, surrogates_append, head]
  rw [joinRuns_append (by simp [runs_length]), joinRuns_runs]

/-- An edit of the last text is one behind a surrogate. -/
theorem editRuns_onLast (front : Points) (index : Fin 0x800) (back : Points) :
    editRuns (onLast edit) (front ++ .surrogate index :: back) =
      front ++ .surrogate index :: editRuns (onLast edit) back := by
  have filled : runs back ≠ [] := List.ne_nil_of_length_eq_add_one (runs_length back)
  simp only [editRuns, runs_append, surrogates_append, onLast_append filled]
  rw [joinRuns_append (runs_length front), joinRuns_runs]

end Cuts

/-! ## Single lines -/

/-- Is a point a blank? -/
def isBlank (point : Point) : Bool := point.char?.any Text.isBlank

/-- The number of blanks that points begin with. -/
def margin (points : Points) : Nat := (points.takeWhile isBlank).length

/-- A line without `width` blanks in front, if it has as many. -/
def dropIndent (width : Nat) (line : Points) : Points :=
  if width ≤ margin line then line.drop width else line

/-- Points without the carriage return that they may end with. -/
def withoutReturn (points : Points) : Points :=
  if points.getLast? = some (.char '\r') then points.dropLast else points

section Line

/-- Characters are indented as their text is. -/
@[simp] theorem margin_points (text : Text) : margin text.points = text.margin := by
  rw [margin, Text.points, List.takeWhile_map, List.length_map]
  rfl

/-- What is behind a point that is no blank indents nothing. -/
theorem margin_append {point : Point} (visible : isBlank point = false) (line rest : Points) :
    margin (line ++ point :: rest) = margin line := by
  induction line with
  | nil => simp [margin, visible]
  | cons first line ih =>
    simp only [margin, List.cons_append, List.takeWhile_cons] at ih ⊢
    split
    · rw [List.length_cons, List.length_cons, ih]
    · rfl

/-- Blanks in front of points add to the blanks that these begin with. -/
theorem margin_append_blanks {blanks : Text}
    (blank : ∀ character ∈ blanks, Text.isBlank character = true) (points : Points) :
    margin (blanks.points ++ points) = blanks.length + margin points := by
  have all : ∀ point ∈ blanks.points, isBlank point = true := by
    intro point member
    obtain ⟨character, inside, rfl⟩ := List.mem_map.mp member
    exact blank character inside
  unfold margin
  rw [List.takeWhile_append_of_pos all, List.length_append, Text.points, List.length_map]

/-- No points are indented by more than their number. -/
theorem margin_le_length (points : Points) : margin points ≤ points.length :=
  (List.takeWhile_prefix isBlank).length_le

/-- A line loses its blanks in front of a point that is none. -/
theorem dropIndent_append {point : Point} (visible : isBlank point = false) (width : Nat)
    (line rest : Points) :
    dropIndent width (line ++ point :: rest) = dropIndent width line ++ point :: rest := by
  unfold dropIndent
  rw [margin_append visible]
  split
  · rename_i enough
    exact List.drop_append_of_le_length (Nat.le_trans enough (margin_le_length line))
  · rfl

/-- Characters lose their blanks as their text does. -/
theorem dropIndent_points (width : Nat) (text : Text) :
    dropIndent width text.points = (text.dropIndent width).points := by
  unfold dropIndent Text.dropIndent
  rw [margin_points]
  split
  · exact List.map_drop.symm
  · rfl

/-- A carriage return at the end stands behind a point that is none. -/
theorem withoutReturn_append {point : Point} (other : point ≠ .char '\r') (front rest : Points) :
    withoutReturn (front ++ point :: rest) = front ++ point :: withoutReturn rest := by
  have last : (front ++ point :: rest).getLast? = (point :: rest).getLast? := by
    simp [List.getLast?_append, List.getLast?_cons]
  unfold withoutReturn
  rw [last]
  cases rest with
  | nil => simp [other]
  | cons next rest =>
    rw [List.getLast?_cons_cons, List.dropLast_append_of_ne_nil (List.cons_ne_nil _ _),
      List.dropLast_cons_of_ne_nil (List.cons_ne_nil _ _)]
    split <;> rfl

/-- Points are indented as much without the carriage return that they may end with. -/
theorem margin_withoutReturn (points : Points) : margin (withoutReturn points) = margin points := by
  unfold withoutReturn
  split
  · rename_i returns
    obtain ⟨front, rfl⟩ := List.getLast?_eq_some_iff.mp returns
    rw [List.dropLast_concat]
    exact (margin_append rfl front []).symm
  · rfl

/-- Characters lose a carriage return at the end as their text does. -/
@[simp] theorem withoutReturn_points (text : Text) :
    withoutReturn text.points = (Text.withoutReturn text).points := by
  have last : text.points.getLast? = text.getLast?.map .char := List.getLast?_map
  unfold withoutReturn
  by_cases returns : text.getLast? = some '\r'
  · obtain ⟨front, rfl⟩ := List.getLast?_eq_some_iff.mp returns
    rw [last, returns, Option.map_some, if_pos rfl, Text.withoutReturn_append]
    simp [Text.points]
  · have other : text.points.getLast? ≠ some (.char '\r') := by
      rw [last]
      intro same
      obtain ⟨character, found, equal⟩ := Option.map_eq_some_iff.mp same
      exact returns (Point.char.inj equal ▸ found)
    rw [if_neg other, withoutReturn_of_getLast?_ne returns]

end Line

/-! ## Lines with line feeds between them -/

section Lines

variable {lines : List Points}

/-- Where characters are passed over, blanks are taken from what is left. -/
theorem stripIndentFrom_eq_drop (width skip : Nat) (text : Text) :
    stripIndentFrom width skip text = Text.stripIndent width (text.drop skip) := by
  induction skip generalizing text with
  | zero => rfl
  | succ skip ih =>
    cases text with
    | nil => rfl
    | cons character rest => exact ih rest

/-- Where no line feed is in front, blanks are taken from what is behind. -/
theorem stripIndent_append {front : Points} (free : .char '\n' ∉ front) (width : Nat)
    (back : Points) :
    editRuns (List.map (Text.stripIndent width)) (front ++ back) =
      front ++ editRuns (List.map (Text.stripIndent width)) back := by
  induction front with
  | nil => rfl
  | cons point front ih =>
    rw [List.mem_cons, not_or] at free
    rw [List.cons_append, List.cons_append, ← ih free.2]
    cases point with
    | surrogate index => exact editRuns_map [] index (front ++ back)
    | char character =>
      have other : character ≠ '\n' := fun same => free.1 (same ▸ rfl)
      have filled : runs (front ++ back) ≠ [] :=
        List.ne_nil_of_length_eq_add_one (runs_length (front ++ back))
      obtain ⟨text, texts, same⟩ := List.exists_cons_of_ne_nil filled
      have kept : Text.stripIndent width (character :: text) =
          character :: Text.stripIndent width text := by
        rw [Text.stripIndent, stripIndentFrom, if_neg other]
        rfl
      rw [editRuns, runs, same, List.modifyHead_cons, List.map_cons, kept, surrogates, editRuns,
        same, List.map_cons, ← joinRuns_modifyHead (List.cons_ne_nil _ _), List.modifyHead_cons]

/-- Blanks are taken from directly behind a line feed. -/
theorem stripIndent_feed (width : Nat) (points : Points) :
    editRuns (List.map (Text.stripIndent width)) (.char '\n' :: points) =
      .char '\n' :: editRuns (List.map (Text.stripIndent width)) (dropIndent width points) := by
  have text : ∀ text : Text,
      editRuns (List.map (Text.stripIndent width)) (.char '\n' :: text.points) =
        .char '\n' ::
          editRuns (List.map (Text.stripIndent width)) (dropIndent width text.points) := by
    intro text
    have taken : Text.stripIndent width ('\n' :: text) =
        '\n' :: Text.stripIndent width (text.dropIndent width) := by
      rw [Text.stripIndent, stripIndentFrom, if_pos rfl, stripIndentFrom_eq_drop, Text.dropIndent]
      split <;> rfl
    rw [dropIndent_points, editRuns_points (List.map_singleton ..)]
    refine @editRuns_points _ ('\n' :: text) ('\n' :: _) ?_
    rw [List.map_singleton, taken]
  obtain ⟨front, rfl⟩ | ⟨front, index, back, rfl⟩ := eq_points_or_first points
  · exact text front
  · rw [← List.cons_append, editRuns_map, dropIndent_append rfl, editRuns_map, text front,
      List.cons_append]

/-- Blanks are taken from the lines behind line feeds that have enough of them. -/
theorem stripIndent_join (width : Nat) {first : Points}
    (free : ∀ line ∈ first :: lines, .char '\n' ∉ line) :
    editRuns (List.map (Text.stripIndent width)) (join [.char '\n'] (first :: lines)) =
      join [.char '\n'] (first :: lines.map (dropIndent width)) := by
  induction lines generalizing first with
  | nil =>
    have alone := stripIndent_append (free first List.mem_cons_self) width []
    rw [List.append_nil] at alone
    exact alone.trans (List.append_nil first)
  | cons next others ih =>
    have later : ∀ line ∈ dropIndent width next :: others, .char '\n' ∉ line := by
      intro line member
      obtain rfl | member := List.mem_cons.mp member
      · have whole := free next (.tail _ List.mem_cons_self)
        unfold dropIndent
        split
        · exact fun inside => whole (List.mem_of_mem_drop inside)
        · exact whole
      · exact free line (.tail _ (.tail _ member))
    have head : dropIndent width (join [.char '\n'] (next :: others)) =
        join [.char '\n'] (dropIndent width next :: others) := by
      by_cases single : others = []
      · rw [single, join, join]
      · rw [join_cons _ single, join_cons _ single]
        exact dropIndent_append rfl width next _
    rw [join_cons _ (List.cons_ne_nil _ _), List.map_cons, join_cons _ (List.cons_ne_nil _ _),
      stripIndent_append (free first List.mem_cons_self), List.singleton_append, stripIndent_feed,
      head, ih later]
    rfl

/-- A carriage return at the end is one at the end of the last line. -/
theorem withoutReturn_join (lines : List Points) :
    withoutReturn (join [.char '\n'] lines) = join [.char '\n'] (onLast withoutReturn lines) := by
  fun_induction onLast withoutReturn lines with
  | case1 => rfl
  | case2 line => rfl
  | case3 line next rest ih =>
    have filled : onLast withoutReturn (next :: rest) ≠ [] := by
      rw [ne_eq, ← List.length_eq_zero_iff, onLast_length]
      simp
    rw [join_cons _ (List.cons_ne_nil _ _), join_cons _ filled, ← ih, List.singleton_append,
      withoutReturn_append (by decide)]
    rfl

/-- A blank last line is cut off with the line break in front of it. -/
theorem dropClosing_join {blanks : Text}
    (blank : ∀ character ∈ blanks, Text.isBlank character = true) (filled : lines ≠ []) :
    editRuns (onLast (dropClosing blanks.length)) (join [.char '\n'] (lines ++ [blanks.points])) =
      join [.char '\n'] (onLast withoutReturn lines) := by
  have text : ∀ text : Text,
      editRuns (onLast (dropClosing blanks.length)) (text ++ '\n' :: blanks).points =
        withoutReturn text.points := by
    intro text
    have cut := trimClosing_append blank text
    rw [trimClosing, closingWidth?_append blank] at cut
    rw [withoutReturn_points, ← cut]
    exact editRuns_points rfl
  rw [join_append filled, List.singleton_append, ← withoutReturn_join]
  generalize join [.char '\n'] lines = front
  obtain ⟨front, rfl⟩ | ⟨front, index, behind, rfl⟩ := eq_points_or_last front
  · rw [← text front]
    simp [Text.points]
  · have other : Point.surrogate index ≠ .char '\r' := by simp
    rw [List.append_assoc, List.cons_append, editRuns_onLast, withoutReturn_append other,
      ← text behind]
    simp [Text.points]

/-- An empty first line is dropped with the line break behind it. -/
theorem dropOpening_join {first : Points} (bare : withoutReturn first = []) (filled : lines ≠ []) :
    editRuns (List.modifyHead dropOpening) (join [.char '\n'] (first :: lines)) =
      join [.char '\n'] lines := by
  have text : ∀ text : Text, editRuns (List.modifyHead dropOpening)
      (first ++ .char '\n' :: text.points) = text.points := by
    intro text
    unfold withoutReturn at bare
    split at bare
    · rename_i returns
      obtain ⟨front, rfl⟩ := List.getLast?_eq_some_iff.mp returns
      rw [List.dropLast_concat] at bare
      rw [bare]
      exact @editRuns_points _ ('\r' :: '\n' :: text) _ rfl
    · rw [bare]
      exact @editRuns_points _ ('\n' :: text) _ rfl
  rw [join_cons _ filled, List.singleton_append]
  generalize join [.char '\n'] lines = back
  obtain ⟨front, rfl⟩ | ⟨front, index, behind, rfl⟩ := eq_points_or_first back
  · exact text front
  · rw [← List.cons_append, ← List.append_assoc, editRuns_modifyHead, text front]

end Lines

end Outdent.Points
