import Outdent.Proofs.Texts

/-!
# Kinds of line breaks

Text in which every carriage return stands in front of a line feed may be edited before or after its
line breaks are unified: no step of the removal of indentation can tell the two kinds of line breaks
apart. `Paired` is the invariant that every step keeps. Main statements: `outdentTexts_unifyBreaks`,
and `outdent_pairsAsFeeds`, the same of segments whose line breaks of two characters become line
feeds.
-/
namespace Outdent

namespace Text

/-- Every carriage return stands in front of a line feed. -/
inductive Paired : Text → Prop where
  /-- No character. -/
  | nil : Paired []
  /-- A line break of two characters. -/
  | pair {rest : Text} (behind : Paired rest) : Paired ('\r' :: '\n' :: rest)
  /-- A character that is no carriage return. -/
  | cons {character : Char} {rest : Text} (other : character ≠ '\r') (behind : Paired rest) :
      Paired (character :: rest)

/-- Every carriage return stands in front of a line feed if a line feed is behind each. -/
theorem paired_of_forall {text : Text}
    (feeds : ∀ before after, text = before ++ '\r' :: after → after.head? = some '\n') :
    Paired text := by
  fun_induction unifyBreaks text with
  | case1 => exact .nil
  | case2 rest ih =>
    refine .pair (ih fun before after same => feeds ('\r' :: '\n' :: before) after ?_)
    rw [same]
    rfl
  | case3 rest single ih =>
    obtain ⟨others, rfl⟩ := List.head?_eq_some_iff.mp (feeds [] rest rfl)
    exact absurd rfl (single others)
  | case4 character rest single returns ih =>
    refine .cons (fun same => returns same) (ih fun before after same => ?_)
    exact feeds (character :: before) after (by rw [same]; rfl)

/-- A character that is no carriage return is kept. -/
theorem unifyBreaks_cons {character : Char} (other : character ≠ '\r') (rest : Text) :
    unifyBreaks (character :: rest) = character :: unifyBreaks rest := by
  rw [unifyBreaks]
  · intro _ same; exact absurd same other
  · intro same; exact absurd same other

/-- Line breaks of two texts are unified in each. -/
theorem unifyBreaks_append {left : Text} (paired : Paired left) (right : Text) :
    unifyBreaks (left ++ right) = unifyBreaks left ++ unifyBreaks right := by
  induction paired with
  | nil => rfl
  | pair behind ih => simp only [List.cons_append, unifyBreaks, ih]
  | cons other behind ih =>
    rw [List.cons_append, unifyBreaks_cons other, unifyBreaks_cons other, ih, List.cons_append]

/-- Line breaks of two texts are unified in each, if no line feed is between them. -/
theorem unifyBreaks_append_of_head?_ne {right : Text} (apart : right.head? ≠ some '\n')
    (left : Text) : unifyBreaks (left ++ right) = unifyBreaks left ++ unifyBreaks right := by
  fun_induction unifyBreaks left with
  | case1 => rfl
  | case2 rest ih => simp only [List.cons_append, unifyBreaks, ih]
  | case3 rest single ih =>
    rw [List.cons_append, unifyBreaks.eq_3, ih, List.cons_append]
    intro others same
    cases rest with
    | nil => exact apart (by rw [← List.nil_append right, same]; rfl)
    | cons next rest => exact single rest (by rw [(List.cons.inj same).1])
  | case4 character rest _ other ih =>
    rw [List.cons_append, unifyBreaks_cons other, ih, List.cons_append]

/-- Carriage returns are paired in two texts if they are in each. -/
theorem Paired.append {left right : Text} (before : Paired left) (after : Paired right) :
    Paired (left ++ right) := by
  induction before with
  | nil => exact after
  | pair behind ih => exact .pair ih
  | cons other behind ih => exact .cons other ih

/-- Text without carriage returns is paired. -/
theorem Paired.of_not_mem {text : Text} (free : '\r' ∉ text) : Paired text := by
  induction text with
  | nil => exact .nil
  | cons character rest ih =>
    exact .cons (fun same => free (same ▸ List.mem_cons_self))
      (ih fun member => free (.tail _ member))

/-- No carriage return is left when line breaks are unified. -/
theorem not_mem_unifyBreaks (text : Text) : '\r' ∉ unifyBreaks text := by
  fun_induction unifyBreaks text with
  | case1 => simp
  | case2 rest ih => simpa using ih
  | case3 rest _ ih => simpa using ih
  | case4 character rest _ other ih =>
    rw [List.mem_cons]
    exact fun found => found.elim (fun same => other same.symm) ih

/-- Text has its line breaks unified exactly if it holds no carriage return. -/
theorem unifyBreaks_eq_self_iff (text : Text) : unifyBreaks text = text ↔ '\r' ∉ text :=
  ⟨fun same => same ▸ not_mem_unifyBreaks text, unifyBreaks_of_not_mem text⟩

/-- A text with unified line breaks begins with another character than a line feed only if the text
does. -/
theorem head?_of_unifyBreaks {text : Text} {character : Char} (noFeed : character ≠ '\n')
    (first : (unifyBreaks text).head? = some character) : text.head? = some character := by
  fun_cases unifyBreaks text with
  | case1 => simp [unifyBreaks] at first
  | case2 rest =>
    rw [unifyBreaks] at first
    exact absurd (Option.some.inj first).symm noFeed
  | case3 rest single =>
    rw [unifyBreaks.eq_3 _ single] at first
    exact absurd (Option.some.inj first).symm noFeed
  | case4 other rest _ returns =>
    rw [unifyBreaks_cons returns] at first
    exact first

/-- Only the empty text is empty when its line breaks are unified. -/
theorem eq_nil_of_unifyBreaks {text : Text} (empty : unifyBreaks text = []) : text = [] := by
  fun_cases unifyBreaks text <;> simp_all [unifyBreaks]

/-- Both parts of a paired text are paired if no line break is split. -/
theorem Paired.split {left right : Text} (paired : Paired (left ++ right))
    (apart : left.getLast? = some '\r' → right.head? ≠ some '\n') :
    Paired left ∧ Paired right := by
  have inner : ∀ {first : Char} {front : Text},
      ((first :: front).getLast? = some '\r' → right.head? ≠ some '\n') →
        front.getLast? = some '\r' → right.head? ≠ some '\n' := by
    intro first front apart ends
    refine apart ?_
    cases front with
    | nil => simp at ends
    | cons next front => rwa [List.getLast?_cons_cons]
  generalize whole : left ++ right = text at paired
  induction paired generalizing left with
  | nil =>
    obtain ⟨rfl, rfl⟩ := List.append_eq_nil_iff.mp whole
    exact ⟨.nil, .nil⟩
  | pair behind ih =>
    obtain ⟨rfl, rfl⟩ | ⟨front, rfl, later⟩ := List.append_eq_cons_iff.mp whole
    · exact ⟨.nil, .pair behind⟩
    obtain ⟨rfl, rfl⟩ | ⟨front, rfl, rfl⟩ := List.append_eq_cons_iff.mp later.symm
    · exact absurd rfl (apart rfl)
    · obtain ⟨before, after⟩ := ih (inner (inner apart)) rfl
      exact ⟨.pair before, after⟩
  | cons other behind ih =>
    obtain ⟨rfl, rfl⟩ | ⟨front, rfl, rfl⟩ := List.append_eq_cons_iff.mp whole
    · exact ⟨.nil, .cons other behind⟩
    · obtain ⟨before, after⟩ := ih (inner apart) rfl
      exact ⟨.cons other before, after⟩

/-- In front of a line feed of a paired text, and behind it, carriage returns are paired apart from
the one that belongs to it. -/
theorem Paired.split_feed {left right : Text} (paired : Paired (left ++ '\n' :: right)) :
    Paired (withoutReturn left) ∧ Paired right ∧
      unifyBreaks (left ++ '\n' :: right) =
        unifyBreaks (withoutReturn left) ++ '\n' :: unifyBreaks right := by
  by_cases returns : left.getLast? = some '\r'
  · obtain ⟨front, rfl⟩ := List.getLast?_eq_some_iff.mp returns
    rw [List.append_assoc] at paired ⊢
    obtain ⟨before, after⟩ := paired.split (by simp)
    rw [withoutReturn_append, unifyBreaks_append before]
    cases after with
    | pair behind => exact ⟨before, behind, rfl⟩
    | cons other => exact absurd rfl other
  · rw [withoutReturn_of_getLast?_ne returns]
    obtain ⟨before, after⟩ := paired.split fun ends => absurd ends returns
    rw [unifyBreaks_append before]
    cases after with
    | cons _ behind => exact ⟨before, behind, rfl⟩

/-! ## Steps -/

/-- Blanks are no carriage returns. -/
theorem not_mem_of_isBlank {blanks : Text}
    (blank : ∀ character ∈ blanks, isBlank character = true) : '\r' ∉ blanks := by
  intro member
  exact absurd (blank _ member) (by decide)

/-- A line feed in text with unified line breaks comes from one with blanks behind it as they are
behind the other. -/
theorem exists_of_unifyBreaks {text before blanks : Text} (paired : Paired text)
    (same : unifyBreaks text = before ++ '\n' :: blanks) :
    ∃ front behind,
      text = front ++ '\n' :: behind ∧ unifyBreaks behind = blanks ∧ Paired behind := by
  induction paired generalizing before with
  | nil => simp [unifyBreaks] at same
  | @pair rest behind ih =>
    rw [unifyBreaks] at same
    obtain ⟨rfl, found⟩ | ⟨before, rfl, later⟩ := List.append_eq_cons_iff.mp same.symm
    · exact ⟨['\r'], rest, rfl, (List.cons.inj found).2.symm, behind⟩
    · obtain ⟨front, others, rfl, found, paired⟩ := ih later
      exact ⟨'\r' :: '\n' :: front, others, rfl, found, paired⟩
  | @cons character rest other behind ih =>
    rw [unifyBreaks_cons other] at same
    obtain ⟨rfl, found⟩ | ⟨before, rfl, later⟩ := List.append_eq_cons_iff.mp same.symm
    · obtain ⟨rfl, rfl⟩ := List.cons.inj found
      exact ⟨[], rest, rfl, rfl, behind⟩
    · obtain ⟨front, others, rfl, found, paired⟩ := ih later
      exact ⟨character :: front, others, rfl, found, paired⟩

/-- Text that is blank when its line breaks are unified has none. -/
theorem unifyBreaks_of_blank {text : Text} (paired : Paired text)
    (blank : ∀ character ∈ unifyBreaks text, isBlank character = true) :
    unifyBreaks text = text := by
  induction paired with
  | nil => rfl
  | pair behind ih =>
    have feed : isBlank '\n' = true := blank _ List.mem_cons_self
    exact absurd feed (by decide)
  | cons other behind ih =>
    rw [unifyBreaks_cons other] at blank ⊢
    rw [ih fun character member => blank character (.tail _ member)]

/-- The closing line is cut off before or after line breaks are unified. -/
theorem Paired.trimClosing {text : Text} (paired : Paired text) :
    Paired text.trimClosing ∧
      (unifyBreaks text).trimClosing = unifyBreaks text.trimClosing := by
  have closes : ∀ before blanks, (∀ character ∈ blanks, isBlank character = true) →
      text = before ++ '\n' :: blanks → Paired text.trimClosing ∧
        (unifyBreaks text).trimClosing = unifyBreaks text.trimClosing := by
    rintro before blanks blank rfl
    obtain ⟨front, behind, same⟩ := paired.split_feed
    have free := not_mem_unifyBreaks (withoutReturn before)
    rw [same, unifyBreaks_of_not_mem _ (not_mem_of_isBlank blank), trimClosing_append blank,
      trimClosing_append blank, withoutReturn_of_getLast?_ne fun ends =>
        free (List.mem_of_getLast? ends)]
    exact ⟨front, rfl⟩
  obtain ⟨before, blanks, blank, same⟩ | kept := trimClosing_cases text
  · exact closes before blanks blank same
  · obtain ⟨before, blanks, blank, same⟩ | keptThen := trimClosing_cases (unifyBreaks text)
    · obtain ⟨front, behind, whole, reads, pairedBehind⟩ := exists_of_unifyBreaks paired same
      rw [← unifyBreaks_of_blank pairedBehind (reads ▸ blank), reads] at whole
      exact closes front blanks blank whole
    · rw [kept, keptThen]
      exact ⟨paired, rfl⟩

/-- A text begins with as many blanks before and after line breaks are unified. -/
theorem Paired.margin {text : Text} (paired : Paired text) :
    (unifyBreaks text).margin = text.margin := by
  unfold Text.margin
  induction paired with
  | nil => rfl
  | pair => rfl
  | cons other behind ih =>
    rw [unifyBreaks_cons other, List.takeWhile_cons, List.takeWhile_cons]
    split
    · rw [List.length_cons, List.length_cons, ih]
    · rfl

/-- Lines are indented as far before and after line breaks are unified. -/
theorem Paired.indents {text : Text} (paired : Paired text) :
    (unifyBreaks text).indents = text.indents := by
  induction paired with
  | nil => rfl
  | pair behind ih =>
    have returns : '\r' ≠ '\n' := by decide
    simp only [unifyBreaks, Text.indents, returns, ↓reduceIte, behind.margin, ih]
  | cons other behind ih =>
    simp only [unifyBreaks_cons other, Text.indents, behind.margin, ih]

/-- Blanks are taken from behind line breaks before or after these are unified. -/
theorem Paired.stripIndentFrom {text : Text} (paired : Paired text) (width skip : Nat)
    (blank : ∀ character ∈ text.take skip, isBlank character = true) :
    Paired (Text.stripIndentFrom width skip text) ∧
      Text.stripIndentFrom width skip (unifyBreaks text) =
        unifyBreaks (Text.stripIndentFrom width skip text) := by
  have takes : ∀ {rest : Text}, Paired rest → ∀ character,
      taken width character (unifyBreaks rest) = taken width character rest := by
    intro rest paired character
    rw [taken, taken, paired.margin]
  induction paired generalizing skip with
  | nil => exact ⟨.nil, rfl⟩
  | @pair rest behind ih =>
    obtain rfl := eq_zero_of_isBlank rfl blank
    obtain ⟨paired, same⟩ := ih (taken width '\n' rest) fun other => isBlank_of_mem_taken
    rw [stripIndentFrom_cons, taken_of_ne (by decide), stripIndentFrom_cons, unifyBreaks,
      stripIndentFrom_cons, takes behind, same]
    exact ⟨.pair paired, rfl⟩
  | @cons character rest other behind ih =>
    rw [unifyBreaks_cons other]
    cases skip with
    | succ skip =>
      rw [Text.stripIndentFrom, Text.stripIndentFrom]
      exact ih skip fun next member => blank next (.tail _ member)
    | zero =>
      obtain ⟨paired, same⟩ := ih (taken width character rest) fun next => isBlank_of_mem_taken
      rw [stripIndentFrom_cons, stripIndentFrom_cons, takes behind, same,
        unifyBreaks_cons other]
      exact ⟨.cons other paired, rfl⟩

/-- The line break that a text begins with is dropped before or after line breaks are unified. -/
theorem Paired.dropOpening {text : Text} (paired : Paired text) :
    Paired text.dropOpening ∧
      (unifyBreaks text).dropOpening = unifyBreaks text.dropOpening := by
  cases paired with
  | nil => exact ⟨.nil, rfl⟩
  | pair behind => exact ⟨behind, rfl⟩
  | @cons character rest other behind =>
    by_cases feed : character = '\n'
    · rw [feed]
      exact ⟨behind, by rw [unifyBreaks_cons (by decide)]; rfl⟩
    · have kept : ∀ rest, Text.dropOpening (character :: rest) = character :: rest :=
        fun rest => dropOpening_cons feed fun returns => absurd returns other
      rw [kept, unifyBreaks_cons other, kept]
      exact ⟨.cons other behind, rfl⟩

end Text

open Text

/-- An edit of the last text that can be made before or after another edit of all texts. -/
theorem onLast_map_comm {edit other : Text → Text} {texts : List Text}
    (same : ∀ text ∈ texts, edit (other text) = other (edit text)) :
    onLast edit (texts.map other) = (onLast edit texts).map other := by
  fun_induction onLast edit texts with
  | case1 => rfl
  | case2 value => simp [onLast, same]
  | case3 value next rest ih =>
    have later := ih fun text member => same text (.tail _ member)
    rw [List.map_cons, List.map_cons, onLast, ← List.map_cons, later]
    rfl

/-- What is among values of which the last is edited is one of them, or edited from one. -/
theorem mem_onLast {α : Type} {edit : α → α} {values : List α} {value : α}
    (member : value ∈ onLast edit values) :
    value ∈ values ∨ ∃ whole ∈ values, edit whole = value := by
  fun_induction onLast edit values with
  | case1 => exact Or.inl member
  | case2 whole => exact Or.inr ⟨whole, by simp, (List.mem_singleton.mp member).symm⟩
  | case3 first next rest ih =>
    obtain rfl | member := List.mem_cons.mp member
    · exact Or.inl List.mem_cons_self
    · obtain later | ⟨whole, later, same⟩ := ih member
      · exact Or.inl (.tail _ later)
      · exact Or.inr ⟨whole, .tail _ later, same⟩

/-- The least indentation is the same before and after line breaks are unified. -/
theorem leastIndent_unifyBreaks {texts : List Text} (paired : ∀ text ∈ texts, Paired text) :
    leastIndent (texts.map unifyBreaks) = leastIndent texts := by
  have same : (texts.map unifyBreaks).flatMap indents = texts.flatMap indents := by
    rw [List.flatMap_map]
    induction texts with
    | nil => rfl
    | cons text rest ih =>
      rw [List.flatMap_cons, List.flatMap_cons, (paired text List.mem_cons_self).indents,
        ih fun other member => paired other (.tail _ member)]
  rw [leastIndent, leastIndent, same]

/-- Texts with paired carriage returns come out the same, and paired, whether line breaks are unified
before the removal of indentation or after it. -/
theorem outdentTexts_unifyBreaks (trims : Trims) {texts : List Text}
    (paired : ∀ text ∈ texts, Paired text) :
    (∀ text ∈ outdentTexts trims texts, Paired text) ∧
      outdentTexts trims (texts.map unifyBreaks) = (outdentTexts trims texts).map unifyBreaks := by
  have right : ∀ {texts : List Text}, (∀ text ∈ texts, Paired text) →
      (∀ text ∈ onLast Text.trimClosing texts, Paired text) ∧
        onLast Text.trimClosing (texts.map unifyBreaks) =
          (onLast Text.trimClosing texts).map unifyBreaks := by
    intro texts paired
    refine ⟨fun text member => ?_,
      onLast_map_comm fun text member => (paired text member).trimClosing.2⟩
    obtain member | ⟨whole, among, rfl⟩ := mem_onLast member
    · exact paired text member
    · exact (paired whole among).trimClosing.1
  have strip : ∀ {texts : List Text} (width : Nat), (∀ text ∈ texts, Paired text) →
      (∀ text ∈ texts.map (stripIndent width), Paired text) ∧
        (texts.map unifyBreaks).map (stripIndent width) =
          (texts.map (stripIndent width)).map unifyBreaks := by
    intro texts width paired
    have each : ∀ text ∈ texts, Paired (stripIndent width text) ∧
        stripIndent width (unifyBreaks text) = unifyBreaks (stripIndent width text) :=
      fun text member => (paired text member).stripIndentFrom width 0 (by simp)
    refine ⟨fun text member => ?_, ?_⟩
    · obtain ⟨whole, among, rfl⟩ := List.mem_map.mp member
      exact (each whole among).1
    · rw [List.map_map, List.map_map]
      exact List.map_congr_left fun text member => (each text member).2
  have left : ∀ {texts : List Text}, (∀ text ∈ texts, Paired text) →
      (∀ text ∈ texts.modifyHead Text.dropOpening, Paired text) ∧
        (texts.map unifyBreaks).modifyHead Text.dropOpening =
          (texts.modifyHead Text.dropOpening).map unifyBreaks := by
    intro texts paired
    cases texts with
    | nil => exact ⟨paired, rfl⟩
    | cons first rest =>
      have head := (paired first List.mem_cons_self).dropOpening
      refine ⟨fun text member => ?_, by simp [head.2]⟩
      obtain rfl | member := List.mem_cons.mp member
      · exact head.1
      · exact paired text (.tail _ member)
  let closed := if trims.right then onLast Text.trimClosing texts else texts
  have afterRight : (∀ text ∈ closed, Paired text) ∧
      (if trims.right then onLast Text.trimClosing (texts.map unifyBreaks)
        else texts.map unifyBreaks) = closed.map unifyBreaks := by
    cases choice : trims.right with
    | false => simpa [closed, choice] using paired
    | true => simpa [closed, choice] using right paired
  have afterStrip := strip (leastIndent closed) afterRight.1
  unfold outdentTexts
  simp only [afterRight.2, leastIndent_unifyBreaks afterRight.1, afterStrip.2]
  split
  · exact left afterStrip.1
  · exact ⟨afterStrip.1, rfl⟩

namespace Text

/-- In text with paired carriage returns a line feed is behind each. -/
theorem Paired.head?_behind {text before after : Text} (paired : Paired text)
    (same : text = before ++ '\r' :: after) : after.head? = some '\n' := by
  induction paired generalizing before with
  | nil => simp at same
  | pair behind ih =>
    obtain ⟨-, rest⟩ | ⟨front, -, later⟩ := List.append_eq_cons_iff.mp same.symm
    · rw [(List.cons.inj rest).2]
      rfl
    obtain ⟨-, rest⟩ | ⟨front, -, later⟩ := List.append_eq_cons_iff.mp later.symm
    · exact absurd (List.cons.inj rest).1 (by decide)
    · exact ih later
  | cons other behind ih =>
    obtain ⟨-, rest⟩ | ⟨front, -, later⟩ := List.append_eq_cons_iff.mp same.symm
    · exact absurd (List.cons.inj rest).1.symm other
    · exact ih later

/-- A text with every line break of two characters as a line feed. -/
def pairsAsFeeds (text : Text) : Text := replaceAll ['\r', '\n'] ['\n'] text

/-- A line break of two characters becomes a line feed. -/
theorem pairsAsFeeds_pair (rest : Text) :
    pairsAsFeeds ('\r' :: '\n' :: rest) = '\n' :: pairsAsFeeds rest :=
  rfl

/-- Another character is kept. -/
theorem pairsAsFeeds_cons {character : Char} {rest : Text}
    (single : character = '\r' → rest.head? ≠ some '\n') :
    pairsAsFeeds (character :: rest) = character :: pairsAsFeeds rest := by
  have apart : ¬ (['\r', '\n'].isPrefixOf (character :: rest) = true) := by
    intro opens
    obtain ⟨behind, whole⟩ := List.isPrefixOf_iff_prefix.mp opens
    obtain ⟨rfl, rfl⟩ := List.cons.inj whole
    exact single rfl rfl
  rw [pairsAsFeeds, replaceAll, replaceAllFrom, if_neg apart]
  rfl

/-- Where carriage returns are paired, line breaks of two characters are all that there is to unify.
-/
theorem Paired.pairsAsFeeds {text : Text} (paired : Paired text) :
    Text.pairsAsFeeds text = unifyBreaks text := by
  induction paired with
  | nil => rfl
  | pair behind ih => rw [pairsAsFeeds_pair, ih, unifyBreaks]
  | cons other behind ih =>
    rw [pairsAsFeeds_cons fun same => absurd same other, ih, unifyBreaks_cons other]

/-- Carriage returns are paired exactly if no one is left where line breaks of two characters become
line feeds. -/
theorem paired_iff_pairsAsFeeds {text : Text} : Paired text ↔ '\r' ∉ pairsAsFeeds text := by
  constructor
  · intro paired
    rw [paired.pairsAsFeeds]
    exact not_mem_unifyBreaks text
  · intro free
    fun_induction unifyBreaks text with
    | case1 => exact .nil
    | case2 rest ih =>
      rw [pairsAsFeeds_pair, List.mem_cons, not_or] at free
      exact .pair (ih free.2)
    | case3 rest single =>
      have kept : rest.head? ≠ some '\n' := by
        intro first
        obtain ⟨others, rfl⟩ := List.head?_eq_some_iff.mp first
        exact single _ rfl
      rw [pairsAsFeeds_cons fun _ => kept] at free
      exact absurd List.mem_cons_self free
    | case4 character rest _ other ih =>
      rw [pairsAsFeeds_cons fun same => absurd same other, List.mem_cons, not_or] at free
      exact .cons other (ih free.2)

instance (text : Text) : Decidable (Paired text) :=
  decidable_of_iff ('\r' ∉ pairsAsFeeds text) paired_iff_pairsAsFeeds.symm

end Text

/-- A template whose texts have a line feed behind each carriage return comes out the same whether
its line breaks of two characters become line feeds before its indentation is removed or after it,
and a line feed is still behind each carriage return of what comes out. -/
theorem outdent_pairsAsFeeds (trims : Trims) {segments others : List Segment}
    (feeds : ∀ segment ∈ segments, ∀ before after, segment.raw = before ++ '\r' :: after →
      after.head? = some '\n')
    (same : others.map Segment.raw = (segments.map Segment.raw).map pairsAsFeeds) :
    (outdent trims others).map Segment.raw =
        ((outdent trims segments).map Segment.raw).map pairsAsFeeds ∧
      ∀ segment ∈ outdent trims segments, ∀ before after,
        segment.raw = before ++ '\r' :: after → after.head? = some '\n' := by
  have paired : ∀ text ∈ segments.map Segment.raw, Paired text := by
    intro text member
    obtain ⟨segment, among, rfl⟩ := List.mem_map.mp member
    exact paired_of_forall (feeds segment among)
  have unified : ∀ {texts : List Text}, (∀ text ∈ texts, Paired text) →
      texts.map pairsAsFeeds = texts.map unifyBreaks :=
    fun paired => List.map_congr_left fun text member => (paired text member).pairsAsFeeds
  obtain ⟨still, commutes⟩ := outdentTexts_unifyBreaks trims paired
  rw [← map_raw_outdent] at still
  constructor
  · calc (outdent trims others).map Segment.raw
        = outdentTexts trims ((segments.map Segment.raw).map unifyBreaks) := by
          rw [map_raw_outdent, same, unified paired]
      _ = ((outdent trims segments).map Segment.raw).map unifyBreaks := by
          rw [commutes, map_raw_outdent]
      _ = ((outdent trims segments).map Segment.raw).map pairsAsFeeds := (unified still).symm
  · intro segment member before after split
    exact (still segment.raw (List.mem_map_of_mem member)).head?_behind split

/-- Breaks of both kinds, one of two characters in front of a blank closing line. -/
theorem outdent_pairsAsFeeds_mixed :
    let segments : List Segment :=
      [⟨"\r\n    foo\n      ".toList, none⟩, ⟨"bar\r\n\t  baz\r\n  ".toList, none⟩]
    let others : List Segment :=
      [⟨"\n    foo\n      ".toList, none⟩, ⟨"bar\n\t  baz\n  ".toList, none⟩]
    (∀ segment ∈ segments, ∀ before after, segment.raw = before ++ '\r' :: after →
        after.head? = some '\n') ∧
      others.map Segment.raw = (segments.map Segment.raw).map pairsAsFeeds ∧
      (outdent {} segments).map Segment.raw = [" foo\n   ".toList, "bar\r\nbaz".toList] ∧
      (outdent {} others).map Segment.raw = [" foo\n   ".toList, "bar\nbaz".toList] := by
  intro segments others
  have paired : ∀ segment ∈ segments, Paired segment.raw := by decide +kernel
  have feeds : ∀ segment ∈ segments, ∀ before after, segment.raw = before ++ '\r' :: after →
      after.head? = some '\n' :=
    fun segment member _ _ split => (paired segment member).head?_behind split
  have same : others.map Segment.raw = (segments.map Segment.raw).map pairsAsFeeds := by
    decide +kernel
  have before : (outdent {} segments).map Segment.raw =
      [" foo\n   ".toList, "bar\r\nbaz".toList] := by
    decide +kernel
  have both := outdent_pairsAsFeeds {} feeds same
  refine ⟨feeds, same, before, both.1.trans ?_⟩
  rw [before]
  decide +kernel

end Outdent
