import Outdent.Proofs.Static
import Outdent.Proofs.Texts

/-!
# Edits of static text

Static text stays static when it is edited as the text of a template is. Main statements:
`Static.of_append`, it may be cut off in front of anything but a brace, `Static.mended`, it may be
mended so that quotes close it, and `Static.outdentTexts`, the last text of a template stays static
without the shared indentation.
-/
namespace Outdent.Template

open Source Text

/-- The begin of a static text is static, if no brace of a formatted literal follows it. -/
theorem Static.of_append {form : Form} {named : Bool} {before : Text} {character : Char}
    {after : Text}
    (noBrace : form.isFormatted = true → character ≠ '\x7b' ∧ character ≠ '\x7d')
    (static : Static form named (before ++ character :: after)) : Static form named before := by
  generalize whole : before ++ character :: after = text at static
  induction static generalizing before with
  | nil => simp at whole
  | plain unescaped free unclosed unbroken behind ih =>
    obtain ⟨rfl, _⟩ | ⟨before, rfl, rfl⟩ := List.append_eq_cons_iff.mp whole
    · exact .nil
    · exact .plain unescaped free (fun closes => unclosed (closes.trans (by simp))) unbroken
        (ih rfl)
  | dangling =>
    obtain ⟨rfl, _⟩ | ⟨before, rfl, later⟩ := List.append_eq_cons_iff.mp whole
    · exact .nil
    · simp at whole
  | escapedBreak behind ih =>
    obtain ⟨rfl, _⟩ | ⟨before, rfl, later⟩ := List.append_eq_cons_iff.mp whole
    · exact .nil
    obtain ⟨rfl, _⟩ | ⟨before, rfl, last⟩ := List.append_eq_cons_iff.mp later.symm
    · exact .dangling
    obtain ⟨rfl, _⟩ | ⟨before, rfl, rfl⟩ := List.append_eq_cons_iff.mp last.symm
    · exact .escaped (by simp) (by simp) .nil
    · exact .escapedBreak (ih rfl)
  | escaped noBreak free behind ih =>
    obtain ⟨rfl, _⟩ | ⟨before, rfl, later⟩ := List.append_eq_cons_iff.mp whole
    · exact .nil
    obtain ⟨rfl, _⟩ | ⟨before, rfl, rfl⟩ := List.append_eq_cons_iff.mp later.symm
    · exact .dangling
    have first : ∀ {next : Char}, before.head? = some next →
        (before ++ character :: after).head? = some next := by
      intro next first
      obtain ⟨others, rfl⟩ := List.head?_eq_some_iff.mp first
      rfl
    exact .escaped (fun same found => noBreak same (first found))
      (fun formatted => ⟨(free formatted).1, (free formatted).2.1, fun same found =>
        (free formatted).2.2 same (first found)⟩) (ih rfl)
  | beforeBrace formatted isBrace behind ih =>
    obtain ⟨rfl, _⟩ | ⟨before, rfl, later⟩ := List.append_eq_cons_iff.mp whole
    · exact .nil
    obtain ⟨rfl, _⟩ | ⟨before, rfl, rfl⟩ := List.append_eq_cons_iff.mp later.symm
    · exact .dangling
    · exact .beforeBrace formatted isBrace (ih rfl)
  | doubledOpening formatted behind ih =>
    obtain ⟨rfl, _⟩ | ⟨before, rfl, later⟩ := List.append_eq_cons_iff.mp whole
    · exact .nil
    obtain ⟨rfl, same⟩ | ⟨before, rfl, rfl⟩ := List.append_eq_cons_iff.mp later.symm
    · exact absurd (List.cons.inj same).1 (noBrace formatted).1
    · exact .doubledOpening formatted (ih rfl)
  | doubledClosing formatted behind ih =>
    obtain ⟨rfl, _⟩ | ⟨before, rfl, later⟩ := List.append_eq_cons_iff.mp whole
    · exact .nil
    obtain ⟨rfl, same⟩ | ⟨before, rfl, rfl⟩ := List.append_eq_cons_iff.mp later.symm
    · exact absurd (List.cons.inj same).1 (noBrace formatted).2
    · exact .doubledClosing formatted (ih rfl)
  | rawName formatted raw behind ih =>
    obtain ⟨rfl, _⟩ | ⟨before, rfl, later⟩ := List.append_eq_cons_iff.mp whole
    · exact .nil
    obtain ⟨rfl, _⟩ | ⟨before, rfl, last⟩ := List.append_eq_cons_iff.mp later.symm
    · exact .dangling
    obtain ⟨rfl, same⟩ | ⟨before, rfl, rfl⟩ := List.append_eq_cons_iff.mp last.symm
    · exact absurd (List.cons.inj same).1 (noBrace formatted).1
    · exact .rawName formatted raw (ih rfl)
  | name formatted cooked behind ih =>
    obtain ⟨rfl, _⟩ | ⟨before, rfl, later⟩ := List.append_eq_cons_iff.mp whole
    · exact .nil
    obtain ⟨rfl, _⟩ | ⟨before, rfl, last⟩ := List.append_eq_cons_iff.mp later.symm
    · exact .dangling
    obtain ⟨rfl, same⟩ | ⟨before, rfl, rfl⟩ := List.append_eq_cons_iff.mp last.symm
    · exact absurd (List.cons.inj same).1 (noBrace formatted).1
    · exact .name formatted cooked (ih rfl)
  | nameEnd formatted behind ih =>
    obtain ⟨rfl, _⟩ | ⟨before, rfl, rfl⟩ := List.append_eq_cons_iff.mp whole
    · exact .nil
    · exact .nameEnd formatted (ih rfl)

/-- Every begin of a static text is static if no replacement field can be in it. -/
theorem Static.of_begin {form : Form} (plain : form.isFormatted = false) {named : Bool}
    {text body : Text} (static : Static form named body) (begins : text <+: body) :
    Static form named text := by
  obtain ⟨behind, rfl⟩ := begins
  cases behind with
  | nil => rwa [List.append_nil] at static
  | cons character after =>
    apply Static.of_append (fun formatted => ?_) static
    rw [plain] at formatted
    cases formatted

/-- A prefix without a character ends before that character. -/
theorem prefix_of_not_mem {front before after : Text} {character : Char}
    (free : character ∉ front) (begins : front <+: before ++ character :: after) :
    front <+: before := by
  induction before generalizing front with
  | nil =>
    cases front with
    | nil => exact List.nil_prefix
    | cons first front =>
      obtain rfl : first = character := (List.cons_prefix_cons.mp begins).1
      simp at free
  | cons next before ih =>
    cases front with
    | nil => exact List.nil_prefix
    | cons first front =>
      obtain ⟨rfl, behind⟩ := List.cons_prefix_cons.mp begins
      exact List.cons_prefix_cons.mpr ⟨rfl, ih (fun member => free (.tail _ member)) behind⟩

/-- Nothing but its quote is in a delimiter. -/
theorem not_mem_delimiter {delimiter : Delimiter} (quotes : isQuote delimiter.quote = true)
    {character : Char} (noQuote : isQuote character = false) : character ∉ delimiter.text := by
  have different : character ≠ delimiter.quote := ne_of_isQuote quotes noQuote
  cases triple : delimiter.triple <;> simp [Delimiter.text, triple, different]

/-- A text ends in a bare quote if an even number of backslashes is in front of it. -/
theorem bareQuote_iff {quote : Char} {text : Text} :
    ending quote text = .bareQuote ↔
      text.getLast? = some quote ∧ backslashes text.dropLast % 2 = 0 := by
  unfold ending
  split <;> split <;> simp_all

/-- A text ends in a dangling backslash if the number of backslashes at its end is odd. -/
theorem danglingBackslash_iff {quote : Char} {text : Text} :
    ending quote text = .danglingBackslash ↔
      text.getLast? ≠ some quote ∧ backslashes text % 2 = 1 := by
  unfold ending
  split <;> split <;> simp_all

/-- A text is closed as it is exactly if it ends safely. -/
theorem closed?_eq_self_iff {form : Form} {text : Text} :
    closed? form text = some text ↔ ending form.delimiter.quote text = .safe := by
  unfold closed?
  constructor
  · intro kept
    split at kept
    · assumption
    · rename_i bare
      obtain ⟨last, _⟩ := bareQuote_iff.mp bare
      obtain ⟨front, rfl⟩ := List.getLast?_eq_some_iff.mp last
      split at kept
      · cases kept
      · have lengths := congrArg List.length (Option.some.inj kept)
        simp only [List.dropLast_concat, List.length_append, List.length_cons,
          List.length_nil] at lengths
        omega
    · split at kept
      · cases kept
      · have lengths := congrArg List.length (Option.some.inj kept)
        simp only [List.length_append, List.length_cons, List.length_nil] at lengths
        omega
  · intro safe
    rw [safe]

section Mending

variable {form : Form} (quotes : isQuote form.delimiter.quote = true)

include quotes in
/-- An escape may be put behind a static text that no backslash dangles from. -/
theorem Static.append_escape {named : Bool} {text : Text} {character : Char}
    (static : Static form named text) (even : backslashes text % 2 = 0)
    (noBrace : character ≠ '\x7b' ∧ character ≠ '\x7d') :
    Static form named (text ++ ['\\', character]) := by
  induction static with
  | nil => exact .escaped (by simp) (fun _ => ⟨noBrace.1, noBrace.2, by simp⟩) .nil
  | plain unescaped free unclosed unbroken behind ih =>
    rw [backslashes_cons_of_ne unescaped] at even
    refine .plain unescaped free (fun closes => unclosed ?_) unbroken (ih even)
    rw [List.append_eq, ← List.cons_append] at closes
    exact prefix_of_not_mem (not_mem_delimiter quotes rfl) closes
  | dangling => simp [backslashes] at even
  | escapedBreak behind ih =>
    rw [backslashes_escape, backslashes_cons_of_ne (by decide)] at even
    exact .escapedBreak (ih even)
  | @escaped named second rest noBreak free behind ih =>
    rw [backslashes_escape] at even
    have first : ∀ {next : Char}, next ≠ '\\' → (rest ++ ['\\', character]).head? = some next →
        rest.head? = some next := by
      intro next other found
      cases rest with
      | nil => exact absurd (Option.some.inj found).symm other
      | cons head rest => exact found
    exact .escaped (fun same found => noBreak same (first (by decide) found))
      (fun formatted => ⟨(free formatted).1, (free formatted).2.1, fun same found =>
        (free formatted).2.2 same (first (by decide) found)⟩) (ih even)
  | beforeBrace formatted isBrace behind ih =>
    have other : ∀ {brace : Char}, brace = '\x7b' ∨ brace = '\x7d' → brace ≠ '\\' := by
      rintro brace (rfl | rfl) <;> decide
    rw [backslashes_backslash_cons_of_ne (other isBrace),
      ← backslashes_cons_of_ne (other isBrace)] at even
    exact .beforeBrace formatted isBrace (ih even)
  | doubledOpening formatted behind ih =>
    rw [backslashes_cons_of_ne (by decide), backslashes_cons_of_ne (by decide)] at even
    exact .doubledOpening formatted (ih even)
  | doubledClosing formatted behind ih =>
    rw [backslashes_cons_of_ne (by decide), backslashes_cons_of_ne (by decide)] at even
    exact .doubledClosing formatted (ih even)
  | rawName formatted raw behind ih =>
    rw [backslashes_escape] at even
    exact .rawName formatted raw (ih even)
  | name formatted cooked behind ih =>
    rw [backslashes_escape, backslashes_cons_of_ne (by decide)] at even
    exact .name formatted cooked (ih even)
  | nameEnd formatted behind ih =>
    rw [backslashes_cons_of_ne (by decide)] at even
    exact .nameEnd formatted (ih even)

/-- A text with a backslash at its end is that backslash behind the others. -/
theorem exists_append_backslash {text : Text} (odd : backslashes text % 2 = 1) :
    ∃ before, text = before ++ ['\\'] ∧ backslashes before % 2 = 0 := by
  obtain rfl | ⟨before, last, rfl⟩ := List.eq_nil_or_concat text
  · simp [backslashes] at odd
  · rw [List.concat_eq_append] at odd ⊢
    by_cases same : last = '\\'
    · subst same
      rw [backslashes_append] at odd
      exact ⟨before, rfl, by omega⟩
    · rw [backslashes_append_of_ne before same] at odd
      simp at odd

include quotes in
/-- A static text stays static when it is mended. -/
theorem Static.mended {named : Bool} {text mended : Text} (static : Static form named text)
    (found : closed? form text = some mended) : Static form named mended := by
  have noBrace : ∀ {character : Char}, isQuote character = true ∨ character = '\\' →
      character ≠ '\x7b' ∧ character ≠ '\x7d' := by
    rintro character (quote | rfl)
    · rcases eq_of_isQuote quote with rfl | rfl <;> decide
    · decide
  rw [closed?] at found
  cases ends : ending form.delimiter.quote text with
  | safe =>
    obtain rfl : text = mended := by simpa [ends] using found
    exact static
  | bareQuote =>
    obtain ⟨last, even⟩ := bareQuote_iff.mp ends
    obtain ⟨_, rfl⟩ : form.isRaw = false ∧ text.dropLast ++ ['\\', form.delimiter.quote] = mended :=
      by simpa [ends] using found
    rw [← dropLast_append_of_getLast? last] at static
    exact (static.of_append fun _ => noBrace (Or.inl quotes)).append_escape quotes even
      (noBrace (Or.inl quotes))
  | danglingBackslash =>
    obtain ⟨_, odd⟩ := danglingBackslash_iff.mp ends
    obtain ⟨_, rfl⟩ : form.isRaw = false ∧ text ++ ['\\'] = mended := by
      simpa [ends] using found
    obtain ⟨before, rfl, even⟩ := exists_append_backslash odd
    have more := (static.of_append fun _ => noBrace (Or.inr rfl)).append_escape quotes even
      (noBrace (Or.inr rfl))
    simpa using more

end Mending

/-! ## Indentation -/

/-- What a stripped text begins with up to its first line break, the text begins with. -/
theorem prefix_of_prefix_stripIndentFrom {front text : Text} {width : Nat}
    (free : '\n' ∉ front) (begins : front <+: stripIndentFrom width 0 text) : front <+: text := by
  induction text generalizing front with
  | nil => exact begins
  | cons character rest ih =>
    cases front with
    | nil => exact List.nil_prefix
    | cons first front =>
      rw [stripIndentFrom_cons] at begins
      obtain ⟨rfl, behind⟩ := List.cons_prefix_cons.mp begins
      have other : first ≠ '\n' := fun same => free (same ▸ List.mem_cons_self)
      rw [taken_of_ne other] at behind
      exact List.cons_prefix_cons.mpr ⟨rfl, ih (fun member => free (.tail _ member)) behind⟩

section Indentation

variable {form : Form} (quotes : isQuote form.delimiter.quote = true)

include quotes in
/-- A static text stays static when blanks are taken from behind its line breaks. -/
theorem Static.stripIndentFrom {named : Bool} {text : Text} (static : Static form named text)
    (width skip : Nat) (blank : ∀ character ∈ text.take skip, isBlank character = true) :
    Static form named (Text.stripIndentFrom width skip text) := by
  induction static generalizing skip with
  | nil => exact .nil
  | @plain named character rest unescaped free unclosed unbroken behind ih =>
    cases skip with
    | succ skip =>
      rw [Text.stripIndentFrom]
      exact ih skip fun other member => blank other (.tail _ member)
    | zero =>
      rw [stripIndentFrom_cons]
      refine .plain unescaped free (fun closes => unclosed ?_) unbroken
        (ih _ fun other => isBlank_of_mem_taken)
      rw [← stripIndentFrom_cons] at closes
      exact prefix_of_prefix_stripIndentFrom (not_mem_delimiter quotes rfl) closes
  | dangling =>
    obtain rfl := eq_zero_of_isBlank rfl blank
    exact .dangling
  | escapedBreak behind ih =>
    obtain rfl := eq_zero_of_isBlank rfl blank
    rw [stripIndentFrom_cons, taken_of_ne (by decide), stripIndentFrom_cons,
      taken_of_ne (by decide), stripIndentFrom_cons]
    exact .escapedBreak (ih _ fun other => isBlank_of_mem_taken)
  | @escaped named character rest noBreak free behind ih =>
    obtain rfl := eq_zero_of_isBlank rfl blank
    rw [stripIndentFrom_cons, taken_of_ne (by decide), stripIndentFrom_cons]
    have first : character ≠ '\n' →
        (Text.stripIndentFrom width (taken width character rest) rest).head? = rest.head? := by
      intro other
      rw [taken_of_ne other, head?_stripIndentFrom]
    refine .escaped (fun same => ?_) (fun formatted => ⟨(free formatted).1, (free formatted).2.1,
      fun same => ?_⟩) (ih _ fun other => isBlank_of_mem_taken)
    · rw [first (by rw [same]; decide)]
      exact noBreak same
    · rw [first (by rw [same]; decide)]
      exact (free formatted).2.2 same
  | @beforeBrace named brace rest formatted isBrace behind ih =>
    have other : brace ≠ '\n' := by rcases isBrace with rfl | rfl <;> decide
    obtain rfl := eq_zero_of_isBlank rfl blank
    have later := ih 0 (by simp)
    rw [stripIndentFrom_cons, taken_of_ne other] at later
    rw [stripIndentFrom_cons, taken_of_ne (by decide), stripIndentFrom_cons, taken_of_ne other]
    exact .beforeBrace formatted isBrace later
  | doubledOpening formatted behind ih =>
    obtain rfl := eq_zero_of_isBlank rfl blank
    rw [stripIndentFrom_cons, taken_of_ne (by decide), stripIndentFrom_cons,
      taken_of_ne (by decide)]
    exact .doubledOpening formatted (ih 0 (by simp))
  | doubledClosing formatted behind ih =>
    obtain rfl := eq_zero_of_isBlank rfl blank
    rw [stripIndentFrom_cons, taken_of_ne (by decide), stripIndentFrom_cons,
      taken_of_ne (by decide)]
    exact .doubledClosing formatted (ih 0 (by simp))
  | rawName formatted raw behind ih =>
    obtain rfl := eq_zero_of_isBlank rfl blank
    have later := ih 0 (by simp)
    rw [stripIndentFrom_cons, taken_of_ne (by decide)] at later
    rw [stripIndentFrom_cons, taken_of_ne (by decide), stripIndentFrom_cons,
      taken_of_ne (by decide), stripIndentFrom_cons, taken_of_ne (by decide)]
    exact .rawName formatted raw later
  | name formatted cooked behind ih =>
    obtain rfl := eq_zero_of_isBlank rfl blank
    rw [stripIndentFrom_cons, taken_of_ne (by decide), stripIndentFrom_cons,
      taken_of_ne (by decide), stripIndentFrom_cons, taken_of_ne (by decide)]
    exact .name formatted cooked (ih 0 (by simp))
  | nameEnd formatted behind ih =>
    obtain rfl := eq_zero_of_isBlank rfl blank
    rw [stripIndentFrom_cons, taken_of_ne (by decide)]
    exact .nameEnd formatted (ih 0 (by simp))

include quotes in
/-- A static text stays static without the indentation of its lines. -/
theorem Static.stripIndent {named : Bool} {text : Text} (static : Static form named text)
    (width : Nat) : Static form named (text.stripIndent width) :=
  static.stripIndentFrom quotes width 0 (by simp)

/-- A static text stays static without the line break that it begins with. -/
theorem Static.dropOpening {named : Bool} {text : Text} (static : Static form named text) :
    Static form named text.dropOpening := by
  unfold Text.dropOpening
  split
  · cases static with
    | plain _ _ _ _ behind => exact behind
  · cases static with
    | plain _ _ _ _ behind =>
      cases behind with
      | plain _ _ _ _ behind => exact behind
  · exact static

/-- A static text stays static without its closing line. -/
theorem Static.trimClosing {named : Bool} {text : Text} (static : Static form named text) :
    Static form named text.trimClosing := by
  obtain same | ⟨character, after, breaks, same⟩ := trimClosing_prefix text
  · rwa [same]
  · have noBrace : character ≠ '\x7b' ∧ character ≠ '\x7d' := by
      simp only [isBreak, Bool.or_eq_true, beq_iff_eq] at breaks
      rcases breaks with rfl | rfl <;> decide
    rw [same] at static
    exact static.of_append fun _ => noBrace

end Indentation

/-! ## The last text of a template -/

/-- Editing the last value changes the last value. -/
theorem getLast?_onLast {α : Type} (edit : α → α) (values : List α) :
    (onLast edit values).getLast? = values.getLast?.map edit := by
  fun_induction onLast edit values with
  | case1 => rfl
  | case2 => rfl
  | case3 value next rest ih =>
    have filled : onLast edit (next :: rest) ≠ [] := by
      intro empty
      simpa [empty] using onLast_length edit (next :: rest)
    rw [List.getLast?_cons_of_ne_nil filled, ih, List.getLast?_cons_cons]

/-- Editing the first value changes the last value only if it is the first. -/
theorem getLast?_modifyHead {α : Type} (edit : α → α) (values : List α) :
    (values.modifyHead edit).getLast? = values.getLast? ∨
      (values.modifyHead edit).getLast? = values.getLast?.map edit := by
  match values with
  | [] => exact Or.inl rfl
  | [value] => exact Or.inr rfl
  | value :: next :: rest => exact Or.inl rfl

/-- If the last text of a template is static, it stays static without the shared indentation. -/
theorem Static.outdentTexts {form : Form} (quotes : isQuote form.delimiter.quote = true)
    {named : Bool} (trims : Trims) {texts : List Text} {last : Text}
    (ends : texts.getLast? = some last) (static : Static form named last) {edited : Text}
    (found : (Outdent.outdentTexts trims texts).getLast? = some edited) :
    Static form named edited := by
  let closed := if trims.right then onLast Text.trimClosing texts else texts
  let stripped := closed.map (Text.stripIndent (leastIndent closed))
  have afterRight : ∀ text, closed.getLast? = some text → Static form named text := by
    intro text found
    cases right : trims.right with
    | false =>
      have found : texts.getLast? = some text := by simpa [closed, right] using found
      obtain rfl := Option.some.inj (ends.symm.trans found)
      exact static
    | true =>
      simp only [closed, right, ↓reduceIte, getLast?_onLast, ends, Option.map_some,
        Option.some.injEq] at found
      exact found ▸ static.trimClosing
  have afterStrip : ∀ text, stripped.getLast? = some text → Static form named text := by
    intro text found
    rw [List.getLast?_map] at found
    obtain ⟨whole, inside, rfl⟩ := Option.map_eq_some_iff.mp found
    exact (afterRight whole inside).stripIndent quotes _
  have whole : Outdent.outdentTexts trims texts =
      if trims.left then stripped.modifyHead Text.dropOpening else stripped := rfl
  rw [whole] at found
  cases left : trims.left with
  | false => exact afterStrip edited (by simpa [left] using found)
  | true =>
    rw [left, if_pos rfl] at found
    obtain same | same := getLast?_modifyHead Text.dropOpening stripped
    · exact afterStrip edited (same ▸ found)
    · rw [same] at found
      obtain ⟨text, inside, rfl⟩ := Option.map_eq_some_iff.mp found
      exact (afterStrip text inside).dropOpening

end Outdent.Template
