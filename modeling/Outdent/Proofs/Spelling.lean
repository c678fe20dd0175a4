import Outdent.Proofs.LineBreaks
import Outdent.Proofs.Rewritten

/-!
# Spelled texts

The body of a string literal that spells a text: the text itself, or, outside of raw literals, the
text with a backslash before the quote that it ends in, which is all that the closing of a literal
can add to a text without a backslash. Main statements: `Form.Spells.outdentAlone`, a closed body
without its indentation spells the text without its indentation, and `Form.Encloses.literalValue?`
and `Form.Spells.resolve`, what is spelled is what the literal reads as.
-/
namespace Outdent.Template

open Source Text

namespace Form

/-- A body between quotes of a form spells a text. -/
inductive Spells (form : Form) : Text → Text → Prop where
  /-- A raw text spells itself. -/
  | raw (isRaw : form.isRaw = true) (text : Text) : Spells form text text
  /-- A text without a backslash spells itself. -/
  | plain (cooked : form.isRaw = false) {text : Text} (free : '\\' ∉ text) : Spells form text text
  /-- A quote at the end is spelled with a backslash. -/
  | closed (cooked : form.isRaw = false) {text : Text} (free : '\\' ∉ text) :
      Spells form (text ++ ['\\', form.delimiter.quote]) (text ++ [form.delimiter.quote])

variable {form : Form} {body text : Text}

/-- What a body outside of raw literals resolves to is what it spells. -/
theorem Spells.resolve [CharacterNames] (quotes : isQuote form.delimiter.quote = true)
    (cooked : form.isRaw = false) (spells : form.Spells body text) :
    Template.resolve body = some text.points := by
  cases spells with
  | raw isRaw => simp [cooked] at isRaw
  | plain _ free => exact resolve_of_not_mem _ free
  | @closed _ text free =>
    induction text with
    | nil => rcases eq_of_isQuote quotes with same | same <;> rw [same] <;> rfl
    | cons character rest ih =>
      have here : character ≠ '\\' := fun same => free (same ▸ List.mem_cons_self)
      rw [List.cons_append, List.cons_append, resolve_cons here,
        ih fun member => free (.tail _ member)]
      rfl

end Form

/-! ## Edits -/

/-- No text without a backslash has one at its end. -/
theorem backslashes_of_not_mem {text : Text} (free : '\\' ∉ text) : backslashes text = 0 := by
  obtain rfl | ⟨before, last, rfl⟩ := List.eq_nil_or_concat text
  · rfl
  · rw [List.concat_eq_append] at free ⊢
    exact backslashes_append_of_ne before fun same => free (by simp [same])

/-- Quotes are solid, and so is an escaped quote. -/
theorem solid_quote {quote : Char} (quotes : isQuote quote = true) :
    Solid [quote] ∧ Solid ['\\', quote] := by
  rcases eq_of_isQuote quotes with rfl | rfl
  · constructor <;> constructor <;> simp [isBlank, isBreak]
  · constructor <;> constructor <;> simp [isBlank, isBreak]

/-- No quote is part of a line break. -/
theorem ne_of_isQuote_break {quote : Char} (quotes : isQuote quote = true) :
    quote ≠ '\r' ∧ quote ≠ '\n' :=
  ⟨(ne_of_isQuote quotes rfl).symm, (ne_of_isQuote quotes rfl).symm⟩

/-- Carriage returns are paired in front of a quote. -/
theorem paired_of_append_quote {quote : Char} (quotes : isQuote quote = true) {text : Text}
    (paired : Paired (text ++ [quote])) : Paired text :=
  (paired.split fun _ => by simpa using (ne_of_isQuote_break quotes).2).1

namespace Form

variable {form : Form} {body text mended : Text}

/-- A body without its indentation that is mended so that quotes close it spells the text without its
indentation. -/
theorem Spells.outdentAlone (quotes : isQuote form.delimiter.quote = true) {trims : Trims}
    (spells : form.Spells body text)
    (found : closed? form (Outdent.outdentAlone trims body) = some mended) :
    form.Spells mended (Outdent.outdentAlone trims text) := by
  cases spells with
  | raw isRaw =>
    rw [closed?] at found
    cases ends : ending form.delimiter.quote (Outdent.outdentAlone trims body) with
    | safe =>
      obtain rfl : Outdent.outdentAlone trims body = mended := by simpa [ends] using found
      exact .raw isRaw _
    | bareQuote => simp [ends, isRaw] at found
    | danglingBackslash => simp [ends, isRaw] at found
  | plain cooked free =>
    have still : '\\' ∉ Outdent.outdentAlone trims body :=
      fun member => free ((outdentAlone_sublist trims body).subset member)
    rw [closed?] at found
    cases ends : ending form.delimiter.quote (Outdent.outdentAlone trims body) with
    | safe =>
      obtain rfl : Outdent.outdentAlone trims body = mended := by simpa [ends] using found
      exact .plain cooked still
    | bareQuote =>
      obtain ⟨last, _⟩ := bareQuote_iff.mp ends
      have same := dropLast_append_of_getLast? last
      obtain rfl : (Outdent.outdentAlone trims body).dropLast ++ ['\\', form.delimiter.quote] =
          mended := by simpa [ends, cooked] using found
      rw [← same] at still
      have spelled : form.Spells ((Outdent.outdentAlone trims body).dropLast ++ _) _ :=
        .closed cooked fun member => still (List.mem_append_left _ member)
      rwa [same] at spelled
    | danglingBackslash =>
      have odd := (danglingBackslash_iff.mp ends).2
      rw [backslashes_of_not_mem still] at odd
      exact absurd odd (by decide)
  | @closed cooked front free =>
    obtain ⟨solid, solidEscape⟩ := solid_quote quotes
    rw [outdentAlone_append_solid solidEscape] at found
    rw [outdentAlone_append_solid solid]
    have still : '\\' ∉ Outdent.outdentAlone ⟨trims.left, false⟩ front :=
      fun member => free ((outdentAlone_sublist _ front).subset member)
    have safe : ending form.delimiter.quote
        (Outdent.outdentAlone ⟨trims.left, false⟩ front ++ ['\\', form.delimiter.quote]) =
          .safe := by
      generalize Outdent.outdentAlone ⟨trims.left, false⟩ front = before at still
      have whole : before ++ ['\\', form.delimiter.quote] =
          (before ++ ['\\']) ++ [form.delimiter.quote] := by simp
      rw [ending, whole, if_pos List.getLast?_concat, List.dropLast_concat, backslashes_append,
        backslashes_of_not_mem still, if_neg (by decide)]
    rw [closed?, safe] at found
    exact Option.some.inj found ▸ .closed cooked still

/-- A body with unified line breaks spells the text with unified line breaks. -/
theorem Spells.unifyBreaks (quotes : isQuote form.delimiter.quote = true)
    (paired : Paired text) (spells : form.Spells body text) :
    form.Spells (Text.unifyBreaks body) (Text.unifyBreaks text) := by
  have kept : ∀ {text : Text}, Paired text → '\\' ∉ text → '\\' ∉ Text.unifyBreaks text := by
    intro text paired free
    induction paired with
    | nil => exact free
    | pair behind ih =>
      simp only [List.mem_cons, not_or] at free
      simpa [Text.unifyBreaks] using ih free.2.2
    | cons other behind ih =>
      simp only [List.mem_cons, not_or] at free
      rw [unifyBreaks_cons other, List.mem_cons, not_or]
      exact ⟨free.1, ih free.2⟩
  cases spells with
  | raw isRaw => exact .raw isRaw _
  | plain cooked free => exact .plain cooked (kept paired free)
  | @closed cooked front free =>
    have other := (ne_of_isQuote_break quotes).1
    have before := paired_of_append_quote quotes paired
    rw [unifyBreaks_append before, unifyBreaks_append before, unifyBreaks_cons (by decide),
      unifyBreaks_cons other]
    exact .closed cooked (kept before free)

/-- A body has only paired carriage returns if the text that it spells has. -/
theorem Spells.paired (quotes : isQuote form.delimiter.quote = true) (paired : Paired text)
    (spells : form.Spells body text) : Paired body := by
  cases spells with
  | raw => exact paired
  | plain => exact paired
  | closed =>
    have other := (ne_of_isQuote_break quotes).1
    exact (paired_of_append_quote quotes paired).append (.cons (by decide) (.cons other .nil))

end Form

/-! ## Values -/

/-- The body of a literal whose carriage returns are paired has only paired ones. -/
theorem Form.Encloses.paired {form : Form} {body literal : Text}
    (encloses : form.Encloses body literal) (paired : Paired literal) : Paired body := by
  obtain ⟨letters, _, areLetters, rfl⟩ := encloses.shape
  have free : '\r' ∉ form.delimiter.text := not_mem_delimiter encloses.quotes rfl
  have noFeed : '\n' ∉ form.delimiter.text := not_mem_delimiter encloses.quotes rfl
  have behindLetters := (paired.split fun ends =>
    absurd (areLetters _ (List.mem_of_getLast? ends)).2 (by decide)).2
  have behindQuotes := (behindLetters.split fun ends =>
    absurd (List.mem_of_getLast? ends) free).2
  exact (behindQuotes.split fun _ first => noFeed (List.mem_of_head? first)).1

/-- A literal reads as what its body spells, with unified line breaks. -/
theorem Form.Encloses.literalValue? [CharacterNames] {form : Form} {body text literal : Text}
    (encloses : form.Encloses body literal) (notBytes : form.isBytes = false)
    (paired : Paired text) (spells : form.Spells body text) :
    Template.literalValue? (unifyBreaks literal) = some (unifyBreaks text).points := by
  have quotes := encloses.quotes
  have pairedBody := spells.paired quotes paired
  obtain ⟨letters, small, plain, rfl⟩ := encloses.shape
  have pairedLetters : Paired letters := by
    refine .of_not_mem fun member => ?_
    exact absurd (plain _ member).2 (by decide)
  have freeQuotes : '\r' ∉ form.delimiter.text := not_mem_delimiter quotes rfl
  have unified : unifyBreaks (letters ++ (form.delimiter.text ++ (body ++ form.delimiter.text))) =
      letters ++ (form.delimiter.text ++ (unifyBreaks body ++ form.delimiter.text)) := by
    have same : unifyBreaks letters = letters := unifyBreaks_of_not_mem _ fun member =>
      absurd (plain _ member).2 (by decide)
    rw [unifyBreaks_append pairedLetters, unifyBreaks_append (.of_not_mem freeQuotes),
      unifyBreaks_append pairedBody, unifyBreaks_of_not_mem _ freeQuotes, same]
  have apart : form.delimiter.triple = false →
      (unifyBreaks body).head? ≠ some form.delimiter.quote := by
    intro single first
    refine encloses.static.head?_ne quotes single ?_
    exact head?_of_unifyBreaks (ne_of_isQuote_break quotes).2 first
  have read : Form.ofOpening? (unifyBreaks (letters ++ (form.delimiter.text ++
      (body ++ form.delimiter.text)))) = some form := by
    rw [unified, ofOpening?_append plain (delimiter?_append quotes apart), small]
  have between : form.body (unifyBreaks (letters ++ (form.delimiter.text ++
      (body ++ form.delimiter.text)))) = unifyBreaks body := by
    rw [unified, body_append small]
  have value := spells.unifyBreaks quotes paired
  simp only [Template.literalValue?, read, between, Option.bind_eq_bind, Option.bind_some, notBytes,
    Bool.false_eq_true, ↓reduceIte]
  cases raw : form.isRaw with
  | true =>
    cases spells with
    | raw => rfl
    | plain => rfl
    | closed cooked => simp [raw] at cooked
  | false => exact value.resolve quotes raw

end Outdent.Template
