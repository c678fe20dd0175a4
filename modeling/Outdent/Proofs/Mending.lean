import Outdent.Proofs.Meaning

/-!
# Mended texts

The text of a literal that is cut off anywhere may end in a quote character or in a backslash that
would run into the closing quotes. It is mended by one backslash in front of its last character, or
not at all in a raw literal. Main statements: `meaningFrom_append_escape`, a quote character or a
backslash behind a backslash adds itself to what a text means, and `closed?_of_begin`, which begins
of a legal text need to be mended, how they are, and what they mean then.
-/
namespace Outdent.Template

open Source Text

/-- Closing quotes behind a text are found at its end and nowhere before. -/
def Closes (delimiter : Delimiter) (text : Text) : Prop :=
  closingLength delimiter (text ++ delimiter.text) = some (text.length + delimiter.text.length)

instance (delimiter : Delimiter) (text : Text) : Decidable (Closes delimiter text) :=
  inferInstanceAs (Decidable (closingLength delimiter (text ++ delimiter.text) = _))

section Meaning

variable {form : Form}

/-- Unified line breaks leave an even number of backslashes at the end even. -/
theorem even_unifyBreaks (quotes : isQuote form.delimiter.quote = true) {named : Bool} {text : Text}
    (static : Static form named text) (even : backslashes text % 2 = 0) :
    backslashes (unifyBreaks text) % 2 = 0 := by
  by_cases last : text.getLast? = some form.delimiter.quote
  · have noFeed : form.delimiter.quote ≠ '\n' := (ne_of_isQuote quotes rfl).symm
    have noReturn : form.delimiter.quote ≠ '\r' := (ne_of_isQuote quotes rfl).symm
    have unescaped : form.delimiter.quote ≠ '\\' := (ne_of_isQuote quotes rfl).symm
    rw [← dropLast_append_of_getLast? last,
      unifyBreaks_append_of_head?_ne (by simpa using noFeed), unifyBreaks_cons noReturn]
    rw [unifyBreaks, backslashes_append_of_ne _ unescaped]
  · apply even_of_safe quotes
    rw [(static.unifyBreaks quotes).2]
    exact ending_of_even last even

/-- A quote character or a backslash: a backslash in front of it makes it stand for itself. -/
def Escapable (character : Char) : Prop := isQuote character = true ∨ character = '\\'

/-- It stands for itself behind a backslash, and is no brace. -/
theorem Escapable.stands [CharacterNames] {character : Char} (escapable : Escapable character)
    (rest : Text) :
    escape? (character :: rest) = some ([.char character], 1) ∧ isBrace character = false := by
  obtain quote | rfl := escapable
  · obtain rfl | rfl := eq_of_isQuote quote
    · exact ⟨by simp [escape?], by decide⟩
    · exact ⟨by simp [escape?], by decide⟩
  · exact ⟨by simp [escape?], by decide⟩

/-- What is put behind points is put behind them with the first ones, too. -/
theorem map_append_map (front back : Points) (value : Option Points) :
    (value.map (· ++ back)).map (front ++ ·) = (value.map (front ++ ·)).map (· ++ back) := by
  cases value with
  | none => rfl
  | some points => simp only [Option.map_some, List.append_assoc]

variable [CharacterNames]

/-- An escape in front of a text is read alike whatever is put behind a backslash at the end. -/
theorem meaningFrom_escape_append (cooked : form.isRaw = false) {next character : Char}
    {more : Text} (escapes : form.isFormatted = true → isBrace next = false)
    (behind : ∀ read length, escape? (next :: more) = some (read, length) →
      meaningFrom form 0 ((next :: more).drop length ++ ['\\', character]) =
        (meaningFrom form 0 ((next :: more).drop length)).map (· ++ [.char character])) :
    meaningFrom form 0 ('\\' :: (next :: more ++ ['\\', character])) =
      (meaningFrom form 0 ('\\' :: next :: more)).map (· ++ [.char character]) := by
  have stands : form.isFormatted = true → Option.all isBrace (next :: more).head? = false := escapes
  have standsThen : form.isFormatted = true →
      Option.all isBrace (next :: more ++ ['\\', character]).head? = false := escapes
  have same := escape?_append endsEscape_backslash (List.cons_ne_nil next more) [character]
  rw [meaningFrom_escape cooked standsThen, meaningFrom_escape cooked stands, same]
  cases found : escape? (next :: more) with
  | none => rfl
  | some escape =>
    obtain ⟨read, length⟩ := escape
    have fits := escape?_length found
    rw [Option.bind_some, Option.bind_some, List.drop_append_of_le_length fits,
      behind read length found]
    exact map_append_map read [.char character] _

/-- A character that stands for itself in front of a text does so whatever is put behind a backslash
at the end. -/
theorem meaningFrom_cons_append {first character : Char} {rest : Text}
    (single : form.isFormatted = true → isBrace first = true → rest.head? ≠ some first)
    (plain : first = '\\' → ∃ next more, rest = next :: more ∧ form.isFormatted = true ∧
      isBrace next = true)
    (behind : meaningFrom form 0 (rest ++ ['\\', character]) =
      (meaningFrom form 0 rest).map (· ++ [.char character])) :
    meaningFrom form 0 (first :: (rest ++ ['\\', character])) =
      (meaningFrom form 0 (first :: rest)).map (· ++ [.char character]) := by
  have singleThen : form.isFormatted = true → isBrace first = true →
      (rest ++ ['\\', character]).head? ≠ some first := by
    intro formatted braces
    cases rest with
    | nil =>
      intro same
      exact ne_backslash_of_brace (isBrace_iff.mp braces) (Option.some.inj same).symm
    | cons next more => exact single formatted braces
  have stands : first = '\\' → form.isRaw = true ∨
      form.isFormatted = true ∧ rest.head?.all isBrace = true := by
    intro slash
    obtain ⟨next, more, rfl, formatted, braces⟩ := plain slash
    exact Or.inr ⟨formatted, braces⟩
  have standsThen : first = '\\' → form.isRaw = true ∨
      form.isFormatted = true ∧ (rest ++ ['\\', character]).head?.all isBrace = true := by
    intro slash
    obtain ⟨next, more, rfl, formatted, braces⟩ := plain slash
    exact Or.inr ⟨formatted, braces⟩
  rw [meaningFrom_cons singleThen standsThen, meaningFrom_cons single stands, behind]
  exact map_append_map [.char first] [.char character] _

/-- A quote character or a backslash behind a backslash adds itself to what a text means, if no
backslash dangles from the text. -/
theorem meaningFrom_append_escape (cooked : form.isRaw = false) {character : Char}
    (escapable : Escapable character) {text : Text} (even : backslashes text % 2 = 0) :
    meaningFrom form 0 (text ++ ['\\', character]) =
      (meaningFrom form 0 text).map (· ++ [.char character]) := by
  -- An escape may take more of the text than two characters, so the induction is on the length.
  induction size : text.length using Nat.strong_induction_on generalizing text with
  | _ length ih =>
    have later : ∀ {behind : Text}, behind.length < length → backslashes behind % 2 = 0 →
        meaningFrom form 0 (behind ++ ['\\', character]) =
          (meaningFrom form 0 behind).map (· ++ [.char character]) :=
      fun shorter even => ih _ shorter even rfl
    cases text with
    | nil =>
      have escapes : Option.all isBrace [character].head? = false := (escapable.stands []).2
      rw [List.nil_append, meaningFrom_escape cooked fun _ => escapes, (escapable.stands []).1]
      rfl
    | cons first rest =>
      rw [List.length_cons] at size
      by_cases pair : form.isFormatted = true ∧ isBrace first = true ∧ rest.head? = some first
      · obtain ⟨formatted, braces, double⟩ := pair
        obtain ⟨more, rfl⟩ := List.head?_eq_some_iff.mp double
        rw [List.length_cons] at size
        rw [backslashes_doubled (isBrace_iff.mp braces)] at even
        rw [List.cons_append, List.cons_append, meaningFrom_doubled formatted braces,
          meaningFrom_doubled formatted braces, later (by omega) even]
        exact map_append_map [.char first] [.char character] _
      have single : form.isFormatted = true → isBrace first = true → rest.head? ≠ some first :=
        fun formatted braces double => pair ⟨formatted, braces, double⟩
      by_cases slash : first = '\\'
      · subst slash
        cases rest with
        | nil => exact absurd even (by decide)
        | cons next more =>
          by_cases field : form.isFormatted = true ∧ isBrace next = true
          · have unescaped := ne_backslash_of_brace (isBrace_iff.mp field.2)
            rw [backslashes_escape, ← backslashes_cons_of_ne unescaped] at even
            apply meaningFrom_cons_append single
            · intro _
              exact ⟨next, more, rfl, field⟩
            · exact later (by omega) even
          · apply meaningFrom_escape_append cooked
            · intro formatted
              exact Bool.eq_false_iff.mpr fun braces => field ⟨formatted, braces⟩
            · intro read taken found
              have shorter : ((next :: more).drop taken).length < length := by
                rw [List.length_drop]
                omega
              rw [← backslashes_drop_escape found] at even
              exact later shorter even
      · rw [backslashes_cons_of_ne slash] at even
        apply meaningFrom_cons_append single
        · intro same
          exact absurd same slash
        · exact later (by omega) even

/-- A quote character or a backslash behind a backslash adds itself to what a text means, whatever
its line breaks are, if no backslash dangles from the text. -/
theorem meaning_append_escape (cooked : form.isRaw = false)
    (quotes : isQuote form.delimiter.quote = true) {character : Char}
    (escapable : Escapable character) {text : Text}
    (static : Static ⟨[], form.delimiter⟩ false text) (even : backslashes text % 2 = 0) :
    meaning form (text ++ ['\\', character]) = (meaning form text).map (· ++ [.char character]) := by
  have noReturn : '\r' ∉ ['\\', character] := by
    obtain quote | rfl := escapable
    · obtain rfl | rfl := eq_of_isQuote quote
      · decide
      · decide
    · decide
  have evenThen : backslashes (unifyBreaks text) % 2 = 0 :=
    @even_unifyBreaks ⟨[], form.delimiter⟩ quotes _ _ static even
  rw [meaning, meaning, unifyBreaks_append_of_head?_ne (by simp), unifyBreaks_of_not_mem _ noReturn]
  exact meaningFrom_append_escape cooked escapable evenThen

end Meaning

/-! ## Begins of legal texts -/

section Mending

variable {form : Form} {text : Text}

/-- What a text is mended to does not depend on the prefix of its literal. -/
theorem closed?_without_letters {mended : Text} (found : closed? form text = some mended) :
    closed? ⟨[], form.delimiter⟩ text = some mended := by
  unfold closed? at found ⊢
  cases ends : ending form.delimiter.quote text with
  | safe =>
    simp only [ends] at found ⊢
    exact found
  | bareQuote =>
    simp only [ends, Option.ite_none_left_eq_some] at found ⊢
    exact ⟨Bool.false_ne_true, found.2⟩
  | danglingBackslash =>
    simp only [ends, Option.ite_none_left_eq_some] at found ⊢
    exact ⟨Bool.false_ne_true, found.2⟩

/-- A text that does not end safely ends in a quote character or a backslash, and is mended by one
more backslash in front of that. -/
theorem exists_of_ending_ne (cooked : form.isRaw = false)
    (runs : ending form.delimiter.quote text ≠ .safe) :
    ∃ before last, text = before ++ [last] ∧ (last = form.delimiter.quote ∨ last = '\\') ∧
      backslashes before % 2 = 0 ∧ closed? form text = some (before ++ ['\\', last]) := by
  cases ends : ending form.delimiter.quote text with
  | safe => exact absurd ends runs
  | bareQuote =>
    obtain ⟨last, even⟩ := bareQuote_iff.mp ends
    refine ⟨text.dropLast, form.delimiter.quote, ?_, Or.inl rfl, even, ?_⟩
    · exact (dropLast_append_of_getLast? last).symm
    · simp only [closed?, ends, cooked, Bool.false_eq_true, ↓reduceIte]
  | danglingBackslash =>
    obtain ⟨before, whole, even⟩ := exists_append_backslash (danglingBackslash_iff.mp ends).2
    refine ⟨before, '\\', whole, Or.inr rfl, even, ?_⟩
    simp only [closed?, ends, cooked, Bool.false_eq_true, ↓reduceIte]
    rw [whole, List.append_assoc]
    rfl

/-- The begin of a text that closing quotes may follow, in a formatted literal of the text behind
its last field, is closed as it is exactly if closing quotes may follow it too. If not, it cannot be
closed in a raw literal; in any other its last character, a quote or a backslash, is put behind one
more backslash, so that closing quotes may follow, and means itself behind what the characters in
front of it mean. What a text is closed as is closed as it is. -/
theorem closed?_of_begin [CharacterNames] {body : Text}
    (quotes : isQuote form.delimiter.quote = true) (legal : Closes form.delimiter body)
    (begins : text <+: body) :
    (closed? form text = some text ↔ Closes form.delimiter text) ∧
      (¬ Closes form.delimiter text →
        (closed? form text = none ↔ form.isRaw = true) ∧
          (form.isRaw = false → ∃ before last, text = before ++ [last] ∧
            (last = form.delimiter.quote ∨ last = '\\') ∧ backslashes before % 2 = 0 ∧
            closed? form text = some (before ++ ['\\', last]) ∧
            meaning form (before ++ ['\\', last]) = (meaning form before).map (· ++ [.char last]) ∧
            resolve (unifyBreaks (before ++ ['\\', last])) =
              (resolve (unifyBreaks before)).map (· ++ [.char last]))) ∧
      ∀ mended, closed? form text = some mended →
        Closes form.delimiter mended ∧ closed? form mended = some mended := by
  have static : Static ⟨[], form.delimiter⟩ false text :=
    ((closes_iff quotes).mp legal).1.of_begin rfl begins
  have closes : Closes form.delimiter text ↔ ending form.delimiter.quote text = .safe :=
    (closes_iff quotes).trans (and_iff_right static)
  have noBackslash : form.delimiter.quote ≠ '\\' := (ne_of_isQuote quotes rfl).symm
  refine ⟨closed?_eq_self_iff.trans closes.symm, ?_, ?_⟩
  · intro unclosed
    have runs : ending form.delimiter.quote text ≠ .safe := fun safe => unclosed (closes.mpr safe)
    constructor
    · rw [closed?_eq_none_iff]
      exact and_iff_left runs
    · intro cooked
      obtain ⟨before, last, rfl, own, even, mended⟩ := exists_of_ending_ne cooked runs
      have escapable : Escapable last := by
        obtain rfl | rfl := own
        · exact Or.inl quotes
        · exact Or.inr rfl
      have front : Static ⟨[], form.delimiter⟩ false before :=
        static.of_begin rfl (List.prefix_append before [last])
      refine ⟨before, last, rfl, own, even, mended, ?_, ?_⟩
      · exact meaning_append_escape cooked quotes escapable front even
      · have plain :=
          @meaning_append_escape ⟨[], form.delimiter⟩ _ rfl quotes _ escapable _ front even
        rw [meaning, meaning, meaningFrom_eq_resolve rfl rfl,
          meaningFrom_eq_resolve rfl rfl] at plain
        exact plain
  · intro mended found
    have safe := ending_closed noBackslash found
    have staticThen : Static ⟨[], form.delimiter⟩ false mended :=
      @Static.mended ⟨[], form.delimiter⟩ quotes _ _ _ static (closed?_without_letters found)
    exact ⟨(closes_iff quotes).mpr ⟨staticThen, safe⟩, closed?_eq_self_iff.mpr safe⟩

/-- A text that is cut off in front of a line break, behind a quote character of its own. -/
theorem closed?_of_begin_quoted :
    letI : CharacterNames := .ofTable []
    let form : Form := ⟨['f'], ⟨'"', true⟩⟩
    let text : Text := "say\\t\"hi\"".toList
    let mended : Text := "say\\t\"hi\\\"".toList
    isQuote form.delimiter.quote = true ∧ Closes form.delimiter (text ++ "\n".toList) ∧
      ¬ Closes form.delimiter text ∧ closed? form text = some mended ∧
      Closes form.delimiter mended ∧ meaning form mended = some (Text.points "say\t\"hi\"") := by
  let _ : CharacterNames := .ofTable []
  intro form text mended
  have quotes : isQuote form.delimiter.quote = true := rfl
  have legal : Closes form.delimiter (text ++ "\n".toList) := by decide +kernel
  have runs : ¬ Closes form.delimiter text := by decide +kernel
  obtain ⟨_, mends, closes⟩ := closed?_of_begin quotes legal (List.prefix_append text _)
  obtain ⟨before, last, whole, _, _, found, means, _⟩ := (mends runs).2 rfl
  have split : text = "say\\t\"hi".toList ++ ['"'] := by decide +kernel
  obtain ⟨rfl, same⟩ := List.append_inj' (whole.symm.trans split) rfl
  obtain rfl := (List.cons.inj same).1
  have value : meaning form "say\\t\"hi".toList = some (Text.points "say\t\"hi") := rfl
  refine ⟨quotes, legal, runs, found, (closes _ found).1, means.trans ?_⟩
  rw [value]
  rfl

end Mending

end Outdent.Template
