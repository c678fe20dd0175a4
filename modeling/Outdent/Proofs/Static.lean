import Outdent.Template.Closing
import Outdent.Template.Indentation

/-!
# Static text

What a scan for the closing quotes of a literal passes over: single characters, characters behind a
backslash, doubled braces and named characters, and nowhere the closing quotes, a line break that
the quotes do not admit, or a replacement field. `Static` says this of a text by itself, so that it
can be kept through edits of the text. Main statements: `closingLength_of_static` and
`literalLength_of_static`, the closing quotes behind a static text that ends safely are found right
behind it, and `static_of_closingLength` and `static_of_literalLength`, what is read up to closing
quotes is such a text.
-/
namespace Outdent.Template

open Source Text

/-- Text that the scan for the closing quotes of a literal passes over. The flag is set between the
braces of a named character. A backslash that would protect what follows the text may stand at its
end. -/
inductive Static (form : Form) : Bool → Text → Prop where
  /-- No text. -/
  | nil {named : Bool} : Static form named []
  /-- A character that stands for itself. -/
  | plain {named : Bool} {character : Char} {rest : Text} (unescaped : character ≠ '\\')
      (noBrace : form.isFormatted = true → character ≠ '\x7b' ∧ character ≠ '\x7d')
      (unclosed : ¬ form.delimiter.text <+: character :: rest)
      (unbroken : form.delimiter.triple = false → isBreak character = false)
      (behind : Static form named rest) : Static form named (character :: rest)
  /-- A backslash at the end. -/
  | dangling {named : Bool} : Static form named ['\\']
  /-- A backslash before a line break of two characters. -/
  | escapedBreak {named : Bool} {rest : Text} (behind : Static form named rest) :
      Static form named ('\\' :: '\r' :: '\n' :: rest)
  /-- A backslash before any other character. -/
  | escaped {named : Bool} {character : Char} {rest : Text}
      (noBreak : character = '\r' → rest.head? ≠ some '\n')
      (noBrace : form.isFormatted = true → character ≠ '\x7b' ∧ character ≠ '\x7d' ∧
        (character = 'N' → rest.head? ≠ some '\x7b'))
      (behind : Static form named rest) : Static form named ('\\' :: character :: rest)
  /-- A backslash before a brace. -/
  | beforeBrace {named : Bool} {brace : Char} {rest : Text} (formatted : form.isFormatted = true)
      (isBrace : brace = '\x7b' ∨ brace = '\x7d') (behind : Static form named (brace :: rest)) :
      Static form named ('\\' :: brace :: rest)
  /-- A doubled opening brace. -/
  | doubledOpening {named : Bool} {rest : Text} (formatted : form.isFormatted = true)
      (behind : Static form named rest) : Static form named ('\x7b' :: '\x7b' :: rest)
  /-- A doubled closing brace. -/
  | doubledClosing {rest : Text} (formatted : form.isFormatted = true)
      (behind : Static form false rest) : Static form false ('\x7d' :: '\x7d' :: rest)
  /-- The letter of a named character in a raw literal, where it has no meaning. -/
  | rawName {named : Bool} {rest : Text} (formatted : form.isFormatted = true)
      (raw : form.isRaw = true) (behind : Static form named ('\x7b' :: rest)) :
      Static form named ('\\' :: 'N' :: '\x7b' :: rest)
  /-- The begin of a named character. -/
  | name {named : Bool} {rest : Text} (formatted : form.isFormatted = true)
      (cooked : form.isRaw = false) (behind : Static form true rest) :
      Static form named ('\\' :: 'N' :: '\x7b' :: rest)
  /-- The end of a named character. -/
  | nameEnd {rest : Text} (formatted : form.isFormatted = true)
      (behind : Static form false rest) : Static form true ('\x7d' :: rest)

/-! ## How a text ends -/

/-- No more characters at the end of a text are backslashes than it has. -/
theorem backslashes_le (text : Text) : backslashes text ≤ text.length := by
  have short := (List.takeWhile_sublist (· == '\\') (l := text.reverse)).length_le
  rwa [List.length_reverse] at short

/-- A character other than a backslash in front does not change the backslashes at the end. -/
theorem backslashes_cons_of_ne {character : Char} (other : character ≠ '\\') (text : Text) :
    backslashes (character :: text) = backslashes text := by
  have stops : (character == '\\') = false := by simpa using other
  unfold backslashes
  rw [List.reverse_cons, List.takeWhile_append]
  split
  · rename_i whole
    have all : List.takeWhile (· == '\\') text.reverse = text.reverse :=
      (List.takeWhile_prefix _).eq_of_length whole
    simp [stops, all]
  · rfl

/-- A backslash in front counts only if all the text is backslashes. -/
theorem backslashes_backslash_cons (text : Text) :
    backslashes ('\\' :: text) =
      if backslashes text = text.length then text.length + 1 else backslashes text := by
  unfold backslashes
  rw [List.reverse_cons, List.takeWhile_append]
  by_cases whole : (text.reverse.takeWhile (· == '\\')).length = text.reverse.length
  · rw [if_pos whole, if_pos (by simpa using whole)]
    simp
  · rw [if_neg whole, if_neg (by simpa using whole)]

/-- A backslash in front of another character does not count. -/
theorem backslashes_backslash_cons_of_ne {character : Char} (other : character ≠ '\\')
    (text : Text) : backslashes ('\\' :: character :: text) = backslashes text := by
  have short := backslashes_le text
  rw [backslashes_backslash_cons, backslashes_cons_of_ne other,
    if_neg (by simp only [List.length_cons]; omega)]

/-- An escape in front leaves an even number of backslashes even and an odd number odd. -/
theorem backslashes_escape (character : Char) (text : Text) :
    backslashes ('\\' :: character :: text) % 2 = backslashes text % 2 := by
  by_cases same : character = '\\'
  · have short := backslashes_le text
    rw [same, backslashes_backslash_cons, backslashes_backslash_cons]
    by_cases whole : backslashes text = text.length
    · simp only [if_pos whole, List.length_cons, ↓reduceIte]
      omega
    · simp only [if_neg whole, List.length_cons]
      rw [if_neg (by omega)]
  · rw [backslashes_backslash_cons_of_ne same]

/-- The quote characters. -/
theorem eq_of_isQuote {quote : Char} (quotes : isQuote quote = true) :
    quote = '"' ∨ quote = '\'' := by
  simpa [isQuote] using quotes

/-- A character that is no quote differs from every quote. -/
theorem ne_of_isQuote {quote character : Char} (quotes : isQuote quote = true)
    (other : isQuote character = false) : character ≠ quote := by
  rintro rfl
  simp [quotes] at other

/-- A backslash alone does not end safely. -/
theorem ending_backslash {quote : Char} (quotes : isQuote quote = true) :
    ending quote ['\\'] = .danglingBackslash := by
  have other : '\\' ≠ quote := ne_of_isQuote quotes rfl
  simp [ending, backslashes, other]

/-- How a text ends does not depend on what is in front of its last character, unless that is a
backslash. -/
theorem ending_cons {quote character : Char} {rest : Text} (other : character ≠ '\\')
    (apart : rest ≠ [] ∨ character ≠ quote) :
    ending quote (character :: rest) = ending quote rest := by
  unfold ending
  cases rest with
  | nil =>
    have different : character ≠ quote := apart.resolve_left fun filled => filled rfl
    simp [different, backslashes_cons_of_ne other]
  | cons next rest =>
    rw [List.getLast?_cons_cons, List.dropLast_cons_cons, backslashes_cons_of_ne other,
      backslashes_cons_of_ne other]

/-- How a text ends does not depend on a character in front that is neither a backslash nor a
quote. -/
theorem ending_cons_plain {quote character : Char} (quotes : isQuote quote = true)
    (unescaped : character ≠ '\\') (noQuote : isQuote character = false) (rest : Text) :
    ending quote (character :: rest) = ending quote rest :=
  ending_cons unescaped (Or.inr (ne_of_isQuote quotes noQuote))

/-- How a text ends does not depend on an escape in front of it. -/
theorem ending_escape (quote character : Char) (rest : Text) :
    ending quote ('\\' :: character :: rest) = ending quote rest := by
  unfold ending
  cases rest with
  | nil =>
    have escape := backslashes_escape character []
    have even : backslashes [] = 0 := rfl
    by_cases same : character = quote
    · have odd : backslashes ['\\'] = 1 := rfl
      simp [same, odd, even]
    · simp [same, escape, even]
  | cons next rest =>
    rw [List.getLast?_cons_cons, List.getLast?_cons_cons, List.dropLast_cons_cons,
      List.dropLast_cons_cons, backslashes_escape, backslashes_escape]

/-! ## Reading up to the closing quotes -/

section Reading

variable {form : Form} (quotes : isQuote form.delimiter.quote = true)

include quotes in
/-- Closing quotes behind a text that ends safely begin no sooner than behind it. -/
theorem not_prefix_append {character : Char} {text : Text}
    (unclosed : ¬ form.delimiter.text <+: character :: text)
    (safe : ending form.delimiter.quote (character :: text) = .safe) (rest : Text) :
    ¬ form.delimiter.text <+: character :: (text ++ (form.delimiter.text ++ rest)) := by
  obtain ⟨letters, quote, triple⟩ := form
  cases triple with
  | false =>
    simpa [Delimiter.text] using unclosed
  | true =>
    simp only [Delimiter.text, ↓reduceIte] at unclosed safe ⊢
    cases text with
    | nil =>
      intro closes
      have same : quote = character := (List.cons_prefix_cons.mp closes).1
      simp [same, ending, backslashes] at safe
    | cons next text =>
      cases text with
      | nil =>
        intro closes
        obtain ⟨same, closes⟩ := List.cons_prefix_cons.mp closes
        have again : quote = next := (List.cons_prefix_cons.mp closes).1
        have bare : '\\' ≠ quote := ne_of_isQuote quotes rfl
        subst same again
        simp [ending, backslashes, bare.symm] at safe
      | cons third text =>
        simpa using unclosed

/-- A character that is no backslash ends a literal or is passed over by itself. -/
theorem closingLength_cons {delimiter : Delimiter} {character : Char}
    (unescaped : character ≠ '\\') (rest : Text) :
    closingLength delimiter (character :: rest) =
      if delimiter.text.isPrefixOf (character :: rest) then some delimiter.text.length
      else if !delimiter.triple && isBreak character then none
      else (closingLength delimiter rest).map (· + 1) := by
  rw [closingLength]
  · intro _ same; exact absurd same unescaped
  · intro _ _ same; exact absurd same unescaped

/-- A backslash is passed over with the character behind it. -/
theorem closingLength_escape {delimiter : Delimiter} {character : Char} {rest : Text}
    (noBreak : character = '\r' → rest.head? ≠ some '\n') :
    closingLength delimiter ('\\' :: character :: rest) =
      (closingLength delimiter rest).map (· + 2) := by
  rw [closingLength]
  intro _ same behind
  exact noBreak same (by rw [behind]; rfl)

include quotes in
/-- Quotes behind a text begin with a quote character. -/
theorem head?_append_quotes {text rest : Text} {character : Char}
    (apart : text.head? ≠ some character) (other : isQuote character = false) :
    (text ++ (form.delimiter.text ++ rest)).head? ≠ some character := by
  obtain ⟨letters, quote, triple⟩ := form
  cases text with
  | cons first text => simpa using apart
  | nil =>
    have different : quote ≠ character := (ne_of_isQuote quotes other).symm
    cases triple <;> simpa [Delimiter.text] using different

/-- A brace is passed over by itself. -/
theorem closingLength_brace {delimiter : Delimiter} (quotes : isQuote delimiter.quote = true)
    {brace : Char} (isBrace : brace = '\x7b' ∨ brace = '\x7d') (rest : Text) :
    closingLength delimiter (brace :: rest) = (closingLength delimiter rest).map (· + 1) := by
  have unescaped : brace ≠ '\\' := by rcases isBrace with rfl | rfl <;> decide
  have noQuote : isQuote brace = false := by rcases isBrace with rfl | rfl <;> decide
  have noBreak : isBreak brace = false := by rcases isBrace with rfl | rfl <;> decide
  have different : delimiter.quote ≠ brace := (ne_of_isQuote quotes noQuote).symm
  have opens : delimiter.text.isPrefixOf (brace :: rest) = false := by
    cases triple : delimiter.triple <;> simp [Delimiter.text, triple, List.isPrefixOf, different]
  rw [closingLength_cons unescaped, opens, noBreak]
  simp

/-- Closing quotes begin no sooner than behind text that ends safely. -/
theorem isPrefixOf_append_eq_false {form : Form} (quotes : isQuote form.delimiter.quote = true)
    {character : Char} {text : Text} (unclosed : ¬ form.delimiter.text <+: character :: text)
    (safe : ending form.delimiter.quote (character :: text) = .safe) (rest : Text) :
    form.delimiter.text.isPrefixOf (character :: (text ++ (form.delimiter.text ++ rest))) =
      false := by
  rw [Bool.eq_false_iff, ne_eq, List.isPrefixOf_iff_prefix]
  exact not_prefix_append quotes unclosed safe rest

/-- A line break is passed over in triple quotes only. -/
theorem breaks_eq_false {form : Form} {character : Char}
    (unbroken : form.delimiter.triple = false → isBreak character = false) :
    (!form.delimiter.triple && isBreak character) = false := by
  cases triple : form.delimiter.triple with
  | true => rfl
  | false => simp [unbroken triple]

/-- What is behind a character that stands for itself ends safely if all does. -/
theorem ending_behind {quote character : Char} {rest : Text} (other : character ≠ '\\')
    (safe : ending quote (character :: rest) = .safe) : ending quote rest = .safe := by
  cases rest with
  | nil => rfl
  | cons next rest => rwa [ending_cons other (Or.inl (List.cons_ne_nil _ _))] at safe

include quotes in
/-- The closing quotes of a literal are found right behind a static text that ends safely. -/
theorem closingLength_of_static {named : Bool} {text : Text} (static : Static form named text)
    (safe : ending form.delimiter.quote text = .safe) (rest : Text) :
    closingLength form.delimiter (text ++ (form.delimiter.text ++ rest)) =
      some (text.length + form.delimiter.text.length) := by
  induction static with
  | nil =>
    obtain ⟨letters, quote, triple⟩ := form
    have unescaped : quote ≠ '\\' := (ne_of_isQuote quotes rfl).symm
    cases triple <;> simp [Delimiter.text, closingLength_cons unescaped]
  | plain unescaped noBrace unclosed unbroken behind ih =>
    rw [List.cons_append, closingLength_cons unescaped,
      isPrefixOf_append_eq_false quotes unclosed safe, breaks_eq_false unbroken,
      ih (ending_behind unescaped safe)]
    simp only [Bool.false_eq_true, ↓reduceIte, Option.map_some, List.length_cons]
    congr 1
    omega
  | dangling => rw [ending_backslash quotes] at safe; simp at safe
  | escapedBreak behind ih =>
    rw [ending_escape] at safe
    simp only [List.cons_append, closingLength, ih (ending_behind (by decide) safe),
      Option.map_some, List.length_cons]
    congr 1
    omega
  | escaped noBreak noBrace behind ih =>
    have later := ih (by rwa [ending_escape] at safe)
    rw [List.cons_append, List.cons_append, closingLength_escape fun same =>
      head?_append_quotes quotes (noBreak same) rfl, later]
    simp only [Option.map_some, List.length_cons]
    congr 1
    omega
  | @beforeBrace named brace text formatted isBrace behind ih =>
    have noReturn : brace ≠ '\r' := by rcases isBrace with rfl | rfl <;> decide
    have other : brace ≠ '\\' := by rcases isBrace with rfl | rfl <;> decide
    have noQuote : isQuote brace = false := by rcases isBrace with rfl | rfl <;> decide
    have later := ih (by
      rwa [ending_escape, ← ending_cons other (Or.inr (ne_of_isQuote quotes noQuote))] at safe)
    rw [List.cons_append, closingLength_brace quotes isBrace] at later
    obtain ⟨inner, inside, same⟩ := Option.map_eq_some_iff.mp later
    rw [List.cons_append, List.cons_append, closingLength_escape fun same => absurd same noReturn,
      inside]
    simp only [Option.map_some, List.length_cons] at same ⊢
    congr 1
    omega
  | doubledOpening formatted behind ih =>
    have later := ih (ending_behind (by decide) (ending_behind (by decide) safe))
    rw [List.cons_append, List.cons_append, closingLength_brace quotes (Or.inl rfl),
      closingLength_brace quotes (Or.inl rfl), later]
    simp only [Option.map_some, List.length_cons]
    congr 1
    omega
  | doubledClosing formatted behind ih =>
    have later := ih (ending_behind (by decide) (ending_behind (by decide) safe))
    rw [List.cons_append, List.cons_append, closingLength_brace quotes (Or.inr rfl),
      closingLength_brace quotes (Or.inr rfl), later]
    simp only [Option.map_some, List.length_cons]
    congr 1
    omega
  | rawName formatted raw behind ih =>
    have later := ih (by rwa [ending_escape] at safe)
    rw [List.cons_append, List.cons_append,
      closingLength_escape fun same => absurd same (by decide), later]
    simp only [Option.map_some, List.length_cons]
    congr 1
    omega
  | name formatted cooked behind ih =>
    rw [ending_escape] at safe
    have later := ih (ending_behind (by decide) safe)
    rw [List.cons_append, List.cons_append,
      closingLength_escape fun same => absurd same (by decide), List.cons_append,
      closingLength_brace quotes (Or.inl rfl), later]
    simp only [Option.map_some, List.length_cons]
    congr 1
    omega
  | nameEnd formatted behind ih =>
    have later := ih (ending_behind (by decide) safe)
    rw [List.cons_append, closingLength_brace quotes (Or.inr rfl), later]
    simp only [Option.map_some, List.length_cons]
    congr 1
    omega

/-- How the literal text of a literal of a form is read. -/
def textMode (form : Form) : LiteralMode := ⟨form.delimiter, form.isRaw, false⟩

/-- A character that neither begins the closing quotes nor is a backslash ends safely what ends
safely behind it. -/
theorem ending_cons_of_unclosed {character : Char} {body rest : Text}
    (unescaped : character ≠ '\\')
    (opens : ¬ form.delimiter.text <+: character :: (body ++ (form.delimiter.text ++ rest))) :
    ending form.delimiter.quote (character :: body) = ending form.delimiter.quote body := by
  refine ending_cons unescaped ?_
  cases body with
  | cons next body => exact Or.inl (List.cons_ne_nil _ _)
  | nil =>
    refine Or.inr fun same => opens ?_
    obtain ⟨letters, quote, triple⟩ := form
    cases triple <;> simp [Delimiter.text, same]

/-- Quotes that do not begin a text and what is behind it do not begin the text. -/
theorem not_prefix_of_append {opening text rest : Text} {character : Char}
    (opens : ¬ opening <+: character :: (text ++ rest)) : ¬ opening <+: character :: text :=
  fun closes => opens (closes.trans (by simp))

include quotes in
/-- What is read up to the closing quotes of a plain literal is a static text that ends safely. -/
theorem static_of_closingLength (plain : form.isFormatted = false) {text : Text} {length : Nat}
    (found : closingLength form.delimiter text = some length) :
    ∃ body rest, text = body ++ (form.delimiter.text ++ rest) ∧
      length = body.length + form.delimiter.text.length ∧ Static form false body ∧
      ending form.delimiter.quote body = .safe := by
  fun_induction closingLength form.delimiter text generalizing length with
  | case1 => simp at found
  | case2 text ih =>
    obtain ⟨inner, inside, rfl⟩ := Option.map_eq_some_iff.mp found
    obtain ⟨body, rest, rfl, rfl, static, safe⟩ := ih inside
    have other : '\n' ≠ form.delimiter.quote := ne_of_isQuote quotes rfl
    refine ⟨'\\' :: '\r' :: '\n' :: body, rest, rfl, ?_, .escapedBreak static, ?_⟩
    · simp only [List.length_cons]
      omega
    · rw [ending_escape, ending_cons (by decide) (Or.inr other), safe]
  | case3 character text noBreak ih =>
    obtain ⟨inner, inside, rfl⟩ := Option.map_eq_some_iff.mp found
    obtain ⟨body, rest, rfl, rfl, static, safe⟩ := ih inside
    refine ⟨'\\' :: character :: body, rest, rfl, ?_, .escaped ?_ (by simp [plain]) static, ?_⟩
    · simp only [List.length_cons]
      omega
    · intro same first
      obtain ⟨others, rfl⟩ := List.head?_eq_some_iff.mp first
      exact noBreak _ same rfl
    · rw [ending_escape, safe]
  | case4 character text _ _ closes =>
    obtain rfl := Option.some.inj found
    obtain ⟨rest, same⟩ := List.isPrefixOf_iff_prefix.mp closes
    exact ⟨[], rest, same.symm, by simp, .nil, rfl⟩
  | case5 => simp at found
  | case6 character text noBreak noEscape opens whole ih =>
    obtain ⟨inner, inside, rfl⟩ := Option.map_eq_some_iff.mp found
    obtain ⟨body, rest, rfl, rfl, static, safe⟩ := ih inside
    have opens : ¬ form.delimiter.text <+: character :: (body ++ (form.delimiter.text ++ rest)) :=
      fun closes => opens (List.isPrefixOf_iff_prefix.mpr closes)
    have unescaped : character ≠ '\\' := by
      rintro rfl
      cases filled : body ++ (form.delimiter.text ++ rest) with
      | nil => simp [filled, closingLength] at inside
      | cons next others => exact noEscape _ _ rfl filled
    refine ⟨character :: body, rest, rfl, ?_, .plain unescaped (by simp [plain])
      (not_prefix_of_append opens) ?_ static, ?_⟩
    · simp only [List.length_cons]
      omega
    · intro single
      simpa [single] using whole
    · rw [ending_cons_of_unclosed unescaped opens, safe]

/-- No brace begins closing quotes. -/
theorem not_prefix_brace {delimiter : Delimiter} (quotes : isQuote delimiter.quote = true)
    {brace : Char} (isBrace : brace = '\x7b' ∨ brace = '\x7d') (rest : Text) :
    ¬ delimiter.text <+: brace :: rest := by
  have noQuote : isQuote brace = false := by rcases isBrace with rfl | rfl <;> decide
  have different : delimiter.quote ≠ brace := (ne_of_isQuote quotes noQuote).symm
  cases triple : delimiter.triple <;> simp [Delimiter.text, triple, different]

/-- So many characters of a text are a static text, which ends safely if closing quotes follow. -/
def StaticUpTo (form : Form) (named : Bool) (text : Text) (length : Nat) : Prop :=
  ∃ body rest, text = body ++ rest ∧ length = body.length ∧ Static form named body ∧
    (form.delimiter.text <+: rest → ending form.delimiter.quote body = .safe)

/-- No character is a static text. -/
theorem StaticUpTo.zero (named : Bool) (text : Text) : StaticUpTo form named text 0 :=
  ⟨[], text, rfl, rfl, .nil, fun _ => rfl⟩

/-- Characters in front that keep a text static and its end as it is. -/
theorem StaticUpTo.append (front : Text) {named inner : Bool} {text : Text} {length : Nat}
    (behind : StaticUpTo form inner text length)
    (static : ∀ {body}, body <+: text → Static form inner body → Static form named (front ++ body))
    (same : ∀ body, ending form.delimiter.quote (front ++ body) =
      ending form.delimiter.quote body) :
    StaticUpTo form named (front ++ text) (length + front.length) := by
  obtain ⟨body, rest, rfl, rfl, inside, safe⟩ := behind
  refine ⟨front ++ body, rest, by simp, by simp [Nat.add_comm],
    static (List.prefix_append _ _) inside, fun closes => ?_⟩
  rw [same, safe closes]

include quotes in
/-- A brace that text begins with may stand behind a backslash. -/
theorem StaticUpTo.beforeBrace (formatted : form.isFormatted = true) {named : Bool} {brace : Char}
    (isBrace : brace = '\x7b' ∨ brace = '\x7d') {text : Text} {length : Nat}
    (behind : StaticUpTo form named (brace :: text) length) :
    StaticUpTo form named ('\\' :: brace :: text) (length + 1) := by
  have facts : brace ≠ '\\' ∧ isQuote brace = false := by
    rcases isBrace with rfl | rfl <;> decide
  obtain ⟨body, rest, same, rfl, static, safe⟩ := behind
  cases body with
  | nil =>
    obtain rfl : brace :: text = rest := same
    exact ⟨['\\'], brace :: text, rfl, rfl, .dangling, fun closes =>
      absurd closes (not_prefix_brace quotes isBrace text)⟩
  | cons first body =>
    obtain ⟨rfl, rfl⟩ := List.cons.inj same
    refine ⟨'\\' :: brace :: body, rest, rfl, rfl, .beforeBrace formatted isBrace static, ?_⟩
    intro closes
    rw [ending_escape, ← ending_cons facts.1 (Or.inr (ne_of_isQuote quotes facts.2)), safe closes]

include quotes in
/-- What is read of the literal text of a formatted literal is a static text, and it ends safely
where closing quotes follow. -/
theorem static_of_literalLength (formatted : form.isFormatted = true) {named : Bool} {text : Text}
    {length : Nat} (found : literalLength (textMode form) named text = some length) :
    StaticUpTo form named text length := by
  have noFormat : (textMode form).inFormat = false := rfl
  fun_induction literalLength (textMode form) named text generalizing length with
  | case1 => simp at found
  | case2 named rest inFormat => simp [noFormat] at inFormat
  | case3 named _ more ih =>
    obtain ⟨inner, inside, rfl⟩ := Option.map_eq_some_iff.mp found
    refine StaticUpTo.append ['\x7b', '\x7b'] (ih inside) ?_ fun body => ?_
    · exact fun _ static => .doubledOpening formatted static
    · exact (ending_cons_plain quotes (by decide) rfl _).trans
        (ending_cons_plain quotes (by decide) rfl _)
  | case4 named rest =>
    obtain rfl := Option.some.inj found
    exact .zero _ _
  | case5 rest ih =>
    obtain ⟨inner, inside, rfl⟩ := Option.map_eq_some_iff.mp found
    refine StaticUpTo.append ['\x7d'] (ih inside) ?_ fun body => ?_
    · exact fun _ static => .nameEnd formatted static
    · exact ending_cons_plain quotes (by decide) rfl _
  | case6 named rest _ inFormat => simp [noFormat] at inFormat
  | case7 named outside _ more ih =>
    obtain rfl : named = false := by simpa using outside
    obtain ⟨inner, inside, rfl⟩ := Option.map_eq_some_iff.mp found
    refine StaticUpTo.append ['\x7d', '\x7d'] (ih inside) ?_ fun body => ?_
    · exact fun _ static => .doubledClosing formatted static
    · exact (ending_cons_plain quotes (by decide) rfl _).trans
        (ending_cons_plain quotes (by decide) rfl _)
  | case8 => simp at found
  | case9 named rest ih =>
    obtain ⟨inner, inside, rfl⟩ := Option.map_eq_some_iff.mp found
    exact (ih inside).beforeBrace quotes formatted (Or.inl rfl)
  | case10 named rest ih =>
    obtain ⟨inner, inside, rfl⟩ := Option.map_eq_some_iff.mp found
    exact (ih inside).beforeBrace quotes formatted (Or.inr rfl)
  | case11 named rest raw ih =>
    obtain ⟨inner, inside, rfl⟩ := Option.map_eq_some_iff.mp found
    refine StaticUpTo.append ['\\', 'N'] (ih inside) ?_ fun body => ?_
    · intro body begins static
      cases body with
      | nil => exact .escaped (by simp) (by simp) .nil
      | cons first body =>
        obtain rfl : first = '\x7b' := (List.cons_prefix_cons.mp begins).1
        exact .rawName formatted (by simpa [textMode] using raw) static
    · exact ending_escape _ _ _
  | case12 named rest cooked ih =>
    obtain ⟨inner, inside, rfl⟩ := Option.map_eq_some_iff.mp found
    refine StaticUpTo.append ['\\', 'N', '\x7b'] (ih inside) ?_ fun body => ?_
    · exact fun _ static => .name formatted (by simpa [textMode] using cooked) static
    · exact (ending_escape _ _ _).trans (ending_cons_plain quotes (by decide) rfl _)
  | case13 named rest ih =>
    obtain ⟨inner, inside, rfl⟩ := Option.map_eq_some_iff.mp found
    refine StaticUpTo.append ['\\', '\r', '\n'] (ih inside) ?_ fun body => ?_
    · exact fun _ static => .escapedBreak static
    · exact (ending_escape _ _ _).trans (ending_cons_plain quotes (by decide) rfl _)
  | case14 named character rest noOpening noClosing noName noBreak ih =>
    obtain ⟨inner, inside, rfl⟩ := Option.map_eq_some_iff.mp found
    refine StaticUpTo.append ['\\', character] (ih inside) ?_ fun body => ?_
    · intro body begins static
      refine .escaped (fun same first => ?_)
        (fun _ => ⟨noOpening, noClosing, fun same first => ?_⟩) static
      · obtain ⟨others, rfl⟩ := List.head?_eq_some_iff.mp first
        obtain ⟨behind, rfl⟩ := begins
        exact noBreak _ same rfl
      · obtain ⟨others, rfl⟩ := List.head?_eq_some_iff.mp first
        obtain ⟨behind, rfl⟩ := begins
        exact noName _ same rfl
    · exact ending_escape _ _ _
  | case15 =>
    obtain rfl := Option.some.inj found
    exact .zero _ _
  | case16 => simp at found
  | case17 named character text noOpening noClosing _ _ _ _ noEscape opens whole ih =>
    obtain ⟨inner, inside, rfl⟩ := Option.map_eq_some_iff.mp found
    obtain ⟨body, rest, rfl, rfl, static, safe⟩ := ih inside
    have unescaped : character ≠ '\\' := by
      rintro rfl
      cases filled : body ++ rest with
      | nil => simp [filled, literalLength] at inside
      | cons next others => exact noEscape _ _ rfl filled
    have opens : ¬ form.delimiter.text <+: character :: (body ++ rest) :=
      fun closes => opens (List.isPrefixOf_iff_prefix.mpr closes)
    refine ⟨character :: body, rest, rfl, rfl, .plain unescaped (fun _ => ⟨noOpening, noClosing⟩)
      (not_prefix_of_append opens) (fun single => ?_) static, fun closes => ?_⟩
    · simpa [textMode, single] using whole
    · obtain ⟨behind, rfl⟩ := closes
      rw [ending_cons_of_unclosed unescaped opens, safe (List.prefix_append _ _)]

end Reading

/-- Where literal text stops, there is no more of it. -/
theorem literalLength_drop {mode : LiteralMode} {named : Bool} {text : Text} {length : Nat}
    (found : literalLength mode named text = some length) :
    literalLength mode false (text.drop length) = some 0 := by
  fun_induction literalLength mode named text generalizing length with
  | case1 => simp at found
  | case2 named rest inFormat =>
    obtain rfl := Option.some.inj found
    rw [List.drop_zero]
    unfold literalLength
    simp [inFormat]
  | case4 named rest _ single =>
    obtain rfl := Option.some.inj found
    rw [List.drop_zero, literalLength.eq_3 _ _ _ single]
    simp
  | case6 named rest _ inFormat =>
    obtain rfl := Option.some.inj found
    rw [List.drop_zero]
    unfold literalLength
    simp [inFormat]
  | case8 => simp at found
  | case15 named character rest noOpening noClosing a b c d e closes =>
    obtain rfl := Option.some.inj found
    rw [List.drop_zero, literalLength.eq_11 _ _ _ _ noOpening noClosing a b c d e, if_pos closes]
  | case16 => simp at found
  | case3 named _ rest ih | case5 rest ih | case7 named _ _ rest ih | case9 named rest ih
  | case10 named rest ih | case11 named rest _ ih | case12 named rest _ ih | case13 named rest ih
  | case14 named character rest _ _ _ _ ih | case17 named character rest _ _ _ _ _ _ _ _ _ ih =>
    obtain ⟨inner, inside, rfl⟩ := Option.map_eq_some_iff.mp found
    exact ih inside

end Outdent.Template
