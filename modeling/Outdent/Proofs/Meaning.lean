import Outdent.Proofs.StaticTexts

/-!
# Meaning of literal texts

What a text of a literal stands for, read in one pass from left to right and without quotes around
it. In a formatted string a doubled brace stands for a brace before anything else, and a backslash in
front of a brace or of a replacement field stands for itself. Main statements:
`meaningFrom_eq_singleBraces`, a static text means what it resolves to with its doubled braces made
single, unless an escape stands for a brace, and `cook_eq_meaning`, when a text of a template literal
reads as what it means.
-/
namespace Outdent.Template

open Source Text

/-- Is a character a brace? -/
def isBrace (character : Char) : Bool := character == '\x7b' || character == '\x7d'

/-- Is one of some points a brace? -/
def holdsBrace (points : Points) : Bool := points.any fun point => point.char?.any isBrace

/-- The braces. -/
theorem isBrace_iff {character : Char} :
    isBrace character = true ↔ character = '\x7b' ∨ character = '\x7d' := by
  simp [isBrace]

/-- No brace is a backslash. -/
theorem ne_backslash_of_brace {brace : Char} (braces : brace = '\x7b' ∨ brace = '\x7d') :
    brace ≠ '\\' := by
  rcases braces with rfl | rfl <;> decide

/-- A character that is no brace is none among points. -/
theorem char_ne_brace {character : Char} (noBrace : character ≠ '\x7b' ∧ character ≠ '\x7d') :
    Point.char character ≠ .char '\x7b' ∧ Point.char character ≠ .char '\x7d' :=
  ⟨fun same => noBrace.1 (Point.char.inj same), fun same => noBrace.2 (Point.char.inj same)⟩

section Definitions

variable [CharacterNames]

/-- What a text of a literal means, when some characters of it are still to be passed over. -/
def meaningFrom (form : Form) : Nat → Text → Option Points
  | _, [] => some []
  | skip + 1, _ :: rest => meaningFrom form skip rest
  | 0, character :: rest =>
    if form.isFormatted && isBrace character && rest.head? == some character then
      (meaningFrom form 1 rest).map (.char character :: ·)
    else if character == '\\' && !form.isRaw && !(form.isFormatted && rest.head?.all isBrace) then
      (escape? rest).bind fun found => (meaningFrom form found.2 rest).map (found.1 ++ ·)
    else (meaningFrom form 0 rest).map (.char character :: ·)

/-- What a text of a literal means, if all its escapes have a meaning. A line break in a source is a
line feed. -/
def meaning (form : Form) (text : Text) : Option Points := meaningFrom form 0 (unifyBreaks text)

/-- What the escapes of a text stand for, when some characters of it are still to be passed over. A
backslash in front of a brace is no escape. -/
def escapedFrom : Nat → Text → List Points
  | _, [] => []
  | skip + 1, _ :: rest => escapedFrom skip rest
  | 0, character :: rest =>
    if character == '\\' && !rest.head?.all isBrace then
      match escape? rest with
      | some found => found.1 :: escapedFrom found.2 rest
      | none => []
    else escapedFrom 0 rest

/-- Does an escape of a text stand for a brace? -/
def escapesBrace (text : Text) : Bool := (escapedFrom 0 (unifyBreaks text)).any holdsBrace

end Definitions

section Recursion

variable [CharacterNames] {form : Form}

/-- Passing over characters is dropping them. -/
theorem meaningFrom_eq_drop (skip : Nat) (text : Text) :
    meaningFrom form skip text = meaningFrom form 0 (text.drop skip) := by
  induction skip generalizing text with
  | zero => rfl
  | succ skip ih =>
    cases text with
    | nil => rfl
    | cons character rest => exact ih rest

/-- Passing over characters is dropping them. -/
theorem escapedFrom_eq_drop (skip : Nat) (text : Text) :
    escapedFrom skip text = escapedFrom 0 (text.drop skip) := by
  induction skip generalizing text with
  | zero => rfl
  | succ skip ih =>
    cases text with
    | nil => rfl
    | cons character rest => exact ih rest

/-- A doubled brace means a brace. -/
theorem meaningFrom_doubled (formatted : form.isFormatted = true) {brace : Char}
    (braces : isBrace brace = true) (rest : Text) :
    meaningFrom form 0 (brace :: brace :: rest) =
      (meaningFrom form 0 rest).map (.char brace :: ·) := by
  rw [meaningFrom, formatted, braces, meaningFrom]
  simp

/-- A character that neither is doubled nor begins an escape means itself. -/
theorem meaningFrom_cons {character : Char} {rest : Text}
    (single : form.isFormatted = true → isBrace character = true → rest.head? ≠ some character)
    (plain : character = '\\' → form.isRaw = true ∨
      form.isFormatted = true ∧ rest.head?.all isBrace = true) :
    meaningFrom form 0 (character :: rest) =
      (meaningFrom form 0 rest).map (.char character :: ·) := by
  have noPair : (form.isFormatted && isBrace character && rest.head? == some character) = false := by
    cases braces : isBrace character with
    | false => simp
    | true => simpa using fun formatted => single formatted braces
  have noEscape : (character == '\\' && !form.isRaw &&
      !(form.isFormatted && rest.head?.all isBrace)) = false := by
    by_cases slash : character = '\\'
    · obtain raw | ⟨formatted, stands⟩ := plain slash
      · simp [raw]
      · simp [formatted, stands]
    · simp [slash]
  rw [meaningFrom, noPair, noEscape]
  simp

/-- What an escape stands for comes before what is behind it. -/
theorem meaningFrom_escape (cooked : form.isRaw = false) {rest : Text}
    (escapes : form.isFormatted = true → rest.head?.all isBrace = false) :
    meaningFrom form 0 ('\\' :: rest) = (escape? rest).bind fun found =>
      (meaningFrom form 0 (rest.drop found.2)).map (found.1 ++ ·) := by
  have noBrace : isBrace '\\' = false := by decide
  have noField : (form.isFormatted && rest.head?.all isBrace) = false := by
    cases formatted : form.isFormatted with
    | false => rfl
    | true => rw [escapes formatted, Bool.and_false]
  rw [meaningFrom, cooked, noField, noBrace]
  simp only [Bool.and_false, Bool.false_and, Bool.false_eq_true, ↓reduceIte, beq_self_eq_true,
    Bool.not_false, Bool.and_self, ← meaningFrom_eq_drop]

/-- A text that is neither raw nor formatted means what it resolves to. -/
theorem meaningFrom_eq_resolve (cooked : form.isRaw = false) (plain : form.isFormatted = false)
    (text : Text) : meaningFrom form 0 text = resolve text := by
  have same : ∀ skip, meaningFrom form skip text = resolveFrom skip text := by
    induction text with
    | nil => exact fun skip => by cases skip <;> rfl
    | cons character rest ih =>
      intro skip
      cases skip with
      | succ skip => exact ih skip
      | zero =>
        rw [meaningFrom, resolveFrom, cooked, plain]
        simp only [ih]
        simp
  exact same 0

/-- A raw text that is not formatted means itself. -/
theorem meaningFrom_raw (raw : form.isRaw = true) (plain : form.isFormatted = false)
    (text : Text) : meaningFrom form 0 text = some text.points := by
  induction text with
  | nil => rfl
  | cons character rest ih =>
    rw [meaningFrom, raw, plain, ih]
    simp [Text.points]

/-- A raw text that is formatted means itself with its doubled braces made single. -/
theorem meaningFrom_raw_formatted (raw : form.isRaw = true) (formatted : form.isFormatted = true)
    (text : Text) : meaningFrom form 0 text = some (singleBraces text.points) := by
  match text with
  | [] => rfl
  | character :: rest =>
    have behind := meaningFrom_raw_formatted raw formatted rest
    by_cases braces : isBrace character = true
    · by_cases double : rest.head? = some character
      · obtain ⟨more, same⟩ := List.head?_eq_some_iff.mp double
        have shorter : more.length < rest.length := same ▸ Nat.lt_succ_self _
        have single := singleBraces_double (isBrace_iff.mp braces) (points more)
        rw [same, meaningFrom_doubled formatted braces,
          meaningFrom_raw_formatted raw formatted more, Option.map_some, ← single]
        rfl
      · have apart : (points rest).head? ≠ some (.char character) := by
          simpa [Text.points, List.head?_map] using double
        have single := singleBraces_single (isBrace_iff.mp braces) apart
        rw [meaningFrom_cons (fun _ _ => double) fun _ => Or.inl raw, behind, Option.map_some,
          ← single]
        rfl
    · have noBrace := char_ne_brace (not_or.mp (isBrace_iff.not.mp braces))
      rw [meaningFrom_cons (fun _ found => absurd found braces) fun _ => Or.inl raw, behind,
        Option.map_some, ← singleBraces_cons noBrace]
      rfl
termination_by text.length
decreasing_by
  all_goals simp only [List.length_cons]; omega

/-- A text without a meaning has an escape without one. -/
theorem exists_escape_of_meaningFrom {text : Text} {skip : Nat}
    (unread : meaningFrom form skip text = none) :
    ∃ rest, '\\' :: rest <:+ text ∧ escape? rest = none := by
  induction text generalizing skip with
  | nil => cases skip <;> cases unread
  | cons character rest ih =>
    have behind {skip : Nat} (unread : meaningFrom form skip rest = none) :
        ∃ others, '\\' :: others <:+ character :: rest ∧ escape? others = none := by
      obtain ⟨others, inside, none⟩ := ih unread
      exact ⟨others, inside.trans (List.suffix_cons _ _), none⟩
    cases skip with
    | succ skip => exact behind unread
    | zero =>
      rw [meaningFrom] at unread
      split at unread
      · exact behind (Option.map_eq_none_iff.mp unread)
      · split at unread
        · rename_i escapes
          cases found : escape? rest with
          | none =>
            have slash : character = '\\' := by simp_all
            exact ⟨rest, slash ▸ List.suffix_refl _, found⟩
          | some escape =>
            rw [found, Option.bind_some] at unread
            exact behind (Option.map_eq_none_iff.mp unread)
        · exact behind (Option.map_eq_none_iff.mp unread)

end Recursion

/-! ## Escapes of a static text -/

section Escapes

/-- A character that neither begins an escape nor is a brace. -/
def isInert (character : Char) : Bool := character != '\\' && !isBrace character

/-- The inert characters. -/
theorem isInert_iff {character : Char} :
    isInert character = true ↔ character ≠ '\\' ∧ character ≠ '\x7b' ∧ character ≠ '\x7d' := by
  simp [isInert, isBrace]

/-- Digits are inert. -/
theorem isInert_of_isDigit {base : Nat} {character : Char}
    (digit : isDigit base character = true) : isInert character = true := by
  refine isInert_iff.mpr ⟨?_, ?_, ?_⟩ <;> rintro rfl <;> simp [isDigit, digit?] at digit

/-- The letters of names are inert. -/
theorem isInert_of_isNameLetter {letter : Char} (named : isNameLetter letter = true) :
    isInert letter = true := by
  refine isInert_iff.mpr ⟨?_, ?_, ?_⟩ <;> rintro rfl <;> exact absurd named (by decide)

/-- Behind its letter an escape by number holds digits, which are inert. -/
theorem coded?_shape {width : Nat} {rest : Text} {read : Points} {length : Nat}
    (found : coded? width rest = some (read, length)) :
    ∃ front behind, rest = front ++ behind ∧ length = front.length + 1 ∧
      ∀ other ∈ front, isInert other = true := by
  unfold coded? at found
  split at found
  · rename_i long
    simp only [Option.bind_eq_bind, Option.bind_eq_some_iff, Option.some.injEq,
      Prod.mk.injEq] at found
    obtain ⟨code, number, _, _, _, rfl⟩ := found
    unfold number? at number
    rw [Option.ite_none_right_eq_some, Bool.and_eq_true, List.all_eq_true] at number
    exact ⟨rest.take width, rest.drop width, by rw [List.take_append_drop], by rw [long],
      fun other member => isInert_of_isDigit (number.1.2 other member)⟩
  · cases found

/-- Behind its first character an escape holds inert characters, unless it is by name. -/
theorem escape?_shape [CharacterNames] {line : Text} {read : Points} {length : Nat}
    (unnamed : ¬ ['N', '\x7b'] <+: line) (found : escape? line = some (read, length)) :
    ∃ first front behind, line = first :: (front ++ behind) ∧ length = front.length + 1 ∧
      ∀ other ∈ front, isInert other = true := by
  have coded : ∀ {width : Nat} (first : Char) {rest : Text},
      coded? width rest = some (read, length) →
      ∃ letter front behind, first :: rest = letter :: (front ++ behind) ∧
        length = front.length + 1 ∧ ∀ other ∈ front, isInert other = true := by
    intro width first rest found
    obtain ⟨front, behind, rfl, same, inert⟩ := coded?_shape found
    exact ⟨first, front, behind, rfl, same, inert⟩
  revert found
  fun_cases escape? line with
  | case1 =>
    intro found
    cases found
  | case10 => exact coded 'x'
  | case11 => exact coded 'u'
  | case12 => exact coded 'U'
  | case13 more => exact absurd ⟨more, rfl⟩ unnamed
  | case14 =>
    intro found
    cases found
  | case17 first more _ _ _ _ _ _ _ _ _ _ _ _ _ _ digits filled =>
    intro found
    obtain ⟨_, _, same⟩ := Option.map_eq_some_iff.mp found
    obtain ⟨_, rfl⟩ := Prod.mk.inj same
    have inert : ∀ other ∈ digits, isInert other = true := fun other member =>
      isInert_of_isDigit (List.mem_takeWhile_imp member)
    have begins : digits <+: first :: more :=
      (List.takeWhile_prefix _).trans (List.take_prefix 3 _)
    generalize digits = taken at filled inert begins
    cases taken with
    | nil => exact absurd rfl filled
    | cons digit taken =>
      obtain ⟨behind, whole⟩ := begins
      exact ⟨digit, taken, behind, whole.symm, rfl, fun other member => inert other (.tail _ member)⟩
  | _ =>
    intro found
    obtain ⟨_, rfl⟩ := Prod.mk.inj (Option.some.inj found)
    exact ⟨_, [], _, rfl, rfl, by simp⟩

/-- An escape by name ends in a brace, and its name is inert. -/
theorem escape?_name_shape [CharacterNames] {rest : Text} {read : Points} {length : Nat}
    (found : escape? ('N' :: '\x7b' :: rest) = some (read, length)) :
    ∃ name behind, rest = name ++ '\x7d' :: behind ∧ length = name.length + 3 ∧
      ∀ other ∈ name, isInert other = true := by
  rw [escape?] at found
  simp only [Option.bind_eq_bind, Option.bind_eq_some_iff, Option.ite_none_right_eq_some,
    Option.some.injEq, Prod.mk.injEq] at found
  obtain ⟨character, named, short, _, rfl⟩ := found
  have behind : (rest.dropWhile (· != '\x7d')).head? = some '\x7d' := by
    have stops := List.head?_dropWhile_not (· != '\x7d') rest
    cases ends : rest.dropWhile (· != '\x7d') with
    | nil =>
      have whole := congrArg List.length
        (List.takeWhile_append_dropWhile (p := (· != '\x7d')) (l := rest))
      rw [ends, List.append_nil] at whole
      omega
    | cons brace others =>
      rw [ends] at stops
      simpa using stops
  obtain ⟨others, ends⟩ := List.head?_eq_some_iff.mp behind
  refine ⟨rest.takeWhile (· != '\x7d'), others, ?_, rfl, fun other member => ?_⟩
  · rw [← ends, List.takeWhile_append_dropWhile]
  · exact isInert_of_isNameLetter (CharacterNames.isNameLetter_of_mem named other member)

variable {form : Form}

/-- What is behind an inert character of a static text is static. -/
theorem Static.tail {named : Bool} {character : Char} {rest : Text}
    (static : Static form named (character :: rest)) (inert : isInert character = true) :
    Static form named rest := by
  have special := isInert_iff.mp inert
  cases static with
  | plain _ _ _ _ behind => exact behind
  | doubledOpening => exact absurd rfl special.2.1
  | doubledClosing => exact absurd rfl special.2.2
  | nameEnd => exact absurd rfl special.2.2
  | _ => exact absurd rfl special.1

/-- What is behind inert characters of a static text is static. -/
theorem Static.behind {named : Bool} {front behind : Text}
    (static : Static form named (front ++ behind)) (inert : ∀ other ∈ front, isInert other = true) :
    Static form named behind := by
  induction front with
  | nil => exact static
  | cons character front ih =>
    exact ih (Static.tail static (inert character List.mem_cons_self))
      fun other member => inert other (.tail _ member)

/-- Inert characters in front do not change the backslashes at the end. -/
theorem backslashes_behind {front : Text} (inert : ∀ other ∈ front, isInert other = true)
    (behind : Text) : backslashes (front ++ behind) = backslashes behind := by
  induction front with
  | nil => rfl
  | cons character front ih =>
    have special := isInert_iff.mp (inert character List.mem_cons_self)
    rw [List.cons_append, backslashes_cons_of_ne special.1,
      ih fun other member => inert other (.tail _ member)]

/-- What is behind an escape ends in an even number of backslashes exactly if the text with the
escape does. -/
theorem backslashes_drop_escape [CharacterNames] {rest : Text} {read : Points} {length : Nat}
    (found : escape? rest = some (read, length)) :
    backslashes (rest.drop length) % 2 = backslashes ('\\' :: rest) % 2 := by
  by_cases named : ['N', '\x7b'] <+: rest
  · obtain ⟨more, rfl⟩ := named
    obtain ⟨name, behind, rfl, rfl, inert⟩ := escape?_name_shape found
    have dropped : ('N' :: '\x7b' :: (name ++ '\x7d' :: behind)).drop (name.length + 3) =
        behind := by
      simp [List.drop_append]
    change backslashes (('N' :: '\x7b' :: (name ++ '\x7d' :: behind)).drop (name.length + 3)) % 2 =
      backslashes ('\\' :: 'N' :: '\x7b' :: (name ++ '\x7d' :: behind)) % 2
    rw [dropped, backslashes_escape, backslashes_cons_of_ne (by decide), backslashes_behind inert,
      backslashes_cons_of_ne (by decide)]
  · obtain ⟨first, front, behind, rfl, rfl, inert⟩ := escape?_shape named found
    rw [List.drop_succ_cons, List.drop_left, backslashes_escape, backslashes_behind inert]

/-- A doubled brace in front does not change the backslashes at the end. -/
theorem backslashes_doubled {brace : Char} (braces : brace = '\x7b' ∨ brace = '\x7d')
    (rest : Text) : backslashes (brace :: brace :: rest) = backslashes rest := by
  have unescaped := ne_backslash_of_brace braces
  rw [backslashes_cons_of_ne unescaped, backslashes_cons_of_ne unescaped]

/-- A character that is no brace stays in front of what a text resolves to. -/
theorem map_singleBraces_cons {character : Char}
    (noBrace : character ≠ '\x7b' ∧ character ≠ '\x7d') (value : Option Points) :
    (value.map (.char character :: ·)).map singleBraces =
      (value.map singleBraces).map (.char character :: ·) := by
  cases value with
  | none => rfl
  | some points =>
    simp only [Option.map_some]
    rw [singleBraces_cons (char_ne_brace noBrace)]

variable [CharacterNames]

/-- A character that begins no escape. -/
theorem escapedFrom_cons {character : Char} {rest : Text}
    (plain : character = '\\' → rest.head?.all isBrace = true) :
    escapedFrom 0 (character :: rest) = escapedFrom 0 rest := by
  rw [escapedFrom, if_neg]
  simpa using plain

/-- A doubled brace begins no escape. -/
theorem escapedFrom_doubled {brace : Char} (braces : brace = '\x7b' ∨ brace = '\x7d')
    (rest : Text) : escapedFrom 0 (brace :: brace :: rest) = escapedFrom 0 rest := by
  have unescaped := ne_backslash_of_brace braces
  rw [escapedFrom_cons fun same => absurd same unescaped,
    escapedFrom_cons fun same => absurd same unescaped]

/-- What an escape stands for is the first of what the escapes stand for. -/
theorem escapedFrom_escape {rest : Text} (escapes : rest.head?.all isBrace = false)
    {read : Points} {length : Nat} (found : escape? rest = some (read, length)) :
    escapedFrom 0 ('\\' :: rest) = read :: escapedFrom 0 (rest.drop length) := by
  rw [escapedFrom, if_pos (by simp [escapes]), found, ← escapedFrom_eq_drop]

/-- What is behind an escape that stands for no brace decides if it means what it resolves to with
doubled braces made single. -/
theorem meaningFrom_escape_eq (cooked : form.isRaw = false) {rest : Text}
    (escapes : rest.head?.all isBrace = false)
    (free : (escapedFrom 0 ('\\' :: rest)).any holdsBrace = false)
    (behind : ∀ read length, escape? rest = some (read, length) →
      (escapedFrom 0 (rest.drop length)).any holdsBrace = false →
        meaningFrom form 0 (rest.drop length) = (resolve (rest.drop length)).map singleBraces) :
    meaningFrom form 0 ('\\' :: rest) = (resolve ('\\' :: rest)).map singleBraces := by
  rw [meaningFrom_escape cooked fun _ => escapes, resolve_backslash]
  cases found : escape? rest with
  | none => rfl
  | some escape =>
    obtain ⟨read, length⟩ := escape
    rw [escapedFrom_escape escapes found, List.any_cons, Bool.or_eq_false_iff] at free
    have noBrace {brace : Char} (braces : isBrace brace = true) : .char brace ∉ read :=
      fun member => List.any_eq_false.mp free.1 (.char brace) member braces
    rw [Option.bind_some, Option.bind_some, behind read length found free.2]
    cases resolve (rest.drop length) with
    | none => rfl
    | some value =>
      simp only [Option.map_some]
      rw [singleBraces_append_of_not_mem (noBrace rfl) (noBrace rfl)]

/-- A backslash in front of a brace stands for itself. -/
theorem resolve_beforeBrace {brace : Char} (braces : brace = '\x7b' ∨ brace = '\x7d') (rest : Text) :
    resolve ('\\' :: brace :: rest) = (resolve (brace :: rest)).map (.char '\\' :: ·) := by
  have unescaped := ne_backslash_of_brace braces
  have kept : escape? (brace :: rest) = some ([.char '\\', .char brace], 1) := by
    rcases braces with rfl | rfl <;> simp [escape?, isDigit, digit?]
  rw [resolve_backslash, kept, resolve_cons unescaped, Option.map_map]
  rfl

/-- A doubled brace resolves to one that is made single. -/
theorem resolve_doubled {brace : Char} (braces : brace = '\x7b' ∨ brace = '\x7d') (rest : Text) :
    (resolve (brace :: brace :: rest)).map singleBraces =
      ((resolve rest).map singleBraces).map (.char brace :: ·) := by
  have unescaped := ne_backslash_of_brace braces
  rw [resolve_cons unescaped, resolve_cons unescaped]
  cases resolve rest with
  | none => rfl
  | some text =>
    simp only [Option.map_some]
    rw [singleBraces_double braces]

/-- A static text means what it resolves to with its doubled braces made single, unless an escape
stands for a brace or a backslash at its end protects what follows. -/
theorem meaningFrom_eq_singleBraces (cooked : form.isRaw = false)
    (formatted : form.isFormatted = true) {text : Text} (static : Static form false text)
    (noReturn : '\r' ∉ text) (even : backslashes text % 2 = 0)
    (free : (escapedFrom 0 text).any holdsBrace = false) :
    meaningFrom form 0 text = (resolve text).map singleBraces := by
  -- The cases go along the text as a scan does; an escape may take more of it than two characters.
  induction size : text.length using Nat.strong_induction_on generalizing text with
  | _ length ih =>
    have later : ∀ (front : Text) {behind : Text}, text = front ++ behind → front ≠ [] →
        Static form false behind → backslashes behind % 2 = 0 →
        (escapedFrom 0 behind).any holdsBrace = false →
          meaningFrom form 0 behind = (resolve behind).map singleBraces := by
      intro front behind whole filled static even free
      have shorter : behind.length < length := by
        have positive := List.length_pos_iff.mpr filled
        rw [← size, whole, List.length_append]
        omega
      exact ih _ shorter static
        (fun member => noReturn (whole ▸ List.mem_append_right _ member)) even
        free rfl
    cases static with
    | nil => rfl
    | @plain _ character rest unescaped noBrace _ _ behind =>
      have noBrace := noBrace formatted
      rw [backslashes_cons_of_ne unescaped] at even
      rw [escapedFrom_cons fun same => absurd same unescaped] at free
      have later := later [character] rfl (by simp) behind even free
      rw [meaningFrom_cons (fun _ braces => absurd (isBrace_iff.mp braces) (not_or.mpr noBrace))
        (fun same => absurd same unescaped), resolve_cons unescaped, later,
        map_singleBraces_cons noBrace]
    | dangling => exact absurd even (by decide)
    | escapedBreak => simp at noReturn
    | @escaped _ character rest _ noBrace behind =>
      obtain ⟨noOpening, noClosing, noName⟩ := noBrace formatted
      have unnamed : ¬ ['N', '\x7b'] <+: character :: rest := by
        rintro ⟨others, whole⟩
        obtain ⟨rfl, rfl⟩ := List.cons.inj whole
        exact noName rfl rfl
      refine meaningFrom_escape_eq cooked (by simp [isBrace, noOpening, noClosing]) free
        fun read length found free => ?_
      rw [← backslashes_drop_escape found] at even
      obtain ⟨first, front, others, whole, rfl, inert⟩ := escape?_shape unnamed found
      obtain ⟨rfl, rfl⟩ := List.cons.inj whole
      rw [List.drop_succ_cons, List.drop_left] at free even ⊢
      exact later ('\\' :: character :: front) rfl (by simp) (behind.behind inert) even free
    | @beforeBrace _ brace rest _ braces behind =>
      have stands : Option.all isBrace (brace :: rest).head? = true := isBrace_iff.mpr braces
      have unescaped := ne_backslash_of_brace braces
      rw [backslashes_escape, ← backslashes_cons_of_ne unescaped] at even
      rw [escapedFrom_cons fun _ => stands] at free
      have later := later ['\\'] rfl (by simp) behind even free
      rw [meaningFrom_cons (fun _ braces => absurd braces (by decide))
        fun _ => Or.inr ⟨formatted, stands⟩, later, resolve_beforeBrace braces,
        map_singleBraces_cons (by decide)]
    | @doubledOpening _ rest _ behind =>
      rw [backslashes_doubled (Or.inl rfl)] at even
      rw [escapedFrom_doubled (Or.inl rfl)] at free
      rw [meaningFrom_doubled formatted rfl, resolve_doubled (Or.inl rfl),
        later ['\x7b', '\x7b'] rfl (by simp) behind even free]
    | @doubledClosing rest _ behind =>
      rw [backslashes_doubled (Or.inr rfl)] at even
      rw [escapedFrom_doubled (Or.inr rfl)] at free
      rw [meaningFrom_doubled formatted rfl, resolve_doubled (Or.inr rfl),
        later ['\x7d', '\x7d'] rfl (by simp) behind even free]
    | rawName _ raw => exact absurd (raw.symm.trans cooked) (by decide)
    | @name _ rest _ _ behind =>
      refine meaningFrom_escape_eq cooked rfl free fun read length found free => ?_
      rw [← backslashes_drop_escape found] at even
      obtain ⟨name, others, rfl, rfl, inert⟩ := escape?_name_shape found
      have dropped :
          ('N' :: '\x7b' :: (name ++ '\x7d' :: others)).drop (name.length + 3) = others := by
        simp [List.drop_append]
      have ended : Static form false others := by
        cases behind.behind inert with
        | plain _ noBrace => exact absurd rfl (noBrace formatted).2
        | nameEnd _ ended => exact ended
      rw [dropped] at free even ⊢
      exact later ('\\' :: 'N' :: '\x7b' :: (name ++ ['\x7d'])) (by simp) (by simp) ended even
        free

end Escapes

/-! ## Readings and meanings -/

section Readings

variable {form : Form}

/-- A text that ends safely ends in an even number of backslashes. -/
theorem even_of_safe {quote : Char} (quotes : isQuote quote = true) {text : Text}
    (safe : ending quote text = .safe) : backslashes text % 2 = 0 := by
  by_cases last : text.getLast? = some quote
  · have unescaped : quote ≠ '\\' := (ne_of_isQuote quotes rfl).symm
    rw [← dropLast_append_of_getLast? last, backslashes_append_of_ne _ unescaped]
  · rw [ending, if_neg last] at safe
    split at safe
    · cases safe
    · omega

/-- A text that the quotes it is read between fit ends in an even number of backslashes. -/
theorem Fits.even (quotes : isQuote form.delimiter.quote = true) {text : Text}
    (fits : Fits form text) : backslashes (unifyBreaks text) % 2 = 0 := by
  have bounds := isQuote_readingDelimiter quotes text
  exact even_of_safe bounds ((closes_iff bounds).mp fits.closes).2

/-- Making doubled braces single neither adds nor removes other points. -/
theorem mem_singleBraces_iff {point : Point}
    (noBrace : point ≠ .char '\x7b' ∧ point ≠ .char '\x7d') {points : Points} :
    point ∈ singleBraces points ↔ point ∈ points := by
  refine ⟨mem_of_mem_singleBraces noBrace, fun member => ?_⟩
  obtain ⟨left, right, rfl⟩ := List.append_of_mem member
  simp [singleBraces_append noBrace]

/-- Reading braces neither adds nor removes other points. -/
theorem mem_singled_iff {point : Point}
    (noBrace : point ≠ .char '\x7b' ∧ point ≠ .char '\x7d') {points : Points} :
    point ∈ singled form points ↔ point ∈ points := by
  unfold singled
  split
  · exact mem_singleBraces_iff noBrace
  · exact Iff.rfl

/-- The text of a literal that is not formatted ends safely. -/
theorem safe_of_mem_texts {tree : Tree} (literal : tree.IsLiteral form)
    (plain : form.isFormatted = false) {text : Text} (member : text ∈ texts form tree) :
    ending form.delimiter.quote text = .safe := by
  fun_induction Tree.IsLiteral form tree with
  | case1 lexeme =>
    obtain ⟨_, body, encloses⟩ := literal
    rw [List.mem_singleton.mp member, encloses.body_eq]
    exact encloses.safe
  | case2 opening parts closing =>
    rw [literal.2.1] at plain
    cases plain
  | case3 opening inner closing ih => exact ih literal member
  | case4 => exact literal.elim

variable [CharacterNames]

/-- A raw text means itself, as its form reads braces. -/
theorem meaningFrom_of_isRaw (raw : form.isRaw = true) (text : Text) :
    meaningFrom form 0 text = some (singled form text.points) := by
  unfold singled
  split
  · rename_i formatted
    exact meaningFrom_raw_formatted raw formatted text
  · rename_i plain
    exact meaningFrom_raw raw (Bool.not_eq_true _ ▸ plain) text

/-- A raw text reads as what it means unless a carriage return is among its line breaks. -/
theorem cook_eq_meaning_of_isRaw (raw : form.isRaw = true) (text : Text) :
    cook form text = meaning form text ↔ '\r' ∉ text := by
  have noBrace : Point.char '\r' ≠ .char '\x7b' ∧ Point.char '\r' ≠ .char '\x7d' := by decide
  rw [cook_eq_map, if_pos raw, Option.map_some, meaning, meaningFrom_of_isRaw raw]
  refine ⟨fun same => ?_, fun free => by rw [unifyBreaks_of_not_mem _ free]⟩
  rw [← char_mem_points, ← @mem_singled_iff form _ noBrace, Option.some.inj same,
    mem_singled_iff noBrace, char_mem_points]
  exact not_mem_unifyBreaks text

/-- A static text that the quotes it is read between fit reads as what it means, unless an escape in
a formatted string stands for a brace. -/
theorem cook_eq_meaning_of_fits (quotes : isQuote form.delimiter.quote = true)
    (cooked : form.isRaw = false) {text : Text} (static : Static form false text)
    (fits : Fits form text) (free : form.isFormatted = true → escapesBrace text = false) :
    cook form text = meaning form text := by
  rw [cook_of_fits quotes cooked fits, meaning]
  cases formatted : form.isFormatted with
  | false =>
    have kept : singled form = id := by
      funext points
      simp [singled, formatted]
    rw [kept, Option.map_id, id, meaningFrom_eq_resolve cooked formatted]
  | true =>
    have single : singled form = singleBraces := by
      funext points
      simp [singled, formatted]
    rw [single, meaningFrom_eq_singleBraces cooked formatted (static.unifyBreaks quotes).1
      (not_mem_unifyBreaks text) (fits.even quotes) (free formatted)]

/-- A text of a template literal of a source reads as what it means: a raw one exactly if it holds no
carriage return, and any other one if the quotes it is read between fit it, unless an escape in a
formatted string stands for a brace. Then it has no resolved form only if one of its escapes has no
meaning. The quotes fit a text if they are those of its literal or do not occur in it, unless a
backslash in front of a replacement field protects them. -/
theorem cook_eq_meaning {source : Text} {tree literal : Tree} (parsed : parse? source = some tree)
    (inside : literal ∈ tree.subtrees) (template : templateForm? literal = some form) {text : Text}
    (member : text ∈ texts form literal) :
    (form.isRaw = true → (cook form text = meaning form text ↔ '\r' ∉ text)) ∧
      (form.isRaw = false → Fits form text →
        (form.isFormatted = true → escapesBrace text = false) →
          cook form text = meaning form text ∧
            (cook form text = none →
              ∃ rest, '\\' :: rest <:+ unifyBreaks text ∧ escape? rest = none)) ∧
      ('\x00' ∉ text → (form.isFormatted = true → backslashes text % 2 = 0) →
        readingDelimiter form.delimiter text = form.delimiter ∨
          (readingDelimiter form.delimiter text).quote ∉ text → Fits form text) := by
  have genuine := Tree.isLiteral_of_parse? parsed inside template
  have static := static_of_mem_texts parsed inside template member
  refine ⟨fun raw => cook_eq_meaning_of_isRaw raw text, fun cooked fits free => ?_,
    fun noNull behind apart => ?_⟩
  · have same := cook_eq_meaning_of_fits genuine.quotes cooked static fits free
    exact ⟨same, fun unread => exists_escape_of_meaningFrom (same ▸ unread)⟩
  · have even : backslashes text % 2 = 0 := by
      cases formatted : form.isFormatted with
      | true => exact behind formatted
      | false => exact even_of_safe genuine.quotes (safe_of_mem_texts genuine formatted member)
    exact fits_of_static genuine.quotes static noNull even apart

end Readings

/-- A text of a formatted string is read between other quotes than its own, with an escape and
doubled braces in it. -/
theorem cook_eq_meaning_touching :
    letI : CharacterNames := .ofTable []
    ∃ tree literal form text,
      parse? "x = f'''\x7by\x7d\\t\x7b\x7ba\x7d\x7d\\''''\n".toList = some tree ∧
        literal ∈ tree.subtrees ∧ templateForm? literal = some form ∧ text ∈ texts form literal ∧
        readingDelimiter form.delimiter text ≠ form.delimiter ∧
        cook form text = meaning form text ∧
        cook form text = some (Text.points "\t\x7ba\x7d'") := by
  let _ : CharacterNames := .ofTable []
  have found : ((parse? "x = f'''\x7by\x7d\\t\x7b\x7ba\x7d\x7d\\''''\n".toList).any
      fun tree => tree.subtrees.any fun literal => (templateForm? literal).any fun form =>
        form == ⟨['f'], ⟨'\'', true⟩⟩ &&
          (texts form literal).contains "\\t\x7b\x7ba\x7d\x7d\\'".toList) = true := by
    decide +kernel
  rw [Option.any_eq_true] at found
  obtain ⟨tree, parsed, found⟩ := found
  obtain ⟨literal, inside, found⟩ := List.any_eq_true.mp found
  rw [Option.any_eq_true] at found
  obtain ⟨form, template, found⟩ := found
  rw [Bool.and_eq_true, beq_iff_eq, List.contains_iff_mem] at found
  obtain ⟨rfl, member⟩ := found
  obtain ⟨_, reads, fits⟩ := cook_eq_meaning parsed inside template member
  have between := fits (by decide +kernel) (fun _ => by decide +kernel) (Or.inr (by decide +kernel))
  exact ⟨tree, literal, _, _, parsed, inside, template, member, by decide +kernel,
    (reads rfl between fun _ => by decide +kernel).1, by decide +kernel⟩

/-- Three quotes of the other kind close a text too early that ends in a quote of its own: it has no
resolved form though it has a meaning. -/
example :
    letI : CharacterNames := .ofTable []
    cook ⟨[], ⟨'"', false⟩⟩ "'''\\\"" = none ∧
      meaning ⟨[], ⟨'"', false⟩⟩ "'''\\\"" = some (Text.points "'''\"") := by
  decide +kernel

end Outdent.Template
