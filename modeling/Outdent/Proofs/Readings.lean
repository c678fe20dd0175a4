import Mathlib.Data.List.Forall2
import Mathlib.Data.List.TakeWhile
import Outdent.Proofs.Enclosure
import Outdent.Proofs.LineBreaks
import Outdent.Proofs.Lines
import Outdent.Template.Literal

/-!
# Readings of lines

A text is read between quotes, as a source of one literal whose escapes are resolved and whose
doubled braces are made single. None of this looks over a line feed that is no part of an escape:
escapes end in front of it (`escape?_append`), and no pair of braces has it between them. So a
text that its quotes fit is read line by line. Main statements: `resolve_append_feed`, a line reads
as it does by itself, `value?_literal`, the value of a source of one literal, and `cook_eq_lines`, a
text reads as its lines do.
-/
namespace Outdent

namespace Text

/-! ## Replaced patterns -/

section Replacement

variable {α : Type} {pattern replacement : List α} {separator : α}

/-- A pattern without the separator occurs only in front of it. -/
theorem prefix_append_iff (free : separator ∉ pattern) (left right : List α) :
    pattern <+: left ++ separator :: right ↔ pattern <+: left := by
  refine ⟨fun occurs => ?_, fun occurs => occurs.trans (List.prefix_append _ _)⟩
  by_cases short : pattern.length ≤ left.length
  · exact List.prefix_of_prefix_length_le occurs (List.prefix_append _ _) short
  · have whole : left ++ [separator] <+: left ++ separator :: right := ⟨right, by simp⟩
    have inside : left ++ [separator] <+: pattern :=
      List.prefix_of_prefix_length_le whole occurs (by simp; omega)
    exact absurd (inside.subset (by simp)) free

variable [BEq α]

/-- A character after replacement was there before or comes from the replacement. -/
theorem mem_replaceAllFrom {skip : Nat} {text : List α} {character : α}
    (member : character ∈ replaceAllFrom pattern replacement skip text) :
    character ∈ text ∨ character ∈ replacement := by
  fun_induction replaceAllFrom pattern replacement skip text with
  | case1 => simp at member
  | case2 skip first rest ih => exact (ih member).imp_left (.tail _)
  | case3 first rest occurs ih =>
    obtain member | member := List.mem_append.mp member
    · exact Or.inr member
    · exact (ih member).imp_left (.tail _)
  | case4 first rest _ ih =>
    obtain rfl | member := List.mem_cons.mp member
    · exact Or.inl List.mem_cons_self
    · exact (ih member).imp_left (.tail _)

variable [LawfulBEq α]

/-- What is replaced on one side of a separator does not depend on the other side. -/
theorem replaceAllFrom_append (free : separator ∉ pattern) (filled : pattern ≠ [])
    {left : List α} (right : List α) {skip : Nat} (short : skip ≤ left.length) :
    replaceAllFrom pattern replacement skip (left ++ separator :: right) =
      replaceAllFrom pattern replacement skip left ++
        separator :: replaceAll pattern replacement right := by
  induction left generalizing skip with
  | nil =>
    obtain rfl : skip = 0 := Nat.le_zero.mp short
    obtain ⟨first, others, rfl⟩ := List.exists_cons_of_ne_nil filled
    have other : first ≠ separator := fun same => free (by simp [same])
    simp [replaceAllFrom, replaceAll, other]
  | cons character left ih =>
    cases skip with
    | succ skip =>
      rw [List.cons_append, replaceAllFrom, replaceAllFrom]
      exact ih (Nat.le_of_succ_le_succ short)
    | zero =>
      have same : pattern.isPrefixOf (character :: (left ++ separator :: right)) =
          pattern.isPrefixOf (character :: left) := by
        rw [Bool.eq_iff_iff, List.isPrefixOf_iff_prefix, List.isPrefixOf_iff_prefix]
        exact prefix_append_iff free (character :: left) right
      rw [List.cons_append, replaceAllFrom, replaceAllFrom, same]
      split
      · rename_i occurs
        have fits := (List.isPrefixOf_iff_prefix.mp occurs).length_le
        rw [List.length_cons] at fits
        rw [ih (by omega), List.append_assoc]
      · rw [ih (Nat.zero_le _), List.cons_append]

/-- What is replaced is replaced in front of a separator and behind it. -/
theorem replaceAll_append (free : separator ∉ pattern) (filled : pattern ≠ [])
    (left right : List α) :
    replaceAll pattern replacement (left ++ separator :: right) =
      replaceAll pattern replacement left ++ separator :: replaceAll pattern replacement right :=
  replaceAllFrom_append free filled right (Nat.zero_le _)

/-- A character stays in front if it and the one behind it are not the doubled one. -/
theorem replaceAll_cons_of_ne {double character : α} {rest : List α}
    (apart : character = double → rest.head? ≠ some double) :
    replaceAll [double, double] [double] (character :: rest) =
      character :: replaceAll [double, double] [double] rest := by
  have absent : ¬ ([double, double].isPrefixOf (character :: rest) = true) := by
    intro occurs
    obtain ⟨behind, whole⟩ := List.isPrefixOf_iff_prefix.mp occurs
    obtain ⟨rfl, rfl⟩ := List.cons.inj whole
    exact apart rfl rfl
  rw [replaceAll, replaceAllFrom, if_neg absent]
  rfl

/-- Where a doubled character is replaced by a single one, a text begins as before. -/
theorem head?_replaceAll (double : α) (text : List α) :
    (replaceAll [double, double] [double] text).head? = text.head? := by
  cases text with
  | nil => rfl
  | cons character rest =>
    rw [replaceAll, replaceAllFrom]
    split
    · rename_i occurs
      have begins := List.isPrefixOf_iff_prefix.mp occurs
      rw [List.cons_prefix_cons] at begins
      simp [begins.1]
    · rfl

/-- Where a doubled character is replaced by a single one, a text ends as before. -/
theorem getLast?_replaceAllFrom (double : α) (skip : Nat) (text : List α) :
    (replaceAllFrom [double, double] [double] skip text).getLast? = (text.drop skip).getLast? := by
  fun_induction replaceAllFrom [double, double] [double] skip text with
  | case1 => simp
  | case2 skip character rest ih => exact ih
  | case3 character rest occurs ih =>
    obtain ⟨later, same⟩ := List.isPrefixOf_iff_prefix.mp occurs
    obtain ⟨rfl, rfl⟩ := List.cons.inj same
    rw [List.getLast?_append, ih]
    cases later.getLast? <;> simp_all [List.getLast?_cons]
  | case4 character rest _ ih =>
    rw [List.getLast?_cons, ih]
    simp [List.getLast?_cons]

end Replacement

end Text

namespace Template

open Text

/-! ## Braces -/

section Braces

/-- A point that is no brace separates what is in front of it from what is behind it. -/
theorem singleBraces_append {point : Point}
    (noBrace : point ≠ .char '\x7b' ∧ point ≠ .char '\x7d') (left right : Points) :
    singleBraces (left ++ point :: right) =
      singleBraces left ++ point :: singleBraces right := by
  unfold singleBraces
  rw [replaceAll_append (by simp [noBrace.1]) (by simp),
    replaceAll_append (by simp [noBrace.2]) (by simp)]

/-- A point that is no brace stays in front. -/
theorem singleBraces_cons {point : Point}
    (noBrace : point ≠ .char '\x7b' ∧ point ≠ .char '\x7d') (rest : Points) :
    singleBraces (point :: rest) = point :: singleBraces rest :=
  singleBraces_append noBrace [] rest

/-- Points that are no braces stay in front. -/
theorem singleBraces_append_of_not_mem {front : Points} (opening : .char '\x7b' ∉ front)
    (closing : .char '\x7d' ∉ front) (rest : Points) :
    singleBraces (front ++ rest) = front ++ singleBraces rest := by
  induction front with
  | nil => rfl
  | cons point front ih =>
    rw [List.mem_cons, not_or] at opening closing
    rw [List.cons_append, singleBraces_cons ⟨Ne.symm opening.1, Ne.symm closing.1⟩,
      ih opening.2 closing.2, List.cons_append]

/-- A doubled brace in front is made single. -/
theorem singleBraces_double {brace : Char} (isBrace : brace = '\x7b' ∨ brace = '\x7d')
    (rest : Points) :
    singleBraces (.char brace :: .char brace :: rest) = .char brace :: singleBraces rest := by
  rcases isBrace with rfl | rfl <;> simp [singleBraces, replaceAll, replaceAllFrom]

/-- A brace that is not doubled stays in front. -/
theorem singleBraces_single {brace : Char} (isBrace : brace = '\x7b' ∨ brace = '\x7d')
    {rest : Points} (apart : rest.head? ≠ some (.char brace)) :
    singleBraces (.char brace :: rest) = .char brace :: singleBraces rest := by
  unfold singleBraces
  rcases isBrace with rfl | rfl
  · rw [replaceAll_cons_of_ne fun _ => apart,
      replaceAll_cons_of_ne fun same => absurd same (by decide)]
  · rw [replaceAll_cons_of_ne fun same => absurd same (by decide),
      replaceAll_cons_of_ne fun _ => ?_]
    rwa [head?_replaceAll]

/-- Points begin as they do without their doubled braces. -/
theorem head?_singleBraces (points : Points) : (singleBraces points).head? = points.head? := by
  rw [singleBraces, head?_replaceAll, head?_replaceAll]

/-- Points end as they do without their doubled braces. -/
theorem getLast?_singleBraces (points : Points) :
    (singleBraces points).getLast? = points.getLast? := by
  rw [singleBraces, replaceAll, getLast?_replaceAllFrom, List.drop_zero, replaceAll,
    getLast?_replaceAllFrom, List.drop_zero]

/-- Every point that is no brace was there before. -/
theorem mem_of_mem_singleBraces {points : Points} {point : Point}
    (noBrace : point ≠ .char '\x7b' ∧ point ≠ .char '\x7d')
    (member : point ∈ singleBraces points) : point ∈ points := by
  obtain member | brace := mem_replaceAllFrom member
  · obtain member | brace := mem_replaceAllFrom member
    · exact member
    · exact absurd (List.mem_singleton.mp brace) noBrace.1
  · exact absurd (List.mem_singleton.mp brace) noBrace.2

end Braces

/-! ## Escapes -/

section Escapes

variable {line : Text}

/-- A prefix of characters with a property ends where others begin that have none of them. -/
theorem takeWhile_append_of_stop {test : Char → Bool} {behind : Text}
    (stop : behind.takeWhile test = []) (front : Text) :
    (front ++ behind).takeWhile test = front.takeWhile test := by
  rw [List.takeWhile_append, stop]
  split
  · rename_i whole
    rw [List.append_nil]
    exact ((List.takeWhile_prefix test).eq_of_length whole).symm
  · rfl

/-- No character of a text without a character is that character. -/
theorem bne_of_not_mem {text : Text} {character : Char} (free : character ∉ text) :
    ∀ other ∈ text, (other != character) = true := by
  intro other member
  rw [bne_iff_ne]
  rintro rfl
  exact free member

/-- A character that no escape goes on over: it is no digit, and no brace or letter of a name. -/
structure EndsEscape (stop : Char) : Prop where
  /-- It is no digit of a code. -/
  noCode : isDigit 16 stop = false
  /-- It is no octal digit. -/
  noOctal : isDigit 8 stop = false
  /-- It does not open a name. -/
  noOpening : stop ≠ '\x7b'
  /-- It does not close a name. -/
  noClosing : stop ≠ '\x7d'
  /-- It is in no name. -/
  unnamed : isNameLetter stop = false

/-- No escape goes on over a line feed. -/
theorem endsEscape_feed : EndsEscape '\n' :=
  ⟨by decide, by decide, by decide, by decide, by decide⟩

/-- No escape goes on over a backslash. -/
theorem endsEscape_backslash : EndsEscape '\\' :=
  ⟨by decide, by decide, by decide, by decide, by decide⟩

section Ending

variable {stop : Char} (ends : EndsEscape stop)

include ends

/-- No code of an escape reaches over its end. -/
theorem coded?_append (width : Nat) (line rest : Text) :
    coded? width (line ++ stop :: rest) = coded? width line := by
  by_cases long : width ≤ line.length
  · rw [coded?, List.take_append_of_le_length long, ← coded?]
  · have short : (line.take width).length ≠ width := by
      rw [List.length_take]
      omega
    have reaches : stop ∈ (line ++ stop :: rest).take width := by
      obtain ⟨more, same⟩ : ∃ more, width = line.length + (more + 1) :=
        ⟨width - line.length - 1, by omega⟩
      rw [same, List.take_length_add_append, List.take_succ_cons]
      simp
    have noDigit : ((line ++ stop :: rest).take width).all (isDigit 16) = false :=
      List.all_eq_false.mpr ⟨stop, reaches, Bool.eq_false_iff.mp ends.noCode⟩
    have noNumber : number? 16 ((line ++ stop :: rest).take width) = none := by
      rw [number?, noDigit, Bool.and_false, if_neg Bool.false_ne_true]
    rw [coded?, coded?, if_neg short, noNumber]
    simp

/-- No octal digits of an escape stand behind its end. -/
theorem octal_append (line rest : Text) :
    ((line ++ stop :: rest).take 3).takeWhile (isDigit 8) =
      (line.take 3).takeWhile (isDigit 8) := by
  rw [List.take_append]
  refine takeWhile_append_of_stop ?_ _
  cases 3 - line.length with
  | zero => rfl
  | succ more =>
    rw [List.take_succ_cons]
    exact List.takeWhile_cons_of_neg (Bool.eq_false_iff.mp ends.noOctal)

/-- No character has a name with the end of an escape in it. -/
theorem character?_eq_none [CharacterNames] {name : Text} (member : stop ∈ name) :
    CharacterNames.character? name = none := by
  rw [Option.eq_none_iff_forall_ne_some]
  intro character found
  exact absurd (CharacterNames.isNameLetter_of_mem found stop member)
    (Bool.eq_false_iff.mp ends.unnamed)

/-- No name of an escape reaches over its end. -/
theorem escape?_name_append [CharacterNames] (line rest : Text) :
    escape? ('N' :: '\x7b' :: (line ++ stop :: rest)) = escape? ('N' :: '\x7b' :: line) := by
  rw [escape?, escape?]
  by_cases closes : '\x7d' ∈ line
  · obtain ⟨before, behind, rfl, inner⟩ := List.eq_append_cons_of_mem closes
    have stops : ∀ after : Text,
        (before ++ '\x7d' :: after).takeWhile (· != '\x7d') = before := by
      intro after
      rw [List.takeWhile_append_of_pos (bne_of_not_mem inner)]
      simp
    have long : before.length < (before ++ '\x7d' :: (behind ++ stop :: rest)).length := by simp
    have short : before.length < (before ++ '\x7d' :: behind).length := by simp
    rw [List.append_assoc, List.cons_append]
    simp only [stops, if_pos long, if_pos short]
  · -- The name of the longer text has the end in it, and no character has such a name.
    have all := bne_of_not_mem closes
    have reaches : stop ∈ (line ++ stop :: rest).takeWhile (· != '\x7d') := by
      rw [List.takeWhile_append_of_pos all, List.takeWhile_cons, if_pos (by simp [ends.noClosing])]
      simp
    have whole : line.takeWhile (· != '\x7d') = line := List.takeWhile_eq_self_iff.mpr all
    simp only [character?_eq_none ends reaches, whole, if_neg (Nat.lt_irrefl _)]
    cases CharacterNames.character? line <;> rfl

/-- What an escape stands for is read from what is in front of its end. -/
theorem escape?_append [CharacterNames] (filled : line ≠ []) (rest : Text) :
    escape? (line ++ stop :: rest) = escape? line := by
  fun_cases escape? line with
  | case1 => exact absurd rfl filled
  | case2 | case3 | case4 | case5 | case6 | case7 | case8 | case9 => rfl
  | case10 more => exact coded?_append ends 2 more rest
  | case11 more => exact coded?_append ends 4 more rest
  | case12 more => exact coded?_append ends 8 more rest
  | case13 more => exact escape?_name_append ends more rest
  | case14 more unnamed =>
    rw [List.cons_append, escape?]
    intro later same
    cases more with
    | nil => exact absurd (List.cons.inj same).1 ends.noOpening
    | cons next others => exact unnamed others (by rw [(List.cons.inj same).1])
  | case15 first more _ _ _ _ _ _ _ _ _ _ _ _ other stands =>
    rw [List.cons_append, escape?, if_pos stands]
    all_goals first | assumption | exact fun _ named => absurd named other
  | case16 first more _ _ _ _ _ _ _ _ _ _ _ _ other stands digits none =>
    have same : _ = digits := octal_append ends (first :: more) rest
    rw [List.cons_append, escape?, if_neg stands, ← List.cons_append]
    · simp only [same, none, ↓reduceIte]
    all_goals first | assumption | exact fun _ named => absurd named other
  | case17 first more _ _ _ _ _ _ _ _ _ _ _ _ other stands digits some =>
    have same : _ = digits := octal_append ends (first :: more) rest
    rw [List.cons_append, escape?, if_neg stands, ← List.cons_append]
    · simp only [same, some]
      rfl
    all_goals first | assumption | exact fun _ named => absurd named other

end Ending

variable [CharacterNames]

/-- An escape ends in the text behind its backslash. -/
theorem escape?_length {read : Points} {length : Nat} (found : escape? line = some (read, length)) :
    length ≤ line.length := by
  have coded : ∀ {width : Nat} {rest : Text}, coded? width rest = some (read, length) →
      length ≤ rest.length + 1 := by
    intro width rest found
    unfold coded? at found
    split at found
    · rename_i long
      simp only [Option.bind_eq_bind, Option.bind_eq_some_iff, Option.some.injEq,
        Prod.mk.injEq] at found
      obtain ⟨_, _, _, _, _, rfl⟩ := found
      rw [List.length_take] at long
      omega
    · cases found
  revert found
  fun_cases escape? line with
  | case1 => exact fun found => nomatch found
  | case10 => exact coded
  | case11 => exact coded
  | case12 => exact coded
  | case13 more name =>
    intro found
    simp only [Option.bind_eq_bind, Option.bind_eq_some_iff, Option.ite_none_right_eq_some,
      Option.some.injEq, Prod.mk.injEq] at found
    obtain ⟨_, _, short, _, rfl⟩ := found
    simp only [List.length_cons]
    omega
  | case14 => exact fun found => nomatch found
  | case17 first more _ _ _ _ _ _ _ _ _ _ _ _ _ _ digits =>
    intro found
    obtain ⟨_, _, same⟩ := Option.map_eq_some_iff.mp found
    obtain ⟨_, rfl⟩ := Prod.mk.inj same
    have taken := (List.takeWhile_prefix (isDigit 8) (l := (first :: more).take 3)).length_le
    rw [List.length_take] at taken
    exact Nat.le_trans taken (Nat.min_le_right _ _)
  | _ =>
    intro found
    obtain ⟨_, rfl⟩ := Prod.mk.inj (Option.some.inj found)
    simp

/-- The line feed behind a line is no part of an escape in it. -/
def Unescaped (line : Text) : Prop :=
  resolve (line ++ ['\n']) = (resolve line).map (· ++ [.char '\n'])

instance (line : Text) : Decidable (Unescaped line) :=
  inferInstanceAs (Decidable (resolve (line ++ ['\n']) = (resolve line).map (· ++ [.char '\n'])))

/-- A character in front that is no backslash does not escape a line feed. -/
theorem unescaped_cons {character : Char} (plain : character ≠ '\\') :
    Unescaped (character :: line) ↔ Unescaped line := by
  unfold Unescaped
  rw [List.cons_append, resolve_cons plain, resolve_cons plain, Option.map_map]
  constructor
  · intro same
    have inner : (resolve (line ++ ['\n'])).map (.char character :: ·) =
        ((resolve line).map (· ++ [.char '\n'])).map (.char character :: ·) := by
      rw [same, Option.map_map]
      rfl
    exact Option.map_injective (fun _ _ equal => (List.cons.inj equal).2) inner
  · intro same
    rw [same, Option.map_map]
    rfl

/-- A line that ends behind an escape ends as the escape does. -/
theorem Unescaped.drop {read : Points} {length : Nat} (unescaped : Unescaped ('\\' :: line))
    (filled : line ≠ []) (found : escape? line = some (read, length)) :
    Unescaped (line.drop length) := by
  have fits := escape?_length found
  unfold Unescaped at unescaped ⊢
  rw [List.cons_append, resolve_backslash, resolve_backslash,
    escape?_append endsEscape_feed filled, found, Option.bind_some, Option.bind_some,
    List.drop_append_of_le_length fits, Option.map_map] at unescaped
  have inner : (resolve (line.drop length ++ ['\n'])).map (read ++ ·) =
      ((resolve (line.drop length)).map (· ++ [.char '\n'])).map (read ++ ·) := by
    rw [unescaped, Option.map_map]
    congr 1
    funext later
    exact List.append_assoc _ _ _
  exact Option.map_injective (fun _ _ equal => List.append_cancel_left equal) inner

/-- A line reads as it does by itself, whatever stands behind its line feed. -/
theorem resolve_append_feed {line : Text} (unescaped : Unescaped line) (free : '\n' ∉ line)
    (rest : Text) :
    resolve (line ++ '\n' :: rest) =
      (resolve line).bind fun read => (resolve rest).map (read ++ .char '\n' :: ·) := by
  match line with
  | [] =>
    rw [List.nil_append, resolve_cons (by decide)]
    rfl
  | character :: more =>
    have inner : '\n' ∉ more := fun member => free (.tail _ member)
    by_cases plain : character = '\\'
    · subst plain
      have filled : more ≠ [] := by
        rintro rfl
        exact absurd unescaped (by simp [Unescaped, resolve, resolveFrom, escape?])
      rw [List.cons_append, resolve_backslash, resolve_backslash,
        escape?_append endsEscape_feed filled]
      cases found : escape? more with
      | none => rfl
      | some escape =>
        obtain ⟨read, length⟩ := escape
        have behind := resolve_append_feed (unescaped.drop filled found)
          (fun member => inner (List.mem_of_mem_drop member)) rest
        rw [Option.bind_some, Option.bind_some,
          List.drop_append_of_le_length (escape?_length found), behind]
        cases resolve (more.drop length) <;> cases resolve rest <;> simp
    · have behind := resolve_append_feed ((unescaped_cons plain).mp unescaped) inner rest
      rw [List.cons_append, resolve_cons plain, resolve_cons plain, behind]
      cases resolve more <;> cases resolve rest <;> simp
termination_by line.length
decreasing_by
  all_goals simp only [List.length_cons, List.length_drop]; omega

end Escapes

end Template

namespace Source

open Template Text

/-! ## Single literals -/

/-- A text that begins with a quote begins with no blank of a line. -/
theorem whiteLength_quote {quote : Char} (quotes : isQuote quote = true) (rest : Text) :
    whiteLength (quote :: rest) = 0 := by
  have visible : isWhite quote = false := by
    rcases eq_of_isQuote quotes with rfl | rfl <;> rfl
  simp [whiteLength, visible]

/-- The first line of a source that begins with a quote is not indented. -/
theorem step_fresh {quote : Char} (quotes : isQuote quote = true) (lineBreak rest : Text) :
    Scan.step { lineBreak } (quote :: rest) =
      some ([], { lineBreak, fresh := false }, quote :: rest) := by
  have visible : (!isBreak quote && quote != '#') = true := by
    rcases eq_of_isQuote quotes with rfl | rfl <;> rfl
  rw [Scan.step, Scan.readCode]
  simp only [whiteLength_quote quotes, List.drop_zero, List.isEmpty_nil, Bool.and_self,
    List.head?_cons, Option.any_some, visible, ↓reduceIte]
  rw [Scan.openLine, whiteLength_quote quotes]
  rfl

/-- A text that its quotes close at its end does not begin with them. -/
theorem head?_ne_of_closes {delimiter : Delimiter} (quotes : isQuote delimiter.quote = true)
    {text : Text} (closes : closingLength delimiter (text ++ delimiter.text) =
      some (text.length + delimiter.text.length)) (single : delimiter.triple = false) :
    text.head? ≠ some delimiter.quote := by
  intro first
  obtain ⟨rest, rfl⟩ := List.head?_eq_some_iff.mp first
  have unescaped : delimiter.quote ≠ '\\' := (ne_of_isQuote quotes rfl).symm
  rw [List.cons_append, closingLength_cons unescaped] at closes
  simp [Delimiter.text, single] at closes

/-- A literal that its quotes close at its end is read as one lexeme. -/
theorem step_literal {delimiter : Delimiter} (quotes : isQuote delimiter.quote = true) {text : Text}
    (closes : closingLength delimiter (text ++ delimiter.text) =
      some (text.length + delimiter.text.length)) (lineBreak : Text) :
    Scan.step { lineBreak, fresh := false } (delimiter.text ++ (text ++ delimiter.text)) =
      some ([⟨.string, [], [], delimiter.text ++ (text ++ delimiter.text)⟩],
        { lineBreak, fresh := false }, []) := by
  have opens := delimiter?_append quotes (head?_ne_of_closes quotes closes)
  obtain ⟨rest, starts⟩ : ∃ rest, delimiter.text ++ (text ++ delimiter.text) =
      delimiter.quote :: rest := by
    cases triple : delimiter.triple <;> simp [Delimiter.text, triple]
  have plain : isWhite delimiter.quote = false ∧ (delimiter.quote == '#') = false ∧
      isBreak delimiter.quote = false ∧ (delimiter.quote == '\\') = false := by
    rcases eq_of_isQuote quotes with same | same <;> rw [same] <;> decide
  have read : Scan.step { lineBreak, fresh := false } (delimiter.text ++ (text ++ delimiter.text)) =
      Scan.readLiteral { lineBreak, fresh := false } 0
        (delimiter.text ++ (text ++ delimiter.text)) := by
    rw [starts, Scan.step, Scan.readCode]
    simp [plain, quotes]
  rw [read, Scan.readLiteral, List.drop_zero, opens]
  have long : (delimiter.text ++ (text ++ delimiter.text)).length =
      delimiter.text.length + (text.length + delimiter.text.length) := by simp
  simp only [Option.bind_eq_bind, Option.bind_some, List.take_zero, Nat.zero_add, List.drop_left,
    closes, Scan.find, Scan.found, ← long, List.take_length, List.drop_length]
  rfl

/-- A source of one literal that its quotes close at its end has no other lexeme with a text. -/
theorem lexemes?_literal {delimiter : Delimiter} (quotes : isQuote delimiter.quote = true)
    {text : Text} (closes : closingLength delimiter (text ++ delimiter.text) =
      some (text.length + delimiter.text.length)) :
    lexemes? (delimiter.text ++ (text ++ delimiter.text)) =
      some [⟨.string, [], [], delimiter.text ++ (text ++ delimiter.text)⟩,
        ⟨.lineEnd, [], [], []⟩, Scan.bare .finish] := by
  obtain ⟨rest, starts⟩ : ∃ rest, delimiter.text ++ (text ++ delimiter.text) =
      delimiter.quote :: rest := by
    cases triple : delimiter.triple <;> simp [Delimiter.text, triple]
  have second := step_literal quotes closes
    (usualBreak (delimiter.text ++ (text ++ delimiter.text)))
  rw [starts] at second ⊢
  rw [lexemes?, lexemesFrom, step_fresh quotes]
  simp only [List.nil_append, Option.map_id']
  rw [List.length_cons, Nat.mul_succ, lexemesFrom, second]
  simp only [lexemesFrom, Scan.finish]
  rfl
end Source

namespace Template

open Source Text

/-! ## Texts between quotes -/

/-- The quotes that a text is read between. -/
def readingDelimiter (delimiter : Delimiter) (raw : Text) : Delimiter :=
  if raw.head? = some delimiter.quote ∨ raw.getLast? = some delimiter.quote then
    if delimiter.quote = '"' then ⟨'\'', true⟩ else ⟨'"', true⟩
  else delimiter

/-- The quotes that a text is read between are those of a delimiter. -/
theorem readingQuotes_eq (delimiter : Delimiter) (raw : Text) :
    readingQuotes delimiter raw = (readingDelimiter delimiter raw).text := by
  unfold readingQuotes readingDelimiter
  split
  · split <;> rfl
  · rfl

/-- A text is read between quotes. -/
theorem isQuote_readingDelimiter {delimiter : Delimiter} (quotes : isQuote delimiter.quote = true)
    (raw : Text) : isQuote (readingDelimiter delimiter raw).quote = true := by
  unfold readingDelimiter
  split
  · split <;> rfl
  · exact quotes

/-- The quotes that a text is read between close it at its end and nowhere before, and it holds no
character that no source may hold. -/
structure Fits (form : Form) (text : Text) : Prop where
  /-- The quotes close the text at its end. -/
  closes : closingLength (readingDelimiter form.delimiter text)
      (unifyBreaks text ++ (readingDelimiter form.delimiter text).text) =
    some ((unifyBreaks text).length + (readingDelimiter form.delimiter text).text.length)
  /-- There is no null character. -/
  noNull : '\x00' ∉ text

/-- The value of a source of one literal is what its text resolves to. -/
theorem value?_literal [CharacterNames] {delimiter : Delimiter}
    (quotes : isQuote delimiter.quote = true) {text : Text} (noNull : '\x00' ∉ text)
    (closes : closingLength delimiter (unifyBreaks text ++ delimiter.text) =
      some ((unifyBreaks text).length + delimiter.text.length)) :
    value? (delimiter.text ++ text ++ delimiter.text) = resolve (unifyBreaks text) := by
  have nullFree : (delimiter.text ++ text ++ delimiter.text).contains '\x00' = false := by
    have outside : '\x00' ∉ delimiter.text := not_mem_delimiter quotes rfl
    simp [noNull, outside]
  have free : '\r' ∉ delimiter.text := not_mem_delimiter quotes rfl
  have noFeed : delimiter.text.head? ≠ some '\n' := fun first =>
    not_mem_delimiter quotes rfl (List.mem_of_mem_head? first)
  have unified : unifyBreaks (delimiter.text ++ text ++ delimiter.text) =
      delimiter.text ++ (unifyBreaks text ++ delimiter.text) := by
    rw [List.append_assoc, unifyBreaks_append (.of_not_mem free),
      unifyBreaks_append_of_head?_ne noFeed, unifyBreaks_of_not_mem _ free]
  have opens : Form.ofOpening? ([] ++ (delimiter.text ++ (unifyBreaks text ++ delimiter.text))) =
      some ⟨lower [], delimiter⟩ :=
    ofOpening?_append (by simp [AreLetters])
      (delimiter?_append quotes (head?_ne_of_closes quotes closes))
  have inner : Form.body ⟨[], delimiter⟩
      ([] ++ (delimiter.text ++ (unifyBreaks text ++ delimiter.text))) = unifyBreaks text :=
    body_append rfl _
  rw [List.nil_append] at opens inner
  rw [value?, nullFree, if_neg Bool.false_ne_true, unified, lexemes?_literal quotes closes,
    Option.bind_some]
  have small : lower [] = [] := rfl
  rw [small] at opens
  simp only [valueFrom?, literalValue?, opens, Option.bind_eq_bind, Option.bind_some,
    List.append_nil, Form.isBytes, Form.isRaw, List.contains_nil, Bool.false_eq_true, ↓reduceIte,
    inner, Option.bind_fun_some]

/-! ## Lines of a text -/

/-- Points as a form reads braces: doubled ones stand for single ones in a formatted string. -/
def singled (form : Form) (points : Points) : Points :=
  if form.isFormatted then singleBraces points else points

/-- What a line of a literal reads as; a carriage return in front of a line feed is part of the line
break. -/
def readLine [CharacterNames] (form : Form) (line : Text) : Option Points :=
  (if form.isRaw then some line.points else resolve (withoutReturn line)).map (singled form)

section Lines

variable {form : Form} {lines : List Text} {read : Text → Option Points}

/-- What is read first stands in front of what is read behind it. -/
theorem mapM_cons (read : Text → Option Points) (line : Text) (lines : List Text) :
    (line :: lines).mapM read =
      (read line).bind fun first => (lines.mapM read).map (first :: ·) := by
  rw [List.mapM_cons]
  cases read line with
  | none => rfl
  | some first => cases lines.mapM read <;> rfl

/-- What several lines read as is what each of them reads as. -/
theorem forall₂_of_mapM {others : List Points}
    (found : lines.mapM read = some others) :
    List.Forall₂ (fun line other => read line = some other) lines others := by
  induction lines generalizing others with
  | nil => exact Option.some.inj found ▸ .nil
  | cons line lines ih =>
    rw [mapM_cons] at found
    obtain ⟨first, here, found⟩ := Option.bind_eq_some_iff.mp found
    obtain ⟨later, behind, rfl⟩ := Option.map_eq_some_iff.mp found
    exact .cons here (ih behind)

/-- What a last line reads as stands behind what the others read as. -/
theorem mapM_concat {last : Text} {other : Points} (here : read last = some other)
    (lines : List Text) : (lines ++ [last]).mapM read = (lines.mapM read).map (· ++ [other]) := by
  induction lines with
  | nil =>
    rw [List.nil_append, mapM_cons, here]
    rfl
  | cons line lines ih =>
    rw [List.cons_append, mapM_cons, mapM_cons, ih]
    cases read line <;> cases lines.mapM read <;> rfl

/-- Lines read as at least one line. -/
theorem filled_of_mapM {others : List Points} (filled : lines ≠ [])
    (found : lines.mapM read = some others) : others ≠ [] := by
  rintro rfl
  cases forall₂_of_mapM found
  exact filled rfl

/-- Lines that are read and then edited are read as edited. -/
theorem map_mapM (read : Text → Option Points) (edit : Points → Points) (lines : List Text) :
    (lines.mapM read).map (List.map edit) = lines.mapM fun line => (read line).map edit := by
  induction lines with
  | nil => rfl
  | cons line lines ih =>
    rw [mapM_cons, mapM_cons, ← ih]
    cases read line <;> cases lines.mapM read <;> rfl

/-- Lines that are edited and then read. -/
theorem mapM_map (read : Text → Option Points) (edit : Text → Text) (lines : List Text) :
    (lines.map edit).mapM read = lines.mapM fun line => read (edit line) := by
  induction lines with
  | nil => rfl
  | cons line lines ih => rw [List.map_cons, mapM_cons, mapM_cons, ih]

/-- Lines without line feeds resolve one by one. -/
theorem resolve_join [CharacterNames] (filled : lines ≠ []) (free : ∀ line ∈ lines, '\n' ∉ line)
    (unescaped : ∀ line ∈ lines, Unescaped line) :
    resolve (join ['\n'] lines) = (lines.mapM resolve).map (join [.char '\n']) := by
  induction lines with
  | nil => exact absurd rfl filled
  | cons line lines ih =>
    rw [mapM_cons]
    by_cases single : lines = []
    · rw [single, join]
      cases resolve line <;> rfl
    · have behind := ih single (fun later member => free later (.tail _ member))
        fun later member => unescaped later (.tail _ member)
      rw [join_cons _ single, List.singleton_append,
        resolve_append_feed (unescaped line List.mem_cons_self) (free line List.mem_cons_self),
        behind]
      cases resolve line with
      | none => rfl
      | some first =>
        cases read : lines.mapM resolve with
        | none => rfl
        | some others =>
          simp [join_cons _ (filled_of_mapM single read)]

/-- Doubled braces of a line are made single in it. -/
theorem singled_join (form : Form) (lines : List Points) :
    singled form (join [.char '\n'] lines) = join [.char '\n'] (lines.map (singled form)) := by
  unfold singled
  split
  · induction lines with
    | nil => rfl
    | cons line lines ih =>
      by_cases single : lines = []
      · rw [single]
        rfl
      · have filled : lines.map (fun points => singleBraces points) ≠ [] := by simpa using single
        rw [join_cons _ single, List.singleton_append, singleBraces_append (by decide), ih,
          List.map_cons, join_cons _ filled, List.singleton_append]
  · simp

/-- A line whose carriage returns are paired has none. -/
theorem not_mem_of_paired {line : Text} (paired : Paired line) (free : '\n' ∉ line) :
    '\r' ∉ line := by
  induction paired with
  | nil => simp
  | pair => simp at free
  | cons other behind ih =>
    simp only [List.mem_cons, not_or] at free ⊢
    exact ⟨Ne.symm other, ih free.2⟩

/-- A text with unified line breaks has its lines without carriage returns. -/
theorem unifyBreaks_join (filled : lines ≠ []) (free : ∀ line ∈ lines, '\n' ∉ line)
    (paired : Paired (join ['\n'] lines)) :
    (∀ line ∈ lines, '\r' ∉ withoutReturn line) ∧
      unifyBreaks (join ['\n'] lines) = join ['\n'] (lines.map withoutReturn) := by
  induction lines with
  | nil => exact absurd rfl filled
  | cons line lines ih =>
    have here := free line List.mem_cons_self
    have bare : '\n' ∉ withoutReturn line :=
      fun member => here ((withoutReturn_sublist line).subset member)
    by_cases single : lines = []
    · rw [single, join] at paired ⊢
      have none := not_mem_of_paired paired here
      have kept : withoutReturn line = line :=
        withoutReturn_of_getLast?_ne fun ends => none (List.mem_of_getLast? ends)
      rw [List.map_singleton, join, kept]
      exact ⟨by simpa [kept] using none, unifyBreaks_of_not_mem _ none⟩
    · rw [join_cons _ single, List.singleton_append] at paired
      obtain ⟨front, behind, same⟩ := paired.split_feed
      have none := not_mem_of_paired front bare
      obtain ⟨later, inner⟩ := ih single (fun line member => free line (.tail _ member)) behind
      have more : lines.map withoutReturn ≠ [] := by simpa using single
      refine ⟨?_, ?_⟩
      · intro other member
        obtain rfl | member := List.mem_cons.mp member
        · exact none
        · exact later other member
      · rw [join_cons _ single, List.singleton_append, same, inner, unifyBreaks_of_not_mem _ none,
          List.map_cons, join_cons _ more, List.singleton_append]

/-- What a text reads as, before doubled braces are made single. -/
theorem cook_eq_map [CharacterNames] (form : Form) (text : Text) :
    cook form text =
      (if form.isRaw then some text.points else value? (readingQuotes form.delimiter text ++ text ++
        readingQuotes form.delimiter text)).map (singled form) := by
  unfold cook singled
  cases form.isFormatted <;> simp

/-- A text that the quotes it is read between fit reads as it resolves. -/
theorem cook_of_fits [CharacterNames] (quotes : isQuote form.delimiter.quote = true)
    (cooked : form.isRaw = false) {text : Text} (fits : Fits form text) :
    cook form text = (resolve (unifyBreaks text)).map (singled form) := by
  rw [cook_eq_map, cooked, if_neg Bool.false_ne_true, readingQuotes_eq,
    value?_literal (isQuote_readingDelimiter quotes text) fits.noNull fits.closes]

/-- A text reads as its lines do, one by one, if the quotes that it is read between fit it and none
of its line feeds is escaped. -/
theorem cook_eq_lines [CharacterNames] (quotes : isQuote form.delimiter.quote = true) {text : Text}
    (plain : form.isRaw = false → Fits form text ∧ Paired text ∧
      ∀ line ∈ cutAt '\n' text, Unescaped (withoutReturn line)) :
    cook form text = ((cutAt '\n' text).mapM (readLine form)).map (join [.char '\n']) := by
  have lines : join ['\n'] (cutAt '\n' text) = text := join_cutAt '\n' text
  have free : ∀ line ∈ cutAt '\n' text, '\n' ∉ line := fun line => not_mem_of_mem_cutAt
  have braces : ∀ read : Text → Option Points,
      ((cutAt '\n' text).mapM fun line => (read line).map (singled form)).map
          (join [.char '\n']) =
        (((cutAt '\n' text).mapM read).map (join [.char '\n'])).map (singled form) := by
    intro read
    rw [← map_mapM, Option.map_map, Option.map_map]
    congr 1
    funext others
    exact (singled_join form others).symm
  unfold readLine
  rw [braces]
  cases raw : form.isRaw with
  | true =>
    have kept : ((cutAt '\n' text).mapM fun line => some line.points) =
        some ((cutAt '\n' text).map Text.points) :=
      List.mapM_pure
    have joined : join [.char '\n'] ((cutAt '\n' text).map Text.points) = text.points := by
      rw [← lines, Text.points, map_join, lines]
      rfl
    rw [cook_eq_map, raw]
    simp only [↓reduceIte]
    rw [kept, Option.map_some, Option.map_some, joined, Option.map_some]
  | false =>
    obtain ⟨fits, paired, unescaped⟩ := plain raw
    rw [cook_of_fits quotes raw fits]
    simp only [Bool.false_eq_true, ↓reduceIte]
    congr 1
    rw [← mapM_map]
    rw [← lines] at paired
    obtain ⟨none, unified⟩ := unifyBreaks_join (cutAt_ne_nil _ _) free paired
    rw [lines] at unified
    rw [unified]
    refine resolve_join (by simp [cutAt_ne_nil]) ?_ ?_
    · intro line member
      obtain ⟨whole, among, rfl⟩ := List.mem_map.mp member
      exact fun feeds => free whole among ((withoutReturn_sublist whole).subset feeds)
    · intro line member
      obtain ⟨whole, among, rfl⟩ := List.mem_map.mp member
      exact unescaped whole among

end Lines

end Template

end Outdent
