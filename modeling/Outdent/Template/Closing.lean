import Outdent.Text.Quoted
import Outdent.Template.Form

/-!
# Text before closing quotes

Literal text that is followed by its closing quotes must not run into them: its last character may
neither be a quote character that no backslash protects nor a backslash that protects what follows.
Outside of raw literals one more backslash mends either. Main statements: `ending_closed`, mended
text ends safely, and `closed?_eq_none_iff`, only raw text cannot be mended.
-/
namespace Outdent.Template

open Source

/-- How a text ends, seen from the quotes behind it. -/
inductive Ending where
  /-- The quotes close the literal. -/
  | safe
  /-- The last character is a quote character that no backslash protects. -/
  | bareQuote
  /-- The last character is a backslash that protects what follows. -/
  | danglingBackslash
  deriving DecidableEq

/-- The number of backslashes at the end of a text. -/
def backslashes (text : Text) : Nat := (text.reverse.takeWhile (· == '\\')).length

/-- How a text ends before quotes of the given character. -/
def ending (quote : Char) (text : Text) : Ending :=
  if text.getLast? = some quote then
    if backslashes text.dropLast % 2 = 0 then .bareQuote else .safe
  else if backslashes text % 2 = 1 then .danglingBackslash else .safe

/-- A text that quotes of the given form close at its end, which differs from the text in a last
backslash at most. Raw text that does not end safely has none. -/
def closed? (form : Form) (text : Text) : Option Text :=
  match ending form.delimiter.quote text with
  | .safe => some text
  | .bareQuote => if form.isRaw then none else some (text.dropLast ++ ['\\', form.delimiter.quote])
  | .danglingBackslash => if form.isRaw then none else some (text ++ ['\\'])

/-- Why a text cannot be closed. -/
def unclosableMessage (form : Form) (text : Text) : Text :=
  "raw literal text ".toList ++ Text.quoted text ++ " cannot be followed by ".toList ++
    form.delimiter.text

/-- One more backslash at the end is one more backslash at the end. -/
@[simp] theorem backslashes_append (text : Text) :
    backslashes (text ++ ['\\']) = backslashes text + 1 := by
  simp [backslashes]

/-- Another character at the end leaves no backslash there. -/
theorem backslashes_append_of_ne (text : Text) {character : Char} (other : character ≠ '\\') :
    backslashes (text ++ [character]) = 0 := by
  simp [backslashes, other]

/-- A text whose last character is known is that character behind the others. -/
theorem dropLast_append_of_getLast? {text : Text} {last : Char}
    (ends : text.getLast? = some last) : text.dropLast ++ [last] = text := by
  obtain ⟨filled, same⟩ := List.getLast?_eq_some_iff.mp ends
  simp [same]

/-- Mended text ends safely. -/
theorem ending_closed {form : Form} {text mended : Text}
    (quote : form.delimiter.quote ≠ '\\') (found : closed? form text = some mended) :
    ending form.delimiter.quote mended = .safe := by
  unfold closed? at found
  split at found
  · rename_i safe
    obtain rfl := Option.some.inj found
    exact safe
  · rename_i bare
    split at found
    · simp at found
    · obtain rfl := Option.some.inj found
      have even : backslashes text.dropLast % 2 = 0 := by
        unfold ending at bare
        split at bare
        · split at bare
          · assumption
          · simp at bare
        · split at bare <;> simp at bare
      have more : text.dropLast ++ ['\\', form.delimiter.quote] =
          (text.dropLast ++ ['\\']) ++ [form.delimiter.quote] := by simp
      rw [ending, more, if_pos List.getLast?_concat, List.dropLast_concat, backslashes_append,
        if_neg (by omega)]
  · rename_i dangling
    split at found
    · simp at found
    · obtain rfl := Option.some.inj found
      have odd : backslashes text % 2 = 1 := by
        unfold ending at dangling
        split at dangling
        · split at dangling <;> simp at dangling
        · split at dangling
          · assumption
          · simp at dangling
      have last : (text ++ ['\\']).getLast? ≠ some form.delimiter.quote := by
        rw [List.getLast?_concat]
        exact fun same => quote (Option.some.inj same).symm
      rw [ending, if_neg last, backslashes_append, if_neg (by omega)]

/-- Only raw text that does not end safely cannot be mended. -/
theorem closed?_eq_none_iff {form : Form} {text : Text} :
    closed? form text = none ↔
      form.isRaw = true ∧ ending form.delimiter.quote text ≠ .safe := by
  unfold closed?
  cases form.isRaw <;> cases ending form.delimiter.quote text <;> simp

end Outdent.Template
