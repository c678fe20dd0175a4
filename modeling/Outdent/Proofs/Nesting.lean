import Outdent.Proofs.Enclosure
import Outdent.Source.Lexemes

/-!
# Nesting of lexemes

What is open around each lexeme of a source. Brackets and strings with replacement fields are
opened and closed by lexemes, so what is open is followed along the lexemes without the text they
were read from (`enter`). `Framed` says that lexemes open and close in order and that each is what it
was read as: a plain literal encloses its body, the literal text of a formatted string reaches as far
as it can and nothing stands in front of it. Main statement: `framed_of_lexemes?`, the lexemes of a
source are framed.
-/
namespace Outdent.Source

open Text Template

/-- What is open around a lexeme. -/
inductive Nest where
  /-- A bracket, with the bracket that closes it. -/
  | bracket (closing : Char)
  /-- A string with replacement fields. -/
  | literal (delimiter : Delimiter) (raw : Bool)
  deriving DecidableEq

/-- Is a character a bracket that closes another? -/
def isClosing (character : Char) : Bool :=
  character == ')' || character == ']' || character == '\x7d'

/-- What is open behind punctuation. -/
def enterMark (nests : List Nest) : Text → Option (List Nest)
  | [character] =>
    match Scan.closingOf character with
    | some closing => some (.bracket closing :: nests)
    | none =>
      if isClosing character then
        match nests with
        | .bracket closing :: outer => if closing = character then some outer else none
        | _ => none
      else some nests
  | _ => some nests

/-- What is open behind a lexeme, unless it closes what is not open. -/
def enter (nests : List Nest) (lexeme : Lexeme) : Option (List Nest) :=
  match lexeme.kind with
  | .formattedOpening | .templateOpening =>
    (Form.ofOpening? lexeme.text).map fun form => .literal form.delimiter form.isRaw :: nests
  | .literalClosing =>
    match nests with
    | .literal delimiter _ :: outer => if lexeme.text = delimiter.text then some outer else none
    | _ => none
  | .mark => enterMark nests lexeme.text
  | _ => some nests

/-- Is a text a bracket that opens? -/
def isOpeningBracket : Text → Bool
  | [character] => (Scan.closingOf character).isSome
  | _ => false

/-- Is a text a bracket that closes? -/
def isClosingBracket : Text → Bool
  | [character] => isClosing character
  | _ => false

/-- Is a text a bracket? -/
def isBracket (text : Text) : Bool := isOpeningBracket text || isClosingBracket text

/-- A lexeme is what it was read as, with what is open around it and the lexemes behind it. -/
def Lexeme.Genuine (nests : List Nest) (rest : List Lexeme) (lexeme : Lexeme) : Prop :=
  match lexeme.kind with
  | .string => ∃ (form : Form) (body : Text),
      form.isFormatted = false ∧ form.Encloses body lexeme.text
  | .formattedOpening => ∃ form : Form, Form.ofOpening? lexeme.text = some form ∧
      form.isFormatted = true ∧ isQuote form.delimiter.quote = true
  | .literalText => ∀ delimiter raw outer, nests = .literal delimiter raw :: outer →
      lexeme.lead = [] ∧ lexeme.shown = [] ∧ lexeme.text ≠ [] ∧
        literalLength ⟨delimiter, raw, false⟩ false (lexeme.text ++ Source.written rest) =
          some lexeme.text.length
  | .literalClosing => lexeme.lead = []
  | .name | .keyword => isBracket lexeme.text = false
  | _ => True

/-- Lexemes open and close in order, inside of what is open, and are what they were read as. -/
inductive Framed : List Nest → List Lexeme → Prop where
  /-- Nothing is open at the end. -/
  | nil : Framed [] []
  /-- One more lexeme in front. -/
  | cons {nests next : List Nest} {lexeme : Lexeme} {rest : List Lexeme}
      (enters : enter nests lexeme = some next) (genuine : lexeme.Genuine nests rest)
      (behind : Framed next rest) : Framed nests (lexeme :: rest)

/-- What a frame of the reader is to the lexemes. -/
def Frame.nest : Frame → Nest
  | .bracket closing => .bracket closing
  | .literal delimiter raw => .literal delimiter raw
  | .field => .bracket '\x7d'
  | .format => .bracket '\x7d'

/-- Is literal text to be read next? -/
def Scan.inText (scan : Scan) : Bool :=
  match scan.frames with
  | .literal _ _ :: _ => true
  | .format :: _ => true
  | _ => false

/-- Quotes of open strings are quotes, and nothing stands in front of literal text. -/
structure Scan.Orderly (scan : Scan) : Prop where
  /-- Quotes of open strings are quotes. -/
  quotes : ∀ delimiter raw, .literal delimiter raw ∈ scan.frames → isQuote delimiter.quote = true
  /-- Nothing stands in front of literal text. -/
  bare : scan.inText = true → scan.lead = [] ∧ scan.shown = []

/-- A step keeps the order: what it finds is framed in front of whatever framed lexemes are read
from the state after it. -/
def Step.Frames (scan : Scan) (taken : Step) : Prop :=
  ∀ found next left, taken = some (found, next, left) → next.Orderly ∧
    ∀ rest, written rest = next.lead ++ left → Framed (next.frames.map Frame.nest) rest →
      Framed (scan.frames.map Frame.nest) (found ++ rest)

namespace Scan

/-- No step keeps the order. -/
theorem none_frames (scan : Scan) : Step.Frames scan none :=
  fun _ _ _ taken => nomatch taken

/-- A state outside of literal text stays orderly when more stands in front of the next lexeme. -/
theorem Orderly.of_frames {scan next : Scan} (orderly : scan.Orderly)
    (outside : scan.inText = false) (same : next.frames = scan.frames) : next.Orderly := by
  refine ⟨same ▸ orderly.quotes, fun inside => ?_⟩
  rw [inText, same, ← inText, outside] at inside
  simp at inside

/-- Characters passed over keep the order outside of literal text. -/
theorem pass_frames {scan : Scan} (orderly : scan.Orderly) (outside : scan.inText = false)
    (length : Nat) (text : Text) : Step.Frames scan (scan.pass length text) := by
  intro found next left taken
  simp only [pass, Option.some.injEq, Prod.mk.injEq] at taken
  obtain ⟨rfl, rfl, rfl⟩ := taken
  exact ⟨orderly.of_frames outside rfl, fun rest _ framed => framed⟩

/-- A lexeme that is found keeps the order if it opens and closes what the frames say and is
genuine. -/
theorem find_frames {scan : Scan} {kind : Kind} {length : Nat} {frames : List Frame} {text : Text}
    (quotes : ∀ delimiter raw, .literal delimiter raw ∈ frames → isQuote delimiter.quote = true)
    (enters : enter (scan.frames.map Frame.nest) (scan.found kind length text) =
      some (frames.map Frame.nest))
    (genuine : ∀ rest, written rest = text.drop length →
      (scan.found kind length text).Genuine (scan.frames.map Frame.nest) rest) :
    Step.Frames scan (scan.find kind length frames text) := by
  intro found next left taken
  simp only [find, Option.some.injEq, Prod.mk.injEq] at taken
  obtain ⟨rfl, rfl, rfl⟩ := taken
  exact ⟨⟨quotes, fun _ => ⟨rfl, rfl⟩⟩, fun rest same framed =>
    .cons enters (genuine rest same) framed⟩

/-- Lexemes that mark the begin or end of a block open and close nothing. -/
theorem framed_bare {α : Type} {nests : List Nest} {rest : List Lexeme} {kind : Kind}
    (block : kind = .blockBegin ∨ kind = .blockEnd) (values : List α)
    (framed : Framed nests rest) : Framed nests ((values.map fun _ => bare kind) ++ rest) := by
  induction values with
  | nil => exact framed
  | cons value values ih =>
    rcases block with rfl | rfl
    · exact .cons rfl trivial ih
    · exact .cons rfl trivial ih

/-- The opening of a line keeps the order. -/
theorem openLine_frames {scan : Scan} (orderly : scan.Orderly) (outside : scan.inText = false)
    (text : Text) : Step.Frames scan (scan.openLine text) := by
  intro found next left taken
  simp only [openLine] at taken
  split at taken
  · split at taken
    · simp only [Option.some.injEq, Prod.mk.injEq] at taken
      obtain ⟨rfl, rfl, rfl⟩ := taken
      exact ⟨orderly.of_frames outside rfl, fun rest _ framed => framed⟩
    · simp at taken
  · split at taken
    · split at taken
      · simp only [Option.some.injEq, Prod.mk.injEq] at taken
        obtain ⟨rfl, rfl, rfl⟩ := taken
        exact ⟨orderly.of_frames outside rfl, fun rest _ framed =>
          .cons rfl trivial framed⟩
      · simp at taken
    · split at taken
      · simp only [Option.some.injEq, Prod.mk.injEq] at taken
        obtain ⟨rfl, rfl, rfl⟩ := taken
        exact ⟨orderly.of_frames outside rfl, fun rest _ framed =>
          framed_bare (Or.inr rfl) _ framed⟩
      · simp at taken

/-- A line break keeps the order. -/
theorem readBreak_frames {scan : Scan} (orderly : scan.Orderly) (outside : scan.inText = false)
    (text : Text) : Step.Frames scan (scan.readBreak text) := by
  simp only [readBreak]
  split
  · rename_i closed
    split
    · exact pass_frames orderly outside _ text
    · intro found next left taken
      simp only [Option.some.injEq, Prod.mk.injEq] at taken
      obtain ⟨rfl, rfl, rfl⟩ := taken
      exact ⟨orderly.of_frames outside rfl, fun rest _ framed => .cons rfl trivial framed⟩
  · intro found next left taken
    simp only [Option.some.injEq, Prod.mk.injEq] at taken
    obtain ⟨rfl, rfl, rfl⟩ := taken
    exact ⟨orderly.of_frames outside rfl, fun rest _ framed => framed⟩

/-- Up to the end of the delimiter behind its prefix, a literal is prefix and delimiter. -/
theorem take_opening {text : Text} {length : Nat} {delimiter : Delimiter}
    (found : delimiter? (text.drop length) = some delimiter) :
    text.take (length + delimiter.text.length) = text.take length ++ delimiter.text := by
  obtain ⟨_, more, same⟩ := prefix_of_delimiter? found
  rw [List.take_add, ← same, List.take_left]

/-- What opens a string with replacement fields is read back from its opening. -/
theorem enter_opening {nests : List Nest} {scan : Scan} {kind : Kind} {text : Text} {length : Nat}
    {delimiter : Delimiter} (opens : kind = .formattedOpening ∨ kind = .templateOpening)
    (plain : AreLetters (text.take length))
    (found : delimiter? (text.drop length) = some delimiter) :
    enter nests (scan.found kind (length + delimiter.text.length) text) =
      some (.literal delimiter ((lower (text.take length)).contains 'r') :: nests) := by
  have quotes := (prefix_of_delimiter? found).1
  have form := ofOpening?_append plain (delimiter?_text delimiter quotes)
  rcases opens with rfl | rfl
  · simp only [enter, Scan.found, take_opening found, form]
    rfl
  · simp only [enter, Scan.found, take_opening found, form]
    rfl

/-- A string literal keeps the order. -/
theorem readLiteral_frames {scan : Scan} (orderly : scan.Orderly) {length : Nat} {text : Text}
    (plain : AreLetters (text.take length)) :
    Step.Frames scan (scan.readLiteral length text) := by
  unfold readLiteral
  cases found : delimiter? (text.drop length) with
  | none => exact none_frames scan
  | some delimiter =>
    have quotes := (prefix_of_delimiter? found).1
    have inside : ∀ (raw : Bool) (other : Delimiter) (otherRaw : Bool),
        Frame.literal other otherRaw ∈ Frame.literal delimiter raw :: scan.frames →
          isQuote other.quote = true := by
      intro raw other otherRaw member
      obtain same | member := List.mem_cons.mp member
      · obtain ⟨rfl, _⟩ := Frame.literal.inj same
        exact quotes
      · exact orderly.quotes other otherRaw member
    simp only [bind, Option.bind]
    split
    · rename_i formatted
      refine find_frames (inside _) (enter_opening (Or.inl rfl) plain found) fun rest _ => ?_
      refine ⟨⟨lower (text.take length), delimiter⟩, ?_, formatted, quotes⟩
      simp only [Scan.found, take_opening found]
      exact ofOpening?_append plain (delimiter?_text delimiter quotes)
    · split
      · exact find_frames (inside _) (enter_opening (Or.inr rfl) plain found)
          fun rest _ => trivial
      · split
        · exact none_frames scan
        · rename_i notFormatted _ _ _ rest closes
          refine find_frames orderly.quotes rfl fun behind _ => ?_
          let form : Form := ⟨lower (text.take length), delimiter⟩
          have notFormatted : form.isFormatted = false := by
            rwa [Bool.not_eq_true] at notFormatted
          have long : (text.take length).length = length := by
            obtain ⟨_, more, same⟩ := prefix_of_delimiter? found
            have := congrArg List.length same
            cases triple : delimiter.triple <;>
              simp [Delimiter.text, triple, List.length_take] at this ⊢ <;> omega
          rw [← List.drop_drop] at closes
          obtain ⟨body, encloses⟩ :=
            encloses_of_closingLength form notFormatted rfl plain found closes
          rw [List.take_append_drop, long] at encloses
          exact ⟨form, body, notFormatted, encloses⟩

/-- No keyword is a bracket. -/
theorem isBracket_keyword {word : Text} (keyword : keywords.contains word = true) :
    isBracket word = false := by
  have none : ∀ word ∈ keywords, isBracket word = false := by decide
  exact none word (List.contains_iff_mem.mp keyword)

/-- The brackets. -/
theorem isBracket_cases {character : Char} (bracket : isBracket [character] = true) :
    character ∈ ['(', '[', '\x7b', ')', ']', '\x7d'] := by
  simp only [isBracket, isOpeningBracket, isClosingBracket, Scan.closingOf, isClosing] at bracket
  split at bracket <;> simp_all [or_assoc]

/-- No identifier is a bracket. -/
theorem isBracket_identifier {word : Text} (identifier : isIdentifier word = true) :
    isBracket word = false := by
  match word with
  | [] => rfl
  | [character] =>
    cases bracket : isBracket [character] with
    | false => rfl
    | true =>
      have cases := isBracket_cases bracket
      simp only [List.mem_cons, List.not_mem_nil, or_false] at cases
      rcases cases with rfl | rfl | rfl | rfl | rfl | rfl <;>
        exact absurd identifier (by decide)
  | _ :: _ :: _ => rfl

/-- A word keeps the order. -/
theorem readWord_frames {scan : Scan} (orderly : scan.Orderly) (text : Text) :
    Step.Frames scan (scan.readWord text) := by
  simp only [readWord]
  split
  · refine readLiteral_frames orderly fun letter member => ?_
    rw [wordLength, ← List.prefix_iff_eq_take.mp (List.takeWhile_prefix _)] at member
    have within := List.all_eq_true.mp List.all_takeWhile _ member
    constructor
    · cases quote : isQuote letter with
      | false => rfl
      | true =>
        rcases eq_of_isQuote quote with rfl | rfl
        · exact absurd within (by decide)
        · exact absurd within (by decide)
    · cases breaks : isBreak letter with
      | false => rfl
      | true =>
        obtain rfl | rfl : letter = '\n' ∨ letter = '\r' := by simpa [isBreak] using breaks
        · exact absurd within (by decide)
        · exact absurd within (by decide)
  · split
    · rename_i keyword
      exact find_frames orderly.quotes rfl fun _ _ => isBracket_keyword keyword
    · split
      · rename_i identifier
        exact find_frames orderly.quotes rfl fun _ _ => isBracket_identifier identifier
      · exact none_frames scan

/-- Brackets are punctuation of one character. -/
theorem markLength_bracket {first : Char} (bracket : isBracket [first] = true) (rest : Text) :
    markLength (first :: rest) = some 1 := by
  have := isBracket_cases bracket
  simp only [List.mem_cons, List.not_mem_nil, or_false] at this
  rcases this with rfl | rfl | rfl | rfl | rfl | rfl <;> rfl

/-- Punctuation keeps the order. -/
theorem readPlainMark_frames {scan : Scan} (orderly : scan.Orderly) (text : Text) :
    Step.Frames scan (scan.readPlainMark text) := by
  unfold readPlainMark
  split
  · rename_i first rest length found
    split
    · rename_i closing opens
      obtain rfl : 1 = length := by
        have bracket : isBracket [first] = true := by simp [isBracket, isOpeningBracket, opens]
        exact Option.some.inj ((markLength_bracket bracket rest).symm.trans found)
      refine find_frames ?_ (by simp [enter, Scan.found, enterMark, opens, Frame.nest])
        fun _ _ => trivial
      intro delimiter raw member
      exact orderly.quotes delimiter raw (by simpa using member)
    · rename_i plain
      split
      · rename_i closes
        obtain rfl : 1 = length := by
          have bracket : isBracket [first] = true := by
            rw [isBracket, isOpeningBracket, plain]
            exact closes
          exact Option.some.inj ((markLength_bracket bracket rest).symm.trans found)
        split
        · rename_i closing outer frames
          split
          · rename_i same
            obtain rfl : closing = first := by simpa using same
            refine find_frames ?_ ?_ fun _ _ => trivial
            · intro delimiter raw member
              exact orderly.quotes delimiter raw (by rw [frames]; exact .tail _ member)
            · rw [frames]
              have closes : isClosing closing = true := closes
              simp [enter, Scan.found, enterMark, plain, Frame.nest, closes]
          · exact none_frames scan
        · exact none_frames scan
      · rename_i open'
        refine find_frames orderly.quotes ?_ fun _ _ => trivial
        have open' : isClosing first = false := by simpa [isClosing] using open'
        simp only [enter, Scan.found]
        unfold enterMark
        split
        · rename_i character same
          obtain rfl : first = character := by
            cases length with
            | zero => simp at same
            | succ length => exact (List.cons.inj same).1
          rw [plain, open']
          rfl
        · rfl
  · exact none_frames scan

/-- Punctuation keeps the order, also directly inside a replacement field. -/
theorem readMark_frames {scan : Scan} (orderly : scan.Orderly) (text : Text) :
    Step.Frames scan (scan.readMark text) := by
  have outer : ∀ {frame : Frame} {frames : List Frame}, scan.frames = frame :: frames →
      ∀ delimiter raw, .literal delimiter raw ∈ frames → isQuote delimiter.quote = true := by
    intro frame frames open' delimiter raw member
    exact orderly.quotes delimiter raw (by rw [open']; exact .tail _ member)
  unfold readMark
  split
  · rename_i frames rest open'
    refine find_frames ?_ (by rw [open']; rfl) fun _ _ => trivial
    intro delimiter raw member
    exact outer open' delimiter raw (by simpa using member)
  · rename_i frames rest open'
    exact find_frames (outer open') (by rw [open']; rfl) fun _ _ => trivial
  · exact find_frames orderly.quotes rfl fun _ _ => trivial
  · exact find_frames orderly.quotes rfl fun _ _ => trivial
  · exact readPlainMark_frames orderly _

/-- A step outside of literal text keeps the order. -/
theorem readCode_frames {scan : Scan} (orderly : scan.Orderly) (outside : scan.inText = false)
    (text : Text) : Step.Frames scan (scan.readCode text) := by
  cases text with
  | nil => exact none_frames scan
  | cons first rest =>
    simp only [readCode]
    split
    · exact openLine_frames orderly outside _
    · split
      · exact pass_frames orderly outside _ _
      · split
        · exact pass_frames orderly outside _ _
        · split
          · exact readBreak_frames orderly outside _
          · split
            · split
              · exact none_frames scan
              · exact none_frames scan
              · exact pass_frames orderly outside _ _
            · split
              · exact readLiteral_frames orderly (by simp [AreLetters])
              · split
                · cases numberLength (first :: rest) with
                  | none => exact none_frames scan
                  | some length => exact find_frames orderly.quotes rfl fun _ _ => trivial
                · split
                  · exact readWord_frames orderly _
                  · exact readMark_frames orderly _

/-- Where no literal text is left, a replacement field, the end of a format or the closing quotes
begin. -/
theorem cases_of_literalLength_zero {mode : LiteralMode} {text : Text}
    (found : literalLength mode false text = some 0) :
    (∃ rest, text = '\x7b' :: rest) ∨ (∃ rest, text = '\x7d' :: rest ∧ mode.inFormat = true) ∨
      mode.delimiter.text <+: text := by
  generalize outside : false = named at found
  fun_induction literalLength mode named text with
  | case1 => simp at found
  | case2 | case4 => exact Or.inl ⟨_, rfl⟩
  | case5 => simp at outside
  | case6 named rest _ inFormat => exact Or.inr (Or.inl ⟨rest, rfl, inFormat⟩)
  | case8 => simp at found
  | case15 named character rest _ _ _ _ _ _ _ closes =>
    exact Or.inr (Or.inr (List.isPrefixOf_iff_prefix.mp closes))
  | case16 => simp at found
  | case3 | case7 | case9 | case10 | case11 | case12 | case13 | case14 | case17 =>
    obtain ⟨inner, _, more⟩ := Option.map_eq_some_iff.mp found
    omega

/-- Literal text ends inside the text. -/
theorem literalLength_le {mode : LiteralMode} {named : Bool} {text : Text} {length : Nat}
    (found : literalLength mode named text = some length) : length ≤ text.length := by
  fun_induction literalLength mode named text generalizing length with
  | case1 => simp at found
  | case2 | case4 | case6 | case15 =>
    obtain rfl := Option.some.inj found
    exact Nat.zero_le _
  | case8 => simp at found
  | case16 => simp at found
  | case3 named _ rest ih | case5 rest ih | case7 named _ _ rest ih | case9 named rest ih
  | case10 named rest ih | case11 named rest _ ih | case12 named rest _ ih | case13 named rest ih
  | case14 named character rest _ _ _ _ ih | case17 named character rest _ _ _ _ _ _ _ _ _ ih =>
    obtain ⟨inner, inside, rfl⟩ := Option.map_eq_some_iff.mp found
    have short := ih inside
    simp only [List.length_cons] at short ⊢
    omega

/-- Literal text is read as the innermost frame says. -/
def Reads (scan : Scan) (mode : LiteralMode) : Prop :=
  ∃ outer, (scan.frames = .literal mode.delimiter mode.raw :: outer ∧ mode.inFormat = false) ∨
    (scan.frames = .format :: outer ∧ mode.inFormat = true)

/-- A step in the literal text of a string keeps the order. -/
theorem readLiteralText_frames {scan : Scan} (orderly : scan.Orderly) {mode : LiteralMode}
    (reads : scan.Reads mode) (text : Text) :
    Step.Frames scan (scan.readLiteralText mode text) := by
  have inside : scan.inText = true := by
    obtain ⟨outer, ⟨open', _⟩ | ⟨open', _⟩⟩ := reads <;> simp [inText, open']
  obtain ⟨noLead, noShown⟩ := orderly.bare inside
  have tail : ∀ delimiter raw, .literal delimiter raw ∈ scan.frames.tail →
      isQuote delimiter.quote = true :=
    fun delimiter raw member => orderly.quotes delimiter raw (List.mem_of_mem_tail member)
  unfold readLiteralText
  cases found : literalLength mode false text with
  | none => exact none_frames scan
  | some length =>
    simp only [bind, Option.bind]
    split
    · rename_i filled
      refine find_frames orderly.quotes rfl fun rest same => ?_
      intro delimiter raw others open'
      have long : (text.take length).length = length :=
        List.length_take_of_le (literalLength_le found)
      refine ⟨noLead, noShown, ?_, ?_⟩
      · intro empty
        simp only [Scan.found] at empty
        simp [empty] at long
        omega
      · obtain ⟨outer, ⟨literal, noFormat⟩ | ⟨format, _⟩⟩ := reads
        · rw [literal] at open'
          obtain ⟨rfl, rfl⟩ := Nest.literal.inj (List.cons.inj open').1
          obtain ⟨delimiter, raw, inFormat⟩ := mode
          obtain rfl : inFormat = false := noFormat
          simp only [Scan.found, same, List.take_append_drop, found, long]
        · rw [format] at open'
          simp [Frame.nest] at open'
    · rename_i empty
      obtain rfl : length = 0 := by omega
      split
      · refine find_frames ?_ rfl fun _ _ => trivial
        intro delimiter raw member
        exact orderly.quotes delimiter raw (by simpa using member)
      · rename_i rest
        refine find_frames tail ?_ fun _ _ => trivial
        obtain ⟨outer, ⟨literal, noFormat⟩ | ⟨format, _⟩⟩ := reads
        · have quotes := orderly.quotes _ _ (by rw [literal]; exact List.mem_cons_self)
          obtain ⟨more, same⟩ | ⟨more, _, inFormat⟩ | closes := cases_of_literalLength_zero found
          · simp at same
          · simp [noFormat] at inFormat
          · exact absurd closes
              (not_prefix_brace quotes (Or.inr rfl) rest)
        · rw [format]
          rfl
      · rename_i noOpening noClosing
        split
        · exact none_frames scan
        · rename_i noFormat
          obtain ⟨outer, ⟨literal, _⟩ | ⟨_, inFormat⟩⟩ := reads
          · refine find_frames tail ?_ fun _ _ => noLead
            obtain ⟨more, rfl⟩ | ⟨more, rfl, _⟩ | closes := cases_of_literalLength_zero found
            · exact absurd rfl (noOpening more)
            · exact absurd rfl (noClosing more)
            · have closing : text.take mode.delimiter.text.length = mode.delimiter.text :=
                (List.prefix_iff_eq_take.mp closes).symm
              simp [enter, Scan.found, closing, literal, Frame.nest]
          · exact absurd inFormat noFormat

/-- Every step keeps the order. -/
theorem step_frames {scan : Scan} (orderly : scan.Orderly) (text : Text) :
    Step.Frames scan (scan.step text) := by
  unfold step
  split
  · rename_i delimiter raw outer open'
    exact readLiteralText_frames orderly ⟨outer, Or.inl ⟨open', rfl⟩⟩ text
  · rename_i outer open'
    cases enclosing outer with
    | none => exact none_frames scan
    | some found => exact readLiteralText_frames orderly ⟨outer, Or.inr ⟨open', rfl⟩⟩ text
  · rename_i noLiteral noFormat
    refine readCode_frames orderly ?_ text
    unfold inText
    split
    · rename_i delimiter raw outer open'
      exact absurd open' (noLiteral delimiter raw outer)
    · rename_i outer open'
      exact absurd open' (noFormat outer)
    · rfl

/-- The lexemes at the end of a source are framed. -/
theorem framed_of_finish {scan : Scan} {lexemes : List Lexeme}
    (ended : scan.finish = some lexemes) : Framed (scan.frames.map Frame.nest) lexemes := by
  unfold finish at ended
  split at ended
  · simp at ended
  · rename_i closed
    rw [closed]
    have last : ∀ lead shown, Framed [] [⟨.finish, lead, shown, []⟩] :=
      fun lead shown => .cons rfl trivial .nil
    split at ended
    · obtain rfl := Option.some.inj ended
      exact framed_bare (Or.inr rfl) _ (last _ _)
    · obtain rfl := Option.some.inj ended
      exact .cons rfl trivial (framed_bare (Or.inr rfl) _ (last _ _))

end Scan

/-- Lexemes read from an orderly state on are framed by what is open there. -/
theorem framed_of_lexemesFrom {fuel : Nat} {scan : Scan} {text : Text} {lexemes : List Lexeme}
    (orderly : scan.Orderly) (read : lexemesFrom fuel scan text = some lexemes) :
    Framed (scan.frames.map Frame.nest) lexemes := by
  induction fuel generalizing scan text lexemes with
  | zero =>
    cases text with
    | nil => exact Scan.framed_of_finish read
    | cons first rest => simp [lexemesFrom] at read
  | succ fuel ih =>
    cases text with
    | nil => exact Scan.framed_of_finish read
    | cons first rest =>
      rw [lexemesFrom] at read
      split at read
      · simp at read
      · rename_i found next left taken
        obtain ⟨later, inner, rfl⟩ := Option.map_eq_some_iff.mp read
        obtain ⟨orderly, framed⟩ := Scan.step_frames orderly _ found next left taken
        exact framed later (written_of_lexemesFrom inner) (ih orderly inner)

/-- The lexemes of a source are framed. -/
theorem framed_of_lexemes? {text : Text} {lexemes : List Lexeme}
    (read : lexemes? text = some lexemes) : Framed [] lexemes :=
  framed_of_lexemesFrom ⟨by simp, by simp [Scan.inText]⟩ read

end Outdent.Source
