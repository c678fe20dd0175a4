import Outdent.Source.Extent

/-!
# Reading lexemes

A source is read from left to right by one step after another. A step either adds a piece to what
stands in front of the next lexeme (blanks, a comment, a joined line, a line break that ends
nothing) or finds lexemes. The state of the reader holds the open blocks with their indentation,
the open brackets, and the open formatted strings, whose literal text, replacement fields and
formats are frames of the same stack as the brackets. Main statement: `written_of_lexemes?`, the
lexemes of a source written in order are the source.
-/
namespace Outdent.Source

/-- The indentation of a block: its column with tabs reaching to the next multiple of eight, its
column with tabs counted as one, and its text. -/
structure Block where
  /-- Column with tabs reaching to the next multiple of eight. -/
  column : Nat
  /-- Column with tabs counted as one. -/
  narrow : Nat
  /-- The blanks themselves. -/
  indent : Text

/-- What is open around the text to be read. -/
inductive Frame where
  /-- A bracket, with the bracket that closes it. -/
  | bracket (closing : Char)
  /-- Literal text of a formatted or template string. -/
  | literal (delimiter : Delimiter) (raw : Bool)
  /-- The expression of a replacement field. -/
  | field
  /-- The format of a replacement field. -/
  | format

/-- The state between two steps of reading. -/
structure Scan where
  /-- The line break that the source uses first. -/
  lineBreak : Text
  /-- The open blocks, innermost first. -/
  blocks : List Block := []
  /-- The open frames, innermost first. -/
  frames : List Frame := []
  /-- Nothing of the logical line has been found yet. -/
  fresh : Bool := true
  /-- What stands in front of the next lexeme, as written. -/
  lead : Text := []
  /-- The same, as shown in a piece of code by itself. -/
  shown : Text := []

/-- What a step finds, the state after it, and the text left to read. -/
abbrev Step := Option (List Lexeme × Scan × Text)

/-- Blanks inside a line. -/
def isWhite (character : Char) : Bool :=
  character == ' ' || character == '\t' || character == '\x0c'

/-- The number of blanks that a text begins with. -/
def whiteLength (text : Text) : Nat := (text.takeWhile isWhite).length

/-- Length of the line break that a text begins with; zero if there is none. -/
def breakLength : Text → Nat
  | '\r' :: '\n' :: _ => 2
  | '\r' :: _ => 1
  | '\n' :: _ => 1
  | _ => 0

/-- The first line break of a text; a line feed if there is none. -/
def usualBreak : Text → Text
  | '\r' :: '\n' :: _ => ['\r', '\n']
  | '\r' :: _ => ['\r']
  | '\n' :: _ => ['\n']
  | _ :: rest => usualBreak rest
  | [] => ['\n']

/-- The column after blanks, with tabs reaching to multiples of eight and with tabs as one. -/
def columns (blanks : Text) : Nat × Nat :=
  blanks.foldl (fun (column, narrow) blank =>
    if blank == '\t' then ((column / 8 + 1) * 8, narrow + 1)
    else if blank == ' ' then (column + 1, narrow + 1)
    else (0, 0)) (0, 0)

namespace Scan

/-- The indentation of the innermost block. -/
def indent (scan : Scan) : Text :=
  match scan.blocks with
  | block :: _ => block.indent
  | [] => []

/-- Put the next `length` characters in front of the next lexeme, shown as written. -/
def pass (scan : Scan) (length : Nat) (text : Text) : Step :=
  some ([], { scan with
    lead := scan.lead ++ text.take length
    shown := scan.shown ++ text.take length }, text.drop length)

/-- A lexeme of the next `length` characters. -/
def found (scan : Scan) (kind : Kind) (length : Nat) (text : Text) : Lexeme :=
  ⟨kind, scan.lead, scan.shown, text.take length⟩

/-- Find a lexeme of the next `length` characters, and go on with other frames. -/
def find (scan : Scan) (kind : Kind) (length : Nat) (frames : List Frame) (text : Text) : Step :=
  some ([scan.found kind length text],
    { scan with frames, fresh := false, lead := [], shown := [] }, text.drop length)

/-- A lexeme without text that marks the begin or end of a block. -/
def bare (kind : Kind) : Lexeme := ⟨kind, [], [], []⟩

/-- The open blocks that lie deeper than a column. -/
def deeper (blocks : List Block) (column : Nat) : List Block :=
  blocks.takeWhile fun block => column < block.column

/-- Column and narrow column of the innermost of some blocks. -/
def columnsOf : List Block → Nat × Nat
  | block :: _ => (block.column, block.narrow)
  | [] => (0, 0)

/-- Read the indentation of a logical line: it opens a block if it is deeper than the innermost
one, closes those that are deeper than it, and must agree with a block that is open, also where tabs
count as one column. -/
def openLine (scan : Scan) (text : Text) : Step :=
  let length := whiteLength text
  let blanks := text.take length
  let (column, narrow) := columns blanks
  let (top, topNarrow) := columnsOf scan.blocks
  let passed := { scan with
    fresh := false, lead := scan.lead ++ blanks, shown := scan.shown ++ blanks }
  if column = top then
    if narrow = topNarrow then some ([], passed, text.drop length) else none
  else if top < column then
    if topNarrow < narrow then
      some ([bare .blockBegin],
        { passed with blocks := ⟨column, narrow, blanks⟩ :: scan.blocks }, text.drop length)
    else none
  else
    let closed := deeper scan.blocks column
    let left := scan.blocks.drop closed.length
    if columnsOf left = (column, narrow) then
      some (closed.map fun _ => bare .blockEnd, { passed with blocks := left }, text.drop length)
    else none

/-- Read a line break: outside of frames it ends the logical line if there is one; inside, it is
passed together with the block's indentation on the next line. -/
def readBreak (scan : Scan) (text : Text) : Step :=
  let length := breakLength text
  match scan.frames with
  | [] =>
    if scan.fresh then scan.pass length text
    else some ([scan.found .lineEnd length text],
      { scan with fresh := true, lead := [], shown := [] }, text.drop length)
  | _ :: _ =>
    let written := text.take length
    let shown := if written = scan.lineBreak then ['\n'] else written
    let rest := text.drop length
    let indent := if scan.indent.isPrefixOf rest then scan.indent.length else 0
    some ([], { scan with
      lead := scan.lead ++ written ++ rest.take indent
      shown := scan.shown ++ shown }, rest.drop indent)

/-- Read the string literal that begins after a prefix of `length` characters. -/
def readLiteral (scan : Scan) (length : Nat) (text : Text) : Step := do
  let delimiter ← delimiter? (text.drop length)
  let letters := Text.lower (text.take length)
  let opening := length + delimiter.text.length
  let raw := letters.contains 'r'
  if letters.contains 'f' then
    scan.find .formattedOpening opening (.literal delimiter raw :: scan.frames) text
  else if letters.contains 't' then
    scan.find .templateOpening opening (.literal delimiter raw :: scan.frames) text
  else
    let rest ← closingLength delimiter (text.drop opening)
    scan.find .string (opening + rest) scan.frames text

/-- Read a word: the prefix of a string literal, a keyword or a name. -/
def readWord (scan : Scan) (text : Text) : Step :=
  let length := wordLength text
  let word := text.take length
  if literalPrefixes.contains (Text.lower word) && (text.drop length).head?.any isQuote then
    scan.readLiteral length text
  else if keywords.contains word then scan.find .keyword length scan.frames text
  else if isIdentifier word then scan.find .name length scan.frames text
  else none

/-- The bracket that closes an opening one. -/
def closingOf : Char → Option Char
  | '(' => some ')'
  | '[' => some ']'
  | '{' => some '}'
  | _ => none

/-- Read punctuation, and open or close the bracket that it is. -/
def readPlainMark (scan : Scan) (text : Text) : Step :=
  match text, markLength text with
  | first :: _, some length =>
    match closingOf first with
    | some closing => scan.find .mark length (.bracket closing :: scan.frames) text
    | none =>
      if first == ')' || first == ']' || first == '}' then
        match scan.frames with
        | .bracket closing :: outer =>
          if closing == first then scan.find .mark length outer text else none
        | _ => none
      else scan.find .mark length scan.frames text
  | _, _ => none

/-- Read punctuation; directly inside a replacement field some of it ends the expression. -/
def readMark (scan : Scan) (text : Text) : Step :=
  match scan.frames, text with
  | .field :: outer, ':' :: _ => scan.find .mark 1 (.format :: outer) text
  | .field :: outer, '}' :: _ => scan.find .mark 1 outer text
  | .field :: _, '!' :: '=' :: _ => scan.find .mark 2 scan.frames text
  | .field :: _, '!' :: _ => scan.find .mark 1 scan.frames text
  | _, _ => scan.readPlainMark text

/-- One step outside of literal text. -/
def readCode (scan : Scan) (text : Text) : Step :=
  match text with
  | [] => none
  | first :: rest =>
    let white := whiteLength text
    let opens := scan.fresh && scan.frames.isEmpty &&
      (text.drop white).head?.any fun next => !Text.isBreak next && next != '#'
    if opens then scan.openLine text
    else if isWhite first then scan.pass white text
    else if first == '#' then
      scan.pass (text.takeWhile fun character => !Text.isBreak character).length text
    else if Text.isBreak first then scan.readBreak text
    else if first == '\\' then
      match breakLength rest, rest.drop (breakLength rest) with
      | 0, _ => none
      | _, [] => none
      | length, _ => scan.pass (length + 1) text
    else if isQuote first then scan.readLiteral 0 text
    else if first.isDigit || (first == '.' && rest.head?.any Char.isDigit) then do
      let length ← numberLength text
      scan.find .number length scan.frames text
    else if first.isAlpha || first == '_' || 128 ≤ first.toNat then scan.readWord text
    else scan.readMark text

/-- One step in the literal text of a formatted string or in a format. -/
def readLiteralText (scan : Scan) (mode : LiteralMode) (text : Text) : Step := do
  let length ← literalLength mode false text
  if 0 < length then scan.find .literalText length scan.frames text
  else match text with
    | '{' :: _ => scan.find .mark 1 (.field :: scan.frames) text
    | '}' :: _ => scan.find .mark 1 scan.frames.tail text
    | _ =>
      if mode.inFormat then none
      else scan.find .literalClosing mode.delimiter.text.length scan.frames.tail text

/-- The delimiter of the innermost open string, and whether it is raw. -/
def enclosing : List Frame → Option (Delimiter × Bool)
  | .literal delimiter raw :: _ => some (delimiter, raw)
  | _ :: outer => enclosing outer
  | [] => none

/-- One step. -/
def step (scan : Scan) (text : Text) : Step :=
  match scan.frames with
  | .literal delimiter raw :: _ => scan.readLiteralText ⟨delimiter, raw, false⟩ text
  | .format :: outer => do
    let (delimiter, raw) ← enclosing outer
    scan.readLiteralText ⟨delimiter, raw, true⟩ text
  | _ => scan.readCode text

/-- The lexemes at the end of the source: the last line and all blocks end there. -/
def finish (scan : Scan) : Option (List Lexeme) :=
  match scan.frames with
  | _ :: _ => none
  | [] =>
    let ends := scan.blocks.map fun _ => bare .blockEnd
    if scan.fresh then some (ends ++ [⟨.finish, scan.lead, scan.shown, []⟩])
    else some (⟨.lineEnd, scan.lead, scan.shown, []⟩ :: (ends ++ [bare .finish]))

end Scan

/-- A step keeps the source: what it finds, what then stands in front of the next lexeme, and what
is left are together what stood in front and was left before. -/
def Step.Keeps (scan : Scan) (text : Text) (taken : Step) : Prop :=
  ∀ found next left, taken = some (found, next, left) →
    written found ++ next.lead ++ left = scan.lead ++ text

namespace Scan

/-- No step keeps the source. -/
theorem none_keeps (scan : Scan) (text : Text) : Step.Keeps scan text none :=
  fun _ _ _ taken => nomatch taken

/-- Characters passed over are kept in front of the next lexeme. -/
theorem pass_keeps (scan : Scan) (length : Nat) (text : Text) :
    Step.Keeps scan text (scan.pass length text) := by
  intro found next left taken
  simp only [pass, Option.some.injEq, Prod.mk.injEq] at taken
  obtain ⟨rfl, rfl, rfl⟩ := taken
  simp

/-- A lexeme that is found holds the characters it is found in. -/
theorem find_keeps (scan : Scan) (kind : Kind) (length : Nat) (frames : List Frame) (text : Text) :
    Step.Keeps scan text (scan.find kind length frames text) := by
  intro found next left taken
  simp only [find, Option.some.injEq, Prod.mk.injEq] at taken
  obtain ⟨rfl, rfl, rfl⟩ := taken
  simp [Scan.found, written_cons]

/-- Lexemes without text are written as nothing. -/
theorem written_map_bare {α : Type} (kind : Kind) (values : List α) :
    written (values.map fun _ => bare kind) = [] := by
  induction values with
  | nil => rfl
  | cons value rest ih => simpa [bare, written_cons] using ih

/-- The opening of a line keeps its blanks. -/
theorem openLine_keeps (scan : Scan) (text : Text) :
    Step.Keeps scan text (scan.openLine text) := by
  intro found next left taken
  simp only [openLine] at taken
  split at taken
  · split at taken
    · simp only [Option.some.injEq, Prod.mk.injEq] at taken
      obtain ⟨rfl, rfl, rfl⟩ := taken
      simp
    · simp at taken
  · split at taken
    · split at taken
      · simp only [Option.some.injEq, Prod.mk.injEq] at taken
        obtain ⟨rfl, rfl, rfl⟩ := taken
        simp [bare]
      · simp at taken
    · split at taken
      · simp only [Option.some.injEq, Prod.mk.injEq] at taken
        obtain ⟨rfl, rfl, rfl⟩ := taken
        rw [written_map_bare]
        simp
      · simp at taken

/-- A line break is kept as a lexeme or in front of one. -/
theorem readBreak_keeps (scan : Scan) (text : Text) :
    Step.Keeps scan text (scan.readBreak text) := by
  simp only [readBreak]
  split
  · split
    · exact pass_keeps scan _ text
    · intro found next left taken
      simp only [Option.some.injEq, Prod.mk.injEq] at taken
      obtain ⟨rfl, rfl, rfl⟩ := taken
      simp [Scan.found]
  · intro found next left taken
    simp only [Option.some.injEq, Prod.mk.injEq] at taken
    obtain ⟨rfl, rfl, rfl⟩ := taken
    simp only [written_nil, List.nil_append, List.append_assoc, List.take_append_drop]

/-- A string literal is kept. -/
theorem readLiteral_keeps (scan : Scan) (length : Nat) (text : Text) :
    Step.Keeps scan text (scan.readLiteral length text) := by
  unfold readLiteral
  cases delimiter? (text.drop length) with
  | none => exact none_keeps scan text
  | some delimiter =>
    simp only [bind, Option.bind]
    split
    · exact find_keeps scan _ _ _ text
    · split
      · exact find_keeps scan _ _ _ text
      · split
        · exact none_keeps scan text
        · exact find_keeps scan _ _ _ text

/-- A word is kept. -/
theorem readWord_keeps (scan : Scan) (text : Text) :
    Step.Keeps scan text (scan.readWord text) := by
  simp only [readWord]
  split
  · exact readLiteral_keeps scan _ text
  · split
    · exact find_keeps scan _ _ _ text
    · split
      · exact find_keeps scan _ _ _ text
      · exact none_keeps scan text

/-- Punctuation is kept. -/
theorem readPlainMark_keeps (scan : Scan) (text : Text) :
    Step.Keeps scan text (scan.readPlainMark text) := by
  unfold readPlainMark
  split
  · split
    · exact find_keeps scan _ _ _ _
    · split
      · split
        · split
          · exact find_keeps scan _ _ _ _
          · exact none_keeps scan _
        · exact none_keeps scan _
      · exact find_keeps scan _ _ _ _
  · exact none_keeps scan _

/-- Punctuation is kept, also directly inside a replacement field. -/
theorem readMark_keeps (scan : Scan) (text : Text) :
    Step.Keeps scan text (scan.readMark text) := by
  unfold readMark
  split
  · exact find_keeps scan _ _ _ _
  · exact find_keeps scan _ _ _ _
  · exact find_keeps scan _ _ _ _
  · exact find_keeps scan _ _ _ _
  · exact readPlainMark_keeps scan _

/-- A step outside of literal text keeps the source. -/
theorem readCode_keeps (scan : Scan) (text : Text) :
    Step.Keeps scan text (scan.readCode text) := by
  cases text with
  | nil => exact none_keeps scan []
  | cons first rest =>
    simp only [readCode]
    split
    · exact openLine_keeps scan _
    · split
      · exact pass_keeps scan _ _
      · split
        · exact pass_keeps scan _ _
        · split
          · exact readBreak_keeps scan _
          · split
            · split
              · exact none_keeps scan _
              · exact none_keeps scan _
              · exact pass_keeps scan _ _
            · split
              · exact readLiteral_keeps scan _ _
              · split
                · cases numberLength (first :: rest) with
                  | none => exact none_keeps scan _
                  | some length => exact find_keeps scan _ _ _ _
                · split
                  · exact readWord_keeps scan _
                  · exact readMark_keeps scan _

/-- A step in literal text keeps the source. -/
theorem readLiteralText_keeps (scan : Scan) (mode : LiteralMode) (text : Text) :
    Step.Keeps scan text (scan.readLiteralText mode text) := by
  unfold readLiteralText
  cases literalLength mode false text with
  | none => exact none_keeps scan text
  | some length =>
    simp only [bind, Option.bind]
    split
    · exact find_keeps scan _ _ _ _
    · split
      · exact find_keeps scan _ _ _ _
      · exact find_keeps scan _ _ _ _
      · split
        · exact none_keeps scan text
        · exact find_keeps scan _ _ _ _

/-- Every step keeps the source. -/
theorem step_keeps (scan : Scan) (text : Text) : Step.Keeps scan text (scan.step text) := by
  unfold step
  split
  · exact readLiteralText_keeps scan _ text
  · rename_i outer _
    cases enclosing outer with
    | none => exact none_keeps scan text
    | some found => exact readLiteralText_keeps scan _ text
  · exact readCode_keeps scan text

/-- The lexemes at the end hold what stands in front of it. -/
theorem written_of_finish {scan : Scan} {lexemes : List Lexeme}
    (ended : scan.finish = some lexemes) : written lexemes = scan.lead := by
  unfold finish at ended
  split at ended
  · simp at ended
  · split at ended <;> obtain rfl := Option.some.inj ended
    · rw [written_append, written_map_bare]
      simp [written_cons]
    · simp only [written_cons, written_append, written_map_bare]
      simp [bare]

end Scan

/-- The lexemes of a text from a state of reading on, in at most `fuel` steps. -/
def lexemesFrom : Nat → Scan → Text → Option (List Lexeme)
  | _, scan, [] => scan.finish
  | 0, _, _ :: _ => none
  | fuel + 1, scan, first :: rest =>
    match scan.step (first :: rest) with
    | none => none
    | some (found, next, left) => (lexemesFrom fuel next left).map (found ++ ·)

/-- The lexemes of a source, unless it holds something that is none. Every step but the opening of
a line takes a character, and a line is opened once before each of its lexemes at most. -/
def lexemes? (text : Text) : Option (List Lexeme) :=
  lexemesFrom (2 * text.length + 2) { lineBreak := usualBreak text } text

/-- Lexemes read from a state on are written as what stands in front and is left there. -/
theorem written_of_lexemesFrom {fuel : Nat} {scan : Scan} {text : Text} {lexemes : List Lexeme}
    (read : lexemesFrom fuel scan text = some lexemes) : written lexemes = scan.lead ++ text := by
  induction fuel generalizing scan text lexemes with
  | zero =>
    cases text with
    | nil => simpa using Scan.written_of_finish read
    | cons first rest => simp [lexemesFrom] at read
  | succ fuel ih =>
    cases text with
    | nil => simpa using Scan.written_of_finish read
    | cons first rest =>
      rw [lexemesFrom] at read
      split at read
      · simp at read
      · rename_i found next left taken
        obtain ⟨later, inner, rfl⟩ := Option.map_eq_some_iff.mp read
        rw [written_append, ih inner, ← List.append_assoc]
        exact Scan.step_keeps scan _ found next left taken

/-- The lexemes of a source written in order are the source. -/
theorem written_of_lexemes? {text : Text} {lexemes : List Lexeme}
    (read : lexemes? text = some lexemes) : written lexemes = text := by
  simpa using written_of_lexemesFrom read

end Outdent.Source
