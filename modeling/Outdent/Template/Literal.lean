import Outdent.Source.Tree
import Outdent.Template.Closing
import Outdent.Template.Cooked
import Outdent.Template.Indentation

/-!
# Template literals

String literals whose text can be edited: those of characters, plain or formatted, in parentheses
or not. Reading one gives its segments, writing texts into one keeps its prefix, quotes,
parentheses and replacement fields. Main statements: `partTexts_length`, a literal has one segment
more than replacement fields, and `write_isSome`, as many texts as there are segments always fit.
-/
namespace Outdent.Template

open Source

/-- Is a part of a formatted string literal text, and not a replacement field? -/
def text? : Tree → Option Text
  | .token lexeme => some lexeme.text
  | _ => none

/-- The replacement fields among the parts of a formatted string. -/
def fields (parts : List Tree) : List Tree := parts.filter fun part => (text? part).isNone

/-- The literal texts before, between and behind the replacement fields among some parts. -/
def partTexts : List Tree → List Text
  | [] => [[]]
  | part :: parts =>
    match text? part with
    | some text => (partTexts parts).modifyHead (text ++ ·)
    | none => [] :: partTexts parts

/-- Literal text as parts of a formatted string; empty text is no part. -/
def textParts (text : Text) : List Tree :=
  if text.isEmpty then [] else [.token ⟨.literalText, [], [], text⟩]

/-- Texts before, between and behind replacement fields, if there are enough texts. -/
def weave : List Text → List Tree → Option (List Tree)
  | [], _ => none
  | text :: _, [] => some (textParts text)
  | text :: texts, field :: fields =>
    (weave texts fields).map fun parts => textParts text ++ field :: parts

/-- The form of the string literal that a tree is. -/
def form? : Tree → Option Form
  | .token lexeme => if lexeme.kind = .string then Form.ofOpening? lexeme.text else none
  | .formatted opening _ _ => Form.ofOpening? opening.text
  | .grouped _ inner _ => form? inner
  | _ => none

/-- The form of the template literal that a tree is: a string literal that is not of bytes. -/
def templateForm? (tree : Tree) : Option Form := (form? tree).filter fun form => !form.isBytes

/-- Is a tree a template literal? -/
def isTemplate (tree : Tree) : Bool := (templateForm? tree).isSome

/-- The literal texts of a string literal of the given form, in order. -/
def texts (form : Form) : Tree → List Text
  | .token lexeme => [form.body lexeme.text]
  | .formatted _ parts _ => partTexts parts
  | .grouped _ inner _ => texts form inner
  | _ => []

/-- The segments of a string literal of the given form. -/
def segments [CharacterNames] (form : Form) (tree : Tree) : List Segment :=
  (texts form tree).map fun raw => ⟨raw, cook form raw⟩

/-- The segments of a string literal as far as they are written; what they read as is not asked. -/
def writtenSegments (form : Form) (tree : Tree) : List Segment :=
  (texts form tree).map fun raw => { raw }

/-- A string literal of the given form with other texts, if there are enough of them. -/
def write (form : Form) : Tree → List Text → Option Tree
  | .token _, [] => none
  | .token lexeme, text :: _ =>
    some (.token { lexeme with text := form.withBody lexeme.text text })
  | .formatted opening parts closing, texts =>
    (weave texts (fields parts)).map fun parts => .formatted opening parts closing
  | .grouped opening inner closing, texts =>
    (write form inner texts).map fun inner => .grouped opening inner closing
  | _, _ => none

/-- Why texts cannot be written into a literal. -/
inductive WriteFault where
  /-- There is no text. -/
  | noText
  /-- There are fewer texts than segments. -/
  | tooFewTexts
  /-- The last text cannot be closed. -/
  | unclosable (form : Form) (text : Text)
  deriving DecidableEq

/-- Write texts into a literal; the last of them is mended so that the quotes close it. -/
def writeClosed (form : Form) (tree : Tree) (texts : List Text) : Except WriteFault Tree :=
  match texts.getLast? with
  | none => .error .noText
  | some last =>
    match closed? form last with
    | none => .error (.unclosable form last)
    | some mended =>
      match write form tree (texts.dropLast ++ [mended]) with
      | none => .error .tooFewTexts
      | some written => .ok written

/-- A template literal without the indentation that its lines share. -/
def outdentLiteral (trims : Trims) (form : Form) (tree : Tree) : Except WriteFault Tree :=
  writeClosed form tree ((outdent trims (writtenSegments form tree)).map Segment.raw)

/-- The texts of segments are those of the literal. -/
@[simp] theorem map_raw_segments [CharacterNames] (form : Form) (tree : Tree) :
    (segments form tree).map Segment.raw = texts form tree := by
  simp [segments, Function.comp_def]

/-- The texts of written segments are those of the literal. -/
@[simp] theorem map_raw_writtenSegments (form : Form) (tree : Tree) :
    (writtenSegments form tree).map Segment.raw = texts form tree := by
  simp [writtenSegments, Function.comp_def]

/-- There is one text more than replacement fields. -/
theorem partTexts_length (parts : List Tree) :
    (partTexts parts).length = (fields parts).length + 1 := by
  induction parts with
  | nil => rfl
  | cons part rest ih =>
    rw [partTexts, fields, List.filter_cons]
    cases here : text? part with
    | none => simpa [here, fields] using ih
    | some text => simpa [here, fields] using ih

/-- As many texts as one more than the fields are enough. -/
theorem weave_isSome {texts : List Text} {fields : List Tree}
    (enough : fields.length < texts.length) : (weave texts fields).isSome = true := by
  induction fields generalizing texts with
  | nil =>
    cases texts with
    | nil => simp at enough
    | cons text rest => rfl
  | cons field others ih =>
    cases texts with
    | nil => simp at enough
    | cons text rest =>
      have fewer : others.length < rest.length := by simpa using enough
      simp [weave, ih fewer]

/-- A literal has a text. -/
theorem texts_ne_nil {form : Form} {tree : Tree} (isForm : (form? tree).isSome = true) :
    texts form tree ≠ [] := by
  fun_induction texts form tree with
  | case1 => simp
  | case2 opening parts closing =>
    have length := partTexts_length parts
    intro empty
    simp [empty] at length
  | case3 opening inner closing ih => exact ih (by rwa [form?] at isForm)
  | case4 tree notToken notFormatted notGrouped =>
    cases tree <;> simp_all [form?]

/-- As many texts as a literal has always fit. -/
theorem write_isSome {form : Form} {tree : Tree} {others : List Text}
    (isForm : (form? tree).isSome = true)
    (enough : (texts form tree).length ≤ others.length) :
    (write form tree others).isSome = true := by
  fun_induction write form tree others with
  | case1 => simp [texts] at enough
  | case2 => rfl
  | case3 opening parts closing others =>
    have length := partTexts_length parts
    rw [texts, length] at enough
    simp [weave_isSome (Nat.lt_of_succ_le enough)]
  | case4 opening inner closing others ih =>
    rw [form?] at isForm
    rw [texts] at enough
    simp [ih isForm enough]
  | case5 tree others notToken notFilled notFormatted notGrouped =>
    cases tree with
    | token lexeme =>
      cases others with
      | nil => exact absurd rfl (notToken lexeme rfl)
      | cons text rest => exact absurd rfl (notFilled lexeme text rest rfl)
    | formatted opening parts closing => exact absurd rfl (notFormatted opening parts closing)
    | grouped opening inner closing => exact absurd rfl (notGrouped opening inner closing)
    | node => simp [form?] at isForm
    | call => simp [form?] at isForm
    | subscript => simp [form?] at isForm

end Outdent.Template
