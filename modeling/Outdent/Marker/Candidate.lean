import Outdent.Source.NodeCheck
import Outdent.Template.Literal

/-!
# Marker candidates

Two pieces of syntax can mark a template: a call, whose callee is the candidate and whose first
argument by position carries the template, and a subscript with a template literal as its only
element, whose value is the candidate. A candidate is judged by a predicate, or else by its name.
Main statements: `classify_grouped`, the parentheses around a call or subscript do not matter, and
`extract?_eq_some_iff`, which template an argument carries.
-/
namespace Outdent.Marker

open Source Template

/-- What a tree is for a search of markers. -/
inductive Candidate where
  /-- A call with a first argument by position. -/
  | call (callee argument : Tree)
  /-- A subscript with a template literal as its only element. -/
  | subscript (tag literal : Tree)
  /-- Anything else. -/
  | other

/-- Is an argument given by position? -/
def isPositional : Tree → Bool
  | .node .keywordArgument _ => false
  | .node .starred _ => false
  | .node .doubleStarred _ => false
  | _ => true

/-- The template literal that is the only one of some elements. -/
def soleTemplate? : List Tree → Option Tree
  | [element] => if isTemplate element then some element else none
  | _ => none

/-- What a tree is for a search of markers. -/
def classify : Tree → Candidate
  | .call callee _ (argument :: _) _ =>
    if isPositional argument then .call callee argument else .other
  | .subscript tag _ elements _ =>
    match soleTemplate? elements with
    | some literal => .subscript tag literal
    | none => .other
  | .grouped _ inner _ => classify inner
  | _ => .other

/-- Words that are names as well as constants. -/
def constantNames : List Text := ["True", "False", "None"]

/-- Is a tree a name with the given spelling, in parentheses or not? -/
def isNamed (name : Text) : Tree → Bool
  | .token lexeme =>
    (lexeme.kind == .name || constantNames.contains lexeme.text) && lexeme.text == name
  | .grouped _ inner _ => isNamed name inner
  | _ => false

/-- Is a tree an attribute with the given last name, in parentheses or not? -/
def isAttribute (name : Text) : Tree → Bool
  | .node .attribute children =>
    match children.getLast? with
    | some (.token lexeme) => lexeme.text == name
    | _ => false
  | .grouped _ inner _ => isAttribute name inner
  | _ => false

/-- Which candidates are markers, how a marked template is edited, and which nodes are refused. -/
structure Config where
  /-- The names of markers. -/
  names : List Text := ["dedent".toList]
  /-- Markers stay around their templates. -/
  keepsMarker : Bool := false
  /-- Which ends of a template lose their line break. -/
  trims : Trims := {}
  /-- The test of a candidate; names do not matter if there is one. -/
  predicate : Option (Tree → Bool) := none
  /-- The check of the nodes that trees are built of. -/
  check : NodeCheck := .words

namespace Config

/-- Is a candidate a marker? -/
def isMarker (config : Config) (candidate : Tree) : Bool :=
  match config.predicate with
  | some test => test candidate
  | none => config.names.any fun name => isNamed name candidate

end Config

/-- The template literal that the argument of a call carries: the argument itself, or the only
element of the subscript that it is. -/
def extract? (argument : Tree) : Option Tree :=
  if isTemplate argument then some argument
  else match classify argument with
    | .subscript _ literal => some literal
    | _ => none

/-- A subscript with another only element, which takes the place of the old one. -/
def replaceElement (new : Tree) : Tree → Tree
  | .subscript tag opening (old :: _) closing =>
    .subscript tag opening [match old.lexemes with
      | first :: _ => new.withLead first
      | [] => new] closing
  | .grouped opening inner closing => .grouped opening (replaceElement new inner) closing
  | tree => tree

/-- An argument with another template literal in the place of the one that it carries. -/
def rebuild (argument new : Tree) : Tree :=
  if isTemplate argument then new else replaceElement new argument

/-- The parentheses around a call or subscript do not matter. -/
@[simp] theorem classify_grouped (opening closing : Lexeme) (inner : Tree) :
    classify (.grouped opening inner closing) = classify inner := by
  rw [classify]

/-- The parentheses around a name do not matter. -/
@[simp] theorem isNamed_grouped (name : Text) (opening closing : Lexeme) (inner : Tree) :
    isNamed name (.grouped opening inner closing) = isNamed name inner := by
  rw [isNamed]

/-- An argument carries a template if it is one, or else if it is a subscript of one. -/
theorem extract?_eq_some_iff {argument literal : Tree} :
    extract? argument = some literal ↔
      isTemplate argument = true ∧ argument = literal ∨
        isTemplate argument = false ∧ ∃ tag, classify argument = .subscript tag literal := by
  unfold extract?
  cases isTemplate argument with
  | true => simp
  | false => cases classify argument <;> simp

end Outdent.Marker
