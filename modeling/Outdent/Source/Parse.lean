import Outdent.Source.Grammar
import Outdent.Source.Lexemes

/-!
# Reading source

From text to a syntax tree. A byte order mark in front of a source is no part of it. Main
statements: `written_of_parse?`, the tree of a source is written as the source, and
`parse?_byteMark`, a mark in front changes nothing.
-/
namespace Outdent.Source

/-- A text without the byte order mark that it may begin with. -/
def withoutByteMark : Text → Text
  | '\uFEFF' :: rest => rest
  | text => text

/-- The tree of a source, unless it does not follow the grammar. -/
def parse? (text : Text) : Option Tree :=
  match (lexemes? (withoutByteMark text)).bind (treesOf Grammar.source) with
  | some [tree] => some tree
  | _ => none

/-- The tree of a text that is one expression. -/
def parseExpression? (text : Text) : Option Tree :=
  match (lexemes? text).bind (treesOf Grammar.soleExpression) with
  | some (tree :: _) => some tree
  | _ => none

/-- The tree of a source is written as the source. -/
theorem written_of_parse? {text : Text} {tree : Tree} (parsed : parse? text = some tree) :
    tree.written = withoutByteMark text := by
  unfold parse? at parsed
  split at parsed
  · rename_i found
    obtain rfl := Option.some.inj parsed
    obtain ⟨lexemes, read, built⟩ := Option.bind_eq_some_iff.mp found
    have same := lexemesOf_of_treesOf built
    rw [Tree.lexemesOf, Tree.lexemesOf, List.append_nil] at same
    rw [Tree.written, same, written_of_lexemes? read]
  · simp at parsed

/-- A byte order mark in front changes nothing. -/
theorem parse?_byteMark (text : Text) (unmarked : withoutByteMark text = text) :
    parse? ('\uFEFF' :: text) = parse? text := by
  have dropped : withoutByteMark ('\uFEFF' :: text) = text := rfl
  rw [parse?, parse?, dropped, unmarked]

end Outdent.Source
