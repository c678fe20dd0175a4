import Outdent.Source.Lexeme

/-!
# Syntax trees

A tree over the lexemes of a piece of source. Calls, subscripts, expressions in parentheses and
formatted strings have constructors of their own, because the settling of markers looks into them;
everything else is a node with a shape. A tree keeps every lexeme of what it was read from, also
brackets and commas, so the source is what its lexemes are written as. Main statements:
`lexemes_build`, building a tree keeps the lexemes in order, and `lexemes_withLead`, moving a tree
behind other blanks changes its first lexeme only.
-/
namespace Outdent.Source

/-- What a node of a tree is. -/
inductive Shape where
  /-- A call; built as a tree of its own. -/
  | call
  /-- A subscript; built as a tree of its own. -/
  | subscript
  /-- An expression in parentheses; built as a tree of its own. -/
  | grouped
  /-- A formatted string; built as a tree of its own. -/
  | formatted
  /-- A template string. -/
  | templated
  /-- Several string literals in a row. -/
  | concatenation
  /-- A name in a value. -/
  | attribute
  /-- An expression behind one star. -/
  | starred
  /-- An expression behind two stars. -/
  | doubleStarred
  /-- An argument with a name. -/
  | keywordArgument
  /-- Expressions separated by commas. -/
  | tuple
  /-- A display in square brackets. -/
  | list
  /-- A display in braces. -/
  | display
  /-- An element with the clauses that repeat it. -/
  | comprehension
  /-- A clause that repeats an element. -/
  | clause
  /-- An operation on values. -/
  | operation
  /-- The operator of a comparison and what stands after it. -/
  | comparison
  /-- A choice between two expressions. -/
  | conditional
  /-- A function without a name. -/
  | lambda
  /-- Parameters of a function. -/
  | parameters
  /-- An assignment inside an expression. -/
  | namedExpression
  /-- A yield. -/
  | yield
  /-- A range of indices. -/
  | slice
  /-- A replacement field of a formatted or template string. -/
  | field
  /-- A pattern of a case. -/
  | pattern
  /-- A part of a statement that has the form of a clause. -/
  | part
  /-- A statement. -/
  | statement
  /-- The statements of a block. -/
  | block
  /-- A whole source. -/
  | source
  deriving DecidableEq

/-- A syntax tree. -/
inductive Tree where
  /-- A single lexeme. -/
  | token (lexeme : Lexeme)
  /-- A node with its parts in order. -/
  | node (shape : Shape) (children : List Tree)
  /-- A call: what is called, and the arguments with their commas between parentheses. -/
  | call (callee : Tree) (opening : Lexeme) (arguments : List Tree) (closing : Lexeme)
  /-- A subscript: a value, and the elements with their commas between square brackets. -/
  | subscript (value : Tree) (opening : Lexeme) (elements : List Tree) (closing : Lexeme)
  /-- An expression in parentheses of its own. -/
  | grouped (opening : Lexeme) (inner : Tree) (closing : Lexeme)
  /-- A formatted string: literal text and replacement fields between its quotes. -/
  | formatted (opening : Lexeme) (parts : List Tree) (closing : Lexeme)

namespace Tree

mutual

/-- The lexemes of a tree in order. -/
def lexemes : Tree → List Lexeme
  | token lexeme => [lexeme]
  | node _ children => lexemesOf children
  | call callee opening arguments closing =>
    callee.lexemes ++ opening :: lexemesOf arguments ++ [closing]
  | subscript value opening elements closing =>
    value.lexemes ++ opening :: lexemesOf elements ++ [closing]
  | grouped opening inner closing => opening :: inner.lexemes ++ [closing]
  | formatted opening parts closing => opening :: lexemesOf parts ++ [closing]

/-- The lexemes of several trees in order. -/
def lexemesOf : List Tree → List Lexeme
  | [] => []
  | tree :: trees => tree.lexemes ++ lexemesOf trees

end

/-- The source text of a tree. -/
def written (tree : Tree) : Text := Source.written tree.lexemes

/-- The text of a tree shown by itself. -/
def code (tree : Tree) : Text := alone tree.lexemes

/-- Is a tree the given word or punctuation? -/
def isWord (text : Text) : Tree → Bool
  | token lexeme => lexeme.isWord text
  | _ => false

/-- Is a tree a comma? -/
def isComma (tree : Tree) : Bool := tree.isWord [',']

/-- A tree inside its own parentheses. -/
def ungrouped : Tree → Tree
  | grouped _ inner _ => inner.ungrouped
  | tree => tree

/-- The last of some trees, if it is a lexeme, and the trees before it. -/
def closed? : List Tree → Option (List Tree × Lexeme)
  | [] => none
  | [token closing] => some ([], closing)
  | [_] => none
  | tree :: next :: trees => (closed? (next :: trees)).map fun (before, closing) =>
    (tree :: before, closing)

/-- A tree of a shape over its parts. Parts that do not fit a shape with a constructor of its own
stay a node. -/
def build (shape : Shape) (children : List Tree) : Tree :=
  match shape, children with
  | .call, callee :: token opening :: rest =>
    match closed? rest with
    | some (arguments, closing) => call callee opening arguments closing
    | none => node shape children
  | .subscript, value :: token opening :: rest =>
    match closed? rest with
    | some (elements, closing) => subscript value opening elements closing
    | none => node shape children
  | .grouped, [token opening, inner, token closing] => grouped opening inner closing
  | .formatted, token opening :: rest =>
    match closed? rest with
    | some (parts, closing) => formatted opening parts closing
    | none => node shape children
  | _, _ => node shape children

mutual

/-- A tree with what stands in front of another lexeme in front of its first one. -/
def withLead (other : Lexeme) : Tree → Tree
  | token lexeme => token (lexeme.withLeadOf other)
  | node shape children => node shape (withLeadFirst other children)
  | call callee opening arguments closing =>
    if callee.lexemes.isEmpty then call callee (opening.withLeadOf other) arguments closing
    else call (callee.withLead other) opening arguments closing
  | subscript value opening elements closing =>
    if value.lexemes.isEmpty then subscript value (opening.withLeadOf other) elements closing
    else subscript (value.withLead other) opening elements closing
  | grouped opening inner closing => grouped (opening.withLeadOf other) inner closing
  | formatted opening parts closing => formatted (opening.withLeadOf other) parts closing

/-- The same for the first of several trees that has a lexeme. -/
def withLeadFirst (other : Lexeme) : List Tree → List Tree
  | [] => []
  | tree :: trees =>
    if tree.lexemes.isEmpty then tree :: withLeadFirst other trees
    else tree.withLead other :: trees

end

/-- The lexemes of several trees are those of each in order. -/
theorem lexemesOf_eq_flatMap (trees : List Tree) : lexemesOf trees = trees.flatMap lexemes := by
  induction trees with
  | nil => rfl
  | cons tree rest ih => simp [lexemesOf, ih]

/-- The lexemes of trees in two parts. -/
@[simp] theorem lexemesOf_append (left right : List Tree) :
    lexemesOf (left ++ right) = lexemesOf left ++ lexemesOf right := by
  simp [lexemesOf_eq_flatMap]

/-- Trees that end in a lexeme are those before it and that lexeme. -/
theorem eq_of_closed? {trees before : List Tree} {closing : Lexeme}
    (found : closed? trees = some (before, closing)) : trees = before ++ [token closing] := by
  fun_induction closed? trees generalizing before with
  | case1 => simp at found
  | case2 last =>
    obtain ⟨rfl, rfl⟩ := Prod.mk.inj (Option.some.inj found)
    rfl
  | case3 => simp at found
  | case4 tree next rest ih =>
    obtain ⟨⟨inner, last⟩, inside, same⟩ := Option.map_eq_some_iff.mp found
    obtain ⟨rfl, rfl⟩ := Prod.mk.inj same
    rw [ih inside]
    rfl

/-- Building a tree keeps the lexemes in order. -/
@[simp] theorem lexemes_build (shape : Shape) (children : List Tree) :
    (build shape children).lexemes = lexemesOf children := by
  unfold build
  split
  · split
    · rename_i found
      rw [eq_of_closed? found]
      simp [lexemes, lexemesOf]
    · simp [lexemes, lexemesOf]
  · split
    · rename_i found
      rw [eq_of_closed? found]
      simp [lexemes, lexemesOf]
    · simp [lexemes, lexemesOf]
  · simp [lexemes, lexemesOf]
  · split
    · rename_i found
      rw [eq_of_closed? found]
      simp [lexemes, lexemesOf]
    · simp [lexemes, lexemesOf]
  · simp [lexemes]

/-- What is in front of the first of some lexemes is replaced. -/
def leadFirst (other : Lexeme) : List Lexeme → List Lexeme
  | [] => []
  | first :: rest => first.withLeadOf other :: rest

/-- Lexemes behind a first one are not reached. -/
theorem leadFirst_append {other : Lexeme} {left : List Lexeme} (right : List Lexeme)
    (filled : left ≠ []) : leadFirst other (left ++ right) = leadFirst other left ++ right := by
  cases left with
  | nil => exact absurd rfl filled
  | cons first rest => rfl

mutual

/-- A tree moved behind other blanks has the same lexemes up to what is in front of the first. -/
theorem lexemes_withLead (other : Lexeme) (tree : Tree) :
    (tree.withLead other).lexemes = leadFirst other tree.lexemes := by
  cases tree with
  | token lexeme => rfl
  | node shape children =>
    rw [withLead, lexemes, lexemes, lexemesOf_withLeadFirst other children]
  | call callee opening arguments closing =>
    rw [withLead]
    split
    · rename_i empty
      simp [lexemes, List.isEmpty_iff.mp empty, leadFirst]
    · rename_i filled
      have filled : callee.lexemes ≠ [] := fun empty => filled (by simp [empty])
      rw [lexemes, lexemes, lexemes_withLead other callee, List.append_assoc, List.append_assoc,
        leadFirst_append _ filled]
  | subscript value opening elements closing =>
    rw [withLead]
    split
    · rename_i empty
      simp [lexemes, List.isEmpty_iff.mp empty, leadFirst]
    · rename_i filled
      have filled : value.lexemes ≠ [] := fun empty => filled (by simp [empty])
      rw [lexemes, lexemes, lexemes_withLead other value, List.append_assoc, List.append_assoc,
        leadFirst_append _ filled]
  | grouped opening inner closing => rfl
  | formatted opening parts closing => rfl

/-- The same for several trees. -/
theorem lexemesOf_withLeadFirst (other : Lexeme) (trees : List Tree) :
    lexemesOf (withLeadFirst other trees) = leadFirst other (lexemesOf trees) := by
  cases trees with
  | nil => rfl
  | cons tree rest =>
    rw [withLeadFirst]
    split
    · rename_i empty
      rw [lexemesOf, lexemesOf, List.isEmpty_iff.mp empty, List.nil_append, List.nil_append,
        lexemesOf_withLeadFirst other rest]
    · rename_i filled
      have filled : tree.lexemes ≠ [] := fun empty => filled (by simp [empty])
      rw [lexemesOf, lexemesOf, lexemes_withLead other tree, leadFirst_append _ filled]

end

end Tree

end Outdent.Source
