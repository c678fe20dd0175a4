import Outdent.Source.Tree

/-!
# Checks of nodes

The nodes of a tree are checked when they are built: when a source is read, and again when a part of
a node has become another one. Which nodes are refused is the affair of whoever builds them, so a
check is a parameter. All that is relied on is that it does not look at what stands in front of a
node, which is no part of the node. Calls, subscripts, expressions in parentheses and string
literals are put together by marks and quotes and always pass. `NodeCheck.words` is the check that is
used if no other is given. Main statement: `growsTogether_withLeadFirst`, blanks in front of a node
do not let words in it grow together.
-/
namespace Outdent.Source

/-- A check of the nodes that a tree is built of. -/
structure NodeCheck where
  /-- Is a node of a shape refused with these parts? -/
  refuses : Shape → List Tree → Bool
  /-- What stands in front of a node does not matter. -/
  refuses_withLeadFirst : ∀ shape other children,
    refuses shape (Tree.withLeadFirst other children) = refuses shape children

namespace NodeCheck

variable (check : NodeCheck)

mutual

/-- Is a node in a tree refused? -/
def refusesIn : Tree → Bool
  | .token _ => false
  | .node shape children => check.refuses shape children || refusesAny children
  | .call callee _ arguments _ => refusesIn callee || refusesAny arguments
  | .subscript value _ elements _ => refusesIn value || refusesAny elements
  | .grouped _ inner _ => refusesIn inner
  | .formatted _ parts _ => refusesAny parts

/-- Is a node in one of several trees refused? -/
def refusesAny : List Tree → Bool
  | [] => false
  | tree :: trees => refusesIn tree || refusesAny trees

end

end NodeCheck

/-! ## Words that grow together -/

/-- Is a tree a node of a shape? -/
def hasShape (shape : Shape) : Tree → Bool
  | .node other _ => other == shape
  | _ => false

/-- Does a tree begin, with no blank in front, like something that a keyword in front of it would
grow together with? Words and numbers do, the letters in front of a string literal among them, and
so do parameters. -/
def clings (tree : Tree) : Bool :=
  tree.lexemes.head?.any fun first => first.lead.isEmpty &&
    (first.kind == .number || first.text.head?.any Text.startsIdentifier ||
      hasShape .parameters tree)

/-- Has a keyword grown together with what stands directly behind it? -/
def growsTogether : List Tree → Bool
  | .token first :: second :: rest =>
    (first.kind == .keyword && clings second) || growsTogether (second :: rest)
  | _ :: rest => growsTogether rest
  | [] => false

/-- May the words of a node grow together? They may in choices between blocks, in what is done with
an error, and in a case. -/
def isLenient (shape : Shape) (children : List Tree) : Bool :=
  match shape with
  | .statement => children.any fun child => child.isWord "if" || child.isWord "elif"
  | .part => children.any fun child => child.isWord "except" || hasShape .pattern child
  | _ => false

/-- A lexeme behind other blanks is the same word. -/
@[simp] theorem isWord_withLead (tree : Tree) (other : Lexeme) (text : Text) :
    (tree.withLead other).isWord text = tree.isWord text := by
  cases tree with
  | call | subscript =>
    rw [Tree.withLead]
    split <;> rfl
  | token | node | grouped | formatted => rfl

/-- A node behind other blanks has the same shape. -/
@[simp] theorem hasShape_withLead (shape : Shape) (tree : Tree) (other : Lexeme) :
    hasShape shape (tree.withLead other) = hasShape shape tree := by
  cases tree with
  | call | subscript =>
    rw [Tree.withLead]
    split <;> rfl
  | token | node | grouped | formatted => rfl

/-- Only a keyword that stands first can grow together with what is behind it. -/
theorem growsTogether_cons {tree : Tree}
    (other : ∀ lexeme, tree = .token lexeme → lexeme.kind ≠ .keyword) (trees : List Tree) :
    growsTogether (tree :: trees) = growsTogether trees := by
  cases tree with
  | token lexeme =>
    cases trees with
    | nil => rfl
    | cons next rest => simp [growsTogether, other lexeme rfl]
  | node | call | subscript | grouped | formatted => rw [growsTogether]; simp

/-- A tree behind other blanks is a lexeme only if it was one. -/
theorem withLead_ne_token {tree : Tree} (compound : ∀ lexeme, tree ≠ .token lexeme)
    (other lexeme : Lexeme) : tree.withLead other ≠ .token lexeme := by
  cases tree with
  | token old => exact absurd rfl (compound old)
  | call | subscript =>
    rw [Tree.withLead]
    split <;> simp
  | node | grouped | formatted => simp [Tree.withLead]

/-- What stands in front of several trees does not let words in them grow together. -/
theorem growsTogether_withLeadFirst (other : Lexeme) (trees : List Tree) :
    growsTogether (Tree.withLeadFirst other trees) = growsTogether trees := by
  induction trees with
  | nil => rfl
  | cons tree rest ih =>
    rw [Tree.withLeadFirst]
    by_cases single : ∃ lexeme, tree = .token lexeme
    · obtain ⟨lexeme, rfl⟩ := single
      rw [if_neg (by simp [Tree.lexemes])]
      cases rest with
      | nil => rfl
      | cons next others => rfl
    · have compound : ∀ lexeme, tree ≠ .token lexeme := not_exists.mp single
      have moved := withLead_ne_token compound other
      rw [growsTogether_cons fun lexeme same => absurd same (compound lexeme)]
      split
      · rw [growsTogether_cons fun lexeme same => absurd same (compound lexeme), ih]
      · rw [growsTogether_cons fun lexeme same => absurd same (moved lexeme)]

/-- What stands in front of several trees does not matter for a test that does not look at it. -/
theorem any_withLeadFirst {test : Tree → Bool} {other : Lexeme}
    (blind : ∀ tree, test (tree.withLead other) = test tree) (trees : List Tree) :
    (Tree.withLeadFirst other trees).any test = trees.any test := by
  induction trees with
  | nil => rfl
  | cons tree rest ih =>
    rw [Tree.withLeadFirst]
    split
    · rw [List.any_cons, List.any_cons, ih]
    · rw [List.any_cons, List.any_cons, blind]

/-- What stands in front of a node does not decide whether its words may grow together. -/
theorem isLenient_withLeadFirst (shape : Shape) (other : Lexeme) (trees : List Tree) :
    isLenient shape (Tree.withLeadFirst other trees) = isLenient shape trees := by
  unfold isLenient
  split
  · exact any_withLeadFirst (by simp) trees
  · exact any_withLeadFirst (by simp) trees
  · rfl

/-- The check that refuses keywords that have grown together with what is behind them. -/
def NodeCheck.words : NodeCheck where
  refuses shape children := !isLenient shape children && growsTogether children
  refuses_withLeadFirst shape other children := by
    rw [isLenient_withLeadFirst, growsTogether_withLeadFirst]

end Outdent.Source
