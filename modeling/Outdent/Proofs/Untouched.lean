import Outdent.Proofs.Fronts
import Outdent.Run

/-!
# What a run leaves untouched

A source falls into pieces: markers that are rewritten and are in no other such marker, and the text
around them. A run keeps the text, character by character, and puts for every such marker what it is
rewritten to. Main statements: `divides_pieces`, the pieces of a tree are written as the tree, and
with their replacements as the tree after the walk, and `run_pieces`, so it is for a run.
-/
namespace Outdent.Source.Tree

/-- The text of a tree without what stands in front of it. -/
def spelled (tree : Tree) : Text :=
  match tree.lexemes with
  | first :: rest => first.text ++ Source.written rest
  | [] => []

/-- A tree is written as what stands in front of it and its own text. -/
theorem written_eq (tree : Tree) : tree.written = tree.lead?.getD [] ++ tree.spelled := by
  rw [written, lead?, spelled]
  cases tree.lexemes with
  | nil => rfl
  | cons first rest => simp

end Outdent.Source.Tree

namespace Outdent.Marker

open Source Template

/-- A stretch of a source. -/
inductive Piece where
  /-- Text that stays. -/
  | kept (text : Text)
  /-- A marker that is rewritten. -/
  | marker (tree : Tree)

namespace Piece

/-- The text of a piece before a run. -/
def before : Piece → Text
  | kept text => text
  | marker tree => tree.spelled

/-- The text of a piece after a run. -/
def after (config : Config) : Piece → Text
  | kept text => text
  | marker tree => (visit config [] tree).1.spelled

/-- The marker that a piece is. -/
def marker? : Piece → Option Tree
  | kept _ => none
  | marker tree => some tree

end Piece

mutual

/-- The pieces of a tree: it is one piece, behind what stands in front of it, if it is a marker that
is rewritten; otherwise its parts have pieces. -/
def pieces (config : Config) (tree : Tree) : List Piece :=
  if isRewritten config tree then [.kept (tree.lead?.getD []), .marker tree]
  else match tree with
    | .token lexeme => [.kept lexeme.written]
    | .node _ children => piecesOf config children
    | .call callee opening arguments closing =>
      pieces config callee ++ .kept opening.written :: piecesOf config arguments ++
        [.kept closing.written]
    | .subscript value opening elements closing =>
      pieces config value ++ .kept opening.written :: piecesOf config elements ++
        [.kept closing.written]
    | .grouped opening inner closing =>
      .kept opening.written :: pieces config inner ++ [.kept closing.written]
    | .formatted opening parts closing =>
      .kept opening.written :: piecesOf config parts ++ [.kept closing.written]

/-- The pieces of several trees. -/
def piecesOf (config : Config) : List Tree → List Piece
  | [] => []
  | tree :: trees => pieces config tree ++ piecesOf config trees

end

/-- The markers that are rewritten in a tree, that in no other such marker first. -/
def rewrittenIn (config : Config) (tree : Tree) : List Tree :=
  tree.subtrees.filter (isRewritten config)

/-- The markers in a tree that are rewritten and are in no other such marker. -/
def outermost (config : Config) (tree : Tree) : List Tree :=
  (pieces config tree).filterMap Piece.marker?

/-- Pieces are what a text and some trees fall into, and are written as another text after a run. -/
structure Divides (config : Config) (pieces : List Piece) (before after : Text)
    (inside : List Tree) : Prop where
  /-- The pieces make up the text. -/
  before : pieces.flatMap Piece.before = before
  /-- With their replacements they make up the other text. -/
  after : pieces.flatMap (Piece.after config) = after
  /-- The markers are rewritten. -/
  rewritten : ∀ marker ∈ pieces.filterMap Piece.marker?, isRewritten config marker = true
  /-- Every tree that is rewritten is in one of them. -/
  covers : inside.filter (isRewritten config) =
    (pieces.filterMap Piece.marker?).flatMap (rewrittenIn config)

section Dividing

variable {config : Config}

/-- Pieces in two parts. -/
theorem Divides.append {first second : List Piece} {before after others later : Text}
    {inside behind : List Tree} (left : Divides config first before after inside)
    (right : Divides config second others later behind) :
    Divides config (first ++ second) (before ++ others) (after ++ later) (inside ++ behind) where
  before := by rw [List.flatMap_append, left.before, right.before]
  after := by rw [List.flatMap_append, left.after, right.after]
  rewritten := by
    intro marker member
    rw [List.filterMap_append] at member
    obtain member | member := List.mem_append.mp member
    · exact left.rewritten marker member
    · exact right.rewritten marker member
  covers := by
    rw [List.filter_append, List.filterMap_append, List.flatMap_append, left.covers, right.covers]

/-- No pieces. -/
theorem divides_nil : Divides config [] [] [] [] := ⟨rfl, rfl, by simp, rfl⟩

/-- Text that stays. -/
theorem divides_kept (text : Text) : Divides config [.kept text] text text [] :=
  ⟨by simp [Piece.before], by simp [Piece.after], by simp [Piece.marker?], rfl⟩

/-- Pieces between two lexemes that stay. -/
theorem Divides.between {pieces : List Piece} {before after : Text} {inside : List Tree}
    (divides : Divides config pieces before after inside) (opening closing : Lexeme) :
    Divides config (.kept opening.written :: pieces ++ [.kept closing.written])
      (opening.written ++ before ++ closing.written)
      (opening.written ++ after ++ closing.written) inside := by
  have whole := ((divides_kept opening.written).append divides).append
    (divides_kept closing.written)
  rwa [List.append_nil] at whole

/-- A tree that is no marker adds nothing to what is in it. -/
theorem Divides.cons {pieces : List Piece} {before after : Text} {inside : List Tree}
    (divides : Divides config pieces before after inside) {tree : Tree}
    (plain : isRewritten config tree = false) :
    Divides config pieces before after (tree :: inside) := by
  refine ⟨divides.before, divides.after, divides.rewritten, ?_⟩
  rw [List.filter_cons_of_neg (by simp [plain])]
  exact divides.covers

/-- A marker that is rewritten is a piece of its own. -/
theorem divides_marker {tree : Tree} (rewritten : isRewritten config tree = true) :
    Divides config [.kept (tree.lead?.getD []), .marker tree] tree.written
      (visit config [] tree).1.written tree.subtrees where
  before := by
    rw [Tree.written_eq]
    simp [Piece.before]
  after := by
    rw [Tree.written_eq, lead?_visit]
    simp [Piece.after]
  rewritten := by simp [Piece.marker?, rewritten]
  covers := by
    change rewrittenIn config tree = [tree].flatMap (rewrittenIn config)
    rw [List.flatMap_singleton]

mutual

/-- The pieces of a tree are what it falls into, and with their replacements make up the tree after
the walk. -/
theorem divides_pieces (tree : Tree) :
    Divides config (pieces config tree) tree.written (visit config [] tree).1.written
      tree.subtrees := by
  -- The induction goes into trees that stay; a marker that is rewritten is one piece whatever is in
  -- it.
  obtain ⟨plain, same⟩ | ⟨rewritten, _⟩ := visit_cases config [] tree
  · rw [same, pieces.eq_def, if_neg (by simp [plain])]
    cases tree with
    | token lexeme =>
      have whole := (@divides_kept config lexeme.written).cons plain
      simpa [Tree.written, Lexeme.written, Tree.lexemes, Tree.subtrees, walked] using whole
    | node shape children => exact (divides_piecesOf children).cons plain
    | call callee opening arguments closing =>
      have whole := (divides_pieces callee).append
        ((divides_piecesOf arguments).between opening closing)
      simpa [Tree.written, Tree.lexemes, Lexeme.written, Tree.subtrees, walked] using
        whole.cons plain
    | subscript value opening elements closing =>
      have whole := (divides_pieces value).append
        ((divides_piecesOf elements).between opening closing)
      simpa [Tree.written, Tree.lexemes, Lexeme.written, Tree.subtrees, walked] using
        whole.cons plain
    | grouped opening inner closing =>
      have whole := (divides_pieces inner).between opening closing
      simpa [Tree.written, Tree.lexemes, Lexeme.written, Tree.subtrees, walked] using
        whole.cons plain
    | formatted opening parts closing =>
      have whole := (divides_piecesOf parts).between opening closing
      simpa [Tree.written, Tree.lexemes, Lexeme.written, Tree.subtrees, walked] using
        whole.cons plain
  · rw [pieces.eq_def, if_pos rewritten]
    exact divides_marker rewritten

/-- The same for several trees. -/
theorem divides_piecesOf (trees : List Tree) :
    Divides config (piecesOf config trees) (written (Tree.lexemesOf trees))
      (written (Tree.lexemesOf (visitAll config trees).1)) (Tree.subtreesOf trees) := by
  cases trees with
  | nil => exact divides_nil
  | cons tree rest =>
    have whole := (divides_pieces tree).append (divides_piecesOf rest)
    simpa [Tree.written, Tree.lexemesOf, visitAll, piecesOf, Tree.subtreesOf] using whole

end

/-- Pieces without a marker are written alike before and after a run. -/
theorem flatMap_after {pieces : List Piece} (none : pieces.filterMap Piece.marker? = []) :
    pieces.flatMap (Piece.after config) = pieces.flatMap Piece.before := by
  induction pieces with
  | nil => rfl
  | cons piece rest ih =>
    cases piece with
    | kept text => rw [List.flatMap_cons, List.flatMap_cons, ih none]; rfl
    | marker tree => simp [Piece.marker?] at none

end Dividing

/-- The markers that are rewritten in a tree are those in the outermost ones, in order. -/
theorem rewrittenIn_eq_flatMap (config : Config) (tree : Tree) :
    rewrittenIn config tree = (outermost config tree).flatMap (rewrittenIn config) :=
  (divides_pieces tree).covers

end Outdent.Marker

namespace Outdent

open Source Marker

/-- A run changes a source only where its outermost rewritten markers stand: the source falls into
these and the text around them, the code of the result is the same text around what these markers
are rewritten to, and every marker that is rewritten, and counted, is in exactly one of them. A
source without such markers is left as it is. -/
theorem run_pieces {config : Config} {code : Text} {tree : Tree} {result : Result}
    (unmarked : withoutByteMark code = code) (read : parse? code = some tree)
    (ran : run config code = .ok result) :
    (pieces config tree).flatMap Piece.before = code ∧
      (pieces config tree).flatMap (Piece.after config) = result.code ∧
      (∀ marker ∈ outermost config tree, isRewritten config marker = true ∧
        Rewrites config (walked config marker) (visit config [] marker).1) ∧
      rewrittenIn config tree = (outermost config tree).flatMap (rewrittenIn config) ∧
      result.outdented = (rewrittenIn config tree).length ∧
      (outermost config tree = [] → result.code = code ∧ result.outdented = 0) := by
  have divides := @divides_pieces config tree
  have whole : tree.written = code := (written_of_parse? read).trans unmarked
  have covers := rewrittenIn_eq_flatMap config tree
  have counted : result.outdented = (rewrittenIn config tree).length ∧
      (visit config [] tree).1.written = result.code := by
    obtain rfl := result_of_run read ran
    exact ⟨rfl, rfl⟩
  have becomes : ∀ marker ∈ outermost config tree, isRewritten config marker = true ∧
      Rewrites config (walked config marker) (visit config [] marker).1 := by
    intro marker member
    have rewritten := divides.rewritten marker member
    obtain ⟨plain, _⟩ | whole := visit_cases config [] marker
    · simp [plain] at rewritten
    · exact whole
  refine ⟨divides.before.trans whole, divides.after.trans counted.2, becomes, covers, counted.1,
    fun none => ⟨?_, ?_⟩⟩
  · rw [← counted.2, ← divides.after, flatMap_after none, divides.before, whole]
  · rw [counted.1, covers, none]
    rfl

/-- What stands around a marker stays: other code, blanks, a marker that is skipped, a comment, an
unusual line break, and the end without one. -/
theorem run_pieces_around :
    ∃ code tree result,
      code = "[dedent(y),  dedent('''\r\n a''')# c\r\n]".toList ∧
      parse? code = some tree ∧ run {} code = .ok result ∧
      result.code = "[dedent(y),  '''a'''# c\r\n]".toList ∧
      (outermost {} tree).length = 1 ∧ (pieces {} tree).flatMap Piece.before = code ∧
      (pieces {} tree).flatMap (Piece.after {}) = result.code ∧ result.outdented = 1 := by
  have found :
      ((parse? "[dedent(y),  dedent('''\r\n a''')# c\r\n]".toList).any fun tree =>
        match run {} "[dedent(y),  dedent('''\r\n a''')# c\r\n]".toList with
        | .ok result => result.code == "[dedent(y),  '''a'''# c\r\n]".toList &&
            (outermost {} tree).length == 1 && (rewrittenIn {} tree).length == 1
        | .error _ => false) = true := by
    decide +kernel
  rw [Option.any_eq_true] at found
  obtain ⟨tree, read, found⟩ := found
  split at found
  · rename_i result ran
    simp only [Bool.and_eq_true, beq_iff_eq] at found
    obtain ⟨⟨written, one⟩, rewritten⟩ := found
    obtain ⟨before, after, _, _, counted, _⟩ := run_pieces rfl read ran
    exact ⟨_, tree, result, rfl, read, ran, written, one, before, after, counted.trans rewritten⟩
  · simp at found

end Outdent
