import Outdent.Proofs.Rest

/-!
# Nodes that are refused

When a run has no result, whatever the check of nodes is. A node of the source can be refused, and
so can a node of what the source becomes: one that holds a marker and is built again with what the
marker is rewritten to. Main statements: `run_cases`, a run has a result, failed or not, unless one
of these things happens, and `run_of_kept`, which is about the check that refuses keywords that grow
together with what is behind them: it refuses nothing that a walk makes if no marker is given up.
-/
namespace Outdent.Source.NodeCheck

variable (check : NodeCheck)

mutual

/-- A node is refused in a tree exactly if one of the trees in it is a node that is. -/
theorem refusesIn_iff (tree : Tree) :
    check.refusesIn tree = true ↔ ∃ shape children,
      .node shape children ∈ tree.subtrees ∧ check.refuses shape children = true := by
  cases tree with
  | token lexeme => simp [refusesIn, Tree.subtrees]
  | node shape children =>
    rw [refusesIn, Bool.or_eq_true, refusesAny_iff children]
    simp only [Tree.subtrees, List.mem_cons, Tree.node.injEq]
    constructor
    · rintro (here | ⟨other, trees, inside, fails⟩)
      · exact ⟨shape, children, Or.inl ⟨rfl, rfl⟩, here⟩
      · exact ⟨other, trees, Or.inr inside, fails⟩
    · rintro ⟨other, trees, ⟨rfl, rfl⟩ | inside, fails⟩
      · exact Or.inl fails
      · exact Or.inr ⟨other, trees, inside, fails⟩
  | call callee opening arguments closing =>
    rw [refusesIn, Bool.or_eq_true, refusesIn_iff callee, refusesAny_iff arguments]
    simp only [Tree.subtrees, List.mem_cons, List.mem_append, reduceCtorEq, false_or,
      or_and_right, exists_or]
  | subscript value opening elements closing =>
    rw [refusesIn, Bool.or_eq_true, refusesIn_iff value, refusesAny_iff elements]
    simp only [Tree.subtrees, List.mem_cons, List.mem_append, reduceCtorEq, false_or,
      or_and_right, exists_or]
  | grouped opening inner closing =>
    rw [refusesIn, refusesIn_iff inner]
    simp only [Tree.subtrees, List.mem_cons, reduceCtorEq, false_or]
  | formatted opening parts closing =>
    rw [refusesIn, refusesAny_iff parts]
    simp only [Tree.subtrees, List.mem_cons, reduceCtorEq, false_or]

/-- The same for several trees. -/
theorem refusesAny_iff (trees : List Tree) :
    check.refusesAny trees = true ↔ ∃ shape children,
      .node shape children ∈ Tree.subtreesOf trees ∧ check.refuses shape children = true := by
  cases trees with
  | nil => simp [refusesAny, Tree.subtreesOf]
  | cons tree rest =>
    rw [refusesAny, Bool.or_eq_true, refusesIn_iff tree, refusesAny_iff rest]
    simp only [Tree.subtreesOf, List.mem_append, or_and_right, exists_or]

end

end Outdent.Source.NodeCheck

namespace Outdent.Marker

open Source Template

variable (config : Config)

/-! ## Nodes around rewritten markers -/

/-- A walk spoils a node of a tree: the node passes, but is refused when the markers in it have been
settled, of which at least one is rewritten. -/
def Spoils (tree : Tree) : Prop :=
  ∃ shape children, .node shape children ∈ tree.subtrees ∧
    config.check.refuses shape children = false ∧
    config.check.refuses shape (visitAll config children).1 = true ∧
    ∃ marker ∈ Tree.subtreesOf children, isRewritten config marker = true

/-- The nodes of a tree pass, before a walk and after it, unless one of them is refused before or
the walk spoils one. -/
theorem refused_iff (tree : Tree) :
    (config.check.refusesIn tree = true ∨ .refused ∈ (visit config [] tree).2) ↔
      (config.check.refusesIn tree = true ∨ Spoils config tree) := by
  constructor
  · rintro (before | after)
    · exact Or.inl before
    · obtain ⟨shape, children, inside, fails⟩ := (refused_mem_visit config [] tree).mp after
      cases here : config.check.refuses shape children with
      | true => exact Or.inl ((config.check.refusesIn_iff tree).mpr ⟨_, _, inside, here⟩)
      | false =>
        refine Or.inr ⟨shape, children, inside, here, fails, ?_⟩
        cases holds : (Tree.subtreesOf children).any (isRewritten config) with
        | true => exact List.any_eq_true.mp holds
        | false =>
          -- Without such a marker the walk leaves the node as it is.
          have same := visitAll_of_spares fun marker within _ =>
            Bool.eq_false_iff.mpr (List.any_eq_false.mp holds marker within)
          rw [same, here] at fails
          exact absurd fails Bool.false_ne_true
  · rintro (before | ⟨shape, children, inside, _, fails, _⟩)
    · exact Or.inl before
    · exact Or.inr ((refused_mem_visit config [] tree).mpr ⟨shape, children, inside, fails⟩)

/-! ## Markers that are kept -/

/-- No marker in a tree is given up for its template. -/
def Keeps : Tree → Prop := Tree.Everywhere fun marker => isUnwrapped config marker = false

variable {config}

/-- A marker that is kept around its template begins as it did. -/
theorem Rewrites.head? {updated result : Tree} (rewrites : Rewrites config updated result)
    (stays : config.keepsMarker = true ∨ hasMoreArguments updated = true) :
    result.lexemes.head? = updated.lexemes.head? := by
  cases rewrites with
  | call | subscript =>
    simp only [Tree.lexemes, List.append_assoc, List.cons_append, List.head?_append]
    rfl
  | unwrappedCall marker carries done unkept alone =>
    rw [hasMoreArguments_call, unkept, alone] at stays
    simp at stays
  | unwrappedSubscript marker template done unkept =>
    rw [unkept] at stays
    simp [hasMoreArguments] at stays

/-- A marker that is kept around its template does not become a node. -/
theorem Rewrites.hasShape {updated result : Tree} (rewrites : Rewrites config updated result)
    (stays : config.keepsMarker = true ∨ hasMoreArguments updated = true) (shape : Shape) :
    hasShape shape result = false := by
  cases rewrites with
  | call | subscript => rfl
  | unwrappedCall marker carries done unkept alone =>
    rw [hasMoreArguments_call, unkept, alone] at stays
    simp at stays
  | unwrappedSubscript marker template done unkept =>
    rw [unkept] at stays
    simp [hasMoreArguments] at stays

/-- A marker that is rewritten and not given up stays around its template. -/
theorem stays_of_isUnwrapped {tree : Tree} (rewritten : isRewritten config tree = true)
    (kept : isUnwrapped config tree = false) :
    config.keepsMarker = true ∨ hasMoreArguments (walked config tree) = true := by
  rw [isUnwrapped, rewritten, Bool.true_and] at kept
  rw [hasMoreArguments_walked]
  cases keeps : config.keepsMarker with
  | true => exact Or.inl rfl
  | false => exact Or.inr (by simpa [keeps] using kept)

mutual

/-- A tree in which no marker is given up begins with the same lexeme after a walk. -/
theorem head?_visit (around : Parentheses) {tree : Tree} (kept : Keeps config tree) :
    (visit config around tree).1.lexemes.head? = tree.lexemes.head? := by
  obtain ⟨here, parts⟩ := (Tree.everywhere_iff tree).mp kept
  have inside : (walked config tree).lexemes.head? = tree.lexemes.head? := by
    cases tree with
    | node shape children => exact head?_visitAll ((Tree.inside_node _ _).mp parts)
    | call callee opening arguments closing =>
      simp only [walked, Tree.lexemes, List.append_assoc, List.cons_append, List.head?_append,
        head?_visit [] ((Tree.inside_call _ _ _ _).mp parts).1, List.head?_cons]
    | subscript value opening elements closing =>
      simp only [walked, Tree.lexemes, List.append_assoc, List.cons_append, List.head?_append,
        head?_visit [] ((Tree.inside_subscript _ _ _ _).mp parts).1, List.head?_cons]
    | token | grouped | formatted => rfl
  obtain ⟨_, same⟩ | ⟨rewritten, rewrites⟩ := visit_cases config around tree
  · rw [same, inside]
  · rw [rewrites.head? (stays_of_isUnwrapped rewritten here), inside]

/-- The same for several trees. -/
theorem head?_visitAll {trees : List Tree}
    (kept : Tree.EverywhereOf (fun marker => isUnwrapped config marker = false) trees) :
    (Tree.lexemesOf (visitAll config trees).1).head? = (Tree.lexemesOf trees).head? := by
  cases trees with
  | nil => rfl
  | cons tree rest =>
    obtain ⟨first, others⟩ := (Tree.everywhereOf_cons _ _).mp kept
    rw [visitAll, Tree.lexemesOf, Tree.lexemesOf, List.head?_append, List.head?_append,
      head?_visit [] first, head?_visitAll others]

end

/-- A tree in which no marker is given up has the same shape after a walk. -/
theorem hasShape_visit (shape : Shape) {tree : Tree} (kept : Keeps config tree) :
    hasShape shape (visit config [] tree).1 = hasShape shape tree := by
  obtain ⟨here, _⟩ := (Tree.everywhere_iff tree).mp kept
  obtain ⟨_, same⟩ | ⟨rewritten, rewrites⟩ := visit_cases config [] tree
  · rw [same]
    cases tree <;> rfl
  · have stays := stays_of_isUnwrapped rewritten here
    cases tree with
    | call | subscript => exact rewrites.hasShape stays shape
    | token | node | grouped | formatted => cases rewritten

/-! ## Words that grow together -/

/-- A tree in which no marker is given up clings to a keyword after a walk if it did before. -/
theorem clings_visit {tree : Tree} (kept : Keeps config tree) :
    clings (visit config [] tree).1 = clings tree := by
  rw [clings, clings, head?_visit [] kept, hasShape_visit _ kept]

/-- The parts of a node in which no marker is given up grow together after a walk if they did
before. -/
theorem growsTogether_visitAll {trees : List Tree}
    (kept : Tree.EverywhereOf (fun marker => isUnwrapped config marker = false) trees) :
    growsTogether (visitAll config trees).1 = growsTogether trees := by
  induction trees with
  | nil => rfl
  | cons tree rest ih =>
    obtain ⟨_, others⟩ := (Tree.everywhereOf_cons _ _).mp kept
    specialize ih others
    generalize after : (visit config [] tree).1 = visited
    rw [visitAll]
    simp only [after]
    by_cases single : ∃ lexeme, tree = .token lexeme
    · obtain ⟨lexeme, rfl⟩ := single
      obtain rfl := after
      cases rest with
      | nil => rfl
      | cons next more =>
        have second := ((Tree.everywhereOf_cons _ _).mp others).1
        rw [visitAll] at ih ⊢
        simp only [visit_token, growsTogether, clings_visit second, ih]
    · have compound : ∀ lexeme, tree ≠ .token lexeme := not_exists.mp single
      rw [growsTogether_cons fun lexeme same => absurd same (compound lexeme)]
      -- What the tree becomes can only be a lexeme as a string literal.
      rw [growsTogether_cons, ih]
      intro lexeme same
      rw [same] at after
      obtain token | kind := eq_token_of_visit config after
      · exact absurd token (compound lexeme)
      · simp [kind]

/-- A test that a walk does not change the answer of has the same answer for several trees. -/
theorem any_visitAll {test : Tree → Bool} {trees : List Tree}
    (same : ∀ tree ∈ trees, test (visit config [] tree).1 = test tree) :
    (visitAll config trees).1.any test = trees.any test := by
  induction trees with
  | nil => rfl
  | cons tree rest ih =>
    obtain ⟨first, others⟩ := List.forall_mem_cons.mp same
    rw [visitAll, List.any_cons, List.any_cons, first, ih others]

/-- The words of a node may grow together after a walk if they might before. -/
theorem isLenient_visitAll (shape : Shape) {trees : List Tree}
    (kept : Tree.EverywhereOf (fun marker => isUnwrapped config marker = false) trees) :
    isLenient shape (visitAll config trees).1 = isLenient shape trees := by
  have parts : ∀ child ∈ trees, Keeps config child := (Tree.everywhereOf_iff trees).mp kept
  unfold isLenient
  split
  · exact any_visitAll fun child _ => by rw [isWord_visit, isWord_visit]
  · exact any_visitAll fun child member => by
      rw [isWord_visit, hasShape_visit _ (parts child member)]
  · rfl

/-- A node in which no marker is given up passes after a walk if it did before. -/
theorem refuses_visitAll (shape : Shape) {trees : List Tree}
    (kept : Tree.EverywhereOf (fun marker => isUnwrapped config marker = false) trees) :
    NodeCheck.words.refuses shape (visitAll config trees).1 =
      NodeCheck.words.refuses shape trees := by
  rw [NodeCheck.words]
  simp only [isLenient_visitAll shape kept, growsTogether_visitAll kept]

end Outdent.Marker

namespace Outdent

open Source Marker Template

/-- If keywords are what may not grow together with what is behind them, every source whose nodes
pass and in which no marker is given up has a result. -/
theorem run_of_kept {config : Config} (words : config.check = .words) {code : Text} {tree : Tree}
    (read : parse? code = some tree) (kept : Keeps config tree)
    (passes : config.check.refusesIn tree = false) : ∃ result, run config code = .ok result := by
  rw [run_of_parse?_some config read, if_neg]
  · exact ⟨_, rfl⟩
  · rw [refused_iff, passes]
    rintro (fails | ⟨shape, children, inside, here, fails, _⟩)
    · cases fails
    · have parts : Tree.EverywhereOf (fun marker => isUnwrapped config marker = false) children :=
        fun inner within => kept inner (Tree.mem_subtrees_trans (.tail _ within) tree inside)
      rw [words, refuses_visitAll shape parts, ← words, here] at fails
      cases fails

end Outdent
