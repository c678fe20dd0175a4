import Outdent.Proofs.Rewritten
import Outdent.Run

/-!
# What a walk does

Everything that a walk over a tree can do, said once. At each tree the parts are walked over first
(`walked`); then the tree stays, or it is a marker whose template is rewritten. `Rewrites` lists the
four ways in which that happens: a call or a subscript, kept with its template in place or given up
for it. Main statements: `visit_cases`, a walk does one of these things and nothing else,
`outdentedCount_visit`, it reports as many rewritten markers as there are, and `refused_mem_visit`,
it reports the nodes that are refused with the parts that they have after it. `run_of_parse?_some`
is what follows for a run.
-/
namespace Outdent.Marker

open Source Template

/-! ## Single markers -/

/-- A marker whose parts have been walked over, and what it is rewritten to. -/
inductive Rewrites (config : Config) : Tree → Tree → Prop where
  /-- A call that is kept around its template. -/
  | call {callee argument literal edited : Tree} {others : List Tree} {opening closing : Lexeme}
      (marker : config.isMarker callee = true) (carries : extract? argument = some literal)
      (done : outdented config.trims literal = .ok edited)
      (stays : config.keepsMarker = true ∨ others.all Tree.isComma = false) :
      Rewrites config (.call callee opening (argument :: others) closing)
        (.call callee opening (rebuild argument edited :: others) closing)
  /-- A call that its template takes the place of. -/
  | unwrappedCall {callee argument literal edited : Tree} {others : List Tree}
      {opening closing : Lexeme} (marker : config.isMarker callee = true)
      (carries : extract? argument = some literal)
      (done : outdented config.trims literal = .ok edited) (unkept : config.keepsMarker = false)
      (alone : others.all Tree.isComma = true) :
      Rewrites config (.call callee opening (argument :: others) closing)
        (inPlaceOf (.call callee opening (argument :: others) closing) (rebuild argument edited))
  /-- A subscript that is kept around its template. -/
  | subscript {tag literal edited : Tree} {opening closing : Lexeme}
      (marker : config.isMarker tag = true) (template : isTemplate literal = true)
      (done : outdented config.trims literal = .ok edited) (stays : config.keepsMarker = true) :
      Rewrites config (.subscript tag opening [literal] closing)
        (.subscript tag opening [inPlaceOf literal edited] closing)
  /-- A subscript that its template takes the place of. -/
  | unwrappedSubscript {tag literal edited : Tree} {opening closing : Lexeme}
      (marker : config.isMarker tag = true) (template : isTemplate literal = true)
      (done : outdented config.trims literal = .ok edited) (unkept : config.keepsMarker = false) :
      Rewrites config (.subscript tag opening [literal] closing)
        (inPlaceOf (.subscript tag opening [literal] closing) edited)

/-- The template that a tree carries, if it is a marker. -/
def carried? (config : Config) (tree : Tree) : Option Tree :=
  match classify tree with
  | .call callee argument => if config.isMarker callee then extract? argument else none
  | .subscript tag literal => if config.isMarker tag then some literal else none
  | .other => none

/-- Is a tree a marker with a template that can be outdented? -/
def isOpen (config : Config) (tree : Tree) : Bool :=
  (carried? config tree).any fun literal => (outdented config.trims literal).isOk

/-- What settling a tree comes to: the tree stays, or it is a marker that is rewritten and reported
as such. -/
inductive Decided (config : Config) (updated : Tree) : Tree × List Finding → Prop where
  /-- The tree stays. -/
  | kept {findings : List Finding} (quiet : findings.any Finding.isOutdented = false)
      (apart : .refused ∉ findings) : Decided config updated (updated, findings)
  /-- The tree is rewritten. -/
  | rewritten {result : Tree} {form : Form} {before after : Text}
      (rewrites : Rewrites config updated result) :
      Decided config updated (result, [.outdented form before after])

section Settling

variable {config : Config}

/-- Nothing is reported of a tree that is no marker. -/
theorem decided_self (updated : Tree) : Decided config updated (updated, []) :=
  .kept rfl (by simp)

/-- A marker that is skipped stays. -/
theorem decided_skipped (updated : Tree) (code : Text) (reason : Reason) :
    Decided config updated (updated, [.skipped code reason]) :=
  .kept rfl (by simp)

/-- A call has more arguments if not only a comma follows the first one. -/
theorem hasMoreArguments_call (callee argument : Tree) (others : List Tree)
    (opening closing : Lexeme) :
    hasMoreArguments (.call callee opening (argument :: others) closing) =
      !others.all Tree.isComma := by
  rw [hasMoreArguments, List.all_eq_not_any_not, Bool.not_not]

/-- What settling a call comes to. -/
theorem decided_call (around : Parentheses) (found callee : Tree) (opening : Lexeme)
    (arguments : List Tree) (closing : Lexeme) :
    Decided config (.call callee opening arguments closing)
      (settle config around found (.call callee opening arguments closing)) := by
  unfold settle
  cases arguments with
  | nil => exact decided_self _
  | cons argument others =>
    rw [classify]
    cases isPositional argument with
    | false => exact decided_self _
    | true =>
      simp only [↓reduceIte]
      cases marker : config.isMarker callee with
      | false => exact decided_self _
      | true =>
        simp only [↓reduceIte]
        cases carries : extract? argument with
        | none => exact decided_skipped _ _ _
        | some literal =>
          simp only
          cases done : outdented config.trims literal with
          | error reason => exact decided_skipped _ _ _
          | ok edited =>
            simp only [hasMoreArguments_call, replaceArgument]
            cases keeps : config.keepsMarker with
            | true => exact .rewritten (.call marker carries done (Or.inl keeps))
            | false =>
              cases alone : others.all Tree.isComma with
              | true => exact .rewritten (.unwrappedCall marker carries done keeps alone)
              | false => exact .rewritten (.call marker carries done (Or.inr alone))

/-- What settling a subscript comes to. -/
theorem decided_subscript (around : Parentheses) (found tag : Tree) (opening : Lexeme)
    (elements : List Tree) (closing : Lexeme) :
    Decided config (.subscript tag opening elements closing)
      (settle config around found (.subscript tag opening elements closing)) := by
  unfold settle
  rw [classify]
  cases elements with
  | nil => exact decided_self _
  | cons element others =>
    cases others with
    | cons => exact decided_self _
    | nil =>
      rw [soleTemplate?]
      cases template : isTemplate element with
      | false => exact decided_self _
      | true =>
        simp only [↓reduceIte]
        cases marker : config.isMarker tag with
        | false => exact decided_self _
        | true =>
          simp only [↓reduceIte]
          cases done : outdented config.trims element with
          | error reason => exact decided_skipped _ _ _
          | ok edited =>
            cases keeps : config.keepsMarker with
            | true => exact .rewritten (.subscript marker template done keeps)
            | false => exact .rewritten (.unwrappedSubscript marker template done keeps)

/-- What a tree becomes, and whether it is rewritten, does not depend on what is reported of it. -/
theorem settle_eq (around other : Parentheses) (found before updated : Tree) :
    (settle config around found updated).1 = (settle config other before updated).1 ∧
      (settle config around found updated).2.any Finding.isOutdented =
        (settle config other before updated).2.any Finding.isOutdented := by
  unfold settle
  cases classify updated with
  | call callee argument =>
    simp only
    cases config.isMarker callee with
    | false => exact ⟨rfl, rfl⟩
    | true =>
      simp only [↓reduceIte]
      cases extract? argument with
      | none => exact ⟨rfl, rfl⟩
      | some literal =>
        simp only
        cases outdented config.trims literal <;> exact ⟨rfl, rfl⟩
  | subscript tag literal =>
    simp only
    cases config.isMarker tag with
    | false => exact ⟨rfl, rfl⟩
    | true =>
      simp only [↓reduceIte]
      cases outdented config.trims literal <;> exact ⟨rfl, rfl⟩
  | other => exact ⟨rfl, rfl⟩

/-- A marker is reported as rewritten exactly if its template can be outdented. -/
theorem settle_any (around : Parentheses) (found updated : Tree) :
    (settle config around found updated).2.any Finding.isOutdented = isOpen config updated := by
  unfold settle isOpen carried?
  cases classify updated with
  | call callee argument =>
    simp only
    cases config.isMarker callee with
    | false => rfl
    | true =>
      simp only [↓reduceIte]
      cases extract? argument with
      | none => rfl
      | some literal =>
        simp only [Option.any_some]
        cases outdented config.trims literal <;> rfl
  | subscript tag literal =>
    simp only
    cases config.isMarker tag with
    | false => rfl
    | true =>
      simp only [↓reduceIte, Option.any_some]
      cases outdented config.trims literal <;> rfl
  | other => rfl

end Settling

/-! ## Whole trees -/

/-- A tree whose parts have been walked over. -/
def walked (config : Config) : Tree → Tree
  | .token lexeme => .token lexeme
  | .node shape children => .node shape (visitAll config children).1
  | .call callee opening arguments closing =>
    .call (visit config [] callee).1 opening (visitAll config arguments).1 closing
  | .subscript value opening elements closing =>
    .subscript (visit config [] value).1 opening (visitAll config elements).1 closing
  | .grouped opening inner closing => .grouped opening (visit config [] inner).1 closing
  | .formatted opening parts closing => .formatted opening (visitAll config parts).1 closing

/-- Is a tree a call or a subscript? -/
def isCandidate : Tree → Bool
  | .call _ _ _ _ => true
  | .subscript _ _ _ _ => true
  | _ => false

/-- Is a tree a marker that a walk rewrites? -/
def isRewritten (config : Config) (tree : Tree) : Bool :=
  isCandidate tree && (settle config [] tree (walked config tree)).2.any Finding.isOutdented

/-- Is a tree a marker that a walk gives up for its template? -/
def isUnwrapped (config : Config) (tree : Tree) : Bool :=
  isRewritten config tree && !config.keepsMarker && !hasMoreArguments tree

section Walking

variable (config : Config)

/-- A tree is rewritten if it is a candidate that is open once its parts have been walked over. -/
theorem isRewritten_eq (tree : Tree) :
    isRewritten config tree = (isCandidate tree && isOpen config (walked config tree)) := by
  rw [isRewritten, settle_any]

/-- What a tree becomes does not depend on the parentheses around it. -/
theorem visit_around (around : Parentheses) (tree : Tree) :
    (visit config around tree).1 = (visit config [] tree).1 := by
  cases tree with
  | grouped opening inner closing =>
    rw [visit, visit]
    simp only
    rw [visit_around _ inner, visit_around [(opening, closing)] inner]
  | call callee opening arguments closing =>
    rw [visit, visit]
    exact (settle_eq around [] _ _ _).1
  | subscript value opening elements closing =>
    rw [visit, visit]
    exact (settle_eq around [] _ _ _).1
  | token | node | formatted => rfl

/-- A walk walks over the parts of a tree, and then leaves it as it is or rewrites it. -/
theorem visit_cases (around : Parentheses) (tree : Tree) :
    (isRewritten config tree = false ∧ (visit config around tree).1 = walked config tree) ∨
      (isRewritten config tree = true ∧
        Rewrites config (walked config tree) (visit config around tree).1) := by
  have settled : ∀ decided, Decided config (walked config tree) decided →
      decided.1 = (visit config around tree).1 →
        isRewritten config tree = decided.2.any Finding.isOutdented →
          (isRewritten config tree = false ∧ (visit config around tree).1 = walked config tree) ∨
            (isRewritten config tree = true ∧
              Rewrites config (walked config tree) (visit config around tree).1) := by
    intro decided cases result reported
    cases cases with
    | kept quiet apart => exact Or.inl ⟨reported.trans quiet, result.symm⟩
    | rewritten rewrites => exact Or.inr ⟨reported, result ▸ rewrites⟩
  -- `isRewritten` asks without the parentheses around the tree, which only go into the report.
  cases tree with
  | call callee opening arguments closing =>
    apply settled _ (decided_call around (.call callee opening arguments closing) _ _ _ _)
    · rw [visit]
    · exact (settle_eq [] around _ _ _).2
  | subscript value opening elements closing =>
    apply settled _ (decided_subscript around (.subscript value opening elements closing) _ _ _ _)
    · rw [visit]
    · exact (settle_eq [] around _ _ _).2
  | grouped opening inner closing =>
    refine Or.inl ⟨rfl, ?_⟩
    rw [visit, walked]
    simp only
    rw [visit_around]
  | token | node | formatted => exact Or.inl ⟨rfl, rfl⟩

/-- Several trees are walked over one by one. -/
theorem visitAll_eq_map (trees : List Tree) :
    (visitAll config trees).1 = trees.map fun tree => (visit config [] tree).1 := by
  induction trees with
  | nil => rfl
  | cons tree rest ih => rw [visitAll, List.map_cons, ← ih]

/-- Settling reports one rewritten marker if it rewrites the tree, and no node that is refused. -/
theorem settle_reports (around : Parentheses) (tree : Tree) (candidate : isCandidate tree = true) :
    Finding.outdentedCount (settle config around tree (walked config tree)).2 =
        (if isRewritten config tree then 1 else 0) ∧
      .refused ∉ (settle config around tree (walked config tree)).2 := by
  have same : isRewritten config tree =
      (settle config around tree (walked config tree)).2.any Finding.isOutdented := by
    rw [isRewritten, candidate, Bool.true_and]
    exact (settle_eq [] around _ _ _).2
  have decided : Decided config (walked config tree)
      (settle config around tree (walked config tree)) := by
    cases tree with
    | call callee opening arguments closing => exact decided_call around _ _ _ _ _
    | subscript value opening elements closing => exact decided_subscript around _ _ _ _ _
    | token | node | grouped | formatted => simp [isCandidate] at candidate
  rw [same]
  generalize settle config around tree (walked config tree) = result at decided
  cases decided with
  | kept quiet apart =>
    refine ⟨?_, apart⟩
    rw [quiet, Finding.outdentedCount, List.length_eq_zero_iff.mpr]
    · rfl
    · exact List.filter_eq_nil_iff.mpr fun finding member => by
        simpa using List.any_eq_false.mp quiet finding member
  | rewritten rewrites => exact ⟨rfl, by simp⟩

mutual

/-- A walk reports as many rewritten markers as are in the tree. -/
theorem outdentedCount_visit (around : Parentheses) (tree : Tree) :
    Finding.outdentedCount (visit config around tree).2 =
      (tree.subtrees.filter (isRewritten config)).length := by
  cases tree with
  | token lexeme => rfl
  | node shape children =>
    have inside := outdentedCount_visitAll children
    have plain : isRewritten config (.node shape children) = false := rfl
    rw [visit, Tree.subtrees, List.filter_cons_of_neg (by simp [plain]), ← inside]
    simp only [Finding.outdentedCount, List.filter_append, List.length_append]
    split <;> rfl
  | call callee opening arguments closing =>
    have inside := outdentedCount_visit [] callee
    have behind := outdentedCount_visitAll arguments
    have here := (settle_reports config around (.call callee opening arguments closing) rfl).1
    rw [walked] at here
    rw [visit, Tree.subtrees]
    simp only [Finding.outdentedCount, List.filter_append, List.length_append,
      List.filter_cons] at inside behind here ⊢
    rw [inside, behind, here]
    split
    · rw [List.length_cons, List.length_append]
    · rw [List.length_append, Nat.add_zero]
  | subscript value opening elements closing =>
    have inside := outdentedCount_visit [] value
    have behind := outdentedCount_visitAll elements
    have here := (settle_reports config around (.subscript value opening elements closing) rfl).1
    rw [walked] at here
    rw [visit, Tree.subtrees]
    simp only [Finding.outdentedCount, List.filter_append, List.length_append,
      List.filter_cons] at inside behind here ⊢
    rw [inside, behind, here]
    split
    · rw [List.length_cons, List.length_append]
    · rw [List.length_append, Nat.add_zero]
  | grouped opening inner closing =>
    have plain : isRewritten config (.grouped opening inner closing) = false := rfl
    rw [visit, Tree.subtrees, List.filter_cons_of_neg (by simp [plain])]
    exact outdentedCount_visit _ inner
  | formatted opening parts closing =>
    have plain : isRewritten config (.formatted opening parts closing) = false := rfl
    rw [visit, Tree.subtrees, List.filter_cons_of_neg (by simp [plain])]
    exact outdentedCount_visitAll parts

/-- The same for several trees. -/
theorem outdentedCount_visitAll (trees : List Tree) :
    Finding.outdentedCount (visitAll config trees).2 =
      ((Tree.subtreesOf trees).filter (isRewritten config)).length := by
  cases trees with
  | nil => rfl
  | cons tree rest =>
    have first := outdentedCount_visit [] tree
    have later := outdentedCount_visitAll rest
    rw [visitAll, Tree.subtreesOf]
    simp only [Finding.outdentedCount, List.filter_append, List.length_append] at first later ⊢
    rw [first, later]

end

mutual

/-- A walk reports that a node is refused exactly if one of the tree is refused once its parts have
been walked over. -/
theorem refused_mem_visit (around : Parentheses) (tree : Tree) :
    .refused ∈ (visit config around tree).2 ↔
      ∃ shape children, .node shape children ∈ tree.subtrees ∧
        config.check.refuses shape (visitAll config children).1 = true := by
  cases tree with
  | token lexeme => simp [visit, Tree.subtrees]
  | node shape children =>
    rw [visit, List.mem_append, refused_mem_visitAll children]
    simp only [Tree.subtrees, List.mem_cons]
    constructor
    · rintro (⟨other, trees, inside, fails⟩ | here)
      · exact ⟨other, trees, Or.inr inside, fails⟩
      · refine ⟨shape, children, Or.inl rfl, ?_⟩
        split at here
        · assumption
        · simp at here
    · rintro ⟨other, trees, same | inside, fails⟩
      · obtain ⟨rfl, rfl⟩ := Tree.node.inj same
        exact Or.inr (by rw [if_pos fails]; exact List.mem_singleton_self _)
      · exact Or.inl ⟨other, trees, inside, fails⟩
  | call callee opening arguments closing =>
    have quiet := (settle_reports config around (.call callee opening arguments closing) rfl).2
    rw [walked] at quiet
    rw [visit]
    simp only [List.mem_append, quiet, or_false, refused_mem_visit [] callee,
      refused_mem_visitAll arguments, Tree.subtrees, List.mem_cons, reduceCtorEq, false_or]
    simp only [or_and_right, exists_or]
  | subscript value opening elements closing =>
    have quiet := (settle_reports config around (.subscript value opening elements closing) rfl).2
    rw [walked] at quiet
    rw [visit]
    simp only [List.mem_append, quiet, or_false, refused_mem_visit [] value,
      refused_mem_visitAll elements, Tree.subtrees, List.mem_cons, reduceCtorEq, false_or]
    simp only [or_and_right, exists_or]
  | grouped opening inner closing =>
    rw [visit]
    simp only [refused_mem_visit _ inner, Tree.subtrees, List.mem_cons, reduceCtorEq, false_or]
  | formatted opening parts closing =>
    rw [visit]
    simp only [refused_mem_visitAll parts, Tree.subtrees, List.mem_cons, reduceCtorEq, false_or]

/-- The same for several trees. -/
theorem refused_mem_visitAll (trees : List Tree) :
    .refused ∈ (visitAll config trees).2 ↔
      ∃ shape children, .node shape children ∈ Tree.subtreesOf trees ∧
        config.check.refuses shape (visitAll config children).1 = true := by
  cases trees with
  | nil => simp [visitAll, Tree.subtreesOf]
  | cons tree rest =>
    rw [visitAll, List.mem_append, refused_mem_visit [] tree, refused_mem_visitAll rest]
    simp only [Tree.subtreesOf, List.mem_append, or_and_right, exists_or]

end

end Walking

end Outdent.Marker

namespace Outdent

open Source Marker

/-- What a run comes to for a source that can be read. -/
theorem run_of_parse?_some (config : Config) {code : Text} {tree : Tree}
    (read : parse? code = some tree) :
    run config code =
      if config.check.refusesIn tree = true ∨ .refused ∈ (visit config [] tree).2 then
        .error .refused
      else .ok ⟨(visit config [] tree).1.written, [], true,
        (tree.subtrees.filter (isRewritten config)).length,
        (runTrace config (some (visit config [] tree).2)).events⟩ := by
  simp only [run, read, settleAll, outdentedCount_visit, Bool.or_eq_true, List.contains_iff_mem]

/-- The result for a source that can be read, if there is one. -/
theorem result_of_run {config : Config} {code : Text} {tree : Tree} {result : Result}
    (read : parse? code = some tree) (ran : run config code = .ok result) :
    result = ⟨(visit config [] tree).1.written, [], true,
      (tree.subtrees.filter (isRewritten config)).length,
      (runTrace config (some (visit config [] tree).2)).events⟩ := by
  rw [run_of_parse?_some config read] at ran
  split at ran
  · cases ran
  · exact (Except.ok.inj ran).symm

end Outdent
