import Outdent.Proofs.Formed

/-!
# Trees at rest

A tree is at rest if a walk finds no marker in it whose template can be outdented, and no node that
is refused. A second walk over such a tree changes nothing. Where markers are given up for their
templates, one walk brings every tree to rest: a template takes the place of a marker only after it
was walked over itself, and it brings no new marker along, because an argument that still has a tag
around its template was at rest with that tag. Main statements: `visit_of_rests`, a tree at rest
stays, `rests_visit`, a walk comes to a tree at rest, and `settleAll_final`, which puts both
together.
-/
namespace Outdent.Source.Tree

/-! ## All trees in a tree -/

/-- Something holds of every tree in a tree, that tree among them. -/
def Everywhere (holds : Tree → Prop) (tree : Tree) : Prop := ∀ inner ∈ tree.subtrees, holds inner

/-- Something holds of every tree in several trees. -/
def EverywhereOf (holds : Tree → Prop) (trees : List Tree) : Prop :=
  ∀ inner ∈ subtreesOf trees, holds inner

/-- Something holds of every tree in a tree other than that tree. -/
def Inside (holds : Tree → Prop) (tree : Tree) : Prop := ∀ inner ∈ tree.subtrees.tail, holds inner

section Constructors

variable {holds : Tree → Prop} (tree : Tree) (trees : List Tree) (opening closing : Lexeme)

/-- Everywhere in a tree is at that tree and inside it. -/
theorem everywhere_iff : tree.Everywhere holds ↔ holds tree ∧ tree.Inside holds := by
  cases tree <;> simp [Everywhere, Inside, subtrees]

/-- There is nothing inside a lexeme. -/
theorem inside_token (lexeme : Lexeme) : (token lexeme).Inside holds := by
  simp [Inside, subtrees]

/-- Inside a node are its parts. -/
@[simp] theorem inside_node (shape : Shape) :
    (node shape trees).Inside holds ↔ EverywhereOf holds trees := Iff.rfl

/-- Inside a call are what is called and the arguments. -/
@[simp] theorem inside_call :
    (call tree opening trees closing).Inside holds ↔
      tree.Everywhere holds ∧ EverywhereOf holds trees := by
  simp [Inside, Everywhere, EverywhereOf, subtrees, or_imp, forall_and]

/-- Inside a subscript are its value and elements. -/
@[simp] theorem inside_subscript :
    (subscript tree opening trees closing).Inside holds ↔
      tree.Everywhere holds ∧ EverywhereOf holds trees := by
  simp [Inside, Everywhere, EverywhereOf, subtrees, or_imp, forall_and]

/-- Inside parentheses is what they enclose. -/
@[simp] theorem inside_grouped :
    (grouped opening tree closing).Inside holds ↔ tree.Everywhere holds := Iff.rfl

/-- Inside a formatted string are its parts. -/
@[simp] theorem inside_formatted :
    (formatted opening trees closing).Inside holds ↔ EverywhereOf holds trees := Iff.rfl

/-- There is nothing in no trees. -/
@[simp] theorem everywhereOf_nil : EverywhereOf holds [] := by
  simp [EverywhereOf, subtreesOf]

/-- Everywhere in several trees is everywhere in the first and in the others. -/
@[simp] theorem everywhereOf_cons :
    EverywhereOf holds (tree :: trees) ↔ tree.Everywhere holds ∧ EverywhereOf holds trees := by
  simp [Everywhere, EverywhereOf, subtreesOf, or_imp, forall_and]

/-- Everywhere in several trees is everywhere in each. -/
theorem everywhereOf_iff :
    EverywhereOf holds trees ↔ ∀ tree ∈ trees, tree.Everywhere holds := by
  induction trees with
  | nil => simp
  | cons tree rest ih => simp [ih]

end Constructors

end Outdent.Source.Tree

namespace Outdent.Marker

open Source Template

/-! ## Markers behind blanks -/

/-- The test of candidates, if there is one, does not look at what stands in front of them. -/
def Config.Blind (config : Config) : Prop :=
  ∀ test, config.predicate = some test → ∀ tree other, test (tree.withLead other) = test tree

variable {config : Config}

/-- Names do not look at what stands in front of a candidate. -/
theorem Config.blind_of_names (named : config.predicate = none) : config.Blind := by
  intro test found
  rw [named] at found
  cases found

/-- What stands in front of a name does not matter. -/
theorem isNamed_withLead (name : Text) (tree : Tree) (other : Lexeme) :
    isNamed name (tree.withLead other) = isNamed name tree := by
  cases tree with
  | call callee opening arguments closing =>
    rw [Tree.withLead]
    split <;> rfl
  | subscript value opening elements closing =>
    rw [Tree.withLead]
    split <;> rfl
  | token | node | grouped | formatted => rfl

/-- What stands in front of a candidate does not matter. -/
theorem Config.Blind.isMarker_withLead (blind : config.Blind) (tree : Tree) (other : Lexeme) :
    config.isMarker (tree.withLead other) = config.isMarker tree := by
  unfold Config.isMarker
  split
  · rename_i test found
    exact blind test found tree other
  · simp only [isNamed_withLead]

/-- What a call carries depends on its arguments, and on its callee as far as that is a marker. -/
theorem carried?_call {callee other : Tree} (same : config.isMarker callee = config.isMarker other)
    (opening next : Lexeme) (arguments : List Tree) (closing : Lexeme) :
    carried? config (.call callee opening arguments closing) =
      carried? config (.call other next arguments closing) := by
  cases arguments with
  | nil => rfl
  | cons argument others =>
    simp only [carried?, classify]
    cases isPositional argument with
    | false => rfl
    | true => simp only [↓reduceIte, same]

/-- What a subscript carries depends on its elements, and on its value as far as that is a marker.
-/
theorem carried?_subscript {value other : Tree}
    (same : config.isMarker value = config.isMarker other) (opening next : Lexeme)
    (elements : List Tree) (closing : Lexeme) :
    carried? config (.subscript value opening elements closing) =
      carried? config (.subscript other next elements closing) := by
  simp only [carried?, classify]
  cases soleTemplate? elements with
  | none => rfl
  | some literal => simp only [same]

/-- What stands in front of a tree does not make it a marker. -/
theorem isOpen_withLead (blind : config.Blind) (tree : Tree) (other : Lexeme) :
    isOpen config (tree.withLead other) = isOpen config tree := by
  cases tree with
  | call callee opening arguments closing =>
    have head := blind.isMarker_withLead callee other
    rw [Tree.withLead, isOpen, isOpen]
    split
    · rw [carried?_call rfl]
    · rw [carried?_call head]
  | subscript value opening elements closing =>
    have head := blind.isMarker_withLead value other
    rw [Tree.withLead, isOpen, isOpen]
    split
    · rw [carried?_subscript rfl]
    · rw [carried?_subscript head]
  | token | node | grouped | formatted => rfl

/-! ## Rest -/

/-- There is nothing to do at a tree itself: it is no marker that can be rewritten, and no node that
is refused. -/
def Rests (config : Config) : Tree → Prop
  | .node shape children => config.check.refuses shape children = false
  | tree => isOpen config tree = false

/-- A tree with nothing to do is no marker that can be rewritten. -/
theorem Rests.isOpen {tree : Tree} (rests : Rests config tree) : isOpen config tree = false := by
  cases tree with
  | node => rfl
  | token | call | subscript | grouped | formatted => exact rests

/-- Blanks in front of a tree give it nothing to do. -/
theorem Rests.withLead (blind : config.Blind) {tree : Tree} (rests : Rests config tree)
    (other : Lexeme) : Rests config (tree.withLead other) := by
  cases tree with
  | node shape children =>
    exact (config.check.refuses_withLeadFirst shape other children).trans rests
  | call callee opening arguments closing =>
    have same := isOpen_withLead blind (.call callee opening arguments closing) other
    rw [Tree.withLead] at same ⊢
    split
    · rename_i empty
      rw [if_pos empty] at same
      exact same.trans rests
    · rename_i filled
      rw [if_neg filled] at same
      exact same.trans rests
  | subscript value opening elements closing =>
    have same := isOpen_withLead blind (.subscript value opening elements closing) other
    rw [Tree.withLead] at same ⊢
    split
    · rename_i empty
      rw [if_pos empty] at same
      exact same.trans rests
    · rename_i filled
      rw [if_neg filled] at same
      exact same.trans rests
  | token | grouped | formatted => exact rests

mutual

/-- A tree at rest is at rest behind other blanks. -/
theorem rests_withLead (blind : config.Blind) {tree : Tree}
    (rests : tree.Everywhere (Rests config)) (other : Lexeme) :
    (tree.withLead other).Everywhere (Rests config) := by
  obtain ⟨here, inside⟩ := (Tree.everywhere_iff tree).mp rests
  refine (Tree.everywhere_iff _).mpr ⟨here.withLead blind other, ?_⟩
  cases tree with
  | token lexeme => exact Tree.inside_token _
  | node shape children =>
    rw [Tree.inside_node] at inside
    rw [Tree.withLead, Tree.inside_node]
    exact rests_withLeadFirst blind inside other
  | call callee opening arguments closing =>
    rw [Tree.inside_call] at inside
    rw [Tree.withLead]
    split
    · exact (Tree.inside_call _ _ _ _).mpr inside
    · exact (Tree.inside_call _ _ _ _).mpr ⟨rests_withLead blind inside.1 other, inside.2⟩
  | subscript value opening elements closing =>
    rw [Tree.inside_subscript] at inside
    rw [Tree.withLead]
    split
    · exact (Tree.inside_subscript _ _ _ _).mpr inside
    · exact (Tree.inside_subscript _ _ _ _).mpr ⟨rests_withLead blind inside.1 other, inside.2⟩
  | grouped opening inner closing => exact inside
  | formatted opening parts closing => exact inside

/-- Several trees at rest are at rest behind other blanks. -/
theorem rests_withLeadFirst (blind : config.Blind) {trees : List Tree}
    (rests : Tree.EverywhereOf (Rests config) trees) (other : Lexeme) :
    Tree.EverywhereOf (Rests config) (Tree.withLeadFirst other trees) := by
  cases trees with
  | nil => exact rests
  | cons tree rest =>
    rw [Tree.everywhereOf_cons] at rests
    rw [Tree.withLeadFirst]
    split
    · exact (Tree.everywhereOf_cons _ _).mpr
        ⟨rests.1, rests_withLeadFirst blind rests.2 other⟩
    · exact (Tree.everywhereOf_cons _ _).mpr ⟨rests_withLead blind rests.1 other, rests.2⟩

end

/-- A tree at rest is at rest in the place of another. -/
theorem rests_inPlaceOf (blind : config.Blind) {tree : Tree}
    (rests : tree.Everywhere (Rests config)) (old : Tree) :
    (inPlaceOf old tree).Everywhere (Rests config) := by
  unfold inPlaceOf
  split
  · exact rests_withLead blind rests _
  · exact rests

/-! ## A second walk -/

/-- A walk spares a tree: it does not rewrite the tree unless it changes the parts. -/
def Spares (config : Config) (tree : Tree) : Prop :=
  walked config tree = tree → isRewritten config tree = false

mutual

/-- A tree stays if everything in it is spared. -/
theorem visit_of_spares (around : Parentheses) {tree : Tree}
    (spares : tree.Everywhere (Spares config)) : (visit config around tree).1 = tree := by
  obtain ⟨here, inside⟩ := (Tree.everywhere_iff tree).mp spares
  have still := walked_of_spares inside
  obtain ⟨_, same⟩ | ⟨rewritten, _⟩ := visit_cases config around tree
  · rw [same, still]
  · exact absurd ((here still).symm.trans rewritten) Bool.false_ne_true

/-- The parts of a tree stay if everything inside it is spared. -/
theorem walked_of_spares {tree : Tree} (inside : tree.Inside (Spares config)) :
    walked config tree = tree := by
  cases tree with
  | token lexeme => rfl
  | node shape children =>
    rw [walked, visitAll_of_spares ((Tree.inside_node _ _).mp inside)]
  | call callee opening arguments closing =>
    obtain ⟨head, behind⟩ := (Tree.inside_call _ _ _ _).mp inside
    rw [walked, visit_of_spares [] head, visitAll_of_spares behind]
  | subscript value opening elements closing =>
    obtain ⟨head, behind⟩ := (Tree.inside_subscript _ _ _ _).mp inside
    rw [walked, visit_of_spares [] head, visitAll_of_spares behind]
  | grouped opening inner closing =>
    rw [walked, visit_of_spares [] ((Tree.inside_grouped _ _ _).mp inside)]
  | formatted opening parts closing =>
    rw [walked, visitAll_of_spares ((Tree.inside_formatted _ _ _).mp inside)]

/-- Several trees stay if everything in them is spared. -/
theorem visitAll_of_spares {trees : List Tree}
    (spares : Tree.EverywhereOf (Spares config) trees) : (visitAll config trees).1 = trees := by
  cases trees with
  | nil => rfl
  | cons tree rest =>
    rw [Tree.everywhereOf_cons] at spares
    rw [visitAll]
    simp only [visit_of_spares [] spares.1, visitAll_of_spares spares.2]

end

/-- A tree with nothing to do is spared. -/
theorem Rests.spares {tree : Tree} (rests : Rests config tree) : Spares config tree := by
  intro still
  rw [isRewritten_eq, still, rests.isOpen, Bool.and_false]

/-- A tree at rest stays. -/
theorem visit_of_rests (around : Parentheses) {tree : Tree}
    (rests : tree.Everywhere (Rests config)) : (visit config around tree).1 = tree :=
  visit_of_spares around fun inner within => (rests inner within).spares

/-- Nothing is reported of a tree at rest: no marker is rewritten, and no node is refused. -/
theorem quiet_of_rests (around : Parentheses) {tree : Tree}
    (rests : tree.Everywhere (Rests config)) :
    Finding.outdentedCount (visit config around tree).2 = 0 ∧
      .refused ∉ (visit config around tree).2 := by
  have inner : ∀ inner ∈ tree.subtrees, inner.Everywhere (Rests config) :=
    fun inner within other among => rests other (Tree.mem_subtrees_trans among tree within)
  constructor
  · rw [outdentedCount_visit, List.length_eq_zero_iff]
    refine List.filter_eq_nil_iff.mpr fun marker within => ?_
    obtain ⟨here, inside⟩ := (Tree.everywhere_iff marker).mp (inner marker within)
    have still := walked_of_spares fun part among => (inside part among).spares
    rw [here.spares still]
    exact Bool.false_ne_true
  · rw [refused_mem_visit]
    rintro ⟨shape, children, within, fails⟩
    obtain ⟨here, inside⟩ := (Tree.everywhere_iff _).mp (inner _ within)
    have still := visitAll_of_spares fun part among =>
      ((Tree.inside_node _ _).mp inside part among).spares
    rw [still] at fails
    exact Bool.false_ne_true (here.symm.trans fails)

/-! ## Rewritten templates -/

/-- Only a candidate that is open in its parentheses is open. -/
theorem rests_grouped {inner : Tree} (opening closing : Lexeme)
    (rests : inner.Everywhere (Rests config)) :
    (Tree.grouped opening inner closing).Everywhere (Rests config) := by
  refine (Tree.everywhere_iff _).mpr ⟨?_, (Tree.inside_grouped _ _ _).mpr rests⟩
  have here := ((Tree.everywhere_iff inner).mp rests).1
  exact here.isOpen

/-- A lexeme is at rest. -/
theorem rests_token (lexeme : Lexeme) : (Tree.token lexeme).Everywhere (Rests config) :=
  (Tree.everywhere_iff _).mpr ⟨rfl, Tree.inside_token _⟩

/-- A literal at rest is at rest when its lines are outdented: its replacement fields stay. -/
theorem rests_outdentLiteral {trims : Trims} {form : Template.Form} {literal edited : Tree}
    (rests : literal.Everywhere (Rests config)) (found : form? literal = some form)
    (written : outdentLiteral trims form literal = .ok edited) :
    edited.Everywhere (Rests config) := by
  fun_induction form? literal generalizing edited with
  | case1 lexeme kind =>
    obtain ⟨text, rfl⟩ := outdentLiteral_token written
    exact rests_token _
  | case2 => cases found
  | case3 opening parts closing =>
    obtain ⟨texts, woven, inside, rfl⟩ := outdentLiteral_formatted written
    have among := ((Tree.everywhere_iff _).mp rests).2
    rw [Tree.inside_formatted, Tree.everywhereOf_iff] at among
    refine (Tree.everywhere_iff _).mpr ⟨rfl, ?_⟩
    rw [Tree.inside_formatted, Tree.everywhereOf_iff]
    intro part member
    obtain field | ⟨text, -, rfl⟩ := mem_weave inside member
    · exact among part (List.mem_filter.mp field).1
    · exact rests_token _
  | case4 opening inner closing ih =>
    obtain ⟨other, inside, rfl⟩ := outdentLiteral_grouped written
    have among := ((Tree.everywhere_iff _).mp rests).2
    exact rests_grouped _ _ (ih ((Tree.inside_grouped _ _ _).mp among) found inside)
  | case5 => cases found

/-- A template at rest is at rest when its lines are outdented. -/
theorem rests_outdented {trims : Trims} {literal edited : Tree}
    (rests : literal.Everywhere (Rests config)) (done : outdented trims literal = .ok edited) :
    edited.Everywhere (Rests config) := by
  obtain ⟨form, template, written⟩ := outdented_eq_ok done
  exact rests_outdentLiteral rests (Option.filter_eq_some_iff.mp template).1 written

/-- A subscript at rest of a template that can be outdented has a tag that is no marker, and is at
rest with any other element at rest. -/
theorem rests_subscript {tag literal edited new : Tree} {opening closing : Lexeme}
    (rests : (Tree.subscript tag opening [literal] closing).Everywhere (Rests config))
    (done : outdented config.trims literal = .ok edited)
    (element : new.Everywhere (Rests config)) :
    (Tree.subscript tag opening [new] closing).Everywhere (Rests config) := by
  obtain ⟨here, inside⟩ := (Tree.everywhere_iff _).mp rests
  have template : isTemplate literal = true := by
    obtain ⟨form, found, _⟩ := outdented_eq_ok done
    rw [isTemplate, found]
    rfl
  have unmarked : config.isMarker tag = false := by
    cases marker : config.isMarker tag with
    | false => rfl
    | true =>
      have isOpen := here.isOpen
      simp [Marker.isOpen, carried?, classify, soleTemplate?, template, marker, done,
        Except.isOk, Except.toBool] at isOpen
  rw [Tree.inside_subscript] at inside
  refine (Tree.everywhere_iff _).mpr ⟨?_, ?_⟩
  · simp only [Rests, Marker.isOpen, carried?, classify]
    cases soleTemplate? [new] with
    | none => rfl
    | some other => simp [unmarked]
  · rw [Tree.inside_subscript, Tree.everywhereOf_cons]
    exact ⟨inside.1, element, Tree.everywhereOf_nil⟩

/-- An argument at rest is at rest with its template outdented. -/
theorem Carries.rests (blind : config.Blind) {literal edited argument other : Tree}
    (carries : Carries literal edited argument other)
    (rests : argument.Everywhere (Rests config))
    (done : outdented config.trims literal = .ok edited) : other.Everywhere (Rests config) := by
  induction carries with
  | template => exact rests_outdented rests done
  | subscript tag opening closing =>
    have inside := ((Tree.everywhere_iff _).mp rests).2
    rw [Tree.inside_subscript, Tree.everywhereOf_cons] at inside
    exact rests_subscript rests done
      (rests_inPlaceOf blind (rests_outdented inside.2.1 done) literal)
  | grouped opening closing within ih =>
    have inside := ((Tree.everywhere_iff _).mp rests).2
    exact rests_grouped _ _ (ih ((Tree.inside_grouped _ _ _).mp inside))

/-- What takes the place of a marker is at rest if the parts of the marker are. -/
theorem Rewrites.rests (blind : config.Blind) {updated result : Tree}
    (rewrites : Rewrites config updated result) (unkept : config.keepsMarker = false)
    (single : hasMoreArguments updated = false) (inside : updated.Inside (Rests config)) :
    result.Everywhere (Rests config) := by
  cases rewrites with
  | call marker carries done stays =>
    rw [hasMoreArguments_call] at single
    obtain keeps | more := stays
    · exact absurd (unkept.symm.trans keeps) Bool.false_ne_true
    · simp [more] at single
  | unwrappedCall marker carries done unkept alone =>
    rw [Tree.inside_call, Tree.everywhereOf_cons] at inside
    exact rests_inPlaceOf blind ((carries_rebuild _ carries).rests blind inside.2.1 done) _
  | subscript marker template done keeps =>
    exact absurd (unkept.symm.trans keeps) Bool.false_ne_true
  | unwrappedSubscript marker template done unkept =>
    rw [Tree.inside_subscript, Tree.everywhereOf_cons] at inside
    exact rests_inPlaceOf blind (rests_outdented inside.2.1 done) _

/-! ## One walk -/

/-- A walk gives a marker up if it rewrites it, and a node with the parts that it then has passes. -/
def Clears (config : Config) : Tree → Prop
  | .node shape children => config.check.refuses shape (visitAll config children).1 = false
  | tree => isRewritten config tree = true → hasMoreArguments tree = false

mutual

/-- A walk that gives up the markers that it rewrites, and after which no node is refused, comes to
a tree at rest. -/
theorem rests_visit (blind : config.Blind) (unkept : config.keepsMarker = false)
    (around : Parentheses) {tree : Tree} (clears : tree.Everywhere (Clears config)) :
    (visit config around tree).1.Everywhere (Rests config) := by
  obtain ⟨here, clears⟩ := (Tree.everywhere_iff tree).mp clears
  have inside := rests_walked blind unkept clears
  obtain ⟨stays, same⟩ | ⟨rewritten, rewrites⟩ := visit_cases config around tree
  · rw [same]
    refine (Tree.everywhere_iff _).mpr ⟨?_, inside⟩
    cases tree with
    | node shape children => exact here
    | call callee opening arguments closing =>
      rw [isRewritten_eq] at stays
      exact stays
    | subscript value opening elements closing =>
      rw [isRewritten_eq] at stays
      exact stays
    | grouped opening inner closing =>
      rw [walked, Tree.inside_grouped] at inside
      exact ((Tree.everywhere_iff _).mp (rests_grouped opening closing inside)).1
    | token | formatted => rfl
  · refine rewrites.rests blind unkept ?_ inside
    rw [hasMoreArguments_walked]
    cases tree with
    | node => cases rewritten
    | token | call | subscript | grouped | formatted => exact here rewritten

/-- The parts of a tree come to rest. -/
theorem rests_walked (blind : config.Blind) (unkept : config.keepsMarker = false) {tree : Tree}
    (clears : tree.Inside (Clears config)) : (walked config tree).Inside (Rests config) := by
  cases tree with
  | token lexeme => exact Tree.inside_token _
  | node shape children =>
    rw [Tree.inside_node] at clears
    rw [walked, Tree.inside_node]
    exact rests_visitAll blind unkept clears
  | call callee opening arguments closing =>
    rw [Tree.inside_call] at clears
    rw [walked, Tree.inside_call]
    exact ⟨rests_visit blind unkept [] clears.1, rests_visitAll blind unkept clears.2⟩
  | subscript value opening elements closing =>
    rw [Tree.inside_subscript] at clears
    rw [walked, Tree.inside_subscript]
    exact ⟨rests_visit blind unkept [] clears.1, rests_visitAll blind unkept clears.2⟩
  | grouped opening inner closing =>
    rw [Tree.inside_grouped] at clears
    rw [walked, Tree.inside_grouped]
    exact rests_visit blind unkept [] clears
  | formatted opening parts closing =>
    rw [Tree.inside_formatted] at clears
    rw [walked, Tree.inside_formatted]
    exact rests_visitAll blind unkept clears

/-- Several trees come to rest. -/
theorem rests_visitAll (blind : config.Blind) (unkept : config.keepsMarker = false)
    {trees : List Tree} (clears : Tree.EverywhereOf (Clears config) trees) :
    Tree.EverywhereOf (Rests config) (visitAll config trees).1 := by
  cases trees with
  | nil => exact Tree.everywhereOf_nil
  | cons tree rest =>
    rw [Tree.everywhereOf_cons] at clears
    rw [visitAll, Tree.everywhereOf_cons]
    exact ⟨rests_visit blind unkept [] clears.1, rests_visitAll blind unkept clears.2⟩

end

/-- One walk that gives up markers is final. If it comes to a tree, because no node is refused, and
if no marker that it rewrites has more than one argument, then a second walk over that tree changes
nothing, rewrites no marker and finds no node that is refused either. -/
theorem settleAll_final (tree : Tree) (unkept : config.keepsMarker = false) (blind : config.Blind)
    (single : ∀ marker ∈ tree.subtrees, isRewritten config marker = true →
      hasMoreArguments marker = false)
    (apart : .refused ∉ (settleAll config tree).2) :
    (settleAll config (settleAll config tree).1).1 = (settleAll config tree).1 ∧
      Finding.outdentedCount (settleAll config (settleAll config tree).1).2 = 0 ∧
      .refused ∉ (settleAll config (settleAll config tree).1).2 := by
  have clears : tree.Everywhere (Clears config) := by
    intro inner within
    cases inner with
    | node shape children =>
      refine Bool.eq_false_iff.mpr fun fails => apart ?_
      exact (refused_mem_visit config [] tree).mpr ⟨shape, children, within, fails⟩
    | token | call | subscript | grouped | formatted => exact single _ within
  have rests := rests_visit blind unkept [] clears
  exact ⟨visit_of_rests [] rests, quiet_of_rests [] rests⟩

/-- Of two markers around a tag both are given up; a marker of a value that is no template, and one
of a raw literal that would end in a backslash, are skipped in both walks. -/
theorem settleAll_final_nested :
    ∃ tree,
      parse? "x = dedent(dedent(sql['''\n  a\n    b''']))\ny = dedent(z), dedent(r'''c\\\n''')\n" =
        some tree ∧
      ({} : Config).keepsMarker = false ∧ Config.Blind {} ∧
      (∀ marker ∈ tree.subtrees, isRewritten {} marker = true → hasMoreArguments marker = false) ∧
      .refused ∉ (settleAll {} tree).2 ∧
      (settleAll {} tree).1.written =
        "x = sql['''a\nb''']\ny = dedent(z), dedent(r'''c\\\n''')\n".toList ∧
      (settleAll {} (settleAll {} tree).1).1 = (settleAll {} tree).1 ∧
      Finding.outdentedCount (settleAll {} (settleAll {} tree).1).2 = 0 := by
  have found : ((parse? ("x = dedent(dedent(sql['''\n  a\n    b''']))\n" ++
      "y = dedent(z), dedent(r'''c\\\n''')\n")).any fun tree =>
        (tree.subtrees.all fun marker => !isRewritten {} marker || !hasMoreArguments marker) &&
          !(settleAll {} tree).2.contains .refused &&
          (settleAll {} tree).1.written ==
            "x = sql['''a\nb''']\ny = dedent(z), dedent(r'''c\\\n''')\n".toList) = true := by
    decide +kernel
  rw [Option.any_eq_true] at found
  obtain ⟨tree, parsed, found⟩ := found
  simp only [Bool.and_eq_true, List.all_eq_true, Bool.or_eq_true, Bool.not_eq_true',
    beq_iff_eq] at found
  obtain ⟨⟨single, apart⟩, written⟩ := found
  have single : ∀ marker ∈ tree.subtrees, isRewritten {} marker = true →
      hasMoreArguments marker = false := by
    intro marker within rewritten
    obtain still | alone := single marker within
    · exact absurd (still.symm.trans rewritten) Bool.false_ne_true
    · exact alone
  have apart : .refused ∉ (settleAll {} tree).2 := by
    rw [← List.contains_iff_mem, apart]
    exact Bool.false_ne_true
  have blind : Config.Blind {} := Config.blind_of_names rfl
  have final := settleAll_final tree rfl blind single apart
  exact ⟨tree, parsed, rfl, blind, single, apart, written, final.1, final.2.1⟩

end Outdent.Marker
