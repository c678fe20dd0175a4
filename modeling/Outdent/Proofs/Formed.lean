import Outdent.Proofs.Fronts

/-!
# Formed trees

In the tree of a source a plain string literal encloses its body, and between the quotes of a
formatted one there are only literal text and replacement fields. A walk keeps it so. Main
statements: `allFormed_of_parse?` and `allFormed_visit`.
-/
namespace Outdent.Source

open Template

namespace Tree

/-- Is a tree literal text or a node, as the parts of a formatted string are? -/
def IsPart : Tree → Prop
  | token _ => True
  | node _ _ => True
  | _ => False

/-- A plain string literal encloses its body, and a formatted one has parts. -/
def Formed : Tree → Prop
  | token lexeme => lexeme.kind = .string →
    ∃ (form : Form) (body : Text), form.isFormatted = false ∧ form.Encloses body lexeme.text
  | formatted _ parts _ => ∀ part ∈ parts, part.IsPart
  | _ => True

/-- Every tree in a tree is formed. -/
def AllFormed (tree : Tree) : Prop := ∀ inner ∈ tree.subtrees, inner.Formed

/-- Every tree in several trees is formed. -/
def AreFormed (trees : List Tree) : Prop := ∀ inner ∈ subtreesOf trees, inner.Formed

section Constructors

variable (tree : Tree) (trees : List Tree) (opening closing : Lexeme)

/-- A lexeme has only itself to be formed. -/
@[simp] theorem allFormed_token (lexeme : Lexeme) :
    (token lexeme).AllFormed ↔ (token lexeme).Formed := by
  simp [AllFormed, subtrees]

/-- A node is formed throughout if its parts are. -/
@[simp] theorem allFormed_node (shape : Shape) :
    (node shape trees).AllFormed ↔ AreFormed trees := by
  simp [AllFormed, AreFormed, subtrees, Formed]

/-- A call is formed throughout if its parts are. -/
@[simp] theorem allFormed_call :
    (call tree opening trees closing).AllFormed ↔ tree.AllFormed ∧ AreFormed trees := by
  simp [AllFormed, AreFormed, subtrees, Formed, or_imp, forall_and]

/-- A subscript is formed throughout if its parts are. -/
@[simp] theorem allFormed_subscript :
    (subscript tree opening trees closing).AllFormed ↔ tree.AllFormed ∧ AreFormed trees := by
  simp [AllFormed, AreFormed, subtrees, Formed, or_imp, forall_and]

/-- Parentheses do not matter. -/
@[simp] theorem allFormed_grouped :
    (grouped opening tree closing).AllFormed ↔ tree.AllFormed := by
  simp [AllFormed, subtrees, Formed]

/-- A formatted string is formed throughout if it has parts and they are. -/
@[simp] theorem allFormed_formatted :
    (formatted opening trees closing).AllFormed ↔
      (∀ part ∈ trees, part.IsPart) ∧ AreFormed trees := by
  simp [AllFormed, AreFormed, subtrees, Formed]

/-- No trees are formed. -/
@[simp] theorem areFormed_nil : AreFormed [] := by
  simp [AreFormed, subtreesOf]

/-- Trees are formed throughout if each is. -/
@[simp] theorem areFormed_cons :
    AreFormed (tree :: trees) ↔ tree.AllFormed ∧ AreFormed trees := by
  simp [AllFormed, AreFormed, subtreesOf, or_imp, forall_and]

/-- Trees are formed throughout if each is. -/
theorem areFormed_iff : AreFormed trees ↔ ∀ tree ∈ trees, tree.AllFormed := by
  induction trees with
  | nil => simp
  | cons tree rest ih => simp [ih]

/-- A tree that is not built as a formatted string is formed as far as it is concerned. -/
theorem formed_build {shape : Shape} (other : shape ≠ .formatted) (children : List Tree) :
    (build shape children).Formed := by
  unfold build
  split
  · split <;> simp [Formed]
  · split <;> simp [Formed]
  · simp [Formed]
  · exact absurd rfl other
  · simp [Formed]

end Constructors

mutual

/-- What stands in front of a tree does not matter. -/
theorem AllFormed.withLead {tree : Tree} (formed : tree.AllFormed) (other : Lexeme) :
    (tree.withLead other).AllFormed := by
  cases tree with
  | token lexeme => exact allFormed_token _ |>.mpr (allFormed_token lexeme |>.mp formed)
  | node shape children =>
    rw [allFormed_node] at formed
    rw [Tree.withLead, allFormed_node]
    exact formed.withLeadFirst other
  | call callee opening arguments closing =>
    rw [allFormed_call] at formed
    rw [Tree.withLead]
    split
    · exact (allFormed_call _ _ _ _).mpr formed
    · exact (allFormed_call _ _ _ _).mpr ⟨formed.1.withLead other, formed.2⟩
  | subscript value opening elements closing =>
    rw [allFormed_subscript] at formed
    rw [Tree.withLead]
    split
    · exact (allFormed_subscript _ _ _ _).mpr formed
    · exact (allFormed_subscript _ _ _ _).mpr ⟨formed.1.withLead other, formed.2⟩
  | grouped opening inner closing => rwa [Tree.withLead, allFormed_grouped, ← allFormed_grouped]
  | formatted opening parts closing =>
    rwa [Tree.withLead, allFormed_formatted, ← allFormed_formatted]

/-- The same for the first of several trees. -/
theorem AreFormed.withLeadFirst {trees : List Tree} (formed : AreFormed trees) (other : Lexeme) :
    AreFormed (Tree.withLeadFirst other trees) := by
  cases trees with
  | nil => exact formed
  | cons tree rest =>
    rw [areFormed_cons] at formed
    rw [Tree.withLeadFirst]
    split
    · exact (areFormed_cons _ _).mpr ⟨formed.1, formed.2.withLeadFirst other⟩
    · exact (areFormed_cons _ _).mpr ⟨formed.1.withLead other, formed.2⟩

end

end Tree

/-- Between the quotes of a formatted string there are only literal text and nodes. -/
theorem Pattern.Matches.isPart {lexemes rest : List Lexeme} {parts : List Tree}
    (found : Matches grammar Source.literalParts lexemes parts rest) :
    ∀ part ∈ parts, part.IsPart := by
  generalize same : Source.literalParts = pattern at found
  -- One step of the induction is one repetition: a stretch of literal text or a replacement field.
  induction found with
  | none => simp
  | @more _ _ _ _ trees _ before after _ ih =>
    obtain rfl := (Pattern.many.inj same).symm
    have first : ∀ part ∈ trees, part.IsPart := by
      cases before with
      | left inner =>
        obtain ⟨lexeme, _, rfl, _⟩ := lexeme_of_kind inner
        simp [Tree.IsPart]
      | right inner =>
        obtain ⟨children, rfl⟩ := node_of_field inner
        simp [Tree.IsPart]
    intro part member
    obtain member | member := List.mem_append.mp member
    · exact first part member
    · exact ih rfl part member
  | _ => exact nomatch same

/-- A formatted string is formed. -/
theorem Pattern.Matches.formed {lexemes rest : List Lexeme} {trees : List Tree}
    (found : Matches grammar Source.formattedParts lexemes trees rest) :
    (Tree.build .formatted trees).Formed := by
  unfold Source.formattedParts at found
  cases found with
  | both before after =>
    obtain ⟨opening, rfl, rfl, _⟩ := lexeme_of_kind before
    cases after with
    | both parts last =>
      obtain ⟨closing, rfl, rfl, _⟩ := lexeme_of_kind last
      simp only [Tree.build, List.singleton_append, Tree.closed?_append]
      exact parts.isPart

/-- The trees in the tree of a source are formed. -/
theorem allFormed_of_parse? {text : Text} {tree : Tree} (parsed : parse? text = some tree) :
    tree.AllFormed := by
  refine forall_subtrees_of_parse? (fun {nests rest lexeme} genuine kind => ?_) Tree.formed_build
    (fun found _ => found.formed) parsed
  simpa [Lexeme.Genuine, kind] using genuine

end Outdent.Source

namespace Outdent.Template

open Source

/-! ## Written literals -/

section Written

variable {trims : Trims} {form : Form} {edited : Tree}

/-- The parts that texts are woven into are the fields and literal text, which is not empty. -/
theorem mem_weave {texts : List Text} {fields parts : List Tree}
    (woven : weave texts fields = some parts) {part : Tree} (member : part ∈ parts) :
    part ∈ fields ∨ ∃ text, text ≠ [] ∧ part = .token ⟨.literalText, [], [], text⟩ := by
  have ofTexts : ∀ {text : Text}, part ∈ textParts text →
      ∃ text, text ≠ [] ∧ part = .token ⟨.literalText, [], [], text⟩ := by
    intro text member
    unfold textParts at member
    split at member
    · simp at member
    · rename_i filled
      exact ⟨text, fun empty => filled (List.isEmpty_iff.mpr empty), List.mem_singleton.mp member⟩
  induction fields generalizing texts parts with
  | nil =>
    cases texts with
    | nil => simp [weave] at woven
    | cons text rest =>
      obtain rfl := Option.some.inj woven
      exact Or.inr (ofTexts member)
  | cons field others ih =>
    cases texts with
    | nil => simp [weave] at woven
    | cons text rest =>
      obtain ⟨behind, inside, rfl⟩ := Option.map_eq_some_iff.mp woven
      obtain member | member := List.mem_append.mp member
      · exact Or.inr (ofTexts member)
      · obtain rfl | member := List.mem_cons.mp member
        · exact Or.inl List.mem_cons_self
        · exact (ih inside member).imp_left (.tail _)

/-- A formed literal is formed when its lines are outdented. -/
theorem allFormed_outdentLiteral {literal : Tree} (formed : literal.AllFormed)
    (found : form? literal = some form)
    (written : outdentLiteral trims form literal = .ok edited) : edited.AllFormed := by
  fun_induction form? literal generalizing edited with
  | case1 lexeme kind =>
    obtain ⟨other, body, plain, encloses⟩ := (Tree.allFormed_token lexeme).mp formed kind
    -- The form that the text opens with is the one that encloses its body.
    obtain rfl := Option.some.inj (encloses.ofOpening?.symm.trans found)
    have literal : (Tree.token lexeme).IsLiteral other := ⟨kind, body, encloses⟩
    have again := (isLiteral_of_outdentLiteral literal written).1
    obtain ⟨text, rfl⟩ := outdentLiteral_token written
    rw [Tree.allFormed_token]
    exact fun _ => ⟨other, again.2.choose, plain, again.2.choose_spec⟩
  | case2 => simp at found
  | case3 opening parts closing =>
    obtain ⟨texts, woven, inside, rfl⟩ := outdentLiteral_formatted written
    rw [Tree.allFormed_formatted, Tree.areFormed_iff] at formed ⊢
    have field : ∀ part ∈ fields parts, part ∈ parts := fun part member =>
      (List.mem_filter.mp member).1
    constructor
    · intro part member
      obtain member | ⟨text, -, rfl⟩ := mem_weave inside member
      · exact formed.1 part (field part member)
      · trivial
    · intro part member
      obtain member | ⟨text, -, rfl⟩ := mem_weave inside member
      · exact formed.2 part (field part member)
      · rw [Tree.allFormed_token]
        intro kind
        cases kind
  | case4 opening inner closing ih =>
    obtain ⟨other, inside, rfl⟩ := outdentLiteral_grouped written
    rw [Tree.allFormed_grouped] at formed ⊢
    exact ih formed found inside
  | case5 => simp at found

end Written

end Outdent.Template

namespace Outdent.Marker

open Source Template

variable {config : Config}

/-! ## Walks -/

/-- A rewritten template is formed. -/
theorem allFormed_outdented {trims : Trims} {literal edited : Tree} (formed : literal.AllFormed)
    (done : outdented trims literal = .ok edited) : edited.AllFormed := by
  obtain ⟨form, template, written⟩ := outdented_eq_ok done
  exact allFormed_outdentLiteral formed (Option.filter_eq_some_iff.mp template).1 written

/-- A formed tree is formed in the place of another. -/
theorem allFormed_inPlaceOf {tree : Tree} (formed : tree.AllFormed) (old : Tree) :
    (inPlaceOf old tree).AllFormed := by
  unfold inPlaceOf
  split
  · exact formed.withLead _
  · exact formed

/-- A formed argument is formed with another template in the place of the one that it carries. -/
theorem Carries.allFormed {literal edited argument other : Tree}
    (carries : Carries literal edited argument other) (formed : argument.AllFormed)
    (new : literal.AllFormed → edited.AllFormed) : other.AllFormed := by
  induction carries with
  | template => exact new formed
  | subscript tag opening closing =>
    rw [Tree.allFormed_subscript, Tree.areFormed_cons] at formed ⊢
    exact ⟨formed.1, allFormed_inPlaceOf (new formed.2.1) _, Tree.areFormed_nil⟩
  | grouped opening closing inside ih =>
    rw [Tree.allFormed_grouped] at formed ⊢
    exact ih formed

/-- A formed marker is rewritten to a formed tree. -/
theorem Rewrites.allFormed {updated result : Tree} (rewrites : Rewrites config updated result)
    (formed : updated.AllFormed) : result.AllFormed := by
  cases rewrites with
  | call marker carries done stays =>
    rw [Tree.allFormed_call, Tree.areFormed_cons] at formed ⊢
    refine ⟨formed.1, ?_, formed.2.2⟩
    exact (carries_rebuild _ carries).allFormed formed.2.1 fun inner =>
      allFormed_outdented inner done
  | unwrappedCall marker carries done unkept alone =>
    rw [Tree.allFormed_call, Tree.areFormed_cons] at formed
    refine allFormed_inPlaceOf ?_ _
    exact (carries_rebuild _ carries).allFormed formed.2.1 fun inner =>
      allFormed_outdented inner done
  | subscript marker template done stays =>
    rw [Tree.allFormed_subscript, Tree.areFormed_cons] at formed ⊢
    exact ⟨formed.1, allFormed_inPlaceOf (allFormed_outdented formed.2.1 done) _, formed.2.2⟩
  | unwrappedSubscript marker template done unkept =>
    rw [Tree.allFormed_subscript, Tree.areFormed_cons] at formed
    exact allFormed_inPlaceOf (allFormed_outdented formed.2.1 done) _

/-- The parts of a formatted string stay parts. -/
theorem isPart_visit (config : Config) {part : Tree} (isPart : part.IsPart) :
    (visit config [] part).1.IsPart := by
  cases part with
  | token => exact isPart
  | node => exact isPart
  | _ => exact isPart.elim

mutual

/-- The parts of a formed tree stay formed. -/
theorem allFormed_walked (config : Config) {tree : Tree} (formed : tree.AllFormed) :
    (walked config tree).AllFormed := by
  cases tree with
  | token lexeme => exact formed
  | node shape children =>
    rw [Tree.allFormed_node] at formed
    rw [walked, Tree.allFormed_node]
    exact areFormed_visitAll config formed
  | call callee opening arguments closing =>
    rw [Tree.allFormed_call] at formed
    rw [walked, Tree.allFormed_call]
    exact ⟨allFormed_visit config [] formed.1, areFormed_visitAll config formed.2⟩
  | subscript value opening elements closing =>
    rw [Tree.allFormed_subscript] at formed
    rw [walked, Tree.allFormed_subscript]
    exact ⟨allFormed_visit config [] formed.1, areFormed_visitAll config formed.2⟩
  | grouped opening inner closing =>
    rw [Tree.allFormed_grouped] at formed
    rw [walked, Tree.allFormed_grouped]
    exact allFormed_visit config [] formed
  | formatted opening parts closing =>
    rw [Tree.allFormed_formatted] at formed
    rw [walked, Tree.allFormed_formatted]
    refine ⟨fun part member => ?_, areFormed_visitAll config formed.2⟩
    rw [visitAll_eq_map] at member
    obtain ⟨old, among, rfl⟩ := List.mem_map.mp member
    exact isPart_visit config (formed.1 old among)

/-- A walk over a formed tree comes to a formed tree. -/
theorem allFormed_visit (config : Config) (around : Parentheses) {tree : Tree}
    (formed : tree.AllFormed) : (visit config around tree).1.AllFormed := by
  have inside := allFormed_walked config formed
  obtain ⟨_, same⟩ | ⟨_, rewrites⟩ := visit_cases config around tree
  · exact same ▸ inside
  · exact rewrites.allFormed inside

/-- The same for several trees. -/
theorem areFormed_visitAll (config : Config) {trees : List Tree}
    (formed : Tree.AreFormed trees) : Tree.AreFormed (visitAll config trees).1 := by
  cases trees with
  | nil => exact formed
  | cons tree rest =>
    rw [Tree.areFormed_cons] at formed
    rw [visitAll, Tree.areFormed_cons]
    exact ⟨allFormed_visit config [] formed.1, areFormed_visitAll config formed.2⟩

end

end Outdent.Marker
