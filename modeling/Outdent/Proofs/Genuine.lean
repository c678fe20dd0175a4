import Outdent.Proofs.Balance
import Outdent.Source.Parse
import Outdent.Template.Literal

/-!
# Literals in a source

Every string literal in the tree of a source is what it was read as: a plain one is a lexeme that
encloses its body, and a formatted one is closed by the quotes that opened it, which are found right
behind the text after its last replacement field. Main statement: `genuine_of_parse?`.
-/
namespace Outdent.Source

open Template

namespace Tree

mutual

/-- A tree and all trees in it. -/
def subtrees : Tree → List Tree
  | token lexeme => [token lexeme]
  | node shape children => node shape children :: subtreesOf children
  | call callee opening arguments closing =>
    call callee opening arguments closing :: (callee.subtrees ++ subtreesOf arguments)
  | subscript value opening elements closing =>
    subscript value opening elements closing :: (value.subtrees ++ subtreesOf elements)
  | grouped opening inner closing => grouped opening inner closing :: inner.subtrees
  | formatted opening parts closing => formatted opening parts closing :: subtreesOf parts

/-- Several trees and all trees in them. -/
def subtreesOf : List Tree → List Tree
  | [] => []
  | tree :: trees => tree.subtrees ++ subtreesOf trees

end

/-- Nothing stands behind the last replacement field among some parts of a formatted string. -/
def EndsInField (parts : List Tree) : Prop :=
  ∀ part, parts.getLast? = some part → text? part = none

/-- The parts of a formatted string end in a text of its form that nothing closes too early. -/
def EndsStatic (form : Form) (parts : List Tree) : Prop :=
  ∃ front text, parts = front ++ textParts text ∧ EndsInField front ∧ Static form false text ∧
    ending form.delimiter.quote text = .safe

/-- A string literal is what it was read as. -/
def Genuine : Tree → Prop
  | token lexeme => lexeme.kind = .string →
    ∃ (form : Form) (body : Text), form.isFormatted = false ∧ form.Encloses body lexeme.text
  | formatted opening parts closing =>
    ∃ form : Form, Form.ofOpening? opening.text = some form ∧ form.isFormatted = true ∧
      isQuote form.delimiter.quote = true ∧ closing.lead = [] ∧
      closing.text = form.delimiter.text ∧ EndsStatic form parts
  | _ => True

/-- The trees in several trees in two parts. -/
@[simp] theorem subtreesOf_append (left right : List Tree) :
    subtreesOf (left ++ right) = subtreesOf left ++ subtreesOf right := by
  induction left with
  | nil => rfl
  | cons tree rest ih => simp [subtreesOf, ih]

/-- The trees in a built tree are itself and those in its parts. -/
theorem mem_subtrees_build {shape : Shape} {children : List Tree} {tree : Tree}
    (inside : tree ∈ (build shape children).subtrees) :
    tree = build shape children ∨ tree ∈ subtreesOf children := by
  generalize whole : build shape children = built at inside ⊢
  unfold build at whole
  split at whole
  · split at whole
    · rename_i found
      rw [← whole] at inside ⊢
      rw [eq_of_closed? found]
      simp only [subtrees, List.mem_cons, List.mem_append] at inside
      simp only [subtreesOf, subtreesOf_append, subtrees, List.mem_append, List.mem_cons]
      rcases inside with root | callee | arguments
      · exact Or.inl root
      · exact Or.inr (Or.inl callee)
      · exact Or.inr (Or.inr (Or.inr (Or.inl arguments)))
    · rw [← whole] at inside ⊢
      simpa [subtrees] using inside
  · split at whole
    · rename_i found
      rw [← whole] at inside ⊢
      rw [eq_of_closed? found]
      simp only [subtrees, List.mem_cons, List.mem_append] at inside
      simp only [subtreesOf, subtreesOf_append, subtrees, List.mem_append, List.mem_cons]
      rcases inside with root | value | elements
      · exact Or.inl root
      · exact Or.inr (Or.inl value)
      · exact Or.inr (Or.inr (Or.inr (Or.inl elements)))
    · rw [← whole] at inside ⊢
      simpa [subtrees] using inside
  · rw [← whole] at inside ⊢
    simp only [subtrees, List.mem_cons] at inside
    simp only [subtreesOf, subtrees, List.mem_append, List.mem_cons]
    rcases inside with root | inner
    · exact Or.inl root
    · exact Or.inr (Or.inr (Or.inl inner))
  · split at whole
    · rename_i found
      rw [← whole] at inside ⊢
      rw [eq_of_closed? found]
      simp only [subtrees, List.mem_cons] at inside
      simp only [subtreesOf, subtreesOf_append, subtrees, List.mem_append, List.mem_cons]
      rcases inside with root | parts
      · exact Or.inl root
      · exact Or.inr (Or.inr (Or.inl parts))
    · rw [← whole] at inside ⊢
      simpa [subtrees] using inside
  · rw [← whole] at inside ⊢
    simpa [subtrees] using inside

/-- A tree that is not built as a formatted string is genuine as far as it is concerned. -/
theorem genuine_build {shape : Shape} (other : shape ≠ .formatted) (children : List Tree) :
    (build shape children).Genuine := by
  unfold build
  split
  · split <;> simp [Genuine]
  · split <;> simp [Genuine]
  · simp [Genuine]
  · exact absurd rfl other
  · simp [Genuine]

/-- The last lexeme of some trees is split off. -/
theorem closed?_append (before : List Tree) (closing : Lexeme) :
    closed? (before ++ [token closing]) = some (before, closing) := by
  induction before with
  | nil => rfl
  | cons tree rest ih =>
    cases rest with
    | nil => simp [closed?]
    | cons next rest =>
      rw [List.cons_append] at ih
      simp [closed?, ih]

end Tree

namespace Pattern

/-- A lexeme that is asked for by its kind is of that kind. -/
theorem lexeme_of_kind {kind : Kind} {lexemes rest : List Lexeme} {trees : List Tree}
    (found : Matches grammar (Pattern.kind kind) lexemes trees rest) :
    ∃ first, lexemes = first :: rest ∧ trees = [.token first] ∧ first.kind = kind := by
  unfold Pattern.kind at found
  cases found with
  | lexeme accepted => exact ⟨_, rfl, rfl, by simpa [Test.accepts] using accepted⟩

/-- A replacement field is a node. -/
theorem node_of_field {lexemes rest : List Lexeme} {trees : List Tree}
    (found : Matches grammar (.rule .field) lexemes trees rest) :
    ∃ children, trees = [.node .field children] := by
  cases found with
  | rule inner =>
    unfold grammar at inner
    cases inner with
    | shaped inside => exact ⟨_, rfl⟩

/-- The parts that a formatted string is read as end in the text that was read last, and that text
reaches as far as it can. -/
theorem Matches.literalParts {lexemes rest : List Lexeme} {parts : List Tree}
    (found : Matches grammar literalParts lexemes parts rest) {delimiter : Delimiter} {raw : Bool}
    {outer : List Nest} (framed : Framed (.literal delimiter raw :: outer) lexemes) :
    ∃ front text, parts = front ++ textParts text ∧ Tree.EndsInField front ∧
      (text ≠ [] → literalLength ⟨delimiter, raw, false⟩ false (text ++ written rest) =
        some text.length) := by
  generalize same : Source.literalParts = pattern at found
  induction found with
  | none => exact ⟨[], [], rfl, by simp [Tree.EndsInField], by simp⟩
  | more before after _ ih =>
    obtain rfl := (Pattern.many.inj same).symm
    have still : balance (.either (.kind .literalText) (.rule .field)) = some .still := by
      decide +kernel
    obtain ⟨next, leads, behind⟩ := before.moves still framed
    obtain rfl := Move.eq_of_leads_still leads
    obtain ⟨front, text, rfl, ends, reaches⟩ := ih behind rfl
    cases before with
    | left inner =>
      obtain ⟨first, rfl, rfl, kind⟩ := lexeme_of_kind inner
      cases framed with
      | cons enters genuine framedThen =>
        simp only [Lexeme.Genuine, kind] at genuine
        obtain ⟨noLead, noShown, filled, reachesHere⟩ := genuine _ _ _ rfl
        have whole : Tree.token first :: textParts [] = textParts first.text := by
          obtain ⟨_, _, _, text⟩ := first
          simp_all [textParts]
        cases front with
        | cons part front =>
          refine ⟨.token first :: part :: front, text, rfl, fun last found => ?_, reaches⟩
          rw [List.getLast?_cons_cons] at found
          exact ends last found
        | nil =>
          cases text with
          | nil =>
            obtain rfl := after.lexemesOf
            exact ⟨[], first.text, whole, ends, fun _ => reachesHere⟩
          | cons character text =>
            have same := after.lexemesOf
            have stops := literalLength_drop reachesHere
            rw [List.drop_left, ← same] at stops
            have goes := reaches (List.cons_ne_nil _ _)
            simp only [textParts, List.nil_append, List.isEmpty_cons, Bool.false_eq_true,
              ↓reduceIte, Tree.lexemesOf, Tree.lexemes, List.append_nil, written_append,
              written_cons, written_nil] at stops
            rw [goes] at stops
            simp at stops
    | right inner =>
      obtain ⟨children, rfl⟩ := node_of_field inner
      refine ⟨.node .field children :: front, text, rfl, fun last found => ?_, reaches⟩
      cases front with
      | nil =>
        obtain rfl := Option.some.inj found
        rfl
      | cons part front =>
        rw [List.getLast?_cons_cons] at found
        exact ends last found
  | _ => exact nomatch same

/-- A formatted string is closed by what opened it, right behind its last text. -/
theorem Matches.formattedParts {lexemes rest : List Lexeme} {trees : List Tree}
    (found : Matches grammar formattedParts lexemes trees rest) {nests : List Nest}
    (framed : Framed nests lexemes) : (Tree.build .formatted trees).Genuine := by
  unfold Source.formattedParts at found
  cases found with
  | both before after =>
    obtain ⟨opening, rfl, rfl, openingKind⟩ := lexeme_of_kind before
    cases after with
    | both parts last =>
      obtain ⟨closing, rfl, rfl, closingKind⟩ := lexeme_of_kind last
      cases framed with
      | cons enters genuine behind =>
        simp only [Lexeme.Genuine, openingKind] at genuine
        obtain ⟨form, read, formatted, quotes⟩ := genuine
        simp only [enter, openingKind, read, Option.map_some, Option.some.injEq] at enters
        rw [← enters] at behind
        have still : balance Source.literalParts = some .still := by decide +kernel
        obtain ⟨next, leads, closed⟩ := parts.moves still behind
        obtain rfl := Move.eq_of_leads_still leads
        obtain ⟨front, text, rfl, ends, reaches⟩ := parts.literalParts behind
        cases closed with
        | cons leaves genuineClosing _ =>
          simp only [Lexeme.Genuine, closingKind] at genuineClosing
          obtain ⟨same, _⟩ : closing.text = form.delimiter.text ∧ nests = _ := by
            simpa [enter, closingKind] using leaves
          have static : Static form false text ∧ ending form.delimiter.quote text = .safe := by
            by_cases empty : text = []
            · rw [empty]
              exact ⟨.nil, rfl⟩
            · have read := reaches empty
              rw [written_cons, genuineClosing, same, List.nil_append] at read
              obtain ⟨body, others, split, length, static, safe⟩ :=
                static_of_literalLength quotes formatted read
              obtain ⟨rfl, rfl⟩ := List.append_inj split length
              exact ⟨static, safe (List.prefix_append _ _)⟩
          have built : Tree.build .formatted ([.token opening] ++
              ((front ++ textParts text) ++ [.token closing])) =
                .formatted opening (front ++ textParts text) closing := by
            simp only [Tree.build, List.singleton_append, Tree.closed?_append]
          rw [built]
          exact ⟨form, read, formatted, quotes, genuineClosing, same, front, text, rfl, ends,
            static⟩

/-- What holds of genuine lexemes, of trees that are not built as formatted strings, and of formatted
strings that are matched, holds of every tree in the trees of a match. -/
theorem Matches.forall_subtrees {holds : Tree → Prop}
    (single : ∀ {nests rest lexeme}, Lexeme.Genuine nests rest lexeme → holds (.token lexeme))
    (plain : ∀ {shape}, shape ≠ .formatted → ∀ children, holds (.build shape children))
    (formatted : ∀ {nests lexemes trees rest},
      Matches grammar Source.formattedParts lexemes trees rest → Framed nests lexemes →
        holds (.build .formatted trees))
    {pattern : Grammar.Part} {lexemes rest : List Lexeme} {trees : List Tree}
    (found : Matches grammar pattern lexemes trees rest) {move : Move}
    (known : balance pattern = some move) {nests : List Nest} (framed : Framed nests lexemes) :
    ∀ tree ∈ Tree.subtreesOf trees, holds tree := by
  induction found generalizing move nests with
  | nothing => simp [Tree.subtreesOf]
  | lexeme accepted =>
    cases framed with
    | cons enters genuine behind =>
      intro tree inside
      obtain rfl : tree = .token _ := by simpa [Tree.subtreesOf, Tree.subtrees] using inside
      exact single genuine
  | rule inner ih => exact ih (balance_grammar _) framed
  | both before after first second =>
    rw [balance] at known
    split at known
    · rename_i knownBefore knownAfter
      obtain ⟨middle, _, between⟩ := before.moves knownBefore framed
      intro tree inside
      rw [Tree.subtreesOf_append] at inside
      obtain inside | inside := List.mem_append.mp inside
      · exact first knownBefore framed tree inside
      · exact second knownAfter between tree inside
    · simp at known
  | left inner ih =>
    rw [balance] at known
    split at known
    · exact ih known framed
    · simp at known
  | right inner ih =>
    rw [balance] at known
    split at known
    · rename_i same
      exact ih (same ▸ known) framed
    · simp at known
  | none => simp [Tree.subtreesOf]
  | more before after first second =>
    have whole := known
    rw [balance] at known
    split at known
    · rename_i still
      obtain rfl := Option.some.inj known
      obtain ⟨middle, leads, between⟩ := before.moves still framed
      intro tree inside
      rw [Tree.subtreesOf_append] at inside
      obtain inside | inside := List.mem_append.mp inside
      · exact first still framed tree inside
      · exact second whole between tree inside
    · simp at known
  | ahead => simp [Tree.subtreesOf]
  | notAhead => simp [Tree.subtreesOf]
  | @shaped shape inner lexemes trees rest inside ih =>
    rw [balance] at known
    split at known
    · simp at known
    · rename_i allowed
      intro tree member
      rw [Tree.subtreesOf, Tree.subtreesOf, List.append_nil] at member
      obtain rfl | member := Tree.mem_subtrees_build member
      · by_cases same : shape = .formatted
        · obtain rfl := eq_of_isFormattedParts (by simpa [same] using allowed)
          exact same ▸ formatted inside framed
        · exact plain same trees
      · exact ih known framed tree member
  | base inner ih =>
    rw [balance] at known
    split at known
    · exact ih known framed
    · simp at known
  | tail before among after first second =>
    have whole := known
    rw [balance] at known
    split at known
    · rename_i still
      obtain ⟨other, stillTail⟩ := still_of_areStill still among
      obtain ⟨middle, _, between⟩ := before.moves whole framed
      intro tree member
      rw [Tree.subtreesOf, Tree.subtreesOf, List.append_nil] at member
      obtain rfl | member := Tree.mem_subtrees_build member
      · exact plain other _
      · rw [Tree.subtreesOf_append] at member
        obtain member | member := List.mem_append.mp member
        · exact first whole framed tree member
        · exact second stillTail between tree member
    · simp at known
  | checked passed inside ih => exact ih known framed

end Pattern

/-- What holds of genuine lexemes, of trees that are not built as formatted strings, and of formatted
strings that are matched, holds of every tree in the tree of a source. -/
theorem forall_subtrees_of_parse? {holds : Tree → Prop}
    (single : ∀ {nests rest lexeme}, Lexeme.Genuine nests rest lexeme → holds (.token lexeme))
    (plain : ∀ {shape}, shape ≠ .formatted → ∀ children, holds (.build shape children))
    (formatted : ∀ {nests lexemes trees rest},
      Pattern.Matches grammar formattedParts lexemes trees rest → Framed nests lexemes →
        holds (.build .formatted trees))
    {text : Text} {tree : Tree} (parsed : parse? text = some tree) :
    ∀ inner ∈ tree.subtrees, holds inner := by
  unfold parse? at parsed
  split at parsed
  · rename_i found
    obtain rfl := Option.some.inj parsed
    obtain ⟨lexemes, read, built⟩ := Option.bind_eq_some_iff.mp found
    unfold treesOf at built
    split at built
    · rename_i trees run
      obtain rfl := Option.some.inj built
      intro inner inside
      exact (Pattern.matches_of_run grammar _ _ _ _ _ run).forall_subtrees single plain formatted
        balance_source (framed_of_lexemes? read) inner (by simpa [Tree.subtreesOf] using inside)
    · simp at built
  · simp at parsed

/-- The string literals in the tree of a source are what they were read as. -/
theorem genuine_of_parse? {text : Text} {tree : Tree} (parsed : parse? text = some tree) :
    ∀ inner ∈ tree.subtrees, inner.Genuine := by
  refine forall_subtrees_of_parse? (fun {nests rest lexeme} genuine kind => ?_) Tree.genuine_build
    (fun found framed => found.formattedParts framed) parsed
  simpa [Lexeme.Genuine, kind] using genuine

end Outdent.Source
