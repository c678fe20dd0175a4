import Outdent.Proofs.Walk

/-!
# Where trees begin

A walk never moves a tree: what stands in front of its first lexeme stays there, also where a
template takes the place of a marker. It makes no words or punctuation either. Main statements:
`lead?_visit`, `eq_token_of_visit` and `isWord_visit`.
-/
namespace Outdent.Source.Tree

/-- What stands in front of a tree, if it has a lexeme. -/
def lead? (tree : Tree) : Option Text := tree.lexemes.head?.map Lexeme.lead

/-- What stands in front of several trees, if they have a lexeme. -/
def leadOf? (trees : List Tree) : Option Text := (lexemesOf trees).head?.map Lexeme.lead

/-- What stands in front of trees stands in front of the first one that has a lexeme. -/
theorem leadOf?_cons (tree : Tree) (trees : List Tree) :
    leadOf? (tree :: trees) = tree.lead?.or (leadOf? trees) := by
  rw [leadOf?, lexemesOf, List.head?_append, Option.map_or]
  rfl

/-- What stands in front of a call stands in front of what is called. -/
theorem lead?_call (callee : Tree) (opening : Lexeme) (arguments : List Tree) (closing : Lexeme) :
    (call callee opening arguments closing).lead? = callee.lead?.or (some opening.lead) := by
  rw [lead?, lexemes, List.append_assoc, List.head?_append, Option.map_or]
  rfl

/-- What stands in front of a subscript stands in front of its value. -/
theorem lead?_subscript (value : Tree) (opening : Lexeme) (elements : List Tree)
    (closing : Lexeme) :
    (subscript value opening elements closing).lead? = value.lead?.or (some opening.lead) := by
  rw [lead?, lexemes, List.append_assoc, List.head?_append, Option.map_or]
  rfl

end Outdent.Source.Tree

namespace Outdent.Marker

open Source Template

variable {config : Config} {trims : Trims}

/-! ## Rewritten markers -/

/-- A template that is rewritten has a form, in which it is written again. -/
theorem outdented_eq_ok {literal edited : Tree} (done : outdented trims literal = .ok edited) :
    ∃ form, templateForm? literal = some form ∧ outdentLiteral trims form literal = .ok edited := by
  unfold outdented at done
  split at done
  · simp at done
  · rename_i form found
    split at done
    · rename_i written
      exact ⟨form, found, written.trans (congrArg Except.ok (Except.ok.inj done))⟩
    · simp at done
    · simp at done

/-- A literal with other texts has a lexeme. -/
theorem lexemes_write_ne_nil {form : Template.Form} {literal edited : Tree} {texts : List Text}
    (written : write form literal texts = some edited) : edited.lexemes ≠ [] := by
  unfold write at written
  split at written
  · simp at written
  · obtain rfl := Option.some.inj written
    simp [Tree.lexemes]
  · obtain ⟨parts, _, rfl⟩ := Option.map_eq_some_iff.mp written
    simp [Tree.lexemes]
  · obtain ⟨inner, _, rfl⟩ := Option.map_eq_some_iff.mp written
    simp [Tree.lexemes]
  · simp at written

/-- A template that is rewritten has a lexeme. -/
theorem lexemes_outdented_ne_nil {literal edited : Tree}
    (done : outdented trims literal = .ok edited) : edited.lexemes ≠ [] := by
  obtain ⟨form, _, written⟩ := outdented_eq_ok done
  obtain ⟨before, last, mended, _, _, written⟩ := outdentLiteral_eq_ok written
  exact lexemes_write_ne_nil written

/-- An argument, and the same with another template in the place of the one that it carries: it is
the template, or a subscript of it, in parentheses or not. -/
inductive Carries (literal edited : Tree) : Tree → Tree → Prop where
  /-- The template itself. -/
  | template : Carries literal edited literal edited
  /-- A subscript of the template. -/
  | subscript (tag : Tree) (opening closing : Lexeme) : Carries literal edited
      (.subscript tag opening [literal] closing)
      (.subscript tag opening [inPlaceOf literal edited] closing)
  /-- Parentheses. -/
  | grouped {inner other : Tree} (opening closing : Lexeme)
      (inside : Carries literal edited inner other) : Carries literal edited
      (.grouped opening inner closing) (.grouped opening other closing)

/-- The only one of some elements, if it is a template. -/
theorem eq_of_soleTemplate? {elements : List Tree} {literal : Tree}
    (sole : soleTemplate? elements = some literal) :
    elements = [literal] ∧ isTemplate literal = true := by
  unfold soleTemplate? at sole
  split at sole
  · split at sole
    · rename_i element template
      rw [← Option.some.inj sole]
      exact ⟨rfl, template⟩
    · cases sole
  · cases sole

/-- The template of a subscript is replaced in it. -/
theorem carries_replaceElement {argument tag literal : Tree} (edited : Tree)
    (found : classify argument = .subscript tag literal) :
    Carries literal edited argument (replaceElement edited argument) := by
  fun_induction classify argument with
  | case3 value opening elements closing sole same =>
    obtain ⟨rfl, rfl⟩ := Candidate.subscript.inj found
    obtain ⟨rfl, _⟩ := eq_of_soleTemplate? same
    exact .subscript value opening closing
  | case5 opening inner closing ih => exact .grouped opening closing (ih found)
  | _ => simp at found

/-- An argument that carries a template gets another one in its place. -/
theorem carries_rebuild {argument literal : Tree} (edited : Tree)
    (found : extract? argument = some literal) :
    Carries literal edited argument (rebuild argument edited) := by
  rw [rebuild]
  obtain ⟨template, rfl⟩ | ⟨other, tag, same⟩ := extract?_eq_some_iff.mp found
  · rw [if_pos template]
    exact .template
  · rw [other, if_neg Bool.false_ne_true]
    exact carries_replaceElement edited same

/-- An argument that carries a template has a lexeme. -/
theorem Carries.lexemes_ne_nil {literal edited argument other : Tree}
    (carries : Carries literal edited argument other) (filled : edited.lexemes ≠ []) :
    other.lexemes ≠ [] := by
  cases carries with
  | template => exact filled
  | subscript => simp [Tree.lexemes]
  | grouped => simp [Tree.lexemes]

/-- An argument is a lexeme only if its new template is. -/
theorem Carries.eq_token {literal edited argument other : Tree} {lexeme : Lexeme}
    (carries : Carries literal edited argument other) (single : other = .token lexeme) :
    edited = .token lexeme := by
  cases carries with
  | template => exact single
  | subscript => cases single
  | grouped => cases single

/-- A tree in the place of another stands where that one stood. -/
theorem lead?_inPlaceOf {old new : Tree} (oldFilled : old.lexemes ≠ [])
    (newFilled : new.lexemes ≠ []) : (inPlaceOf old new).lead? = old.lead? := by
  obtain ⟨first, rest, oldLexemes⟩ := List.exists_cons_of_ne_nil oldFilled
  obtain ⟨other, others, newLexemes⟩ := List.exists_cons_of_ne_nil newFilled
  simp only [inPlaceOf, oldLexemes, Tree.lead?, Tree.lexemes_withLead, newLexemes]
  rfl

/-- A marker that is rewritten stands where it stood. -/
theorem Rewrites.lead? {updated result : Tree} (rewrites : Rewrites config updated result) :
    result.lead? = updated.lead? := by
  cases rewrites with
  | call marker carries done stays => rw [Tree.lead?_call, Tree.lead?_call]
  | unwrappedCall marker carries done unkept alone =>
    apply lead?_inPlaceOf
    · simp [Tree.lexemes]
    · exact (carries_rebuild _ carries).lexemes_ne_nil (lexemes_outdented_ne_nil done)
  | subscript marker template done stays => rw [Tree.lead?_subscript, Tree.lead?_subscript]
  | unwrappedSubscript marker template done unkept =>
    apply lead?_inPlaceOf
    · simp [Tree.lexemes]
    · exact lexemes_outdented_ne_nil done

/-- A rewritten template that is a lexeme is a string literal. -/
theorem kind_of_outdented {literal : Tree} {lexeme : Lexeme}
    (done : outdented trims literal = .ok (.token lexeme)) : lexeme.kind = .string := by
  obtain ⟨form, template, written⟩ := outdented_eq_ok done
  have found := (Option.filter_eq_some_iff.mp template).1
  cases literal with
  | token old =>
    obtain ⟨body, same⟩ := outdentLiteral_token written
    rw [form?] at found
    split at found
    · rename_i kind
      rw [Tree.token.inj same]
      exact kind
    · simp at found
  | formatted opening parts closing =>
    obtain ⟨_, _, _, same⟩ := outdentLiteral_formatted written
    cases same
  | grouped opening inner closing =>
    obtain ⟨_, _, same⟩ := outdentLiteral_grouped written
    cases same
  | node | call | subscript => simp [form?] at found

/-- A tree that is a lexeme in the place of another is one of the same kind. -/
theorem exists_of_inPlaceOf {old new : Tree} {lexeme : Lexeme}
    (same : inPlaceOf old new = .token lexeme) :
    ∃ other, new = .token other ∧ other.kind = lexeme.kind := by
  unfold inPlaceOf at same
  split at same
  · cases new with
    | token other => exact ⟨other, rfl, by rw [← Tree.token.inj same]; rfl⟩
    | call | subscript =>
      rw [Tree.withLead] at same
      split at same <;> cases same
    | node | grouped | formatted => cases same
  · exact ⟨lexeme, same, rfl⟩

/-- A marker that is rewritten to a lexeme is rewritten to a string literal. -/
theorem Rewrites.kind {updated result : Tree} (rewrites : Rewrites config updated result)
    {lexeme : Lexeme} (single : result = .token lexeme) : lexeme.kind = .string := by
  cases rewrites with
  | call => cases single
  | subscript => cases single
  | unwrappedCall marker carries done unkept alone =>
    obtain ⟨other, same, kind⟩ := exists_of_inPlaceOf single
    obtain rfl := (carries_rebuild _ carries).eq_token same
    exact kind ▸ kind_of_outdented done
  | unwrappedSubscript marker template done unkept =>
    obtain ⟨other, rfl, kind⟩ := exists_of_inPlaceOf single
    exact kind ▸ kind_of_outdented done

/-! ## Whole trees -/

variable (config)

/-- What is a lexeme after a walk was that lexeme before, or is a string literal. -/
theorem eq_token_of_visit {around : Parentheses} {tree : Tree} {lexeme : Lexeme}
    (single : (visit config around tree).1 = .token lexeme) :
    tree = .token lexeme ∨ lexeme.kind = .string := by
  obtain ⟨_, same⟩ | ⟨_, rewrites⟩ := visit_cases config around tree
  · rw [same] at single
    cases tree with
    | token => exact Or.inl single
    | node | call | subscript | grouped | formatted => cases single
  · exact Or.inr (rewrites.kind single)

/-- A walk makes and loses no words and no marks. -/
theorem isWord_visit (text : Text) (around : Parentheses) (tree : Tree) :
    (visit config around tree).1.isWord text = tree.isWord text := by
  cases tree with
  | token lexeme => rw [visit_token]
  | _ =>
    generalize after : (visit config around _).1 = result
    -- Another tree can only become a lexeme as a string literal, which is no word.
    cases result with
    | token lexeme =>
      obtain same | kind := eq_token_of_visit config after
      · cases same
      · simp [Tree.isWord, Lexeme.isWord, kind]
    | _ => rfl

/-- A walk over its parts leaves a call with more arguments or without. -/
theorem hasMoreArguments_walked (tree : Tree) :
    hasMoreArguments (walked config tree) = hasMoreArguments tree := by
  cases tree with
  | call callee opening arguments closing =>
    cases arguments with
    | nil => rfl
    | cons argument others =>
      rw [walked, visitAll, hasMoreArguments, hasMoreArguments, visitAll_eq_map, List.any_map]
      simp only [Function.comp_def, Tree.isComma, isWord_visit]
  | _ => rfl

mutual

/-- A tree stands where it stood before the walk. -/
theorem lead?_visit (around : Parentheses) (tree : Tree) :
    (visit config around tree).1.lead? = tree.lead? := by
  have inside : (walked config tree).lead? = tree.lead? := by
    cases tree with
    | node shape children => exact leadOf?_visitAll children
    | call callee opening arguments closing =>
      rw [walked, Tree.lead?_call, Tree.lead?_call, lead?_visit [] callee]
    | subscript value opening elements closing =>
      rw [walked, Tree.lead?_subscript, Tree.lead?_subscript, lead?_visit [] value]
    | token | grouped | formatted => rfl
  obtain ⟨_, same⟩ | ⟨_, rewrites⟩ := visit_cases config around tree
  · rw [same, inside]
  · rw [rewrites.lead?, inside]

/-- Several trees stand where they stood before the walk. -/
theorem leadOf?_visitAll (trees : List Tree) :
    Tree.leadOf? (visitAll config trees).1 = Tree.leadOf? trees := by
  cases trees with
  | nil => rfl
  | cons tree rest =>
    rw [visitAll, Tree.leadOf?_cons, Tree.leadOf?_cons, lead?_visit [] tree, leadOf?_visitAll rest]

end

end Outdent.Marker
