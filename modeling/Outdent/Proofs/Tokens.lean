import Outdent.Proofs.Formed

/-!
# What a walk keeps of the tokens

The tokens of a tree are its lexemes without blanks and comments, and without the static text of
template literals. A walk keeps them in order. All that it drops is, for every marker that it gives
up for its template, what is called or subscripted, the pair of brackets, and the comma behind the
only argument. Main statements: `tokens_visit`, the tokens of a tree after the walk are those that
are to be kept, and `tokens_settleAll`, so it is for every source.
-/
namespace Outdent.Source

open Template

/-- A lexeme without what stands in front of it. -/
structure Token where
  /-- What it is. -/
  kind : Kind
  /-- Its text. -/
  text : Text
  deriving DecidableEq

/-- The token of a lexeme. -/
def Lexeme.token (lexeme : Lexeme) : Token := ⟨lexeme.kind, lexeme.text⟩

/-- The token of a lexeme, with nothing between its quotes if it is a template literal. -/
def Lexeme.hollow (lexeme : Lexeme) : Token :=
  match templateForm? (.token lexeme) with
  | some form => ⟨lexeme.kind, form.withBody lexeme.text []⟩
  | none => lexeme.token

namespace Tree

mutual

/-- The tokens of a tree. -/
def tokens : Tree → List Token
  | token lexeme => [lexeme.hollow]
  | node _ children => tokensOf children
  | call callee opening arguments closing =>
    callee.tokens ++ opening.token :: tokensOf arguments ++ [closing.token]
  | subscript value opening elements closing =>
    value.tokens ++ opening.token :: tokensOf elements ++ [closing.token]
  | grouped opening inner closing => opening.token :: inner.tokens ++ [closing.token]
  | formatted opening parts closing => opening.token :: tokensOfFields parts ++ [closing.token]

/-- The tokens of several trees. -/
def tokensOf : List Tree → List Token
  | [] => []
  | tree :: trees => tree.tokens ++ tokensOf trees

/-- The tokens of the replacement fields among the parts of a formatted string. -/
def tokensOfFields : List Tree → List Token
  | [] => []
  | part :: parts => if (text? part).isSome then tokensOfFields parts
    else part.tokens ++ tokensOfFields parts

end

end Tree

end Outdent.Source

namespace Outdent.Marker

open Source Template

mutual

/-- The tokens of a tree, each with whether a walk keeps it. Of a marker that is given up, what is
called or subscripted is dropped, and the brackets with the comma between them. -/
def fates (config : Config) (tree : Tree) : List (Token × Bool) :=
  match tree with
  | .token lexeme => [(lexeme.hollow, true)]
  | .node _ children => fatesOf config children
  | .call callee opening arguments closing =>
    if isUnwrapped config (.call callee opening arguments closing) then
      -- What is called goes as it stands, with all markers that it may hold.
      callee.tokens.map (·, false) ++ (opening.token, false) :: fatesBetween config arguments ++
        [(closing.token, false)]
    else fates config callee ++ (opening.token, true) :: fatesOf config arguments ++
      [(closing.token, true)]
  | .subscript value opening elements closing =>
    if isUnwrapped config (.subscript value opening elements closing) then
      value.tokens.map (·, false) ++ (opening.token, false) :: fatesBetween config elements ++
        [(closing.token, false)]
    else fates config value ++ (opening.token, true) :: fatesOf config elements ++
      [(closing.token, true)]
  | .grouped opening inner closing =>
    (opening.token, true) :: fates config inner ++ [(closing.token, true)]
  | .formatted opening parts closing =>
    (opening.token, true) :: fatesOfFields config parts ++ [(closing.token, true)]

/-- The same for several trees. -/
def fatesOf (config : Config) : List Tree → List (Token × Bool)
  | [] => []
  | tree :: trees => fates config tree ++ fatesOf config trees

/-- The same for the trees between the brackets of a marker that is given up: no comma behind the
first one is kept. -/
def fatesBetween (config : Config) : List Tree → List (Token × Bool)
  | [] => []
  | tree :: trees => fates config tree ++ fatesBehind config trees

/-- The same for the trees behind the first one. -/
def fatesBehind (config : Config) : List Tree → List (Token × Bool)
  | [] => []
  | tree :: trees => (if tree.isComma then tree.tokens.map (·, false) else fates config tree) ++
    fatesBehind config trees

/-- The same for the replacement fields among the parts of a formatted string. -/
def fatesOfFields (config : Config) : List Tree → List (Token × Bool)
  | [] => []
  | part :: parts => if (text? part).isSome then fatesOfFields config parts
    else fates config part ++ fatesOfFields config parts

end

/-- The tokens that are kept. -/
def survivors (fates : List (Token × Bool)) : List Token := (fates.filter Prod.snd).map Prod.fst

/-- What is kept of tokens in two parts. -/
@[simp] theorem survivors_append (left right : List (Token × Bool)) :
    survivors (left ++ right) = survivors left ++ survivors right := by
  simp [survivors]

/-- A token that is kept. -/
@[simp] theorem survivors_kept (token : Token) (rest : List (Token × Bool)) :
    survivors ((token, true) :: rest) = token :: survivors rest := rfl

/-- A token that is dropped. -/
@[simp] theorem survivors_dropped (token : Token) (rest : List (Token × Bool)) :
    survivors ((token, false) :: rest) = survivors rest := rfl

/-- No tokens. -/
@[simp] theorem survivors_nil : survivors [] = [] := rfl

/-- Tokens that are all kept. -/
@[simp] theorem survivors_all_kept (tokens : List Token) :
    survivors (tokens.map (·, true)) = tokens := by
  induction tokens with
  | nil => rfl
  | cons token rest ih => rw [List.map_cons, survivors_kept, ih]

/-- Tokens that are all dropped. -/
@[simp] theorem survivors_all_dropped (tokens : List Token) :
    survivors (tokens.map (·, false)) = [] := by
  induction tokens with
  | nil => rfl
  | cons token rest ih => rw [List.map_cons, survivors_dropped, ih]

section Fates

variable {config : Config}

mutual

/-- All tokens of a tree are either kept or dropped. -/
theorem map_fst_fates (tree : Tree) : (fates config tree).map Prod.fst = tree.tokens := by
  cases tree with
  | token lexeme => rfl
  | node shape children => exact map_fst_fatesOf children
  | call callee opening arguments closing =>
    have inside := map_fst_fates callee
    have behind := map_fst_fatesOf arguments
    have between := map_fst_fatesBetween arguments
    rw [fates, Tree.tokens]
    split <;> simp [inside, behind, between, Function.comp_def]
  | subscript value opening elements closing =>
    have inside := map_fst_fates value
    have behind := map_fst_fatesOf elements
    have between := map_fst_fatesBetween elements
    rw [fates, Tree.tokens]
    split <;> simp [inside, behind, between, Function.comp_def]
  | grouped opening inner closing =>
    rw [fates, Tree.tokens]
    simp [map_fst_fates inner]
  | formatted opening parts closing =>
    rw [fates, Tree.tokens]
    simp [map_fst_fatesOfFields parts]

/-- The same for several trees. -/
theorem map_fst_fatesOf (trees : List Tree) :
    (fatesOf config trees).map Prod.fst = Tree.tokensOf trees := by
  cases trees with
  | nil => rfl
  | cons tree rest =>
    rw [fatesOf, Tree.tokensOf, List.map_append, map_fst_fates tree, map_fst_fatesOf rest]

/-- The same for the trees between the brackets of a marker that is given up. -/
theorem map_fst_fatesBetween (trees : List Tree) :
    (fatesBetween config trees).map Prod.fst = Tree.tokensOf trees := by
  cases trees with
  | nil => rfl
  | cons tree rest =>
    rw [fatesBetween, Tree.tokensOf, List.map_append, map_fst_fates tree, map_fst_fatesBehind rest]

/-- The same for the trees behind the first one. -/
theorem map_fst_fatesBehind (trees : List Tree) :
    (fatesBehind config trees).map Prod.fst = Tree.tokensOf trees := by
  cases trees with
  | nil => rfl
  | cons tree rest =>
    have here := map_fst_fates tree
    rw [fatesBehind, Tree.tokensOf, List.map_append, map_fst_fatesBehind rest]
    split
    · simp [Function.comp_def]
    · rw [here]

/-- The same for replacement fields. -/
theorem map_fst_fatesOfFields (parts : List Tree) :
    (fatesOfFields config parts).map Prod.fst = Tree.tokensOfFields parts := by
  cases parts with
  | nil => rfl
  | cons part rest =>
    rw [fatesOfFields, Tree.tokensOfFields]
    split
    · exact map_fst_fatesOfFields rest
    · rw [List.map_append, map_fst_fates part, map_fst_fatesOfFields rest]

end

end Fates

/-! ## Rewritten markers -/

mutual

/-- What stands in front of a tree is not among its tokens. -/
theorem tokens_withLead (other : Lexeme) (tree : Tree) :
    (tree.withLead other).tokens = tree.tokens := by
  cases tree with
  | token lexeme => rfl
  | node shape children =>
    rw [Tree.withLead, Tree.tokens, Tree.tokens, tokensOf_withLeadFirst other children]
  | call callee opening arguments closing =>
    rw [Tree.withLead]
    split
    · rfl
    · rw [Tree.tokens, Tree.tokens, tokens_withLead other callee]
  | subscript value opening elements closing =>
    rw [Tree.withLead]
    split
    · rfl
    · rw [Tree.tokens, Tree.tokens, tokens_withLead other value]
  | grouped opening inner closing => rfl
  | formatted opening parts closing => rfl

/-- The same for several trees. -/
theorem tokensOf_withLeadFirst (other : Lexeme) (trees : List Tree) :
    Tree.tokensOf (Tree.withLeadFirst other trees) = Tree.tokensOf trees := by
  cases trees with
  | nil => rfl
  | cons tree rest =>
    rw [Tree.withLeadFirst]
    split
    · rw [Tree.tokensOf, Tree.tokensOf, tokensOf_withLeadFirst other rest]
    · rw [Tree.tokensOf, Tree.tokensOf, tokens_withLead other tree]

end

/-- A tree has the same tokens in the place of another. -/
theorem tokens_inPlaceOf (old new : Tree) : (inPlaceOf old new).tokens = new.tokens := by
  unfold inPlaceOf
  split
  · exact tokens_withLead _ new
  · rfl

/-- A plain literal has the token of its quotes. -/
theorem hollow_eq {form : Template.Form} {lexeme : Lexeme} {body : Text}
    (encloses : form.Encloses body lexeme.text) (notBytes : form.isBytes = false)
    (kind : lexeme.kind = .string) :
    lexeme.hollow = ⟨.string, form.withBody lexeme.text []⟩ := by
  have template : templateForm? (.token lexeme) = some form := by
    rw [templateForm?, form?, if_pos kind, encloses.ofOpening?]
    simp [notBytes]
  simp only [Lexeme.hollow, template, kind]

/-- What is written between the quotes of a literal does not matter if it is written anew. -/
theorem withBody_withBody {form : Template.Form} {body literal : Text}
    (encloses : form.Encloses body literal) (first second : Text) :
    form.withBody (form.withBody literal first) second = form.withBody literal second := by
  obtain ⟨letters, small, _, rfl⟩ := encloses.shape
  rw [withBody_append small, withBody_append small, withBody_append small]

/-- The replacement fields among the parts of a formatted string have all of its tokens. -/
theorem tokensOfFields_eq (parts : List Tree) :
    Tree.tokensOfFields parts = Tree.tokensOf (fields parts) := by
  induction parts with
  | nil => rfl
  | cons part rest ih =>
    rw [Tree.tokensOfFields, fields, List.filter_cons, ← fields]
    cases text? part with
    | none => simp [Tree.tokensOf, ih]
    | some text => simp [ih]

/-- Literal text has no replacement fields. -/
theorem fields_textParts (text : Text) : fields (textParts text) = [] := by
  unfold textParts
  split <;> rfl

/-- The fields that texts are woven with are the replacement fields of the result. -/
theorem fields_weave {texts : List Text} {others parts : List Tree}
    (areFields : ∀ field ∈ others, text? field = none) (woven : weave texts others = some parts) :
    fields parts = others := by
  induction others generalizing texts parts with
  | nil =>
    cases texts with
    | nil => simp [weave] at woven
    | cons text rest =>
      rw [← Option.some.inj woven]
      exact fields_textParts text
  | cons field others ih =>
    cases texts with
    | nil => simp [weave] at woven
    | cons text rest =>
      obtain ⟨behind, inside, rfl⟩ := Option.map_eq_some_iff.mp woven
      have later := ih (fun other member => areFields other (.tail _ member)) inside
      have here := areFields field List.mem_cons_self
      rw [fields, List.filter_append, ← fields, fields_textParts, List.nil_append,
        List.filter_cons_of_pos (by simp [here]), ← fields, later]

/-- A literal has the tokens that it had when its lines are outdented. -/
theorem tokens_outdentLiteral {trims : Trims} {form : Template.Form} {literal edited : Tree}
    (formed : literal.AllFormed) (template : form? literal = some form)
    (notBytes : form.isBytes = false) (written : outdentLiteral trims form literal = .ok edited) :
    edited.tokens = literal.tokens := by
  fun_induction form? literal generalizing edited with
  | case1 lexeme kind =>
    obtain ⟨other, body, _, encloses⟩ := (Tree.allFormed_token lexeme).mp formed kind
    obtain rfl := Option.some.inj (encloses.ofOpening?.symm.trans template)
    have literal : (Tree.token lexeme).IsLiteral other := ⟨kind, body, encloses⟩
    have again := (isLiteral_of_outdentLiteral literal written).1
    obtain ⟨text, rfl⟩ := outdentLiteral_token written
    obtain ⟨_, inner, around⟩ := again
    rw [Tree.tokens, Tree.tokens, hollow_eq encloses notBytes kind,
      hollow_eq around notBytes kind, withBody_withBody encloses]
  | case2 => simp at template
  | case3 opening parts closing =>
    obtain ⟨texts, woven, inside, rfl⟩ := outdentLiteral_formatted written
    have areFields : ∀ field ∈ fields parts, text? field = none := by
      intro field member
      simpa using (List.mem_filter.mp member).2
    rw [Tree.tokens, Tree.tokens, tokensOfFields_eq, tokensOfFields_eq,
      fields_weave areFields inside]
  | case4 opening inner closing ih =>
    obtain ⟨other, inside, rfl⟩ := outdentLiteral_grouped written
    rw [Tree.allFormed_grouped] at formed
    rw [Tree.tokens, Tree.tokens, ih formed template inside]
  | case5 => simp at template

/-- A rewritten template has the tokens that it had. -/
theorem tokens_outdented {trims : Trims} {literal edited : Tree} (formed : literal.AllFormed)
    (done : outdented trims literal = .ok edited) : edited.tokens = literal.tokens := by
  obtain ⟨form, template, written⟩ := outdented_eq_ok done
  obtain ⟨found, notBytes⟩ := Option.filter_eq_some_iff.mp template
  exact tokens_outdentLiteral formed found (by simpa using notBytes) written

/-- An argument has the tokens that it had if its new template has those of the old one. -/
theorem Carries.tokens {literal edited argument other : Tree}
    (carries : Carries literal edited argument other) (formed : argument.AllFormed)
    (same : literal.AllFormed → edited.tokens = literal.tokens) :
    other.tokens = argument.tokens := by
  induction carries with
  | template => exact same formed
  | subscript tag opening closing =>
    rw [Tree.allFormed_subscript, Tree.areFormed_cons] at formed
    simp only [Tree.tokens, Tree.tokensOf, tokens_inPlaceOf, same formed.2.1]
  | grouped opening closing inside ih =>
    rw [Tree.allFormed_grouped] at formed
    rw [Tree.tokens, Tree.tokens, ih formed]

/-- A subscript that is rewritten has one element. -/
theorem Rewrites.length_elements {config : Config} {value result : Tree} {opening closing : Lexeme}
    {elements : List Tree}
    (rewrites : Rewrites config (.subscript value opening elements closing) result) :
    elements.length = 1 := by
  cases rewrites <;> rfl

/-- The trees between the brackets of a call or subscript. -/
def bracketed : Tree → List Tree
  | .call _ _ arguments _ => arguments
  | .subscript _ _ elements _ => elements
  | _ => []

/-- A marker that is rewritten has the tokens that it had, or those of its first argument if it is
given up. -/
theorem Rewrites.tokens {config : Config} {updated result : Tree}
    (rewrites : Rewrites config updated result) (formed : updated.AllFormed) :
    result.tokens = if config.keepsMarker || hasMoreArguments updated then updated.tokens
      else Tree.tokensOf ((bracketed updated).take 1) := by
  cases rewrites with
  | call marker carries done stays =>
    rw [Tree.allFormed_call, Tree.areFormed_cons] at formed
    have argument := (carries_rebuild _ carries).tokens formed.2.1 fun inner =>
      tokens_outdented inner done
    rw [hasMoreArguments_call, if_pos (by simpa using stays), Tree.tokens, Tree.tokens,
      Tree.tokensOf, Tree.tokensOf, argument]
  | unwrappedCall marker carries done unkept alone =>
    rw [Tree.allFormed_call, Tree.areFormed_cons] at formed
    have argument := (carries_rebuild _ carries).tokens formed.2.1 fun inner =>
      tokens_outdented inner done
    rw [hasMoreArguments_call, unkept, alone, Bool.not_true, Bool.or_false,
      if_neg Bool.false_ne_true, tokens_inPlaceOf, argument]
    simp [bracketed, Tree.tokensOf]
  | subscript marker template done stays =>
    rw [Tree.allFormed_subscript, Tree.areFormed_cons] at formed
    rw [stays, Bool.true_or, if_pos rfl]
    simp only [Tree.tokens, Tree.tokensOf, tokens_inPlaceOf, tokens_outdented formed.2.1 done]
  | unwrappedSubscript marker template done unkept =>
    rw [Tree.allFormed_subscript, Tree.areFormed_cons] at formed
    rw [unkept, if_neg (by simp [hasMoreArguments]), tokens_inPlaceOf,
      tokens_outdented formed.2.1 done]
    simp [bracketed, Tree.tokensOf]

/-! ## Whole trees -/

section Walking

variable (config : Config)

/-- A marker that is not given up has the tokens of its parts after the walk; one that is given up
has those of its first argument. -/
theorem tokens_visit_eq (around : Parentheses) {tree : Tree}
    (formed : (walked config tree).AllFormed) :
    (visit config around tree).1.tokens =
      if isUnwrapped config tree then Tree.tokensOf ((bracketed (walked config tree)).take 1)
      else (walked config tree).tokens := by
  obtain ⟨plain, same⟩ | ⟨rewritten, rewrites⟩ := visit_cases config around tree
  · rw [same, isUnwrapped, plain, Bool.false_and, Bool.false_and, if_neg Bool.false_ne_true]
  · rw [rewrites.tokens formed, hasMoreArguments_walked, isUnwrapped, rewritten]
    cases config.keepsMarker <;> cases hasMoreArguments tree <;> rfl

/-- Behind the first tree between the brackets of a marker that is given up there are only commas.
-/
theorem isComma_of_isUnwrapped {tree : Tree} (unwrapped : isUnwrapped config tree = true) :
    (bracketed tree).tail.all Tree.isComma = true := by
  rw [isUnwrapped, Bool.and_eq_true, Bool.and_eq_true, Bool.not_eq_true'] at unwrapped
  obtain ⟨⟨rewritten, _⟩, alone⟩ := unwrapped
  cases tree with
  | call callee opening arguments closing =>
    cases arguments with
    | nil => rfl
    | cons argument others =>
      rw [hasMoreArguments_call, Bool.not_not] at alone
      exact alone
  | subscript value opening elements closing =>
    obtain ⟨plain, _⟩ | ⟨_, rewrites⟩ :=
      visit_cases config [] (.subscript value opening elements closing)
    · simp [plain] at rewritten
    · have single := (visitAll_length config elements).symm.trans rewrites.length_elements
      obtain ⟨element, rfl⟩ := List.length_eq_one_iff.mp single
      rfl
  | token | node | grouped | formatted => rfl

/-- Commas behind the first tree between the brackets of a marker are dropped. -/
theorem survivors_fatesBehind {trees : List Tree} (commas : trees.all Tree.isComma = true) :
    survivors (fatesBehind config trees) = [] := by
  induction trees with
  | nil => rfl
  | cons tree rest ih =>
    rw [List.all_cons, Bool.and_eq_true] at commas
    rw [fatesBehind, if_pos commas.1, survivors_append, survivors_all_dropped, ih commas.2]
    rfl

mutual

/-- The tokens of a tree after a walk are those of its tokens that are to be kept. -/
theorem tokens_visit (around : Parentheses) {tree : Tree} (formed : tree.AllFormed) :
    (visit config around tree).1.tokens = survivors (fates config tree) := by
  have still := allFormed_walked config formed
  rw [tokens_visit_eq config around still]
  cases tree with
  | token lexeme => rfl
  | node shape children =>
    rw [Tree.allFormed_node] at formed
    exact tokensOf_visitAll formed
  | call callee opening arguments closing =>
    rw [Tree.allFormed_call] at formed
    have inside := tokens_visit [] formed.1
    have behind := tokensOf_visitAll formed.2
    rw [fates, walked, bracketed]
    split
    · rename_i unwrapped
      rw [tokensOf_take_visitAll formed.2 (isComma_of_isUnwrapped config unwrapped)]
      simp
    · simp [Tree.tokens, inside, behind]
  | subscript value opening elements closing =>
    rw [Tree.allFormed_subscript] at formed
    have inside := tokens_visit [] formed.1
    have behind := tokensOf_visitAll formed.2
    rw [fates, walked, bracketed]
    split
    · rename_i unwrapped
      rw [tokensOf_take_visitAll formed.2 (isComma_of_isUnwrapped config unwrapped)]
      simp
    · simp [Tree.tokens, inside, behind]
  | grouped opening inner closing =>
    rw [Tree.allFormed_grouped] at formed
    change opening.token :: _ ++ [closing.token] = _
    rw [fates, tokens_visit [] formed]
    simp
  | formatted opening parts closing =>
    rw [Tree.allFormed_formatted] at formed
    -- Literal text stays literal text and fields stay fields, so the same parts are looked at.
    change opening.token :: _ ++ [closing.token] = _
    rw [fates, tokensOfFields_visitAll formed.1 formed.2]
    simp

/-- The same for several trees. -/
theorem tokensOf_visitAll {trees : List Tree} (formed : Tree.AreFormed trees) :
    Tree.tokensOf (visitAll config trees).1 = survivors (fatesOf config trees) := by
  cases trees with
  | nil => rfl
  | cons tree rest =>
    rw [Tree.areFormed_cons] at formed
    rw [visitAll, Tree.tokensOf, fatesOf, survivors_append, tokens_visit [] formed.1,
      tokensOf_visitAll formed.2]

/-- The same for the trees between the brackets of a marker that is given up. -/
theorem tokensOf_take_visitAll {trees : List Tree} (formed : Tree.AreFormed trees)
    (commas : trees.tail.all Tree.isComma = true) :
    Tree.tokensOf ((visitAll config trees).1.take 1) = survivors (fatesBetween config trees) := by
  cases trees with
  | nil => rfl
  | cons tree rest =>
    rw [Tree.areFormed_cons] at formed
    rw [List.tail_cons] at commas
    rw [visitAll, fatesBetween, survivors_append, survivors_fatesBehind config commas]
    simp [Tree.tokensOf, tokens_visit [] formed.1]

/-- The same for replacement fields. -/
theorem tokensOfFields_visitAll {parts : List Tree} (areParts : ∀ part ∈ parts, part.IsPart)
    (formed : Tree.AreFormed parts) :
    Tree.tokensOfFields (visitAll config parts).1 = survivors (fatesOfFields config parts) := by
  cases parts with
  | nil => rfl
  | cons part rest =>
    rw [Tree.areFormed_cons] at formed
    have here := areParts part List.mem_cons_self
    have later := tokensOfFields_visitAll (fun other member => areParts other (.tail _ member))
      formed.2
    cases part with
    | token lexeme => exact later
    | node shape children =>
      have field := tokens_visit [] formed.1
      rw [visitAll, fatesOfFields, if_neg (by simp [text?]), survivors_append, ← field, ← later]
      rfl
    | _ => exact here.elim

end

end Walking

/-! ## Trees without a marker that is given up -/

section Kept

variable {config : Config}

mutual

/-- Every token of a tree in which no marker is given up is kept. -/
theorem fates_of_kept (tree : Tree)
    (kept : ∀ inner ∈ tree.subtrees, isUnwrapped config inner = false) :
    fates config tree = tree.tokens.map (·, true) := by
  have here := kept tree (Tree.mem_subtrees_self tree)
  cases tree with
  | token lexeme => rfl
  | node shape children =>
    rw [Tree.subtrees, List.forall_mem_cons] at kept
    exact fatesOf_of_kept children kept.2
  | call callee opening arguments closing =>
    rw [Tree.subtrees, List.forall_mem_cons, List.forall_mem_append] at kept
    rw [fates, here, if_neg Bool.false_ne_true, fates_of_kept callee kept.2.1,
      fatesOf_of_kept arguments kept.2.2, Tree.tokens]
    simp
  | subscript value opening elements closing =>
    rw [Tree.subtrees, List.forall_mem_cons, List.forall_mem_append] at kept
    rw [fates, here, if_neg Bool.false_ne_true, fates_of_kept value kept.2.1,
      fatesOf_of_kept elements kept.2.2, Tree.tokens]
    simp
  | grouped opening inner closing =>
    rw [Tree.subtrees, List.forall_mem_cons] at kept
    rw [fates, fates_of_kept inner kept.2, Tree.tokens]
    simp
  | formatted opening parts closing =>
    rw [Tree.subtrees, List.forall_mem_cons] at kept
    rw [fates, fatesOfFields_of_kept parts kept.2, Tree.tokens]
    simp

/-- The same for several trees. -/
theorem fatesOf_of_kept (trees : List Tree)
    (kept : ∀ inner ∈ Tree.subtreesOf trees, isUnwrapped config inner = false) :
    fatesOf config trees = (Tree.tokensOf trees).map (·, true) := by
  cases trees with
  | nil => rfl
  | cons tree rest =>
    rw [Tree.subtreesOf, List.forall_mem_append] at kept
    rw [fatesOf, fates_of_kept tree kept.1, fatesOf_of_kept rest kept.2, Tree.tokensOf,
      List.map_append]

/-- The same for replacement fields. -/
theorem fatesOfFields_of_kept (parts : List Tree)
    (kept : ∀ inner ∈ Tree.subtreesOf parts, isUnwrapped config inner = false) :
    fatesOfFields config parts = (Tree.tokensOfFields parts).map (·, true) := by
  cases parts with
  | nil => rfl
  | cons part rest =>
    rw [Tree.subtreesOf, List.forall_mem_append] at kept
    rw [fatesOfFields, Tree.tokensOfFields, fatesOfFields_of_kept rest kept.2,
      fates_of_kept part kept.1]
    split
    · rfl
    · rw [List.map_append]

end

end Kept

/-- The tokens of a source after its markers are settled are its tokens, in order, without those of
the markers that are given up: what is called or subscripted, the brackets, and the comma behind the
only argument. If markers are to be kept, all tokens are. -/
theorem tokens_settleAll (config : Config) {source : Text} {tree : Tree}
    (read : parse? source = some tree) :
    (fates config tree).map Prod.fst = tree.tokens ∧
      (settleAll config tree).1.tokens = survivors (fates config tree) ∧
      (config.keepsMarker = true → (settleAll config tree).1.tokens = tree.tokens) := by
  have after := tokens_visit config [] (allFormed_of_parse? read)
  refine ⟨map_fst_fates tree, after, fun keeps => ?_⟩
  have unwrapped : ∀ inner ∈ tree.subtrees, isUnwrapped config inner = false := by
    intro inner _
    rw [isUnwrapped, keeps, Bool.not_true, Bool.and_false, Bool.false_and]
  rw [settleAll, after, fates_of_kept tree unwrapped, survivors_all_kept]

/-- Of a marker and another one in its template, what is called is dropped, the parentheses of the
call, and a comma; the parentheses of the argument stay. -/
theorem tokens_settleAll_nested :
    ∃ tree, parse? "dedent((f' \x7bdedent(\"a\")\x7d'),)\n" = some tree ∧
      ((fates {} tree).filter fun fate => !fate.2).map (fun fate => fate.1.text) =
        ["dedent", "(", "dedent", "(", ")", ",", ")"].map String.toList ∧
      (settleAll {} tree).1.tokens.map Token.text =
        ["(", "f'", "\x7b", "\"\"", "\x7d", "'", ")", "\n", ""].map String.toList ∧
      (settleAll {} tree).1.tokens = survivors (fates {} tree) := by
  have found : ((parse? "dedent((f' \x7bdedent(\"a\")\x7d'),)\n").any fun tree =>
      ((fates {} tree).filter fun fate => !fate.2).map (fun fate => fate.1.text) ==
        ["dedent", "(", "dedent", "(", ")", ",", ")"].map String.toList &&
      (settleAll {} tree).1.tokens.map Token.text ==
        ["(", "f'", "\x7b", "\"\"", "\x7d", "'", ")", "\n", ""].map String.toList) = true := by
    decide +kernel
  rw [Option.any_eq_true] at found
  obtain ⟨tree, read, found⟩ := found
  simp only [Bool.and_eq_true, beq_iff_eq] at found
  exact ⟨tree, read, found.1, found.2, (tokens_settleAll {} read).2.1⟩

end Outdent.Marker
