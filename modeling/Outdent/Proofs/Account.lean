import Mathlib.Data.List.Forall2
import Outdent.Proofs.Fronts

/-!
# The record of a run

A run records one event for every marker that it meets. `sites` lists the calls and subscripts of a
tree in the order in which a walk leaves them, parts before wholes; which of them are markers is
asked of the tree whose parts have been walked over. `Accounts` says what is recorded of a marker,
from what the marker is and becomes and not from how the walk decides it. Main statements:
`perm_sites`, no call or subscript is left out or listed twice, `accounts_visit`, the reports of a
walk are one for each marker among them, and `run_accounts`, which places them in the trace of a
run.
-/
namespace Outdent

open Source

/-! ## Traces -/

/-- Is something recorded of a piece of code that was replaced? -/
def Happening.isReplace : Happening → Bool
  | replace _ _ _ => true
  | _ => false

/-- What is recorded one after another belongs to the phase that is open. -/
theorem Trace.foldl_record (trace : Trace) (happenings : List Happening) :
    happenings.foldl Trace.record trace =
      { trace with
        events := trace.events ++ happenings.map fun happening =>
          ⟨happening, trace.openPhases.head?⟩ } := by
  induction happenings generalizing trace with
  | nil => simp
  | cons happening rest ih => simp [ih, Trace.record]

/-- The trace of a source that cannot be read: reading it fails. -/
theorem events_runTrace_none (config : Marker.Config) :
    (runTrace config none).events =
      [⟨.phaseStart "Dedent Pipeline" (markersDetail config), none⟩,
        ⟨.phaseStart "Parsing" "Raw Source -> CST", some 0⟩,
        ⟨.warning parseError, some 1⟩, ⟨.phaseEnd, some 1⟩, ⟨.phaseEnd, some 0⟩] := rfl

/-- The trace of a source that can be read: what the walk reports belongs to the second phase. -/
theorem events_runTrace_some (config : Marker.Config) (findings : List Marker.Finding) :
    (runTrace config (some findings)).events =
      [⟨.phaseStart "Dedent Pipeline" (markersDetail config), none⟩,
        ⟨.phaseStart "Parsing" "Raw Source -> CST", some 0⟩, ⟨.phaseEnd, some 1⟩,
        ⟨.phaseStart "Dedent Rewrite" "Visitor Traversal", some 0⟩] ++
      (findings.filterMap Marker.Finding.happening?).map (⟨·, some 3⟩) ++
      [⟨.phaseEnd, some 3⟩, ⟨.phaseEnd, some 0⟩] := by
  simp [runTrace, Trace.phase, Trace.startPhase, Trace.endPhase, Trace.record, Trace.recordAll,
    Trace.foldl_record]

namespace Marker

open Template

/-- As many replacements are recorded as markers are rewritten. -/
theorem outdentedCount_eq (findings : List Finding) :
    Finding.outdentedCount findings =
      ((findings.filterMap Finding.happening?).filter Happening.isReplace).length := by
  induction findings with
  | nil => rfl
  | cons finding rest ih =>
    rw [Finding.outdentedCount] at ih ⊢
    cases finding with
    | outdented => exact congrArg (· + 1) ih
    | skipped | refused => exact ih

/-! ## Calls and subscripts -/

/-- A call or a subscript with the parentheses around it. -/
structure Site where
  /-- The parentheses around it. -/
  around : Parentheses
  /-- The call or subscript. -/
  tree : Tree

mutual

/-- The calls and subscripts of a tree that stands in parentheses, in the order in which a walk
leaves them. -/
def sites (around : Parentheses) : Tree → List Site
  | .token _ => []
  | .node _ children => sitesOf children
  | .call callee opening arguments closing =>
    sites [] callee ++ sitesOf arguments ++ [⟨around, .call callee opening arguments closing⟩]
  | .subscript value opening elements closing =>
    sites [] value ++ sitesOf elements ++ [⟨around, .subscript value opening elements closing⟩]
  | .grouped opening inner closing => sites ((opening, closing) :: around) inner
  | .formatted _ parts _ => sitesOf parts

/-- The calls and subscripts of several trees, in the order in which a walk leaves them. -/
def sitesOf : List Tree → List Site
  | [] => []
  | tree :: trees => sites [] tree ++ sitesOf trees

end

mutual

/-- Every call and subscript of a tree is listed once. -/
theorem perm_sites (around : Parentheses) (tree : Tree) :
    ((sites around tree).map Site.tree).Perm (tree.subtrees.filter isCandidate) := by
  cases tree with
  | token lexeme => exact .nil
  | node shape children => exact perm_sitesOf children
  | call callee opening arguments closing =>
    have parts := (perm_sites [] callee).append (perm_sitesOf arguments)
    rw [sites, List.map_append, List.map_append, Tree.subtrees, List.filter_cons_of_pos rfl,
      List.filter_append]
    exact (List.perm_append_singleton _ _).trans (parts.cons _)
  | subscript value opening elements closing =>
    have parts := (perm_sites [] value).append (perm_sitesOf elements)
    rw [sites, List.map_append, List.map_append, Tree.subtrees, List.filter_cons_of_pos rfl,
      List.filter_append]
    exact (List.perm_append_singleton _ _).trans (parts.cons _)
  | grouped opening inner closing => exact perm_sites _ inner
  | formatted opening parts closing => exact perm_sitesOf parts

/-- Every call and subscript of several trees is listed once. -/
theorem perm_sitesOf (trees : List Tree) :
    ((sitesOf trees).map Site.tree).Perm ((Tree.subtreesOf trees).filter isCandidate) := by
  cases trees with
  | nil => exact .nil
  | cons tree rest =>
    rw [sitesOf, List.map_append, Tree.subtreesOf, List.filter_append]
    exact (perm_sites [] tree).append (perm_sitesOf rest)

end

/-! ## Markers -/

variable {config : Config}

/-- Is a tree a candidate that the configuration takes for a marker? -/
def isMatched (config : Config) (tree : Tree) : Bool :=
  match classify tree with
  | .call callee _ => config.isMarker callee
  | .subscript tag _ => config.isMarker tag
  | .other => false

/-- Why a marker whose parts have been walked over is skipped. -/
inductive Unfit (config : Config) (marker : Tree) : Reason → Prop where
  /-- It carries no template. -/
  | noTemplate (bare : carried? config marker = none) : Unfit config marker .noTemplate
  /-- The quotes of its template cannot close the last of the outdented texts. -/
  | unclosable {literal : Tree} {form : Template.Form} {last : Text}
      (carries : carried? config marker = some literal)
      (template : templateForm? literal = some form)
      (ends : (outdentTexts config.trims (texts form literal)).getLast? = some last)
      (unclosed : closed? form last = none) : Unfit config marker (.unclosable form last)

/-- The form of marker that a call or a subscript is. -/
def formOf : Tree → Form
  | .subscript _ _ _ _ => .subscript
  | _ => .call

/-- What is recorded of a marker. It is skipped, and then it stays as it is, exactly if it is unfit;
otherwise it is rewritten. -/
inductive Accounts (config : Config) (site : Site) : Happening → Prop where
  /-- The marker is skipped. -/
  | skipped {reason : Reason} (unfit : Unfit config (walked config site.tree) reason)
      (stays : (visit config site.around site.tree).1 = walked config site.tree) :
      Accounts config site (.skip (enclose site.around site.tree).code reason.message)
  /-- The marker is rewritten. -/
  | replaced (fit : ∀ reason, ¬ Unfit config (walked config site.tree) reason)
      (rewrites : Rewrites config (walked config site.tree)
        (visit config site.around site.tree).1) :
      Accounts config site (.replace (formOf site.tree).word (enclose site.around site.tree).code
        (enclose site.around (visit config site.around site.tree).1).code)

/-- What an argument carries is a template. -/
theorem isTemplate_of_classify {argument tag literal : Tree}
    (found : classify argument = .subscript tag literal) : isTemplate literal = true := by
  fun_induction classify argument with
  | case3 value opening elements closing sole same =>
    obtain ⟨rfl, rfl⟩ := Candidate.subscript.inj found
    exact (eq_of_soleTemplate? same).2
  | case5 opening inner closing ih => exact ih found
  | _ => cases found

/-- What a marker carries is a template. -/
theorem isTemplate_of_carried? {marker literal : Tree}
    (carries : carried? config marker = some literal) : isTemplate literal = true := by
  unfold carried? at carries
  split at carries
  · split at carries
    · obtain ⟨template, rfl⟩ | ⟨_, tag, found⟩ := extract?_eq_some_iff.mp carries
      · exact template
      · exact isTemplate_of_classify found
    · cases carries
  · rename_i found
    split at carries
    · exact Option.some.inj carries ▸ isTemplate_of_classify found
    · cases carries
  · cases carries

/-- A template that cannot be written without its indentation has a last text that nothing can
close. -/
theorem unfit_of_outdented {marker literal : Tree} {reason : Reason}
    (carries : carried? config marker = some literal)
    (failed : outdented config.trims literal = .error reason) : Unfit config marker reason := by
  have template := isTemplate_of_carried? carries
  rw [isTemplate, Option.isSome_iff_exists] at template
  obtain ⟨form, template⟩ := template
  obtain ⟨edited, written⟩ | ⟨last, unclosed⟩ := outdentLiteral_total template config.trims
  · simp [outdented, template, written] at failed
  · have same : Reason.unclosable form last = reason := by
      simpa [outdented, template, unclosed] using failed
    rw [outdentLiteral_eq, writeClosed] at unclosed
    split at unclosed
    · cases unclosed
    · rename_i text ends
      split at unclosed
      · rename_i unclosable
        obtain ⟨-, rfl⟩ := WriteFault.unclosable.inj (Except.error.inj unclosed)
        exact same ▸ .unclosable carries template ends unclosable
      · split at unclosed <;> cases unclosed

/-- A marker with a template that is written without its indentation is not unfit. -/
theorem not_unfit_of_outdented {marker literal edited : Tree}
    (carries : carried? config marker = some literal)
    (done : outdented config.trims literal = .ok edited) (reason : Reason) :
    ¬ Unfit config marker reason := by
  obtain ⟨form, template, written⟩ := outdented_eq_ok done
  obtain ⟨before, last, mended, same, closed, -⟩ := outdentLiteral_eq_ok written
  intro unfit
  cases unfit with
  | noTemplate bare =>
    rw [carries] at bare
    cases bare
  | unclosable others found ends unclosed =>
    obtain rfl := Option.some.inj (carries.symm.trans others)
    obtain rfl := Option.some.inj (template.symm.trans found)
    rw [same, List.getLast?_concat] at ends
    rw [← Option.some.inj ends, closed] at unclosed
    cases unclosed

/-! ## Walks -/

section Settling

variable (around : Parentheses) {found updated : Tree}

/-- A tree that is no marker stays, and nothing is reported of it. -/
theorem settle_of_unmatched (unmatched : isMatched config updated = false) :
    settle config around found updated = (updated, []) := by
  unfold isMatched at unmatched
  unfold settle
  cases same : classify updated with
  | call callee argument =>
    rw [same] at unmatched
    exact if_neg (Bool.eq_false_iff.mp unmatched)
  | subscript tag literal =>
    rw [same] at unmatched
    exact if_neg (Bool.eq_false_iff.mp unmatched)
  | other => rfl

/-- A marker without a template is skipped. -/
theorem settle_of_bare (matched : isMatched config updated = true)
    (bare : carried? config updated = none) :
    settle config around found updated =
      (updated, [.skipped (enclose around found).code .noTemplate]) := by
  unfold isMatched at matched
  unfold carried? at bare
  unfold settle
  split at matched
  · rename_i same
    simp only [same, matched, ↓reduceIte] at bare ⊢
    rw [bare]
  · rename_i same
    simp [same, matched] at bare
  · cases matched

/-- A marker with a template that cannot be closed is skipped. -/
theorem settle_of_error {literal : Tree} {reason : Reason}
    (carries : carried? config updated = some literal)
    (failed : outdented config.trims literal = .error reason) :
    settle config around found updated =
      (updated, [.skipped (enclose around found).code reason]) := by
  unfold carried? at carries
  unfold settle
  cases same : classify updated with
  | call callee argument =>
    simp only [same] at carries
    split at carries
    · rename_i matched
      simp [matched, carries, failed]
    · cases carries
  | subscript tag literal =>
    simp only [same] at carries
    split at carries
    · rename_i matched
      obtain rfl := Option.some.inj carries
      simp [matched, failed]
    · cases carries
  | other =>
    rw [same] at carries
    cases carries

/-- A marker is reported as rewritten to what it becomes. -/
theorem settle_of_ok {literal edited : Tree} (candidate : isCandidate updated = true)
    (carries : carried? config updated = some literal)
    (done : outdented config.trims literal = .ok edited) :
    (settle config around found updated).2 = [.outdented (formOf updated)
      (enclose around found).code
      (enclose around (settle config around found updated).1).code] := by
  cases updated with
  | call callee opening arguments closing =>
    cases arguments with
    | nil => cases carries
    | cons argument others =>
      simp only [carried?, classify] at carries
      split at carries
      · rename_i same
        split at carries
        · rename_i matched
          obtain ⟨positional, rfl, rfl⟩ : isPositional argument = true ∧ _ ∧ _ := by
            split at same
            · rename_i positional
              exact ⟨positional, Candidate.call.inj same⟩
            · cases same
          simp [settle, classify, positional, matched, carries, done, formOf]
        · cases carries
      · rename_i same
        split at same <;> cases same
      · cases carries
  | subscript tag opening elements closing =>
    simp only [carried?, classify] at carries
    cases sole : soleTemplate? elements with
    | none => simp [sole] at carries
    | some element =>
      simp only [sole] at carries
      split at carries
      · rename_i matched
        obtain rfl := Option.some.inj carries
        simp [settle, classify, sole, matched, done, formOf]
      · cases carries
  | token | node | grouped | formatted => cases candidate

end Settling

/-- What settling a call or a subscript reports is one event if that is a marker, and none
otherwise. -/
theorem accounts_settle (config : Config) (site : Site) (candidate : isCandidate site.tree = true)
    (visited : (visit config site.around site.tree).1 =
      (settle config site.around site.tree (walked config site.tree)).1) :
    List.Forall₂ (Accounts config)
      ([site].filter fun site => isMatched config (walked config site.tree))
      ((settle config site.around site.tree (walked config site.tree)).2.filterMap
        Finding.happening?) := by
  cases matched : isMatched config (walked config site.tree) with
  | false =>
    rw [settle_of_unmatched _ matched, List.filter_cons_of_neg (by simp [matched])]
    exact .nil
  | true =>
    rw [List.filter_cons_of_pos (by simpa using matched), List.filter_nil]
    cases carries : carried? config (walked config site.tree) with
    | none =>
      rw [settle_of_bare _ matched carries] at visited ⊢
      exact .cons (.skipped (.noTemplate carries) visited) .nil
    | some literal =>
      cases done : outdented config.trims literal with
      | error reason =>
        rw [settle_of_error _ carries done] at visited ⊢
        exact .cons (.skipped (unfit_of_outdented carries done) visited) .nil
      | ok edited =>
        have same : formOf (walked config site.tree) = formOf site.tree := by
          cases site.tree <;> rfl
        have still : isCandidate (walked config site.tree) = true := by
          cases tree : site.tree <;> simp [tree, isCandidate, walked] at candidate ⊢
        have rewritten : isRewritten config site.tree = true := by
          rw [isRewritten_eq, candidate, isOpen, carries, Option.any_some, done]
          rfl
        have rewrites : Rewrites config (walked config site.tree)
            (visit config site.around site.tree).1 := by
          obtain ⟨stays, -⟩ | ⟨-, rewrites⟩ := visit_cases config site.around site.tree
          · exact absurd (stays.symm.trans rewritten) Bool.false_ne_true
          · exact rewrites
        rw [settle_of_ok _ still carries done, same, ← visited]
        exact .cons (.replaced (not_unfit_of_outdented carries done) rewrites) .nil

mutual

/-- A walk reports one event for each marker, in the order in which it leaves them. -/
theorem accounts_visit (config : Config) (around : Parentheses) (tree : Tree) :
    List.Forall₂ (Accounts config)
      ((sites around tree).filter fun site => isMatched config (walked config site.tree))
      ((visit config around tree).2.filterMap Finding.happening?) := by
  cases tree with
  | token lexeme => exact .nil
  | node shape children =>
    have none : (if config.check.refuses shape (visitAll config children).1 then [Finding.refused]
        else []).filterMap Finding.happening? = [] := by
      split <;> rfl
    rw [visit, sites, List.filterMap_append, none, List.append_nil]
    exact accounts_visitAll config children
  | call callee opening arguments closing =>
    have here := accounts_settle config
      ⟨around, .call callee opening arguments closing⟩ rfl (by rw [visit]; rfl)
    rw [visit, sites, List.filterMap_append, List.filterMap_append, List.filter_append,
      List.filter_append]
    exact List.rel_append
      (List.rel_append (accounts_visit config [] callee) (accounts_visitAll config arguments)) here
  | subscript value opening elements closing =>
    have here := accounts_settle config
      ⟨around, .subscript value opening elements closing⟩ rfl (by rw [visit]; rfl)
    rw [visit, sites, List.filterMap_append, List.filterMap_append, List.filter_append,
      List.filter_append]
    exact List.rel_append
      (List.rel_append (accounts_visit config [] value) (accounts_visitAll config elements)) here
  | grouped opening inner closing =>
    rw [visit, sites]
    exact accounts_visit config _ inner
  | formatted opening parts closing =>
    rw [visit, sites]
    exact accounts_visitAll config parts

/-- The same for several trees. -/
theorem accounts_visitAll (config : Config) (trees : List Tree) :
    List.Forall₂ (Accounts config)
      ((sitesOf trees).filter fun site => isMatched config (walked config site.tree))
      ((visitAll config trees).2.filterMap Finding.happening?) := by
  cases trees with
  | nil => exact .nil
  | cons tree rest =>
    rw [visitAll, sitesOf, List.filter_append]
    simp only [List.filterMap_append]
    exact List.rel_append (accounts_visit config [] tree) (accounts_visitAll config rest)

end

end Marker

open Marker

/-- The trace of a run accounts for every marker once. A source that cannot be read leaves the two
outer phases with one warning inside. For one that can be read the phases enclose one event for
each marker, in the order in which the walk leaves them; as many markers are counted as are
recorded to be replaced, and the result is changed if there is one. -/
theorem run_accounts {config : Config} {code : Text} {result : Result}
    (ran : run config code = .ok result) :
    match parse? code with
    | none =>
      result.success = false ∧ result.outdented = 0 ∧
        result.trace =
          [⟨.phaseStart "Dedent Pipeline" (markersDetail config), none⟩,
            ⟨.phaseStart "Parsing" "Raw Source -> CST", some 0⟩,
            ⟨.warning parseError, some 1⟩, ⟨.phaseEnd, some 1⟩, ⟨.phaseEnd, some 0⟩]
    | some tree =>
      result.success = true ∧ ∃ happenings,
        List.Forall₂ (Accounts config)
          ((sites [] tree).filter fun site => isMatched config (walked config site.tree))
          happenings ∧
        result.trace =
          [⟨.phaseStart "Dedent Pipeline" (markersDetail config), none⟩,
            ⟨.phaseStart "Parsing" "Raw Source -> CST", some 0⟩, ⟨.phaseEnd, some 1⟩,
            ⟨.phaseStart "Dedent Rewrite" "Visitor Traversal", some 0⟩] ++
          happenings.map (⟨·, some 3⟩) ++ [⟨.phaseEnd, some 3⟩, ⟨.phaseEnd, some 0⟩] ∧
        result.outdented = (happenings.filter Happening.isReplace).length ∧
        (result.changed = true ↔ ∃ happening ∈ happenings, happening.isReplace = true) := by
  split
  · rename_i unread
    rw [run_of_parse?_none unread] at ran
    obtain rfl := Except.ok.inj ran
    exact ⟨rfl, rfl, events_runTrace_none config⟩
  · rename_i tree read
    have counted := (outdentedCount_visit config [] tree).symm.trans (outdentedCount_eq _)
    obtain rfl := result_of_run read ran
    refine ⟨rfl, _, accounts_visit config [] tree, events_runTrace_some config _, counted, ?_⟩
    simp only [Result.changed, counted, decide_eq_true_eq, List.length_pos_iff_exists_mem,
      List.mem_filter]

/-- A call that is kept around other markers: one without a template, which is skipped, and one
that is given up before the call is rewritten itself. -/
theorem run_accounts_kept : ∃ result tree happenings,
    run {} "x = dedent(sql['a'], dedent(b), dedent['c'])\n" = .ok result ∧
      parse? "x = dedent(sql['a'], dedent(b), dedent['c'])\n" = some tree ∧
      result.trace.map (fun event => (event.happening.description, event.parent)) =
        [("Dedent Pipeline".toList, none), ("Parsing".toList, some 0),
          ("End Phase".toList, some 1), ("Dedent Rewrite".toList, some 0),
          ("Skipped 'dedent(b)'".toList, some 3), ("Dedented Subscript".toList, some 3),
          ("Dedented Call".toList, some 3), ("End Phase".toList, some 3),
          ("End Phase".toList, some 0)] ∧
      List.Forall₂ (Accounts {})
        ((sites [] tree).filter fun site => isMatched {} (walked {} site.tree)) happenings ∧
      result.outdented = 2 ∧ (happenings.filter Happening.isReplace).length = 2 := by
  have found : ((run {} "x = dedent(sql['a'], dedent(b), dedent['c'])\n").toOption.any fun result =>
      result.outdented == 2 &&
        result.trace.map (fun event => (event.happening.description, event.parent)) ==
          [("Dedent Pipeline".toList, none), ("Parsing".toList, some 0),
            ("End Phase".toList, some 1), ("Dedent Rewrite".toList, some 0),
            ("Skipped 'dedent(b)'".toList, some 3), ("Dedented Subscript".toList, some 3),
            ("Dedented Call".toList, some 3), ("End Phase".toList, some 3),
            ("End Phase".toList, some 0)]) = true := by
    decide +kernel
  cases ran : run {} "x = dedent(sql['a'], dedent(b), dedent['c'])\n" with
  | error fault =>
    rw [ran] at found
    exact absurd found Bool.false_ne_true
  | ok result =>
    rw [ran] at found
    simp only [Except.toOption, Option.any_some, Bool.and_eq_true, beq_iff_eq] at found
    obtain ⟨count, trace⟩ := found
    have accounts := run_accounts ran
    split at accounts
    · rename_i unread
      exact absurd (accounts.2.1.symm.trans count) (by decide)
    · rename_i tree read
      obtain ⟨_, happenings, events, _, counted, _⟩ := accounts
      exact ⟨result, tree, happenings, rfl, read, trace, events, count, counted ▸ count⟩

end Outdent
