import Outdent.Proofs.Nesting
import Outdent.Source.Grammar

/-!
# Balanced patterns

How many of the open brackets and strings a pattern closes and how many it opens, whatever it
matches. `balance` computes this from the pattern alone, and that every rule of the grammar closes
all that it opens is decided by computing it. Main statements: `Matches.moves`, framed lexemes are
left framed with so much closed and opened, and `balance_grammar`.
-/
namespace Outdent.Source

open Pattern

/-- How many of the open brackets and strings are closed, and how many are opened then. -/
structure Move where
  /-- The number of those that are closed. -/
  closes : Nat
  /-- The number of those that are opened. -/
  opens : Nat
  deriving DecidableEq

namespace Move

/-- Nothing is closed or opened. -/
def still : Move := ⟨0, 0⟩

/-- One move and then another. -/
def andThen (first second : Move) : Move :=
  ⟨first.closes + (second.closes - first.opens), second.opens + (first.opens - second.closes)⟩

/-- A move leads from what is open to what is open. -/
def Leads (move : Move) (nests next : List Nest) : Prop :=
  move.closes ≤ nests.length ∧
    ∃ opened : List Nest, opened.length = move.opens ∧ next = opened ++ nests.drop move.closes

/-- What is open stays open when nothing is closed or opened. -/
theorem leads_still (nests : List Nest) : still.Leads nests nests :=
  ⟨Nat.zero_le _, [], rfl, rfl⟩

/-- Nothing else is open when nothing is closed or opened. -/
theorem eq_of_leads_still {nests next : List Nest} (leads : still.Leads nests next) :
    next = nests := by
  obtain ⟨_, opened, none, rfl⟩ := leads
  rw [List.length_eq_zero_iff.mp none]
  rfl

/-- Two moves lead where one leads from where the other leads. -/
theorem Leads.andThen {first second : Move} {nests middle next : List Nest}
    (before : first.Leads nests middle) (after : second.Leads middle next) :
    (first.andThen second).Leads nests next := by
  obtain ⟨enough, opened, many, rfl⟩ := before
  obtain ⟨enoughThen, openedThen, manyThen, rfl⟩ := after
  rw [List.length_append, List.length_drop, many] at enoughThen
  refine ⟨?_, openedThen ++ opened.drop second.closes, ?_, ?_⟩
  · simp only [Move.andThen]
    omega
  · simp only [Move.andThen, List.length_append, List.length_drop]
    omega
  · rw [List.drop_append, List.drop_drop, many, List.append_assoc]
    rfl

end Move

/-- The move of a lexeme that passes a test. -/
def Test.move : Test → Option Move
  | .kind .formattedOpening => some ⟨0, 1⟩
  | .kind .templateOpening => some ⟨0, 1⟩
  | .kind .literalClosing => some ⟨1, 0⟩
  | .kind .mark => none
  | .kind _ => some .still
  | .word texts =>
    if texts.all fun text => !isBracket text then some .still
    else if texts.all isOpeningBracket then some ⟨0, 1⟩
    else if texts.all isClosingBracket then some ⟨1, 0⟩
    else none

/-- The parts of a string with replacement fields. -/
def literalParts : Grammar.Part := many (either (kind .literalText) (rule .field))

/-- A formatted string, before it is one tree. -/
def formattedParts : Grammar.Part :=
  sequence [kind .formattedOpening, literalParts, kind .literalClosing]

/-- Is a pattern that of a formatted string? -/
def isFormattedParts : Grammar.Part → Bool
  | .both (.lexeme opening)
      (.both (.many (.either (.lexeme text) (.rule .field))) (.lexeme closing)) =>
    opening == .kind .formattedOpening && text == .kind .literalText &&
      closing == .kind .literalClosing
  | _ => false

/-- The pattern of a formatted string is recognized. -/
theorem eq_of_isFormattedParts {pattern : Grammar.Part} (is : isFormattedParts pattern = true) :
    pattern = formattedParts := by
  unfold isFormattedParts at is
  split at is
  · simp only [Bool.and_eq_true, beq_iff_eq] at is
    obtain ⟨⟨rfl, rfl⟩, rfl⟩ := is
    rfl
  · simp at is

mutual

/-- The move of every match of a pattern, if it is known from the pattern alone. Rules are taken to
close what they open, and only formatted strings to be built as such. -/
def balance : Grammar.Part → Option Move
  | .nothing => some .still
  | .lexeme test => test.move
  | .rule _ => some .still
  | .both first second =>
    match balance first, balance second with
    | some before, some after => some (before.andThen after)
    | _, _ => none
  | .either first second => if balance first = balance second then balance first else none
  | .many each => if balance each = some .still then some .still else none
  | .ahead _ => some .still
  | .notAhead _ => some .still
  | .shaped shape inner =>
    if shape = .formatted ∧ isFormattedParts inner = false then none else balance inner
  | .extended base tails => if areStill tails then balance base else none
  | .checked _ inner => balance inner

/-- Do all tails close what they open? -/
def areStill : List (Shape × Grammar.Part) → Bool
  | [] => true
  | (shape, tail) :: tails =>
    decide (shape ≠ .formatted) && decide (balance tail = some .still) && areStill tails

end

/-- Punctuation that is no bracket opens and closes nothing. -/
theorem enterMark_of_not_isBracket {text : Text} (plain : isBracket text = false)
    (nests : List Nest) : enterMark nests text = some nests := by
  match text with
  | [] => rfl
  | [character] =>
    obtain ⟨noOpening, noClosing⟩ : Scan.closingOf character = none ∧
        isClosing character = false := by
      simpa [isBracket, isOpeningBracket, isClosingBracket] using plain
    unfold enterMark
    simp [noOpening, noClosing]
  | _ :: _ :: _ => rfl

/-- A bracket that opens opens one. -/
theorem enterMark_opening {text : Text} (opens : isOpeningBracket text = true)
    (nests : List Nest) :
    ∃ closing, enterMark nests text = some (.bracket closing :: nests) := by
  match text with
  | [] => simp [isOpeningBracket] at opens
  | [character] =>
    obtain ⟨closing, found⟩ := Option.isSome_iff_exists.mp opens
    refine ⟨closing, ?_⟩
    unfold enterMark
    simp only [found]
  | _ :: _ :: _ => simp [isOpeningBracket] at opens

/-- A bracket that closes closes the innermost one. -/
theorem enterMark_closing {text : Text} (closes : isClosingBracket text = true)
    {nests next : List Nest} (enters : enterMark nests text = some next) :
    ∃ closing, nests = .bracket closing :: next := by
  match text with
  | [] => simp [isClosingBracket] at closes
  | [character] =>
    have closes : isClosing character = true := closes
    have noOpening : Scan.closingOf character = none := by
      simp only [isClosing, Bool.or_eq_true, beq_iff_eq] at closes
      rcases closes with (rfl | rfl) | rfl <;> rfl
    unfold enterMark at enters
    simp only [noOpening, closes, ↓reduceIte] at enters
    split at enters
    · rename_i closing outer
      split at enters
      · exact ⟨closing, by rw [Option.some.inj enters]⟩
      · simp at enters
    · simp at enters
  | _ :: _ :: _ => simp [isClosingBracket] at closes

/-- A word or punctuation that is asked for is one. -/
theorem word_cases {texts : List Text} {lexeme : Lexeme}
    (accepted : (Test.word texts).accepts lexeme = true) :
    (lexeme.kind = .name ∨ lexeme.kind = .keyword ∨ lexeme.kind = .mark) ∧
      lexeme.text ∈ texts := by
  obtain ⟨text, member, is⟩ := List.any_eq_true.mp accepted
  simp only [Lexeme.isWord, Bool.and_eq_true, Bool.or_eq_true, beq_iff_eq] at is
  obtain ⟨kinds, rfl⟩ := is
  exact ⟨by simpa [or_assoc] using kinds, member⟩

/-- A genuine lexeme that passes a test makes the move of the test. -/
theorem Test.move_leads {test : Test} {move : Move} (known : test.move = some move)
    {lexeme : Lexeme} (accepted : test.accepts lexeme = true) {nests next : List Nest}
    {rest : List Lexeme} (enters : enter nests lexeme = some next)
    (genuine : lexeme.Genuine nests rest) : move.Leads nests next := by
  have opened : ∀ {nest : Nest}, next = nest :: nests → (Move.mk 0 1).Leads nests next := by
    rintro nest rfl
    exact ⟨Nat.zero_le _, [nest], rfl, rfl⟩
  have closed : ∀ {nest : Nest}, nests = nest :: next → (Move.mk 1 0).Leads nests next := by
    rintro nest rfl
    exact ⟨by simp, [], rfl, rfl⟩
  cases test with
  | word texts =>
    obtain ⟨kinds, member⟩ := word_cases accepted
    have mark : isBracket lexeme.text = true → enterMark nests lexeme.text = some next := by
      intro bracket
      unfold Lexeme.Genuine at genuine
      rcases kinds with kind | kind | kind
      · rw [kind] at genuine
        exact absurd bracket (by simpa using genuine)
      · rw [kind] at genuine
        exact absurd bracket (by simpa using genuine)
      · unfold enter at enters
        rwa [kind] at enters
    unfold Test.move at known
    simp only at known
    split at known
    · rename_i plain
      obtain rfl := Option.some.inj known
      have plain : isBracket lexeme.text = false := by
        simpa using List.all_eq_true.mp plain _ member
      obtain rfl : nests = next := by
        unfold enter at enters
        rcases kinds with kind | kind | kind
        · simpa [kind] using enters
        · simpa [kind] using enters
        · simpa [kind, enterMark_of_not_isBracket plain] using enters
      exact Move.leads_still nests
    · split at known
      · rename_i opens
        obtain rfl := Option.some.inj known
        have opens := List.all_eq_true.mp opens _ member
        obtain ⟨closing, found⟩ := enterMark_opening opens nests
        rw [mark (by simp [isBracket, opens])] at found
        exact opened (Option.some.inj found)
      · split at known
        · rename_i closes
          obtain rfl := Option.some.inj known
          have closes := List.all_eq_true.mp closes _ member
          obtain ⟨closing, same⟩ := enterMark_closing closes (mark (by simp [isBracket, closes]))
          exact closed same
        · simp at known
  | kind kind =>
    obtain rfl : lexeme.kind = kind := by simpa [Test.accepts] using accepted
    unfold enter at enters
    unfold Test.move at known
    cases kind : lexeme.kind with
    | formattedOpening | templateOpening =>
      simp only [kind, Option.some.injEq] at enters known
      obtain ⟨form, _, same⟩ := Option.map_eq_some_iff.mp enters
      exact known ▸ opened same.symm
    | literalClosing =>
      simp only [kind, Option.some.injEq] at enters known
      split at enters
      · split at enters
        · exact known ▸ closed (by rw [Option.some.inj enters])
        · simp at enters
      · simp at enters
    | mark => simp [kind] at known
    | name | keyword | number | string | literalText | lineEnd | blockBegin | blockEnd | finish =>
      simp only [kind, Option.some.injEq] at enters known
      rw [← known, ← enters]
      exact Move.leads_still nests

/-- The tails of a pattern that closes what it opens do so as well, and none of them is built as a
formatted string. -/
theorem still_of_areStill {tails : List (Shape × Grammar.Part)} (still : areStill tails = true)
    {shape : Shape} {tail : Grammar.Part} (among : (shape, tail) ∈ tails) :
    shape ≠ .formatted ∧ balance tail = some .still := by
  induction tails with
  | nil => simp at among
  | cons first others ih =>
    obtain ⟨other, pattern⟩ := first
    simp only [areStill, Bool.and_eq_true, decide_eq_true_eq] at still
    obtain same | among := List.mem_cons.mp among
    · obtain ⟨rfl, rfl⟩ := Prod.mk.inj same
      exact still.1
    · exact ih still.2 among

/-- Every rule of the grammar closes what it opens. -/
theorem balance_grammar (name : Rule) : balance (grammar name) = some .still := by
  cases name <;> decide +kernel

/-- A whole source closes what it opens. -/
theorem balance_source : balance Grammar.source = some .still := by
  decide +kernel

/-- Framed lexemes that a pattern matches are followed by framed lexemes, and the pattern's move
leads there. -/
theorem Pattern.Matches.moves {pattern : Grammar.Part} {lexemes rest : List Lexeme}
    {trees : List Tree} (found : Matches grammar pattern lexemes trees rest) {move : Move}
    (known : balance pattern = some move) {nests : List Nest} (framed : Framed nests lexemes) :
    ∃ next, move.Leads nests next ∧ Framed next rest := by
  induction found generalizing move nests with
  | nothing =>
    obtain rfl := Option.some.inj known
    exact ⟨nests, Move.leads_still nests, framed⟩
  | lexeme accepted =>
    cases framed with
    | cons enters genuine behind =>
      exact ⟨_, Test.move_leads known accepted enters genuine, behind⟩
  | rule inner ih =>
    obtain rfl := Option.some.inj known
    exact ih (balance_grammar _) framed
  | both before after first second =>
    rw [balance] at known
    split at known
    · rename_i knownBefore knownAfter
      obtain rfl := Option.some.inj known
      obtain ⟨middle, leads, between⟩ := first knownBefore framed
      obtain ⟨next, leadsOn, behind⟩ := second knownAfter between
      exact ⟨next, leads.andThen leadsOn, behind⟩
    · simp at known
  | left inner ih =>
    rw [balance] at known
    split at known
    · exact ih known framed
    · simp at known
  | right inner ih =>
    rw [balance] at known
    split at known
    · rename_i same
      exact ih (same ▸ known) framed
    · simp at known
  | none =>
    rw [balance] at known
    split at known
    · obtain rfl := Option.some.inj known
      exact ⟨nests, Move.leads_still nests, framed⟩
    · simp at known
  | more before after first second =>
    have whole := known
    rw [balance] at known
    split at known
    · rename_i still
      obtain rfl := Option.some.inj known
      obtain ⟨middle, leads, between⟩ := first still framed
      obtain rfl := Move.eq_of_leads_still leads
      exact second whole between
    · simp at known
  | ahead =>
    obtain rfl := Option.some.inj known
    exact ⟨nests, Move.leads_still nests, framed⟩
  | notAhead =>
    obtain rfl := Option.some.inj known
    exact ⟨nests, Move.leads_still nests, framed⟩
  | shaped inside ih =>
    rw [balance] at known
    split at known
    · simp at known
    · exact ih known framed
  | base inner ih =>
    rw [balance] at known
    split at known
    · exact ih known framed
    · simp at known
  | tail before among after first second =>
    obtain ⟨middle, leads, between⟩ := first known framed
    rw [balance] at known
    split at known
    · rename_i still
      obtain ⟨next, leadsOn, behind⟩ := second (still_of_areStill still among).2 between
      obtain rfl := Move.eq_of_leads_still leadsOn
      exact ⟨next, leads, behind⟩
    · simp at known
  | checked passed inside ih => exact ih known framed

end Outdent.Source
