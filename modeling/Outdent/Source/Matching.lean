import Outdent.Source.Pattern

/-!
# Derivations of matches

Why a pattern matches, without the fuel and the order in which alternatives are tried. What holds of
every match is proved by induction on its derivation, with one case for each way to match. Main
statements: `matches_of_run`, every match has a derivation, and `Matches.lexemesOf`, a derivation
keeps the lexemes.
-/
namespace Outdent.Source.Pattern

variable {Rule : Type}

/-- A pattern matches a beginning of some lexemes with some trees, and others are left. -/
inductive Matches (grammar : Rule → Pattern Rule) :
    Pattern Rule → List Lexeme → List Tree → List Lexeme → Prop where
  /-- Nothing. -/
  | nothing {lexemes : List Lexeme} : Matches grammar nothing lexemes [] lexemes
  /-- A lexeme that passes the test. -/
  | lexeme {test : Test} {first : Lexeme} {rest : List Lexeme}
      (accepted : test.accepts first = true) :
      Matches grammar (lexeme test) (first :: rest) [.token first] rest
  /-- What the pattern of the rule matches. -/
  | rule {name : Rule} {lexemes : List Lexeme} {trees : List Tree} {rest : List Lexeme}
      (inner : Matches grammar (grammar name) lexemes trees rest) :
      Matches grammar (rule name) lexemes trees rest
  /-- One pattern and then the other. -/
  | both {first second : Pattern Rule} {lexemes middle rest : List Lexeme}
      {trees more : List Tree} (before : Matches grammar first lexemes trees middle)
      (after : Matches grammar second middle more rest) :
      Matches grammar (both first second) lexemes (trees ++ more) rest
  /-- The first alternative. -/
  | left {first second : Pattern Rule} {lexemes : List Lexeme} {trees : List Tree}
      {rest : List Lexeme} (inner : Matches grammar first lexemes trees rest) :
      Matches grammar (either first second) lexemes trees rest
  /-- The second alternative. -/
  | right {first second : Pattern Rule} {lexemes : List Lexeme} {trees : List Tree}
      {rest : List Lexeme} (inner : Matches grammar second lexemes trees rest) :
      Matches grammar (either first second) lexemes trees rest
  /-- No more repetitions. -/
  | none {each : Pattern Rule} {lexemes : List Lexeme} :
      Matches grammar (many each) lexemes [] lexemes
  /-- One more repetition. -/
  | more {each : Pattern Rule} {lexemes middle rest : List Lexeme} {trees more : List Tree}
      (before : Matches grammar each lexemes trees middle)
      (after : Matches grammar (many each) middle more rest) :
      Matches grammar (many each) lexemes (trees ++ more) rest
  /-- Nothing, in front of what the inner pattern matches. -/
  | ahead {inner : Pattern Rule} {lexemes : List Lexeme} :
      Matches grammar (ahead inner) lexemes [] lexemes
  /-- Nothing, in front of what the inner pattern does not match. -/
  | notAhead {inner : Pattern Rule} {lexemes : List Lexeme} :
      Matches grammar (notAhead inner) lexemes [] lexemes
  /-- The trees of the inner pattern as one. -/
  | shaped {shape : Shape} {inner : Pattern Rule} {lexemes : List Lexeme} {trees : List Tree}
      {rest : List Lexeme} (inside : Matches grammar inner lexemes trees rest) :
      Matches grammar (shaped shape inner) lexemes [.build shape trees] rest
  /-- The base without tails. -/
  | base {base : Pattern Rule} {tails : List (Shape × Pattern Rule)} {lexemes : List Lexeme}
      {trees : List Tree} {rest : List Lexeme} (inner : Matches grammar base lexemes trees rest) :
      Matches grammar (extended base tails) lexemes trees rest
  /-- One more tail. -/
  | tail {base : Pattern Rule} {tails : List (Shape × Pattern Rule)} {shape : Shape}
      {tail : Pattern Rule} {lexemes middle rest : List Lexeme} {trees more : List Tree}
      (before : Matches grammar (extended base tails) lexemes trees middle)
      (among : (shape, tail) ∈ tails) (after : Matches grammar tail middle more rest) :
      Matches grammar (extended base tails) lexemes [.build shape (trees ++ more)] rest
  /-- Trees that pass the test. -/
  | checked {test : List Tree → Bool} {inner : Pattern Rule} {lexemes : List Lexeme}
      {trees : List Tree} {rest : List Lexeme} (passed : test trees = true)
      (inside : Matches grammar inner lexemes trees rest) :
      Matches grammar (checked test inner) lexemes trees rest

/-- The trees of a match and the lexemes that are left are those that were to be matched. -/
theorem Matches.lexemesOf {grammar : Rule → Pattern Rule} {pattern : Pattern Rule}
    {lexemes rest : List Lexeme} {trees : List Tree}
    (found : Matches grammar pattern lexemes trees rest) :
    Tree.lexemesOf trees ++ rest = lexemes := by
  induction found with
  | nothing => rfl
  | lexeme => rfl
  | rule inner ih => exact ih
  | both before after first second =>
    rw [Tree.lexemesOf_append, List.append_assoc, second, first]
  | left inner ih => exact ih
  | right inner ih => exact ih
  | none => rfl
  | more before after first second =>
    rw [Tree.lexemesOf_append, List.append_assoc, second, first]
  | ahead => rfl
  | notAhead => rfl
  | shaped inside ih => simpa [Tree.lexemesOf] using ih
  | base inner ih => exact ih
  | tail before among after first second =>
    simp only [Tree.lexemesOf, Tree.lexemes_build, Tree.lexemesOf_append, List.append_nil]
    rw [List.append_assoc, second, first]
  | checked passed inside ih => exact ih

mutual

/-- Every match has a derivation. -/
theorem matches_of_run (grammar : Rule → Pattern Rule) (fuel : Nat) (pattern : Pattern Rule)
    (lexemes : List Lexeme) (trees : List Tree) (rest : List Lexeme)
    (found : run grammar fuel pattern lexemes = .matched trees rest) :
    Matches grammar pattern lexemes trees rest := by
  cases fuel with
  | zero => simp [run] at found
  | succ fuel =>
    cases pattern with
    | nothing =>
      obtain ⟨rfl, rfl⟩ := Outcome.matched.inj found
      exact .nothing
    | lexeme test =>
      cases lexemes with
      | nil => simp [run] at found
      | cons first others =>
        simp only [run] at found
        split at found
        · rename_i accepted
          obtain ⟨rfl, rfl⟩ := Outcome.matched.inj found
          exact .lexeme accepted
        · simp at found
    | rule name => exact .rule (matches_of_run grammar fuel _ lexemes trees rest found)
    | both first second =>
      simp only [run] at found
      split at found
      · rename_i head
        split at found
        · rename_i tail
          obtain ⟨rfl, rfl⟩ := Outcome.matched.inj found
          exact .both (matches_of_run grammar fuel _ _ _ _ head)
            (matches_of_run grammar fuel _ _ _ _ tail)
        · simp at found
        · simp at found
      · simp at found
      · simp at found
    | either first second =>
      simp only [run] at found
      split at found
      · rename_i head
        obtain ⟨rfl, rfl⟩ := Outcome.matched.inj found
        exact .left (matches_of_run grammar fuel _ _ _ _ head)
      · exact .right (matches_of_run grammar fuel _ _ _ _ found)
      · simp at found
    | many each =>
      simp only [run] at found
      split at found
      · rename_i head
        split at found
        · rename_i tail
          obtain ⟨rfl, rfl⟩ := Outcome.matched.inj found
          exact .more (matches_of_run grammar fuel _ _ _ _ head)
            (matches_of_run grammar fuel _ _ _ _ tail)
        · simp at found
        · simp at found
      · obtain ⟨rfl, rfl⟩ := Outcome.matched.inj found
        exact .none
      · simp at found
    | ahead inner =>
      simp only [run] at found
      split at found
      · obtain ⟨rfl, rfl⟩ := Outcome.matched.inj found
        exact .ahead
      · simp at found
      · simp at found
    | notAhead inner =>
      simp only [run] at found
      split at found
      · simp at found
      · obtain ⟨rfl, rfl⟩ := Outcome.matched.inj found
        exact .notAhead
      · simp at found
    | shaped shape inner =>
      simp only [run] at found
      split at found
      · rename_i head
        obtain ⟨rfl, rfl⟩ := Outcome.matched.inj found
        exact .shaped (matches_of_run grammar fuel _ _ _ _ head)
      · simp at found
      · simp at found
    | extended base tails =>
      simp only [run] at found
      split at found
      · rename_i head
        exact matches_of_grow grammar fuel base tails tails lexemes _ _ trees rest
          (fun _ among => among) (.base (matches_of_run grammar fuel _ _ _ _ head)) found
      · simp at found
      · simp at found
    | checked test inner =>
      simp only [run] at found
      split at found
      · rename_i head
        split at found
        · rename_i passed
          obtain ⟨rfl, rfl⟩ := Outcome.matched.inj found
          exact .checked passed (matches_of_run grammar fuel _ _ _ _ head)
        · simp at found
      · simp at found
      · simp at found

/-- A match with tails has a derivation if the match without them has one. -/
theorem matches_of_grow (grammar : Rule → Pattern Rule) (fuel : Nat) (base : Pattern Rule)
    (tails left : List (Shape × Pattern Rule)) (lexemes : List Lexeme) (trees : List Tree)
    (middle : List Lexeme) (grown : List Tree) (rest : List Lexeme)
    (among : ∀ tail ∈ left, tail ∈ tails)
    (before : Matches grammar (extended base tails) lexemes trees middle)
    (found : grow grammar fuel tails left trees middle = .matched grown rest) :
    Matches grammar (extended base tails) lexemes grown rest := by
  cases fuel with
  | zero => simp [grow] at found
  | succ fuel =>
    cases left with
    | nil =>
      obtain ⟨rfl, rfl⟩ := Outcome.matched.inj found
      exact before
    | cons next left =>
      obtain ⟨shape, tail⟩ := next
      simp only [grow] at found
      split at found
      · rename_i head
        exact matches_of_grow grammar fuel base tails tails lexemes _ _ grown rest
          (fun _ among => among)
          (.tail before (among _ List.mem_cons_self) (matches_of_run grammar fuel _ _ _ _ head))
          found
      · exact matches_of_grow grammar fuel base tails left lexemes trees middle grown rest
          (fun other member => among other (.tail _ member)) before found
      · simp at found

end

end Outdent.Source.Pattern
