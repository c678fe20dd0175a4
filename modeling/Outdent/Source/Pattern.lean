import Outdent.Source.Tree

/-!
# Patterns

What a grammar is written in. A pattern matches a beginning of a list of lexemes and answers with
trees over it. What a single lexeme is asked for is data, so that a grammar can be computed with. Of
two alternatives the second is tried only where the first does not match. A grammar gives a pattern
to every rule name, so rules may refer to each other. Matching descends at most as deep as its fuel
says, and running out of fuel is told apart from not matching. `Outdent.Source.Matching` says why a
pattern matches.
-/
namespace Outdent.Source

/-- What one lexeme is asked for. -/
inductive Test where
  /-- To be of a kind. -/
  | kind (kind : Kind)
  /-- To be one of some words or punctuation. -/
  | word (texts : List Text)
  deriving DecidableEq

/-- Does a lexeme pass a test? -/
def Test.accepts : Test → Lexeme → Bool
  | kind expected, lexeme => lexeme.kind == expected
  | word texts, lexeme => texts.any lexeme.isWord

/-- A pattern over lexemes that refers to rules by name. -/
inductive Pattern (Rule : Type) where
  /-- Matches nothing at all. -/
  | nothing
  /-- One lexeme that passes a test. -/
  | lexeme (test : Test)
  /-- What a rule matches. -/
  | rule (name : Rule)
  /-- One pattern and then another. -/
  | both (first second : Pattern Rule)
  /-- The first of two patterns that matches. -/
  | either (first second : Pattern Rule)
  /-- A pattern as often as it matches. -/
  | many (each : Pattern Rule)
  /-- Matches nothing, where the inner pattern would match. -/
  | ahead (inner : Pattern Rule)
  /-- Matches nothing, where the inner pattern would not match. -/
  | notAhead (inner : Pattern Rule)
  /-- The trees of the inner pattern as one tree of a shape. -/
  | shaped (shape : Shape) (inner : Pattern Rule)
  /-- The trees of the base, put as often as one of the tails matches into a tree of the shape that
  stands with it. -/
  | extended (base : Pattern Rule) (tails : List (Shape × Pattern Rule))
  /-- The inner pattern, if its trees pass a test. -/
  | checked (test : List Tree → Bool) (inner : Pattern Rule)

/-- What matching comes to. -/
inductive Outcome where
  /-- The fuel did not suffice. -/
  | exhausted
  /-- The pattern does not match. -/
  | refused
  /-- The pattern matches: its trees, and the lexemes that are left. -/
  | matched (trees : List Tree) (rest : List Lexeme)

namespace Pattern

variable {Rule : Type}

mutual

/-- Match a pattern at the beginning of some lexemes. -/
def run (grammar : Rule → Pattern Rule) : Nat → Pattern Rule → List Lexeme → Outcome
  | 0, _, _ => .exhausted
  | _ + 1, nothing, lexemes => .matched [] lexemes
  | _ + 1, lexeme test, lexemes =>
    match lexemes with
    | first :: rest => if test.accepts first then .matched [.token first] rest else .refused
    | [] => .refused
  | fuel + 1, rule name, lexemes => run grammar fuel (grammar name) lexemes
  | fuel + 1, both first second, lexemes =>
    match run grammar fuel first lexemes with
    | .matched trees rest =>
      match run grammar fuel second rest with
      | .matched more left => .matched (trees ++ more) left
      | .refused => .refused
      | .exhausted => .exhausted
    | .refused => .refused
    | .exhausted => .exhausted
  | fuel + 1, either first second, lexemes =>
    match run grammar fuel first lexemes with
    | .matched trees rest => .matched trees rest
    | .refused => run grammar fuel second lexemes
    | .exhausted => .exhausted
  | fuel + 1, many each, lexemes =>
    match run grammar fuel each lexemes with
    | .matched trees rest =>
      match run grammar fuel (many each) rest with
      | .matched more left => .matched (trees ++ more) left
      | .refused => .refused
      | .exhausted => .exhausted
    | .refused => .matched [] lexemes
    | .exhausted => .exhausted
  | fuel + 1, ahead inner, lexemes =>
    match run grammar fuel inner lexemes with
    | .matched _ _ => .matched [] lexemes
    | .refused => .refused
    | .exhausted => .exhausted
  | fuel + 1, notAhead inner, lexemes =>
    match run grammar fuel inner lexemes with
    | .matched _ _ => .refused
    | .refused => .matched [] lexemes
    | .exhausted => .exhausted
  | fuel + 1, shaped shape inner, lexemes =>
    match run grammar fuel inner lexemes with
    | .matched trees rest => .matched [.build shape trees] rest
    | .refused => .refused
    | .exhausted => .exhausted
  | fuel + 1, extended base tails, lexemes =>
    match run grammar fuel base lexemes with
    | .matched trees rest => grow grammar fuel tails tails trees rest
    | .refused => .refused
    | .exhausted => .exhausted
  | fuel + 1, checked test inner, lexemes =>
    match run grammar fuel inner lexemes with
    | .matched trees rest => if test trees then .matched trees rest else .refused
    | .refused => .refused
    | .exhausted => .exhausted

/-- Extend trees by tails as long as one of them matches; of all tails, the `left` ones have not
been tried since the last match. -/
def grow (grammar : Rule → Pattern Rule) :
    Nat → List (Shape × Pattern Rule) → List (Shape × Pattern Rule) → List Tree → List Lexeme →
      Outcome
  | 0, _, _, _, _ => .exhausted
  | _ + 1, _, [], trees, lexemes => .matched trees lexemes
  | fuel + 1, tails, (shape, tail) :: left, trees, lexemes =>
    match run grammar fuel tail lexemes with
    | .matched more rest => grow grammar fuel tails tails [.build shape (trees ++ more)] rest
    | .refused => grow grammar fuel tails left trees lexemes
    | .exhausted => .exhausted

end

/-- Patterns in order. -/
def sequence : List (Pattern Rule) → Pattern Rule
  | [] => nothing
  | [pattern] => pattern
  | pattern :: next :: patterns => both pattern (sequence (next :: patterns))

/-- The first pattern that matches. -/
def choice : List (Pattern Rule) → Pattern Rule
  | [] => notAhead nothing
  | [pattern] => pattern
  | pattern :: next :: patterns => either pattern (choice (next :: patterns))

/-- A pattern once or not at all. -/
def optional (pattern : Pattern Rule) : Pattern Rule := either pattern nothing

/-- A pattern at least once. -/
def several (pattern : Pattern Rule) : Pattern Rule := both pattern (many pattern)

/-- A given word or punctuation. -/
def word (text : Text) : Pattern Rule := lexeme (.word [text])

/-- One of some words or punctuation. -/
def oneOf (texts : List String) : Pattern Rule := lexeme (.word (texts.map String.toList))

/-- A lexeme of a given kind. -/
def kind (kind : Kind) : Pattern Rule := lexeme (.kind kind)

/-- A pattern with separators between its occurrences. -/
def separated (pattern separator : Pattern Rule) : Pattern Rule :=
  both pattern (many (both separator pattern))

end Pattern

end Outdent.Source
