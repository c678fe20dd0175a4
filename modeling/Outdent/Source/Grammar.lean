import Outdent.Source.Matching

/-!
# Grammar

The grammar of Python source over its lexemes. Alternatives are factored so that each begins with a
lexeme of its own or shares what it begins with: nothing that nests is ever matched twice. Binary
operators of every precedence stand in one row, because nothing here depends on which of two binds
more. Targets of assignments are matched as expressions and tested afterwards, by `isTarget` and its
relatives.
-/
namespace Outdent.Source

namespace Tree

/-- Is a lexeme punctuation of a display, or a name in it? -/
def isListed (lexeme : Lexeme) : Bool :=
  lexeme.kind == .name || (lexeme.kind == .mark && lexeme.text != "...".toList)

mutual

/-- May a value be assigned to a tree? Names, attributes and subscripts are targets, and sequences
and parentheses of targets are. -/
def isTarget : Tree → Bool
  | token lexeme => lexeme.kind == .name
  | node .attribute _ => true
  | node .tuple children => areTargets children
  | node .list children => areTargets children
  | node .starred children => areTargets children
  | subscript _ _ _ _ => true
  | grouped _ inner _ => isTarget inner
  | _ => false

/-- Are all of several trees targets, apart from punctuation between them? -/
def areTargets : List Tree → Bool
  | [] => true
  | token lexeme :: trees => isListed lexeme && areTargets trees
  | tree :: trees => isTarget tree && areTargets trees

end

/-- May a tree be the only target: a name, an attribute or a subscript, in parentheses or not? -/
def isSingleTarget : Tree → Bool
  | token lexeme => lexeme.kind == .name
  | node .attribute _ => true
  | subscript _ _ _ _ => true
  | grouped _ inner _ => isSingleTarget inner
  | _ => false

mutual

/-- May a tree be deleted? It is a target in which nothing is starred. -/
def isDeletable : Tree → Bool
  | token lexeme => lexeme.kind == .name
  | node .attribute _ => true
  | node .tuple children => areDeletable children
  | node .list children => areDeletable children
  | subscript _ _ _ _ => true
  | grouped _ inner _ => isDeletable inner
  | _ => false

/-- May all of several trees be deleted, apart from punctuation between them? -/
def areDeletable : List Tree → Bool
  | [] => true
  | token lexeme :: trees => isListed lexeme && areDeletable trees
  | tree :: trees => isDeletable tree && areDeletable trees

end

/-- Is every tree that an equals sign follows a target? -/
def areAssigned : List Tree → Bool
  | target :: sign :: rest =>
    if sign.isWord ['='] then isTarget target && areAssigned rest else areAssigned (sign :: rest)
  | _ => true

/-- Do the trees of a simple statement have targets where they assign? -/
def isAssignment : List Tree → Bool
  | target :: sign :: rest =>
    if sign.isWord ['='] then areAssigned (target :: sign :: rest) else isSingleTarget target
  | _ => true

end Tree

/-- The rules of the grammar that others refer to. -/
inductive Rule where
  | expression
  | disjunction
  | inversion
  | arithmetic
  | factor
  | primary
  | clauses
  | field
  | casePattern
  | statement
  | block
  | otherwise

namespace Grammar

open Pattern

/-- A pattern of this grammar. -/
abbrev Part := Pattern Rule

/-- An identifier. -/
def name : Part := kind .name

/-- A comma. -/
def comma : Part := word ","

/-- At least one more element and perhaps a last comma, or a comma alone. No comma follows another.
-/
def moreOf (element : Part) : Part :=
  both (either (both (several (both comma element)) (optional comma)) comma) (notAhead comma)

/-- Elements separated by commas, perhaps with a last comma. -/
def elements (element : Part) : Part := both (separated element comma) (optional comma)

/-- An expression, or an assignment to a name inside an expression. -/
def named : Part :=
  either (shaped .namedExpression (sequence [name, word ":=", rule .expression]))
    (both (rule .expression) (notAhead (word ":=")))

/-- An operand behind a star. -/
def starred : Part := shaped .starred (both (word "*") (rule .arithmetic))

/-- An element of a display. -/
def element : Part := either starred named

/-- An expression that may be starred. -/
def starExpression : Part := either starred (rule .expression)

/-- Expressions that make a tuple without parentheses. -/
def starExpressions : Part := extended starExpression [(.tuple, moreOf starExpression)]

/-- A yield with what it yields. -/
def yielded : Part :=
  shaped .yield (both (word "yield")
    (either (shaped .part (both (word "from") (rule .expression))) (optional starExpressions)))

/-- What may be assigned or thrown away. -/
def value : Part := either yielded starExpressions

/-- A target of a loop or of a context, before it is tested. -/
def targetForm : Part :=
  either (shaped .starred (both (word "*") (rule .primary))) (rule .primary)

/-- One target. -/
def target : Part := checked (·.all Tree.isTarget) targetForm

/-- Targets of a loop. -/
def targets : Part := extended target [(.tuple, moreOf target)]

/-- Words between operands that are compared. -/
def comparisonOperator : Part :=
  choice [oneOf ["==", "!=", "<=", "<", ">=", ">", "in"], both (word "not") (word "in"),
    both (word "is") (optional (word "not"))]

/-- Signs between operands. -/
def binaryOperator : Part :=
  oneOf ["+", "-", "*", "/", "//", "%", "@", "<<", ">>", "&", "|", "^"]

/-- A parameter list up to a closing mark, with a pattern for what may stand behind a name and one
for what may stand behind a starred name. -/
def parameters (typing starTyping : Part) (closing : Text) : Part :=
  let separator := either comma (ahead (word closing))
  let default := both (word "=") (rule .expression)
  let plain := sequence [name, typing, notAhead (word "="), separator]
  let defaulted := sequence [name, typing, default, separator]
  let anyParameter := sequence [name, typing, optional default, separator]
  let slash := both (word "/") separator
  let doubles := sequence [word "**", name, typing, notAhead (word "="), separator]
  let stars := choice [
    sequence [word "*", name, starTyping, notAhead (word "="), separator, many anyParameter,
      optional doubles],
    sequence [word "*", comma, several anyParameter, optional doubles],
    doubles]
  let afterPlain := either (sequence [slash, many plain, many defaulted])
    (both (many defaulted) (optional (both slash (many defaulted))))
  shaped .parameters (choice [
    sequence [several plain, afterPlain, optional stars],
    sequence [several defaulted, optional (both slash (many defaulted)), optional stars],
    stars])

/-- Parameters of a function without a name. -/
def lambdaParameters : Part := parameters nothing nothing ":"

/-- Parameters of a function with a name. -/
def functionParameters : Part :=
  parameters (optional (both (word ":") (rule .expression)))
    (optional (both (word ":") starExpression)) ")"

/-- A function without a name. -/
def lambda : Part :=
  shaped .lambda
    (sequence [word "lambda", optional lambdaParameters, word ":", rule .expression])

/-- An argument that is given by position. -/
def positional : Part :=
  both (either (shaped .starred (both (word "*") (rule .expression))) named)
    (notAhead (word "="))

/-- A first argument, which may be an element with the clauses that repeat it if it is the only
one. -/
def onlyArgument : Part :=
  both (either (shaped .starred (both (word "*") (rule .expression)))
    (extended named [(.comprehension, both (rule .clauses) (ahead (word ")")))]))
    (notAhead (word "="))

/-- Arguments with names, then arguments behind two stars. -/
def keywordArguments : Part :=
  let keyword := shaped .keywordArgument (sequence [name, word "=", rule .expression])
  let single := either keyword (shaped .starred (both (word "*") (rule .expression)))
  let double := either keyword (shaped .doubleStarred (both (word "**") (rule .expression)))
  either (both (separated single comma) (optional (both comma (separated double comma))))
    (separated double comma)

/-- Arguments, of which the first is as given. -/
def argumentsFrom (first : Part) : Part :=
  either
    (sequence [first, many (both comma positional), optional (both comma keywordArguments),
      optional comma])
    (both keywordArguments (optional comma))

/-- An index or a range of indices. -/
def index : Part :=
  let step := optional (both (word ":") (optional (rule .expression)))
  let range := sequence [word ":", optional (rule .expression), step, notAhead (word ":")]
  choice [starred, shaped .slice range, extended named [(.slice, range)]]

/-- What stands between parentheses that begin an expression. -/
def enclosed : Part :=
  choice [
    shaped .tuple (ahead (word ")")),
    yielded,
    shaped .tuple (both starred (moreOf element)),
    extended named [(.comprehension, both (rule .clauses) (ahead (word ")"))),
      (.tuple, both (moreOf element) (ahead (word ")")))]]

/-- What stands between square brackets that begin an expression. -/
def listed : Part :=
  either (both starred (optional (moreOf element)))
    (both named (choice [rule .clauses, moreOf element, nothing]))

/-- What stands between braces. -/
def braced : Part :=
  let entry := either (both (word "**") (rule .arithmetic))
    (sequence [rule .expression, word ":", rule .expression])
  let entries := optional (moreOf entry)
  choice [
    sequence [word "**", rule .arithmetic, entries],
    both starred (optional (moreOf element)),
    both named (choice [
      sequence [word ":", rule .expression, either (rule .clauses) entries],
      rule .clauses,
      optional (moreOf element)])]

/-- A string literal of any kind. -/
def string : Part :=
  let parts := many (either (kind .literalText) (rule .field))
  choice [kind .string,
    shaped .formatted (sequence [kind .formattedOpening, parts, kind .literalClosing]),
    shaped .templated (sequence [kind .templateOpening, parts, kind .literalClosing])]

/-- String literals in a row. -/
def strings : Part := extended string [(.concatenation, several string)]

/-- The smallest expressions. -/
def atom : Part :=
  choice [name, kind .number, strings,
    shaped .grouped (sequence [word "(", enclosed, word ")"]),
    shaped .list (sequence [word "[", optional listed, word "]"]),
    shaped .display (sequence [word "\x7b", optional braced, word "\x7d"]),
    oneOf ["True", "False", "None", "..."]]

/-- Parameters of types. -/
def typeParameters : Part :=
  let plain := sequence [name, optional (both (word ":") (rule .expression)),
    optional (both (word "=") (rule .expression))]
  let single := sequence [word "*", name, optional (both (word "=") starExpression)]
  let double := sequence [word "**", name, optional (both (word "=") (rule .expression))]
  shaped .parameters (sequence [word "[", elements (choice [plain, single, double]), word "]"])

/-- A name of a module. -/
def dotted : Part := separated name (word ".")

/-- A new name for what is imported. -/
def newName : Part := optional (both (word "as") name)

/-- A statement that imports names of a module. -/
def importFrom : Part :=
  let imported := both name newName
  sequence [word "from",
    either (both (several (oneOf [".", "..."])) (optional dotted)) dotted,
    word "import",
    choice [word "*", sequence [word "(", elements imported, word ")"], separated imported comma]]

/-- An expression that stands as a statement, or an assignment. -/
def assignment : Part :=
  let signs := oneOf ["+=", "-=", "*=", "/=", "//=", "%=", "@=", "&=", "|=", "^=", ">>=", "<<=",
    "**="]
  checked Tree.isAssignment (both value (choice [
    several (both (word "=") value),
    sequence [word ":", rule .expression, optional (both (word "=") value)],
    both signs value,
    nothing]))

/-- A statement without a block. -/
def simple : Part :=
  shaped .statement (choice [
    both (word "return") (optional starExpressions),
    both (word "import") (separated (both dotted newName) comma),
    importFrom,
    both (word "raise") (optional (both (rule .expression)
      (optional (shaped .part (both (word "from") (rule .expression)))))),
    oneOf ["pass", "break", "continue"],
    both (word "del") (elements (checked (·.all Tree.isDeletable) (rule .primary))),
    sequence [word "assert", rule .expression, optional (both comma (rule .expression))],
    both (oneOf ["global", "nonlocal"]) (separated name comma),
    sequence [word "type", name, optional typeParameters, word "=", rule .expression],
    assignment])

/-- Statements without blocks on one line. -/
def line : Part :=
  shaped .block (sequence [simple, many (both (word ";") simple), optional (word ";"),
    kind .lineEnd])

/-- A colon and the block behind it. -/
def body : Part := both (word ":") (rule .block)

/-- A function or a class, with its decorators. -/
def definition : Part :=
  let decorator := shaped .part (sequence [word "@", named, kind .lineEnd])
  let function := sequence [optional (word "async"), word "def", name, optional typeParameters,
    word "(", optional functionParameters, word ")",
    optional (both (word "->") (rule .expression)), body]
  let bases := sequence [word "(", optional (argumentsFrom positional), word ")"]
  let record := sequence [word "class", name, optional typeParameters, optional bases, body]
  shaped .statement (both (many decorator) (either function record))

/-- What is done if nothing else was. -/
def otherwise : Part := shaped .part (both (word "else") body)

/-- A context with its target. -/
def context : Part :=
  shaped .part (both (rule .expression) (optional (sequence [word "as", target,
    ahead (oneOf [",", ")", ":"])])))

/-- What is done with an error. -/
def handler : Part :=
  let caught := both (rule .expression) (either (both (word "as") name)
    (optional (moreOf (rule .expression))))
  shaped .part (sequence [word "except", optional (word "*"), optional caught, body])

/-- A statement that catches errors. -/
def guarded : Part :=
  let last := shaped .part (both (word "finally") body)
  shaped .statement (sequence [word "try", body, either last
    (sequence [several handler, optional otherwise, optional last])])

/-- A pattern of a case or a sequence of patterns without brackets. -/
def casePatterns : Part :=
  let each := either (both (word "*") name) (rule .casePattern)
  shaped .pattern (elements each)

/-- One pattern of a case. -/
def casePattern : Part :=
  let number := both (optional (word "-")) (kind .number)
  let literal := choice [both number (optional (both (oneOf ["+", "-"]) (kind .number))), strings,
    oneOf ["None", "True", "False"]]
  let entry := either (both (word "**") name)
    (sequence [either literal dotted, word ":", rule .casePattern])
  let keyword := sequence [name, word "=", rule .casePattern]
  let given := both (rule .casePattern) (notAhead (word "="))
  let arguments := either
    (sequence [separated given comma, optional (both comma (separated keyword comma)),
      optional comma])
    (elements keyword)
  let closed := choice [literal,
    sequence [word "(", optional casePatterns, word ")"],
    sequence [word "[", optional casePatterns, word "]"],
    sequence [word "\x7b", optional (elements entry), word "\x7d"],
    both dotted (optional (sequence [word "(", optional arguments, word ")"]))]
  shaped .pattern (both (separated closed (word "|")) (optional (both (word "as") name)))

/-- A statement that chooses by patterns. -/
def matching : Part :=
  let subject := extended element [(.tuple, moreOf element)]
  let each := shaped .part (sequence [word "case", casePatterns,
    optional (both (word "if") named), body])
  shaped .statement (sequence [word "match", subject, word ":", kind .lineEnd, kind .blockBegin,
    several each, kind .blockEnd])

/-- A loop over values. -/
def loop : Part :=
  sequence [word "for", targets, word "in", starExpressions, body, optional otherwise]

/-- A block with contexts, which may be in parentheses of the statement. -/
def contextual : Part :=
  either (sequence [word "with", word "(", elements context, word ")", body])
    (sequence [word "with", separated context comma, body])

/-- A statement with a block. -/
def compound : Part :=
  choice [
    definition,
    shaped .statement (sequence [word "if", named, body, optional (rule .otherwise)]),
    shaped .statement (sequence [word "while", named, body, optional otherwise]),
    shaped .statement (both (optional (word "async")) (either loop contextual)),
    guarded,
    matching]

/-- A whole source. -/
def source : Part := shaped .source (both (many (rule .statement)) (kind .finish))

/-- A source that is one expression. -/
def soleExpression : Part := sequence [starExpressions, kind .lineEnd, kind .finish]

end Grammar

open Pattern Grammar in
/-- The pattern of every rule. -/
def grammar : Rule → Pattern Rule
  | .expression =>
    either lambda (extended (rule .disjunction) [(.conditional,
      sequence [word "if", rule .disjunction, word "else", rule .expression])])
  | .disjunction =>
    extended (extended (rule .inversion) [(.operation, both (word "and") (rule .inversion))])
      [(.operation, both (word "or")
        (extended (rule .inversion) [(.operation, both (word "and") (rule .inversion))]))]
  | .inversion =>
    either (shaped .operation (both (word "not") (rule .inversion)))
      (extended (rule .arithmetic) [(.operation,
        several (shaped .comparison (both comparisonOperator (rule .arithmetic))))])
  | .arithmetic =>
    extended (rule .factor) [(.operation, several (both binaryOperator (rule .factor)))]
  | .factor =>
    either (shaped .operation (both (oneOf ["+", "-", "~"]) (rule .factor)))
      (extended (either (shaped .operation (both (word "await") (rule .primary))) (rule .primary))
        [(.operation, both (word "**") (rule .factor))])
  | .primary =>
    extended atom [
      (.attribute, both (word ".") name),
      (.call, sequence [word "(", optional (argumentsFrom onlyArgument), word ")"]),
      (.subscript, sequence [word "[", elements index, word "]"])]
  | .clauses =>
    shaped .clause (sequence [optional (word "async"), word "for", targets, word "in",
      rule .disjunction, many (shaped .clause (both (word "if") (rule .disjunction))),
      optional (rule .clauses)])
  | .field =>
    shaped .field (sequence [word "\x7b", value, optional (word "="),
      optional (both (word "!") (oneOf ["r", "s", "a"])),
      optional (both (word ":") (many (either (kind .literalText) (rule .field)))), word "\x7d"])
  | .casePattern => casePattern
  | .statement => either compound line
  | .block =>
    either (shaped .block (sequence [kind .lineEnd, kind .blockBegin, several (rule .statement),
      kind .blockEnd])) line
  | .otherwise =>
    either (shaped .statement (sequence [word "elif", named, body, optional (rule .otherwise)]))
      otherwise

/-- The trees of some lexemes by a pattern that has to match all of them. The fuel exceeds what the
grammar needs, which nests a bounded number of patterns for every lexeme. -/
def treesOf (pattern : Pattern Rule) (lexemes : List Lexeme) : Option (List Tree) :=
  match Pattern.run grammar (1000 * (lexemes.length + 1)) pattern lexemes with
  | .matched trees [] => some trees
  | _ => none

/-- The trees of lexemes have these lexemes. -/
theorem lexemesOf_of_treesOf {pattern : Pattern Rule} {lexemes : List Lexeme} {trees : List Tree}
    (found : treesOf pattern lexemes = some trees) : Tree.lexemesOf trees = lexemes := by
  unfold treesOf at found
  split at found
  · rename_i run
    obtain rfl := Option.some.inj found
    simpa using (Pattern.matches_of_run grammar _ pattern lexemes _ _ run).lexemesOf
  · simp at found

end Outdent.Source
