import Outdent.Console.Style

/-!
# Markup

Messages hold tags in brackets. A tag opens a style, and a tag with a slash closes the last open
tag of its style or, without a name, the last open tag at all; there has to be one. Backslashes in
front of a tag stand for half as many of them, and one that is left over makes the tag text. A tag
that begins with an at sign opens a style like any other: the parameters that it may have are not
read, and what is wrong with them is not told. Names of emoji between colons stay as they are. Main
statement: `plain?_of_not_mem`, a text without brackets is itself apart from control characters.
-/
namespace Outdent.Console

open Text

/-- Can a tag begin with a character? -/
def isTagStart (character : Char) : Bool :=
  ('a' ≤ character && character ≤ 'z') || character == '#' || character == '/' || character == '@'

/-- The text between the brackets of the tag that stands at the front of a text. -/
def tagInside? (text : Text) : Option Text :=
  match text with
  | '[' :: first :: rest =>
    let others := rest.takeWhile fun character => character != '[' && character != ']'
    if isTagStart first && (rest.drop others.length).head? == some ']' then some (first :: others)
    else none
  | _ => none

/-- A piece of a message. -/
inductive Piece where
  /-- A text. -/
  | text (text : Text)
  /-- What stands between the brackets of a tag. -/
  | tag (inside : Text)
  deriving DecidableEq

/-- The text of some backslashes. -/
def backslashes (count : Nat) : Text := List.replicate count '\\'

/-- The pieces of a tag with backslashes in front. -/
def tagPieces (count : Nat) (inside : Text) : List Piece :=
  [.text (backslashes (count / 2)),
    if count % 2 = 1 then .text ('[' :: inside ++ [']']) else .tag inside]

/-- The pieces of a message, when some characters of a tag are still to be passed over, or some
backslashes have been read. -/
def piecesFrom : Nat → Nat → Text → List Piece
  | _, count, [] => [.text (backslashes count)]
  | skip + 1, count, _ :: rest => piecesFrom skip count rest
  | 0, count, character :: rest =>
    if character = '\\' then piecesFrom 0 (count + 1) rest
    else match tagInside? (character :: rest) with
      | some inside => tagPieces count inside ++ piecesFrom (inside.length + 1) 0 rest
      | none =>
        let kept := if character = '[' then count - 1 else count
        .text (backslashes kept ++ [character]) :: piecesFrom 0 0 rest

/-- The pieces of a message. -/
def pieces (message : Text) : List Piece := piecesFrom 0 0 message

/-- The style that a tag names. -/
def tagStyle (inside : Text) : Text := inside.takeWhile (· != '=')

/-- The styles that are open after a tag closes the one that it names; none if that is not open. -/
def close? (name : Text) (openStyles : List Text) : Option (List Text) :=
  let name := strip name
  if name.isEmpty then openStyles.tail?
  else if openStyles.contains (styleName name) then some (openStyles.erase (styleName name))
  else none

/-- The text of pieces while some styles are open, the last one first. -/
def plainFrom? : List Text → List Piece → Option Text
  | _, [] => some []
  | openStyles, .text text :: pieces => (plainFrom? openStyles pieces).map (text ++ ·)
  | openStyles, .tag inside :: pieces =>
    match tagStyle inside with
    | '/' :: name => (close? name openStyles).bind fun openStyles => plainFrom? openStyles pieces
    | name => plainFrom? (styleName name :: openStyles) pieces

/-- Control characters that no screen shows. -/
def isHidden (character : Char) : Bool :=
  let code := character.toNat
  code == 7 || code == 8 || code == 11 || code == 12 || code == 13

/-- What a message says without its tags; nothing if a tag closes what is not open. -/
def plain? (message : Text) : Option Text :=
  (plainFrom? [] (pieces message)).map fun text => text.filter fun character => !isHidden character

/-- A text with a backslash more in front of everything that would be a tag, and twice the
backslashes that stand there. -/
def escapeFrom : Nat → Text → Text
  | count, [] => backslashes count
  | count, character :: rest =>
    if character = '\\' then escapeFrom (count + 1) rest
    else
      let more := if (tagInside? (character :: rest)).isSome then count + 1 else 0
      backslashes (count + more) ++ character :: escapeFrom 0 rest

/-- A message that says a text. A single backslash at the end is written twice. -/
def escape (text : Text) : Text :=
  let escaped := escapeFrom 0 text
  let ending := (escaped.reverse.takeWhile (· == '\\')).length
  if ending = 1 then escaped ++ ['\\'] else escaped

/-- A tag begins with a bracket. -/
theorem tagInside?_of_ne {character : Char} {rest : Text} (differ : character ≠ '[') :
    tagInside? (character :: rest) = none := by
  unfold tagInside?
  split
  · rename_i same
    exact absurd (List.cons.inj same).1 differ
  · rfl

/-- Text without brackets has no tags. -/
theorem plainFrom?_of_not_mem (text : Text) (count : Nat) (plain : '[' ∉ text)
    (openStyles : List Text) :
    plainFrom? openStyles (piecesFrom 0 count text) = some (backslashes count ++ text) := by
  induction text generalizing count with
  | nil => simp [piecesFrom, plainFrom?]
  | cons character rest ih =>
    have here : character ≠ '[' := fun same => plain (same ▸ List.mem_cons_self)
    have there : '[' ∉ rest := fun member => plain (List.mem_cons_of_mem _ member)
    rw [piecesFrom, tagInside?_of_ne here]
    split
    · rename_i slash
      rw [ih _ there, slash]
      simp [backslashes, List.replicate_succ']
    · simp [plainFrom?, ih 0 there, backslashes]

/-- A text without brackets is itself, apart from control characters. -/
theorem plain?_of_not_mem (text : Text) (plain : '[' ∉ text) :
    plain? text = some (text.filter fun character => !isHidden character) := by
  simp [plain?, pieces, plainFrom?_of_not_mem text 0 plain, backslashes]

end Outdent.Console
