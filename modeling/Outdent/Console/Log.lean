import Outdent.Console.Markup

/-!
# Records of a log

A record has a level and a message with markup, which begins with the sign of its level. It is
shown as lines: the word for the level stands in front of the first one, and the others are moved
in as far.
-/
namespace Outdent.Console

open Text

/-- How much a record matters. -/
inductive Level where
  /-- Something to know. -/
  | info
  /-- Something was done. -/
  | success
  /-- Something to look after. -/
  | warning
  /-- Something failed. -/
  | error
  deriving DecidableEq

namespace Level

/-- The number of a level; what matters more has a greater one. -/
def number : Level → Nat
  | info => 20
  | success => 25
  | warning => 30
  | error => 40

/-- The word for a level. -/
def word : Level → Text
  | info => "INFO"
  | success => "SUCCESS"
  | warning => "WARNING"
  | error => "ERROR"

/-- The sign of a level. -/
def sign : Level → Text
  | info => "ℹ️ "
  | success => "✅"
  | warning => "⚠️ "
  | error => "❌"

end Level

/-- A record of a log. -/
structure Record where
  /-- The level. -/
  level : Level
  /-- The message, with its sign. -/
  message : Text
  deriving DecidableEq

/-- The record for a message. -/
def Record.ofMessage (level : Level) (message : Text) : Record :=
  ⟨level, level.sign ++ ' ' :: message⟩

/-- How many columns a character takes; of the signs, two take two. -/
def columns (character : Char) : Nat := if character = '✅' ∨ character = '❌' then 2 else 1

/-- A text in which spaces stand for tabs, up to the next column that eight divides. -/
def expandTabsFrom : Nat → Text → Text
  | _, [] => []
  | column, character :: rest =>
    if character = '\t' then
      List.replicate (8 - column % 8) ' ' ++ expandTabsFrom (column + (8 - column % 8)) rest
    else character :: expandTabsFrom (column + columns character) rest

/-- The lines of a text, with spaces for tabs. -/
def linesOf (text : Text) : List Text := (cutAt '\n' text).map (expandTabsFrom 0)

/-- The width of the words for levels, with a blank behind. -/
def levelWidth : Nat := 9

/-- A text with blanks behind it up to a width. -/
def padEnd (width : Nat) (text : Text) : Text := text ++ List.replicate (width - text.length) ' '

/-- Lines with a text in front of the first one and blanks in front of the others, and without
blanks at their ends. -/
def besideLines (front : Text) : List Text → List Text
  | [] => []
  | line :: lines =>
    stripEnd (padEnd levelWidth front ++ line) ::
      lines.map fun line => stripEnd (padEnd levelWidth [] ++ line)

/-- The lines that show a message without a record; none if its markup is wrong. -/
def printed? (message : Text) : Option (List Text) :=
  (plain? message).map fun text => (linesOf text).map stripEnd

/-- The lines that show a record; none if the markup of its message is wrong. -/
def Record.shown? (record : Record) : Option (List Text) :=
  (plain? record.message).map fun text => besideLines record.level.word (linesOf text)

end Outdent.Console
