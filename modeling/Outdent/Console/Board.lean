import Outdent.Console.Log

/-!
# Screens of a log

Messages go to the screen that is active. A log shows its records through handlers, each of which
writes to one screen; when another screen becomes active, the handler of the old one is taken off
and a new one is put on. Screens with a name are made once, and standard screens are made anew each
time. Main statement: `handlers_swap`, the handler that was attached is replaced by one for the new
screen.
-/
namespace Outdent.Console

/-- A screen that shows lines. -/
structure Screen where
  /-- The name; a standard screen has none. -/
  name : Option Text := none
  /-- The number of columns. -/
  width : Nat := 200
  /-- The number of handlers that there were before it; screens made later have a greater one. -/
  number : Nat := 0
  deriving DecidableEq

/-- What shows records on a screen. -/
structure Handler where
  /-- A number that no other handler has. -/
  number : Nat
  /-- The screen. -/
  screen : Screen
  deriving DecidableEq

/-- The screens and the handlers of a log. -/
structure Board where
  /-- The screens with a name that have been made. -/
  screens : List Screen := []
  /-- The screen that messages go to. -/
  active : Screen := {}
  /-- The handlers of the log. -/
  handlers : List Handler := []
  /-- The handler that was attached last. -/
  attached : Option Handler := none
  /-- The number of handlers that have been made. -/
  made : Nat := 0
  /-- Do records also go to the log around this one? -/
  propagates : Bool := true
  deriving DecidableEq

namespace Board

/-- Make a screen active: the handler that was attached last is taken off, and a new one is
attached. -/
def swap (board : Board) (screen : Screen) : Board :=
  let handler := ⟨board.made, screen⟩
  { board with
    active := screen
    handlers := board.handlers.filter (fun other => some other != board.attached) ++ [handler]
    attached := some handler
    made := board.made + 1
    propagates := false }

/-- The screens at the beginning: the standard one is active. -/
def initial : Board := swap {} {}

/-- The screen of a name, which is made if there is none. -/
def screenOf (board : Board) (name : Text) (width : Nat) : Screen :=
  (board.screens.find? fun screen => screen.name == some name).getD ⟨some name, width, board.made⟩

/-- Make the screen of a name active. -/
def choose (board : Board) (name : Text) (width : Nat) : Board :=
  let screen := board.screenOf name width
  { board with screens := if screen ∈ board.screens then board.screens else screen :: board.screens
    }.swap screen

/-- Make a new standard screen active. -/
def reset (board : Board) : Board := board.swap { number := board.made }

/-- Where lines are shown. -/
abbrev Delivery := Screen × List Text

/-- Show a record through every handler; nothing is shown if its markup is wrong. -/
def show? (board : Board) (record : Record) : Option (List Delivery) :=
  record.shown?.map fun lines => board.handlers.map fun handler => (handler.screen, lines)

/-- Show a message on the active screen; nothing is shown if its markup is wrong. -/
def print? (board : Board) (message : Text) : Option (List Delivery) :=
  (printed? message).map fun lines => [(board.active, lines)]

/-- What is done with screens. -/
inductive Action where
  /-- Make the screen of a name active. -/
  | choose (name : Text) (width : Nat)
  /-- Make a screen active, be it new or not. -/
  | use (screen : Screen)
  /-- Make a new standard screen active. -/
  | reset
  /-- Show a message at a level. -/
  | log (level : Level) (message : Text)
  /-- Show a message on the active screen. -/
  | print (message : Text)
  deriving DecidableEq

/-- The screens after an action. -/
def after (board : Board) : Action → Board
  | .choose name width => board.choose name width
  | .use screen => board.swap screen
  | .reset => board.reset
  | .log _ _ => board
  | .print _ => board

/-- What an action shows; nothing if the markup of its message is wrong. -/
def deliver? (board : Board) : Action → Option (List Delivery)
  | .choose _ _ => some []
  | .use _ => some []
  | .reset => some []
  | .log level message => board.show? (.ofMessage level message)
  | .print message => board.print? message

/-- The handler that was attached is replaced by one for the new screen. -/
theorem handlers_swap (board : Board) (screen : Screen) :
    (board.swap screen).handlers =
      board.handlers.filter (fun other => some other != board.attached) ++
        [⟨board.made, screen⟩] := rfl

end Board

end Outdent.Console
