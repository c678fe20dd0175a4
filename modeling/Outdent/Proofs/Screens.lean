import Outdent.Console.Board

/-!
# Records follow the screen

Whatever screens are made active one after another, the log has one handler, the one that was
attached last, and it writes to the active screen. So a message is shown once, on the screen that is
active when it is logged, and on no other one. Only a message whose markup is wrong is shown
nowhere. Main statements: `Follows.after`, an action keeps the handler with the active screen,
`Follows.deliveries_eq`, everything that is shown in the course of some actions, and `shown_once`,
both of them from the beginning on.
-/
namespace Outdent.Console.Board

/-- The screens after some actions. -/
def afterAll (board : Board) (actions : List Action) : Board := actions.foldl after board

/-- The screen that an action makes active, if it makes one active. -/
def chosen? (board : Board) : Action → Option Screen
  | .choose name width => some (board.screenOf name width)
  | .use screen => some screen
  | .reset => some { number := board.made }
  | .log _ _ | .print _ => none

/-- An action makes a screen active, or the active screen stays. -/
theorem active_after (board : Board) (action : Action) :
    (board.after action).active = (board.chosen? action).getD board.active := by
  cases action <;> rfl

/-! ## Handlers -/

/-- The log has one handler, and it writes to the active screen. -/
structure Follows (board : Board) : Prop where
  /-- The handler that was attached last is the only one, and it writes to the active screen. -/
  handler : ∃ handler, board.handlers = [handler] ∧ board.attached = some handler ∧
    handler.screen = board.active
  /-- Records do not go to the log around this one. -/
  propagates : board.propagates = false

/-- At the beginning the handler writes to the standard screen. -/
theorem follows_initial : Follows initial := ⟨⟨⟨0, {}⟩, rfl, rfl, rfl⟩, rfl⟩

namespace Follows

variable {board : Board}

/-- The handler is replaced by one that writes to the new screen. -/
theorem swap (follows : board.Follows) (screen : Screen) : (board.swap screen).Follows := by
  obtain ⟨⟨handler, only, attached, -⟩, -⟩ := follows
  refine ⟨⟨⟨board.made, screen⟩, ?_, rfl, rfl⟩, rfl⟩
  -- The only handler is the one that is taken off.
  rw [handlers_swap, only, attached]
  simp

/-- An action keeps the handler with the active screen. -/
theorem after (follows : board.Follows) (action : Action) : (board.after action).Follows := by
  cases action with
  | choose name width =>
    have made : ∀ screens, Follows { board with screens } := fun screens =>
      ⟨follows.handler, follows.propagates⟩
    exact (made _).swap _
  | use screen => exact follows.swap screen
  | reset => exact follows.swap _
  | log level message => exact follows
  | print message => exact follows

/-- Actions keep the handler with the active screen. -/
theorem afterAll (follows : board.Follows) (actions : List Action) :
    (board.afterAll actions).Follows := by
  induction actions generalizing board with
  | nil => exact follows
  | cons action actions ih => exact ih (follows.after action)

/-- A record is shown once, on the active screen. -/
theorem show?_eq (follows : board.Follows) (record : Record) :
    board.show? record = record.shown?.map fun lines => [(board.active, lines)] := by
  obtain ⟨⟨handler, only, -, active⟩, -⟩ := follows
  rw [show?, only, ← active]
  rfl

end Follows

/-! ## What is shown -/

/-- The lines that an action shows; none if it shows nothing or the markup of its message is
wrong. -/
def Action.lines? : Action → Option (List Text)
  | .log level message => (Record.ofMessage level message).shown?
  | .print message => printed? message
  | .choose _ _ | .use _ | .reset => none

/-- The actions of a sequence, each with the screens at its moment. -/
def moments (board : Board) : List Action → List (Board × Action)
  | [] => []
  | action :: actions => (board, action) :: (board.after action).moments actions

/-- Everything that is shown in the course of some actions. -/
def deliveries (board : Board) (actions : List Action) : List Delivery :=
  (board.moments actions).flatMap fun moment => (moment.1.deliver? moment.2).getD []

/-- An action shows its lines once, on the active screen. -/
theorem Follows.deliver?_eq {board : Board} (follows : board.Follows) (action : Action) :
    (board.deliver? action).getD [] =
      (action.lines?.map fun lines => (board.active, lines)).toList := by
  cases action with
  | choose | use | reset => rfl
  | log level message =>
    rw [deliver?, follows.show?_eq, Action.lines?]
    cases (Record.ofMessage level message).shown? <;> rfl
  | print message =>
    rw [deliver?, print?, Action.lines?]
    cases printed? message <;> rfl

/-- Everything that is shown in the course of some actions: the lines of each, once, on the screen
that is active at its moment. -/
theorem Follows.deliveries_eq {board : Board} (follows : board.Follows) (actions : List Action) :
    board.deliveries actions = (board.moments actions).filterMap fun moment =>
      moment.2.lines?.map fun lines => (moment.1.active, lines) := by
  induction actions generalizing board with
  | nil => rfl
  | cons action actions ih =>
    have later := ih (follows.after action)
    rw [deliveries] at later ⊢
    rw [moments, List.flatMap_cons, later, follows.deliver?_eq, List.filterMap_cons]
    cases action.lines? <;> rfl

/-- The markup of a message without brackets is right. -/
theorem isSome_shown? (level : Level) {message : Text} (plain : '[' ∉ message) :
    (Record.ofMessage level message).shown?.isSome = true := by
  have whole : '[' ∉ level.sign ++ ' ' :: message := by
    cases level <;> simpa [Level.sign] using plain
  rw [Record.shown?, Record.ofMessage, plain?_of_not_mem _ whole]
  rfl

/-- Whatever screens were made active, the log has one handler, the one that was attached last; it
writes to the active screen, and records go to no other log. The active screen is the one that was
made active last. A message is shown once and on the active screen only if its markup is right, as
that of a message without brackets is, and nowhere if its markup is wrong. So what is shown in the
course of some actions are the lines of each, once, on the screen that is active at its moment. -/
theorem shown_once (actions : List Action) :
    let board := initial.afterAll actions
    (∃ handler, board.handlers = [handler] ∧ board.attached = some handler ∧
        handler.screen = board.active) ∧
      board.propagates = false ∧
      (∀ action, (board.after action).active = (board.chosen? action).getD board.active) ∧
      (∀ level message, board.deliver? (.log level message) =
        (Record.ofMessage level message).shown?.map fun lines => [(board.active, lines)]) ∧
      (∀ level message, '[' ∉ message → (Record.ofMessage level message).shown?.isSome = true) ∧
      initial.deliveries actions = (initial.moments actions).filterMap fun moment =>
        moment.2.lines?.map fun lines => (moment.1.active, lines) := by
  intro board
  have follows : board.Follows := follows_initial.afterAll actions
  exact ⟨follows.handler, follows.propagates, board.active_after,
    fun level message => follows.show?_eq _, fun level message => isSome_shown? level,
    follows_initial.deliveries_eq actions⟩

/-- Not every message is shown: one that closes a style that is not open is shown nowhere. -/
theorem not_shown_of_closing :
    ¬ ∀ (actions : List Action) (level : Level) (message : Text), ∃ lines,
      (initial.afterAll actions).deliver? (.log level message) =
        some [((initial.afterAll actions).active, lines)] := by
  intro shown
  obtain ⟨lines, delivered⟩ := shown [.choose "a" 120] .info "bad [/path] close"
  have nowhere : (initial.afterAll [.choose "a" 120]).deliver? (.log .info "bad [/path] close") =
      none := by decide +kernel
  rw [nowhere] at delivered
  cases delivered

end Outdent.Console.Board
