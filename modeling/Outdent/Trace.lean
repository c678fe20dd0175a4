import Outdent.Text.Basic

/-!
# Traces

The record of a run: events in the order they happened. Phases open and close like brackets, and an
event belongs to the innermost phase that is open when it is recorded; events refer to each other by
their place in the record. A script of recording steps may give up in the middle, and a phase is
closed also then. Main statement: `openPhases_phase`, a phase around balanced steps leaves open what
was open before.
-/
namespace Outdent

/-- What is recorded. -/
inductive Happening where
  /-- A phase begins. -/
  | phaseStart (name detail : Text)
  /-- A phase ends. -/
  | phaseEnd
  /-- A piece of code was replaced. -/
  | replace (what before after : Text)
  /-- A piece of code was left as it is. -/
  | skip (code reason : Text)
  /-- Something went wrong. -/
  | warning (message : Text)
  deriving DecidableEq

namespace Happening

/-- One line on what happened. -/
def description : Happening → Text
  | phaseStart name _ => name
  | phaseEnd => "End Phase"
  | replace what _ _ => "Dedented ".toList ++ what
  | skip code _ => "Skipped '".toList ++ code ++ "'".toList
  | warning message => message

/-- Does a phase begin or end? -/
def isPhase : Happening → Bool
  | phaseStart _ _ | phaseEnd => true
  | replace _ _ _ | skip _ _ | warning _ => false

end Happening

/-- An entry of a trace. -/
structure Event where
  /-- What happened. -/
  happening : Happening
  /-- The place of the event that began the phase it belongs to. -/
  parent : Option Nat
  deriving DecidableEq

/-- Events in order, and the phases that are open, innermost first. -/
structure Trace where
  /-- The events, oldest first. -/
  events : List Event := []
  /-- The places of the events that began the open phases, innermost first. -/
  openPhases : List Nat := []
  deriving DecidableEq

namespace Trace

/-- Record something in the innermost open phase. -/
def record (trace : Trace) (happening : Happening) : Trace :=
  { trace with events := trace.events ++ [⟨happening, trace.openPhases.head?⟩] }

/-- Begin a phase. -/
def startPhase (trace : Trace) (name detail : Text) : Trace :=
  { trace.record (.phaseStart name detail) with
    openPhases := trace.events.length :: trace.openPhases }

/-- End the innermost open phase, if there is one. -/
def endPhase (trace : Trace) : Trace :=
  match trace.openPhases with
  | [] => trace
  | _ :: outer => { trace.record .phaseEnd with openPhases := outer }

/-- A phase around what a body records. -/
def phase (trace : Trace) (name detail : Text) (body : Trace → Trace) : Trace :=
  (body (trace.startPhase name detail)).endPhase

/-- A phase around balanced steps leaves open what was open before. -/
theorem openPhases_phase (trace : Trace) (name detail : Text) (body : Trace → Trace)
    (balanced : ∀ inner : Trace, (body inner).openPhases = inner.openPhases) :
    (trace.phase name detail body).openPhases = trace.openPhases := by
  have opened : (body (trace.startPhase name detail)).openPhases =
      trace.events.length :: trace.openPhases := balanced _
  simp only [phase, endPhase, opened]

end Trace

/-- A step of a script of recording. -/
inductive TraceStep where
  /-- Record something that is no phase. -/
  | record (happening : Happening) (plain : happening.isPhase = false := by rfl)
  /-- Begin a phase. -/
  | start (name detail : Text)
  /-- End the innermost open phase. -/
  | finish
  /-- A phase around other steps. -/
  | phase (name detail : Text) (body : List TraceStep)
  /-- Give up. -/
  | giveUp
  /-- Other steps, which may give up without ending the script. -/
  | attempt (body : List TraceStep)

/-- A trace after some steps of a script. -/
structure Recording where
  /-- The trace. -/
  trace : Trace := {}
  /-- The number of events after every step that was taken. -/
  counts : List Nat := []
  /-- The script was given up. -/
  gaveUp : Bool := false

namespace Recording

/-- Go on with another trace, and count its events. -/
def next (recording : Recording) (trace : Trace) : Recording :=
  { recording with trace, counts := recording.counts ++ [trace.events.length] }

mutual

/-- Take a step. -/
def take (recording : Recording) : TraceStep → Recording
  | .record happening _ => recording.next (recording.trace.record happening)
  | .start name detail => recording.next (recording.trace.startPhase name detail)
  | .finish => recording.next recording.trace.endPhase
  | .phase name detail body =>
    let inside := takeAll { recording with trace := recording.trace.startPhase name detail } body
    inside.next inside.trace.endPhase
  | .giveUp => { recording with gaveUp := true }
  | .attempt body => { takeAll recording body with gaveUp := false }

/-- Take steps until one gives up. -/
def takeAll (recording : Recording) : List TraceStep → Recording
  | [] => recording
  | step :: steps =>
    let after := take recording step
    if after.gaveUp then after else takeAll after steps

end

/-- Take the steps of a script from the beginning. -/
def ofSteps (steps : List TraceStep) : Recording := takeAll {} steps

end Recording

end Outdent
