import Outdent.Marker.Settle
import Outdent.Source.Parse
import Outdent.Text.Order
import Outdent.Trace

/-!
# Runs

A run reads a source, settles its markers and writes the source again, and records what it did. A
source that does not follow the grammar is handed back as it is, with one error. A run fails if a
node is refused, be it one of the source or one that a settled marker is put into. Main statement:
`run_of_parse?_none`, the result for a source that cannot be read.
-/
namespace Outdent

open Source Marker

/-- What a run comes to. -/
structure Result where
  /-- The source after the run. -/
  code : Text := []
  /-- What went wrong. -/
  errors : List Text := []
  /-- The source could be read. -/
  success : Bool := true
  /-- The number of templates that were outdented. -/
  outdented : Nat := 0
  /-- The record of the run. -/
  trace : List Event := []
  deriving DecidableEq

namespace Result

/-- Did anything go wrong? -/
def hasErrors (result : Result) : Bool := !result.errors.isEmpty

/-- Was a template outdented? -/
def changed (result : Result) : Bool := 0 < result.outdented

end Result

/-- Why a run has no result. -/
inductive RunFault where
  /-- A node is refused. -/
  | refused
  deriving DecidableEq

/-- The text of the error of a source that does not follow the grammar. -/
def parseError : Text := "Parse Error"

/-- The word for a form of a marker in a trace. -/
def Marker.Form.word : Marker.Form → Text
  | .call => "Call"
  | .subscript => "Subscript"

/-- The entry of a trace for what a walk reports. -/
def Marker.Finding.happening? : Finding → Option Happening
  | .outdented form before after => some (.replace form.word before after)
  | .skipped code reason => some (.skip code reason.message)
  | .refused => none

/-- The line on the configuration in a trace. -/
def markersDetail (config : Config) : Text :=
  "markers: ".toList ++ Text.quotedList (Text.sortedSet config.names)

/-- A trace with the entries for what a walk reports. -/
def Trace.recordAll (trace : Trace) (findings : List Finding) : Trace :=
  (findings.filterMap Finding.happening?).foldl Trace.record trace

/-- The trace of a run, given what the walk reports if the source could be read. -/
def runTrace (config : Config) (found : Option (List Finding)) : Trace :=
  Trace.phase {} "Dedent Pipeline" (markersDetail config) fun trace =>
    let read := trace.phase "Parsing" "Raw Source -> CST" fun trace =>
      if found.isNone then trace.record (.warning parseError) else trace
    match found with
    | none => read
    | some findings =>
      read.phase "Dedent Rewrite" "Visitor Traversal" fun trace => trace.recordAll findings

/-- Settle the markers of a source. -/
def run (config : Config) (code : Text) : Except RunFault Result :=
  match parse? code with
  | none =>
    .ok ⟨code, [parseError], false, 0, (runTrace config none).events⟩
  | some tree =>
    -- The nodes of a source are checked when it is read, and those of what it becomes in the walk.
    let (settled, findings) := settleAll config tree
    if config.check.refusesIn tree || findings.contains .refused then .error .refused
    else .ok ⟨settled.written, [], true, Finding.outdentedCount findings,
      (runTrace config (some findings)).events⟩

/-- Why a source is not transformed. -/
inductive TransformFault where
  /-- The run has no result. -/
  | run (fault : RunFault)
  /-- The run has errors. -/
  | errors (texts : List Text)
  deriving DecidableEq

/-- The text of a failed transformation. -/
def failureMessage (errors : List Text) : Text :=
  "Dedent failed:\n".toList ++ Text.join ['\n'] errors

/-- A source with its markers settled. -/
def transform (config : Config) (code : Text) : Except TransformFault Text :=
  match run config code with
  | .error fault => .error (.run fault)
  | .ok result => if result.success then .ok result.code else .error (.errors result.errors)

/-- A source that does not follow the grammar is handed back. -/
theorem run_of_parse?_none {config : Config} {code : Text} (unread : parse? code = none) :
    run config code =
      .ok ⟨code, [parseError], false, 0, (runTrace config none).events⟩ := by
  simp [run, unread]

/-- One walk goes over several sources, one after another, and goes on counting. -/
structure Session where
  /-- The number of templates that were outdented so far. -/
  outdented : Nat := 0

namespace Session

/-- Why a source of a session is not settled. -/
inductive Fault where
  /-- The source does not follow the grammar. -/
  | unreadable
  /-- A node is refused. -/
  | refused
  deriving DecidableEq

/-- Settle one more source. What was outdented before a node of what it becomes is refused counts. -/
def visit (session : Session) (config : Config) (code : Text) : Session × Except Fault Text :=
  match parse? code with
  | none => (session, .error .unreadable)
  | some tree =>
    if config.check.refusesIn tree then (session, .error .refused)
    else
      let (settled, findings) := settleAll config tree
      let session :=
        ⟨session.outdented + Finding.outdentedCount (Finding.untilRefused findings)⟩
      if findings.contains .refused then (session, .error .refused)
      else (session, .ok settled.written)

end Session

end Outdent
