import Outdent.Proofs.Account

/-!
# Who says what a marker is

A walk asks its configuration of a candidate whether it is a marker, and knows nothing else of names
and tests. Two configurations that judge candidates alike and edit alike therefore stay in step over
a whole tree: what one of them has done inside of a marker is what the other one classifies,
extracts from and asks about. Main statements: `visit_of_alike`, such walks come to the same, and
`run_judged`, names do not matter beside a test, and are themselves one.
-/
namespace Outdent.Marker

open Source Template

/-- Two configurations judge every candidate alike, and do the same with markers. -/
structure Config.Alike (config other : Config) : Prop where
  /-- The same candidates are markers. -/
  judge : ∀ candidate, config.isMarker candidate = other.isMarker candidate
  /-- Markers stay or do not. -/
  keeps : config.keepsMarker = other.keepsMarker
  /-- Templates are trimmed at the same ends. -/
  trims : config.trims = other.trims
  /-- The same nodes are refused. -/
  check : config.check = other.check

/-- The test that asks whether a candidate is one of some names. -/
def namedOneOf (names : List Text) (candidate : Tree) : Bool :=
  names.any fun name => isNamed name candidate

/-- Beside a test names do not matter. -/
theorem Config.alike_of_predicate (config : Config) (test : Tree → Bool) (names others : List Text) :
    Config.Alike { config with predicate := some test, names }
      { config with predicate := some test, names := others } :=
  ⟨fun _ => rfl, rfl, rfl, rfl⟩

/-- Names are judged by like the test that asks for them. -/
theorem Config.alike_namedOneOf (config : Config) (names others : List Text) :
    Config.Alike { config with predicate := none, names }
      { config with predicate := some (namedOneOf names), names := others } :=
  ⟨fun _ => rfl, rfl, rfl, rfl⟩

section Walking

variable {config other : Config}

/-- Configurations that are alike settle a tree alike. -/
theorem settle_of_alike (alike : config.Alike other) (around : Parentheses) (found updated : Tree) :
    settle config around found updated = settle other around found updated := by
  simp only [settle, alike.judge, alike.keeps, alike.trims]

mutual

/-- Walks with configurations that are alike stay in step. -/
theorem visit_of_alike (alike : config.Alike other) (around : Parentheses) (tree : Tree) :
    visit config around tree = visit other around tree := by
  cases tree with
  | token lexeme => rw [visit, visit]
  | node shape children => rw [visit, visit, visitAll_of_alike alike children, alike.check]
  | call callee opening arguments closing =>
    rw [visit, visit, visit_of_alike alike [] callee, visitAll_of_alike alike arguments]
    simp only [settle_of_alike alike]
  | subscript value opening elements closing =>
    rw [visit, visit, visit_of_alike alike [] value, visitAll_of_alike alike elements]
    simp only [settle_of_alike alike]
  | grouped opening inner closing => rw [visit, visit, visit_of_alike alike _ inner]
  | formatted opening parts closing => rw [visit, visit, visitAll_of_alike alike parts]

/-- The same for several trees. -/
theorem visitAll_of_alike (alike : config.Alike other) (trees : List Tree) :
    visitAll config trees = visitAll other trees := by
  cases trees with
  | nil => rw [visitAll, visitAll]
  | cons tree rest =>
    rw [visitAll, visitAll, visit_of_alike alike [] tree, visitAll_of_alike alike rest]

end

/-- Whole walks with configurations that are alike come to the same. -/
theorem settleAll_of_alike (alike : config.Alike other) (tree : Tree) :
    settleAll config tree = settleAll other tree :=
  visit_of_alike alike [] tree

end Walking

end Outdent.Marker

namespace Outdent

open Source Marker

/-- Events of which the first one begins a phase with another detail. -/
def Trace.detailed (detail : Text) : List Event → List Event
  | ⟨.phaseStart name _, parent⟩ :: events => ⟨.phaseStart name detail, parent⟩ :: events
  | events => events

/-- A result whose trace begins with a line on the names of another configuration. -/
def Result.listing (config : Config) (result : Result) : Result :=
  { result with trace := Trace.detailed (markersDetail config) result.trace }

/-- Traces of runs with the same findings differ in the line on the names of markers. -/
theorem events_runTrace_listing (config other : Config) (found : Option (List Finding)) :
    (runTrace other found).events =
      Trace.detailed (markersDetail other) (runTrace config found).events := by
  cases found with
  | none => rfl
  | some findings =>
    rw [events_runTrace_some, events_runTrace_some]
    rfl

/-- Runs with configurations that are alike come to the same, except for the line on the names of
markers with which a trace begins. -/
theorem run_of_alike {config other : Config} (alike : config.Alike other) (code : Text) :
    run other code = (run config code).map (Result.listing other) := by
  cases read : parse? code with
  | none =>
    rw [run_of_parse?_none read, run_of_parse?_none read, events_runTrace_listing config other]
    rfl
  | some tree =>
    simp only [run, read, settleAll_of_alike alike, alike.check]
    split
    · rfl
    · rw [events_runTrace_listing config other]
      rfl

/-- A test is the only judge of candidates: over a whole run, whatever the other names and flags,
names beside a test do not matter, and names without one are the test that asks for them. Runs come
to the same code, success, errors and number of rewritten markers, or to the same fault; their traces
are the same event by event, except that the first event lists the names of its own configuration.
-/
theorem run_judged (config : Config) (names others : List Text) (code : Text) :
    (∀ test : Tree → Bool,
      run { config with predicate := some test, names := others } code =
        (run { config with predicate := some test, names } code).map
          (Result.listing { config with names := others })) ∧
      run { config with predicate := some (namedOneOf names), names := others } code =
        (run { config with predicate := none, names } code).map
          (Result.listing { config with names := others }) :=
  ⟨fun test => run_of_alike (config.alike_of_predicate test names others) code,
    run_of_alike (config.alike_namedOneOf names others) code⟩

end Outdent
