import Outdent.Options.Check

/-!
# Outcomes

What a run comes to as named values: a code, errors, a truth value for success, a number of
outdented templates and the entries of a trace as tables. A value that is not given takes its
default, and other names are passed over.
-/
namespace Outdent

/-- What a run comes to, as it is made of named values. -/
structure Outcome where
  /-- The source after the run. -/
  code : Text := []
  /-- What went wrong. -/
  errors : List Text := []
  /-- The source could be read. -/
  success : Bool := true
  /-- The number of templates that were outdented. -/
  outdented : Int := 0
  /-- The entries of the trace. -/
  trace : List Entries := []

namespace Outcome

/-- Did anything go wrong? -/
def hasErrors (outcome : Outcome) : Bool := !outcome.errors.isEmpty

/-- Was a template outdented? -/
def changed (outcome : Outcome) : Bool := 0 < outcome.outdented

/-- What the value of a name passes for; a default if there is none. -/
def given {α : Type} (entries : Entries) (name : Text) (default : α)
    (check : List Place → Value → Checked α) : Checked α :=
  match entries.lookup? name with
  | none => .ok default
  | some value => check [.name name] value

/-- One value that passes a check. -/
def single {α : Type} (check : Value → Except Complaint α) (place : List Place) (value : Value) :
    Checked α :=
  Checked.ofCheck place (check value)

/-- The outcome that named values make, or all that is wrong with them. -/
def ofEntries (entries : Entries) : Checked Outcome :=
  let code := given entries "code" [] (single Value.textOf)
  let errors := given entries "errors" [] fun place => Checked.listOf place Value.textOf
  let success := given entries "success" true (single Value.truthOf)
  let outdented := given entries "rewrites" 0 (single Value.integerOf)
  let trace := given entries "trace_events" [] fun place => Checked.listOf place Value.tableOf
  match code, errors, success, outdented, trace with
  | .ok code, .ok errors, .ok success, .ok outdented, .ok trace =>
    .ok ⟨code, errors, success, outdented, trace⟩
  | code, errors, success, outdented, trace =>
    .error (code.details ++ errors.details ++ success.details ++ outdented.details ++ trace.details)

end Outcome

end Outdent
