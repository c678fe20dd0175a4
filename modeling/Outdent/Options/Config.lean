import Outdent.Marker.Candidate
import Outdent.Options.Check

/-!
# Options

A configuration is made of options with names. Every option has two spellings, one with underscores
and one with capital letters. Options can be taken as they are spelled, or all be brought to the
first spelling before; then of two spellings of one option the later wins. All that is wrong with
options is told, in the order of the options and then of the unknown names; names of markers that
are no collection at all are refused before that. Main statement: `snakeName_snake`, the first
spelling is kept.
-/
namespace Outdent

open Marker

/-- An option. -/
inductive Setting where
  /-- The names of markers. -/
  | tagName
  /-- Do markers stay? -/
  | keepFunctionCall
  /-- Does a template lose the line break at its beginning? -/
  | trimLeft
  /-- Does a template lose its closing line? -/
  | trimRight
  /-- The test of candidates. -/
  | shouldDedent
  deriving DecidableEq

namespace Setting

/-- The options in order. -/
def all : List Setting := [tagName, keepFunctionCall, trimLeft, trimRight, shouldDedent]

/-- The spelling with underscores. -/
def snake : Setting → Text
  | tagName => "tag_name"
  | keepFunctionCall => "keep_function_call"
  | trimLeft => "trim_left"
  | trimRight => "trim_right"
  | shouldDedent => "should_dedent"

/-- The spelling with capital letters. -/
def camel : Setting → Text
  | tagName => "tagName"
  | keepFunctionCall => "keepFunctionCall"
  | trimLeft => "trimLeft"
  | trimRight => "trimRight"
  | shouldDedent => "shouldDedent"

/-- The spelling that is used for an option, and its value; the one with underscores comes first. -/
def given? (setting : Setting) (entries : Entries) : Option (Text × Value) :=
  match entries.lookup? setting.snake with
  | some value => some (setting.snake, value)
  | none => (entries.lookup? setting.camel).map fun value => (setting.camel, value)

/-- What an option comes to: a default unless it is given, else what its value passes for. -/
def checked {α : Type} (setting : Setting) (entries : Entries) (default : α)
    (check : Value → Except Complaint α) : Checked α :=
  match setting.given? entries with
  | none => .ok default
  | some (name, value) => Checked.ofCheck [.name name] (check value)

end Setting

/-- Is a name a spelling of an option? -/
def isSpelling (name : Text) : Bool :=
  Setting.all.any fun setting => setting.snake == name || setting.camel == name

/-- A name in the spelling with underscores, if it is an option's. -/
def snakeName (name : Text) : Text :=
  match Setting.all.find? fun setting => setting.camel == name with
  | some setting => setting.snake
  | none => name

/-- The spelling with underscores is kept. -/
theorem snakeName_snake (setting : Setting) : snakeName setting.snake = setting.snake := by
  cases setting <;> rfl

/-- Entries with options in the spelling with underscores. -/
def Entries.renamed (entries : Entries) : Entries :=
  Entries.ofPairs (entries.map fun (name, value) => (snakeName name, value))

/-- The values that a value holds, if it is a collection. A text is a collection of itself, and a
table one of its names. -/
def Value.collected? : Value → Option (List Value)
  | .text value => some [.text value]
  | .list values => some values
  | .table entries => some (entries.map fun entry => .text entry.1)
  | _ => none

/-- Names of markers without white space at their ends. There has to be one, and none may be blank.
-/
def markerNames (values : List Value) : Except Complaint (List Text) :=
  let names := values.map fun value => Text.strip value.plain
  if names.isEmpty || names.any List.isEmpty then .error .blankName else .ok names

/-- Why options make no configuration. -/
inductive OptionFault where
  /-- The names of markers are no collection. -/
  | noCollection
  /-- Values are wrong, or names unknown. -/
  | invalid (details : List Detail)
  deriving DecidableEq

/-- The names of markers that options give. -/
def namesOf (entries : Entries) : Except OptionFault (Checked (List Text)) :=
  match Setting.tagName.given? entries with
  | none => .ok (.ok ["dedent".toList])
  | some (name, value) =>
    match value.collected? with
    | none => .error .noCollection
    | some values => .ok (Checked.ofCheck [.name name] (markerNames values))

/-- The complaint of a name that no option has. -/
def unknownDetail (name : Text) : Detail := ⟨[.name name], .unknownName⟩

/-- Complaints of the names that no option is given by. -/
def unknownNames (entries : Entries) : List Detail :=
  let used := Setting.all.filterMap fun setting => (setting.given? entries).map (·.1)
  ((entries.map (·.1)).filter fun name => !used.contains name).map unknownDetail

namespace Marker.Config

/-- A configuration of what its options come to, or everything that is wrong with them and with
other names. -/
def assemble (names : Checked (List Text)) (keeps left right : Checked Bool)
    (test : Checked (Option (Source.Tree → Bool))) (unknown : List Detail) :
    Except OptionFault Config :=
  match names, keeps, left, right, test, unknown with
  | .ok names, .ok keepsMarker, .ok left, .ok right, .ok predicate, [] =>
    .ok { names, keepsMarker, trims := ⟨left, right⟩, predicate }
  | names, keeps, left, right, test, unknown =>
    .error (.invalid (names.details ++ keeps.details ++ left.details ++ right.details ++
      test.details ++ unknown))

/-- The configuration that options make beside names that are complained of. -/
def ofEntriesBeside (entries : Entries) (unknown : List Detail) : Except OptionFault Config :=
  (namesOf entries).bind fun names =>
    assemble names (Setting.keepFunctionCall.checked entries false Value.truthOf)
      (Setting.trimLeft.checked entries true Value.truthOf)
      (Setting.trimRight.checked entries true Value.truthOf)
      (Setting.shouldDedent.checked entries none Value.testOf) unknown

/-- The configuration that options make as they are spelled. -/
def ofEntries (entries : Entries) : Except OptionFault Config :=
  ofEntriesBeside entries (unknownNames entries)

/-- The configuration of options, where further options win, in any mix of spellings. -/
def ofOptions (options further : Entries) : Except OptionFault Config :=
  ofEntries (options.renamed.putAll further.renamed)

end Marker.Config

end Outdent
