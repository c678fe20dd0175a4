import Outdent.Files.Disk
import Outdent.Options.Config
import Outdent.Text.Utf8
import Outdent.Toml.Document

/-!
# Options of a project

Options of a project stand in a table of the settings file that is nearest to a folder. A test of
candidates cannot be set there. Options that are given beside the file win, except for those that
are given as nothing. Names in the table that are no texts are complained of like those that no
option has. Main statements: `projectPairs_of_none`, where there is no settings file there are no
options, and `sameName_text`, texts are the same name only if they are equal.
-/
namespace Outdent

open Marker Files

/-- The name of settings files. -/
def settingsName : Text := "pyproject.toml"

/-- Why a project has no configuration. -/
inductive ProjectFault where
  /-- The settings file is no text. -/
  | undecodable
  /-- The settings file breaks the rules of its form. -/
  | malformed
  /-- The tools of the settings file are no table. -/
  | noToolTable
  /-- What should hold options, or one of them, is no collection. -/
  | noCollection
  /-- What should hold options has members that are no pairs. -/
  | noPairs
  /-- The options make no configuration. -/
  | options (fault : OptionFault)
  deriving DecidableEq

/-- Can a value be a name? -/
def Value.isName : Value → Bool
  | .list _ => false
  | .table _ => false
  | _ => true

/-- The name and the value that a member of a collection holds. -/
def pairOf : Value → Except ProjectFault (Value × Value)
  | .text [name, value] => .ok (.text [name], .text [value])
  | .table [(name, _), (value, _)] => .ok (.text name, .text value)
  | .list [name, value] => if name.isName then .ok (name, value) else .error .noCollection
  | .text _ => .error .noPairs
  | .table _ => .error .noPairs
  | .list _ => .error .noPairs
  | _ => .error .noCollection

/-- The names and values that a value holds: those of a table, or the pairs of a list. -/
def pairsOf : Value → Except ProjectFault (List (Value × Value))
  | .table entries => .ok (entries.map fun (name, value) => (.text name, value))
  | .list values => values.mapM pairOf
  | .text [] => .ok []
  | .text _ => .error .noPairs
  | _ => .error .noCollection

/-- The pairs with a text for a name. -/
def textPairs (pairs : List (Value × Value)) : Entries :=
  pairs.filterMap fun
    | (.text name, value) => some (name, value)
    | _ => none

/-- The number of days since the beginning of the calendar. -/
def Day.number (date : Day) : Nat :=
  let years := date.year - 1
  let days := 365 * years + years / 4 - years / 100 + years / 400 + date.day
  (List.range date.month).tail.foldl (fun days month => days + Toml.daysOf date.year month) days

/-- Are two points in time the same? Where places are said they matter. -/
def Moment.same : Moment → Moment → Bool
  | .both date time (some ahead), .both other later (some place) =>
    let minute (date : Day) (time : Clock) (ahead : Int) : Int :=
      (date.number * 1440 + time.hour * 60 + time.minute : Nat) - ahead
    minute date time ahead == minute other later place && time.second == later.second &&
      time.fraction == later.fraction
  | moment, other => moment == other

namespace Value

/-- The whole number that a value is, truth values among them as zero and one. -/
def whole? : Value → Option Int
  | truth value => some (if value then 1 else 0)
  | integer value => some value
  | float value => Text.integerOfFloat? value
  | _ => none

/-- Are two values the same name? Numbers are if they are equal, of whatever kind they are. -/
def sameName : Value → Value → Bool
  | text name, text other => name == other
  | moment value, moment other => value.same other
  | float value, float other => value == other
  | name, other => name.whole?.isSome && name.whole? == other.whole?

/-- The place of what has a value for a name. -/
def place : Value → Place
  | text name => .name name
  | truth value => .index (if value then 1 else 0)
  | integer value =>
    if -wordLimit ≤ value ∧ value < wordLimit then .index value else .name (Text.ofInt value)
  | name => .name name.expression

/-- Is a value no name of an option? -/
def isStrange : Value → Bool
  | text name => !isSpelling name
  | _ => true

/-- The complaint of a name that is no name of an option. -/
def strangeDetail : Value → Detail
  | text name => unknownDetail name
  | name => ⟨[name.place], .nameKind⟩

end Value

/-- Complaints of the names that are no names of options, of pairs and then of entries, every name
once. -/
def strangeNames (pairs : List (Value × Value)) (entries : Entries) : List Detail :=
  let names := pairs.map (·.1) ++ entries.names.map .text
  ((names.filter Value.isStrange).eraseDupsBy Value.sameName).map Value.strangeDetail

/-- The pairs for options in the table of a settings file. -/
def optionPairs (settings : Entries) : Except ProjectFault (List (Value × Value)) :=
  match settings.lookup? "tool" with
  | none => .ok []
  | some (.table tools) => pairsOf ((Entries.lookup? tools "dedentify").getD (.table []))
  | some _ => .error .noToolTable

/-- The settings file of a folder. -/
def settingsFile? (disk : Disk) (folder : Path) : Option (List UInt8) :=
  disk.file? (folder ++ [settingsName])

/-- The settings file that is nearest to a place. There is none farther above than paths are long.
-/
def nearestSettings? (disk : Disk) (place : Path) : Option (List UInt8) :=
  (place.around (place.length + disk.depth)).findSome? (settingsFile? disk)

/-- The pairs for options in the settings file that is nearest to a place. -/
def projectPairs (disk : Disk) (place : Path) : Except ProjectFault (List (Value × Value)) :=
  match nearestSettings? disk place with
  | none => .ok []
  | some bytes =>
    match Text.decode? bytes with
    | none => .error .undecodable
    | some text =>
      match Toml.parse? text with
      | none => .error .malformed
      | some settings => optionPairs settings

/-- Options of a settings file, without those for a test. -/
def projectEntries (pairs : List (Value × Value)) : Entries :=
  (Entries.ofPairs (textPairs pairs)).without
    [Setting.shouldDedent.snake, Setting.shouldDedent.camel]

/-- Is a value no value? -/
def Value.isNothing : Value → Bool
  | .nothing => true
  | _ => false

/-- Options that are given beside a settings file. Of two spellings of one option the later is used,
and it is dropped if it is nothing. -/
def Entries.explicit (entries : Entries) : Entries :=
  entries.renamed.filter fun entry => !entry.2.isNothing

namespace Marker.Config

/-- The configuration of the project that a folder belongs to, with options that are given beside.
-/
def ofProject (disk : Disk) (folder : Path) (entries : Entries) : Except ProjectFault Config :=
  match projectPairs disk folder.resolved with
  | .error fault => .error fault
  | .ok pairs =>
    (ofEntriesBeside ((projectEntries pairs).renamed.putAll entries.explicit)
      (strangeNames pairs entries.explicit)).mapError .options

end Marker.Config

/-- The first line on a configuration of a project that is wrong. -/
def invalidMessage (details : List Detail) : Text :=
  "Invalid dedentify configuration: ".toList ++ Text.ofNat details.length ++
    (if details.length = 1 then " validation error" else " validation errors").toList ++
    " for DedentConfig".toList

/-- Where there is no settings file, there are no options. -/
theorem projectPairs_of_none {disk : Disk} {place : Path}
    (none : nearestSettings? disk place = none) :
    projectPairs disk place = .ok [] := by
  simp [projectPairs, none]

/-- Texts are the same name if they are equal. -/
@[simp] theorem sameName_text (name other : Text) :
    (Value.text name).sameName (.text other) = (name == other) := rfl

end Outdent
