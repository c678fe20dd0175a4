import Outdent.Console.Log
import Outdent.Files.Save
import Outdent.Options.Project
import Outdent.Run

/-!
# Reports on files

A file is read, its markers are settled, and the code is written to another file, or to the same
one if a template was outdented. A record tells what was done; it is shown after that, so that
markup in a path can spoil the answer but not the work. Main statement: `file?_outdentFile_of_ne`,
only the destination changes.
-/
namespace Outdent.Files

open Console Marker

/-- Why a file has no result. -/
inductive OutdentFault where
  /-- There is no configuration for the folder of the file. -/
  | project (fault : ProjectFault)
  /-- A file cannot be read or written. -/
  | file (fault : Fault)
  /-- The file is no text. -/
  | undecodable
  /-- The run has no result. -/
  | run (fault : RunFault)
  /-- The markup of a record is wrong. -/
  | markup
  deriving DecidableEq

/-- What work on a file comes to. -/
structure Report where
  /-- The files afterwards. -/
  disk : Disk
  /-- The records. -/
  log : List Record
  /-- The result. -/
  outcome : Except OutdentFault Result

namespace Report

/-- Nothing was done. -/
def failed (disk : Disk) (fault : OutdentFault) : Report := ⟨disk, [], .error fault⟩

/-- A record is shown, and then there is a result. -/
def told (disk : Disk) (record : Record) (result : Result) : Report :=
  ⟨disk, [record], if record.shown?.isSome then .ok result else .error .markup⟩

end Report

/-- A path in a message, behind the name of the base folder. -/
def shownPath (base : Text) (path : Path) : Text :=
  "[path]".toList ++ base ++ path.flatMap ('/' :: ·) ++ "[/path]".toList

/-- The record for a source that cannot be read. -/
def failedRecord (base : Text) (input : Path) (errors : List Text) : Record :=
  .ofMessage .error ("Failed to transform ".toList ++ shownPath base input ++ ": ".toList ++
    escape (Text.join "; ".toList errors))

/-- The record for a source without markers. -/
def unchangedRecord (base : Text) (input : Path) : Record :=
  .ofMessage .info ("No marked templates in ".toList ++ shownPath base input)

/-- The record for a file that was written. -/
def writtenRecord (base : Text) (input output : Path) (outdented : Nat) : Record :=
  .ofMessage .success ("Dedented ".toList ++ Text.ofNat outdented ++ " template(s): ".toList ++
    shownPath base input ++ " -> ".toList ++ shownPath base output)

/-- The text of a file, with its line breaks unified. -/
def readCode (disk : Disk) (path : Path) : Except OutdentFault Text :=
  match disk.read path with
  | .error fault => .error (.file fault)
  | .ok bytes =>
    match Text.decode? bytes with
    | none => .error .undecodable
    | some text => .ok (Text.unifyBreaks text)

/-- The configuration that is given, or that of the project the file belongs to. -/
def configFor (disk : Disk) (input : Path) : Option Config → Except OutdentFault Config
  | some config => .ok config
  | none => (Config.ofProject disk input.parent []).mapError .project

/-- The result of a run over a file. -/
def runFile (disk : Disk) (input : Path) (config : Option Config) : Except OutdentFault Result := do
  let config ← configFor disk input config
  let code ← readCode disk input
  (run config code).mapError .run

/-- Write the code of a result to a file, and tell it. -/
def writeResult (base : Text) (disk : Disk) (input destination : Path) (result : Result) : Report :=
  match disk.save destination (Text.encode result.code) with
  | (disk, some fault) => .failed disk (.file fault)
  | (disk, none) => .told disk (writtenRecord base input destination result.outdented) result

/-- Settle the markers of a file. Without an output the file itself is written, if it changes. -/
def outdentFile (base : Text) (disk : Disk) (input : Path) (output : Option Path)
    (config : Option Config) : Report :=
  match runFile disk input config with
  | .error fault => .failed disk fault
  | .ok result =>
    if !result.success then .told disk (failedRecord base input result.errors) result
    else if output.isNone && !result.changed then .told disk (unchangedRecord base input) result
    else writeResult base disk input (output.getD input) result

/-- Writing a result changes no file but the destination. -/
theorem file?_writeResult_of_ne (base : Text) (disk : Disk) (input destination : Path)
    (result : Result) (other : Path) (differ : other ≠ destination.resolved) :
    (writeResult base disk input destination result).disk.file? other = disk.file? other := by
  have kept := Disk.file?_save disk destination (Text.encode result.code) other
  rw [if_neg fun both => differ both.1] at kept
  unfold writeResult
  split
  · rename_i saved
    rw [saved] at kept
    exact kept
  · rename_i saved
    rw [saved] at kept
    exact kept

/-- Only the destination changes. -/
theorem file?_outdentFile_of_ne (base : Text) (disk : Disk) (input : Path) (output : Option Path)
    (config : Option Config) (other : Path) (differ : other ≠ (output.getD input).resolved) :
    (outdentFile base disk input output config).disk.file? other = disk.file? other := by
  unfold outdentFile
  split
  · rfl
  · split
    · rfl
    · split
      · rfl
      · exact file?_writeResult_of_ne _ _ _ _ _ _ differ

end Outdent.Files
