import Outdent.Files.Disk

/-!
# Saving files

A file is saved by making the folders that it lies in and writing it. Main statement: `file?_save`,
a file that is saved has the new bytes, and whatever happens the other files keep theirs.
-/
namespace Outdent.Files.Disk

/-- Make the folders that a file lies in, and write it. What was made before a fault stays. -/
def save (disk : Disk) (path : Path) (bytes : List UInt8) : Disk × Option Fault :=
  match disk.makeFolders path.parent with
  | (disk, some fault) => (disk, some fault)
  | (disk, none) =>
    match disk.write path bytes with
    | .error fault => (disk, some fault)
    | .ok disk => (disk, none)

/-- A fault while a file is saved changes no file; without one, the file is changed and no other. -/
theorem file?_save (disk : Disk) (path : Path) (bytes : List UInt8) (other : Path) :
    (disk.save path bytes).1.file? other =
      if other = path.resolved ∧ (disk.save path bytes).2 = none then some bytes
      else disk.file? other := by
  have kept := file?_makeFolders disk path.parent other
  unfold save
  cases made : disk.makeFolders path.parent with
  | mk after fault =>
    rw [made] at kept
    cases fault with
    | some fault => simpa using kept
    | none =>
      cases written : after.write path bytes with
      | error fault => simpa [written] using kept
      | ok last =>
        simp only [written, and_true]
        rw [file?_write written other, kept]

end Outdent.Files.Disk
