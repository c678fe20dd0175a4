import Outdent.Files.Path

/-!
# Files

Files and folders at places. Reading and writing follow a path step by step, so that every step but
the last has to go through a folder. Main statements: `file?_makeFolders`, making folders changes no
file, and `file?_write`, writing changes the file at the place of its path and no other.
-/
namespace Outdent.Files

/-- What is at a place. -/
inductive Entry where
  /-- A folder. -/
  | folder
  /-- A file and its bytes. -/
  | file (bytes : List UInt8)
  deriving DecidableEq

/-- The bytes of a file. -/
def Entry.bytes? : Entry → Option (List UInt8)
  | folder => none
  | file bytes => some bytes

/-- Why a path cannot be read, written or made. -/
inductive Fault where
  /-- There is nothing. -/
  | missing
  /-- There is a folder where a file should be. -/
  | folder
  /-- There is a file where a folder should be. -/
  | file
  /-- There is a file where a folder should be made. -/
  | taken
  deriving DecidableEq

/-- Files and folders, each at its place. The base folder and those above it are always there. -/
structure Disk where
  /-- What there is besides. -/
  entries : List (Path × Entry) := []
  deriving DecidableEq

namespace Disk

/-- What is at a place. -/
def at? (disk : Disk) (place : Path) : Option Entry :=
  if place.all (· == Path.up) then some .folder
  else (disk.entries.find? fun entry => entry.1 == place).map (·.2)

/-- The bytes of the file at a place. -/
def file? (disk : Disk) (place : Path) : Option (List UInt8) :=
  (disk.at? place).bind Entry.bytes?

/-- Put something at a place. -/
def put (disk : Disk) (place : Path) (entry : Entry) : Disk :=
  ⟨(place, entry) :: disk.entries.filter fun other => other.1 != place⟩

/-- The place that a path leads to from another place. -/
def follow (disk : Disk) (place : Path) : Path → Except Fault Path
  | [] => .ok place
  | step :: steps =>
    match disk.at? place with
    | none => .error .missing
    | some (.file _) => .error .file
    | some .folder => disk.follow (place.enter step) steps

/-- The bytes of the file that a path leads to. -/
def read (disk : Disk) (path : Path) : Except Fault (List UInt8) :=
  match disk.follow [] path with
  | .error fault => .error fault
  | .ok place =>
    match disk.at? place with
    | none => .error .missing
    | some .folder => .error .folder
    | some (.file bytes) => .ok bytes

/-- Make the folders on a path that are missing. What was made before a fault stays. A file in the
way of a folder counts as taken if it is the last step, or if folders had to be made before it. -/
def makeFoldersFrom (disk : Disk) (place : Path) (made : Bool) : Path → Disk × Option Fault
  | [] => (disk, none)
  | step :: steps =>
    match disk.at? (place.enter step) with
    | none => (disk.put (place.enter step) .folder).makeFoldersFrom (place.enter step) true steps
    | some .folder => disk.makeFoldersFrom (place.enter step) made steps
    | some (.file _) => (disk, some (if steps.isEmpty || made then .taken else .file))

/-- Make the folders on a path from the base folder that are missing. -/
def makeFolders (disk : Disk) (path : Path) : Disk × Option Fault :=
  disk.makeFoldersFrom [] false path

/-- Write the file that a path leads to, which is made if it is missing. -/
def write (disk : Disk) (path : Path) (bytes : List UInt8) : Except Fault Disk :=
  match disk.follow [] path with
  | .error fault => .error fault
  | .ok place =>
    match disk.at? place with
    | some .folder => .error .folder
    | _ => .ok (disk.put place (.file bytes))

/-- A file with the folders that it lies in. -/
def add (disk : Disk) (path : Path) (bytes : List UInt8) : Disk :=
  ((disk.makeFolders path.parent).1.put path.resolved (.file bytes))

/-- The files of a list. -/
def ofFiles (files : List (Path × List UInt8)) : Disk :=
  files.foldl (fun disk (path, bytes) => disk.add path bytes) {}

/-- The length of the longest path to a place where something is. -/
def depth (disk : Disk) : Nat :=
  disk.entries.foldr (fun entry depth => max entry.1.length depth) 0

/-- The files below the base folder. -/
def files (disk : Disk) : List (Path × List UInt8) :=
  disk.entries.filterMap fun
    | (place, .file bytes) => if place.height = 0 then some (place, bytes) else none
    | (_, .folder) => none

/-- Files have no longer paths than the longest. -/
theorem file?_eq_none_of_depth {disk : Disk} {place : Path} (deep : disk.depth < place.length) :
    disk.file? place = none := by
  have bounded : ∀ entry ∈ disk.entries, entry.1.length ≤ disk.depth := by
    unfold depth
    induction disk.entries with
    | nil => simp
    | cons first rest ih =>
      intro entry member
      rcases List.mem_cons.mp member with rfl | behind
      · exact Nat.le_max_left _ _
      · exact Nat.le_trans (ih entry behind) (Nat.le_max_right _ _)
  have absent : (disk.entries.find? fun entry => entry.1 == place) = none := by
    refine List.find?_eq_none.mpr fun entry member same => ?_
    have length := bounded entry member
    rw [beq_iff_eq.mp same] at length
    omega
  unfold file? at?
  rw [absent]
  split <;> rfl

/-- What is put at a place is there, unless it is above all files, and the other places keep what
they have. -/
theorem at?_put (disk : Disk) (place other : Path) (entry : Entry) :
    (disk.put place entry).at? other =
      if other.all (· == Path.up) then some .folder
      else if other = place then some entry else disk.at? other := by
  unfold at? put
  split
  · rfl
  · by_cases same : other = place
    · subst same
      simp
    · have differ : (place == other) = false := beq_eq_false_iff_ne.mpr fun equal => same equal.symm
      simp only [if_neg same, List.find?_cons, differ, List.find?_filter]
      congr 1
      refine congrArg (fun test => List.find? test disk.entries) (funext fun found => ?_)
      by_cases here : found.1 = other
      · simp [here, same]
      · simp [here]

/-- A folder where nothing is changes no file. -/
theorem file?_put_folder {disk : Disk} {place : Path} (free : disk.at? place = none)
    (other : Path) : (disk.put place .folder).file? other = disk.file? other := by
  unfold file?
  rw [at?_put]
  by_cases above : other.all (· == Path.up) = true
  · simp [at?, above]
  · by_cases same : other = place
    · simp [same, free, Entry.bytes?]
    · simp [above, same]

/-- Making folders from a place on changes no file. -/
theorem file?_makeFoldersFrom (disk : Disk) (place : Path) (made : Bool) (path other : Path) :
    (disk.makeFoldersFrom place made path).1.file? other = disk.file? other := by
  induction path generalizing disk place made with
  | nil => rfl
  | cons step steps ih =>
    rw [makeFoldersFrom]
    split
    · rename_i free
      rw [ih, file?_put_folder free]
    · exact ih ..
    · rfl

/-- Making folders changes no file. -/
theorem file?_makeFolders (disk : Disk) (path other : Path) :
    (disk.makeFolders path).1.file? other = disk.file? other :=
  file?_makeFoldersFrom ..

/-- A path that can be followed from a place leads where its steps lead. -/
theorem follow_eq {disk : Disk} {place path found : Path}
    (followed : disk.follow place path = .ok found) : found = path.foldl Path.enter place := by
  induction path generalizing place with
  | nil => exact (Except.ok.inj followed).symm
  | cons step steps ih =>
    rw [follow] at followed
    split at followed
    · cases followed
    · cases followed
    · exact ih followed

/-- Writing is putting a file at the place of the path, where no folder is. -/
theorem write_eq_ok_iff {disk after : Disk} {path : Path} {bytes : List UInt8} :
    disk.write path bytes = .ok after ↔
      disk.follow [] path = .ok path.resolved ∧ disk.at? path.resolved ≠ some .folder ∧
        after = disk.put path.resolved (.file bytes) := by
  rw [write]
  cases followed : disk.follow [] path with
  | error fault => simp
  | ok place =>
    have found : place = path.resolved := follow_eq followed
    subst found
    cases there : disk.at? path.resolved with
    | none => simp [there, eq_comm]
    | some entry => cases entry <;> simp [there, eq_comm]

/-- Writing changes the file at the place of its path and no other. -/
theorem file?_write {disk after : Disk} {path : Path} {bytes : List UInt8}
    (written : disk.write path bytes = .ok after) (other : Path) :
    after.file? other = if other = path.resolved then some bytes else disk.file? other := by
  obtain ⟨_, room, rfl⟩ := write_eq_ok_iff.mp written
  unfold file?
  rw [at?_put]
  by_cases same : other = path.resolved
  · subst same
    have below : ¬(path.resolved.all (· == Path.up) = true) := fun above =>
      room (by simp [at?, above])
    simp only [below, ↓reduceIte]
    rfl
  · by_cases above : other.all (· == Path.up) = true
    · simp [above, same, at?]
    · simp [above, same]

end Disk

end Outdent.Files
