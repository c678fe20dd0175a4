import Outdent.Options.Entries
import Outdent.Toml.Scalars

/-!
# Settings files

A settings file is a list of lines: names with values, and headers that open a table or one more
table of a list of tables. A table is declared once, and what is written inline is not added to
later. The state of reading holds the table that has been read so far and marks on paths of it.
-/
namespace Outdent.Toml

open Text

/-- Names that lead to a value. -/
abbrev Path := List Text

/-- What may not be done to a path any more. -/
inductive Mark where
  /-- It may not be declared as a table. -/
  | declared
  /-- Nothing may be added to it. -/
  | frozen
  deriving DecidableEq

/-- A mark on a path, and whether it reaches what is below the path. -/
structure Marking where
  /-- The marked path. -/
  path : Path
  /-- The mark. -/
  mark : Mark
  /-- Paths below are marked too. -/
  deep : Bool
  deriving DecidableEq

/-- Is a path marked? -/
def marked (markings : List Marking) (path : Path) (mark : Mark) : Bool :=
  markings.any fun marking => marking.mark = mark &&
    (marking.path = path || (marking.deep && marking.path.isPrefixOf path))

/-- The markings without those of a path and of what is below it. -/
def unmarked (markings : List Marking) (path : Path) : List Marking :=
  markings.filter fun marking => !path.isPrefixOf marking.path

/-- Edit the table at a path, which is made if it is missing. Where a list of tables stands on the
path, it stands for its last table if `throughLists` is set. -/
def editAt (throughLists : Bool) (edit : Entries → Option Entries) :
    Path → Entries → Option Entries
  | [], entries => edit entries
  | name :: path, entries =>
    match entries.lookup? name with
    | none => (editAt throughLists edit path []).map fun inner => entries.put name (.table inner)
    | some (.table inner) =>
      (editAt throughLists edit path inner).map fun inner => entries.put name (.table inner)
    | some (.list values) =>
      match throughLists, values.getLast? with
      | true, some (.table inner) =>
        (editAt throughLists edit path inner).map fun inner =>
          entries.put name (.list (values.dropLast ++ [.table inner]))
      | _, _ => none
    | some _ => none

/-- Add a value with a name that is not there. -/
def addNew (name : Text) (value : Value) (entries : Entries) : Option Entries :=
  if (entries.lookup? name).isSome then none else some (entries.put name value)

/-- Add an empty table to a list of tables, which is made if it is missing. -/
def addTable (name : Text) (entries : Entries) : Option Entries :=
  match entries.lookup? name with
  | none => some (entries.put name (.list [.table []]))
  | some (.list values) => some (entries.put name (.list (values ++ [.table []])))
  | some _ => none

/-- Characters of names without quotes. -/
def isNameCharacter (character : Char) : Bool :=
  character.isAlphanum || character == '-' || character == '_'

/-- One name. -/
def name? (text : Text) : Option (Text × Text) :=
  match text with
  | [] => none
  | first :: _ =>
    if isNameCharacter first then
      some (text.takeWhile isNameCharacter, text.dropWhile isNameCharacter)
    else lineString? text

/-- Names with points between them, and the blanks behind them. -/
def path? : Nat → Reader Path
  | 0, _ => none
  | fuel + 1, text => do
    let (first, rest) ← name? text
    match skipBlanks rest with
    | '.' :: rest =>
      let (others, rest) ← path? fuel (skipBlanks rest)
      some (first :: others, rest)
    | rest => some ([first], rest)

/-- A text without a comment at its front, if the comment is legal. -/
def skipComment? : Text → Option Text
  | '#' :: rest =>
    let comment := rest.takeWhile (· != '\n')
    if comment.any (isIllegal false) then none else some (rest.drop comment.length)
  | text => some text

/-- A text without blanks, line feeds and comments at its front. -/
def skipLines? : Nat → Text → Option Text
  | 0, _ => none
  | fuel + 1, text =>
    match text.dropWhile fun character => isLineBlank character || character == '\n' with
    | '#' :: rest => (skipComment? ('#' :: rest)).bind (skipLines? fuel)
    | rest => some rest

/-- Does a value hold others? -/
def holdsOthers : Value → Bool
  | .list _ => true
  | .table _ => true
  | _ => false

/-- A name with its value in an inline table. -/
def addInline (entries : Entries) (markings : List Marking) (path : Path) (value : Value) :
    Option (Entries × List Marking) :=
  match path.getLast? with
  | none => none
  | some name =>
    if marked markings path .frozen then none
    else do
      let entries ← editAt false (addNew name value) path.dropLast entries
      some (entries,
        if holdsOthers value then ⟨path, .frozen, true⟩ :: markings else markings)

mutual

/-- A value. The fuel exceeds the length of the text. -/
def value? : Nat → Reader Value
  | 0, _ => none
  | fuel + 1, text =>
    match text with
    | '"' :: _ => (string? text).map fun (value, rest) => (.text value, rest)
    | '\'' :: _ => (string? text).map fun (value, rest) => (.text value, rest)
    | 't' :: 'r' :: 'u' :: 'e' :: rest => some (.truth true, rest)
    | 'f' :: 'a' :: 'l' :: 's' :: 'e' :: rest => some (.truth false, rest)
    | '[' :: rest => do
      let rest ← skipLines? (rest.length + 1) rest
      match rest with
      | ']' :: rest => some (.list [], rest)
      | rest => (values? fuel rest).map fun (values, rest) => (.list values, rest)
    | '\x7b' :: rest =>
      match skipBlanks rest with
      | '\x7d' :: rest => some (.table [], rest)
      | rest => (inline? fuel [] [] rest).map fun (entries, rest) => (.table entries, rest)
    | text =>
      (moment? text).or ((based? text).or ((decimal? text).or (unusual? text)))

/-- The values of a list up to its end. -/
def values? : Nat → Reader (List Value)
  | 0, _ => none
  | fuel + 1, text => do
    let (first, rest) ← value? fuel text
    let rest ← skipLines? (rest.length + 1) rest
    match rest with
    | ']' :: rest => some ([first], rest)
    | ',' :: rest =>
      let rest ← skipLines? (rest.length + 1) rest
      match rest with
      | ']' :: rest => some ([first], rest)
      | rest =>
        let (others, rest) ← values? fuel rest
        some (first :: others, rest)
    | _ => none

/-- The entries of an inline table up to its end. -/
def inline? : Nat → Entries → List Marking → Reader Entries
  | 0, _, _, _ => none
  | fuel + 1, entries, markings, text => do
    let (path, value, rest) ← pair? fuel text
    let (entries, markings) ← addInline entries markings path value
    match skipBlanks rest with
    | '\x7d' :: rest => some (entries, rest)
    | ',' :: rest => inline? fuel entries markings (skipBlanks rest)
    | _ => none

/-- A path with a value. -/
def pair? : Nat → Text → Option (Path × Value × Text)
  | 0, _ => none
  | fuel + 1, text => do
    let (path, rest) ← path? (text.length + 1) text
    match rest with
    | '=' :: rest =>
      let (value, rest) ← value? fuel (skipBlanks rest)
      some (path, value, rest)
    | _ => none

end

/-- What has been read of a settings file. -/
structure Reading where
  /-- The table so far. -/
  entries : Entries := []
  /-- Marks on paths. -/
  markings : List Marking := []
  /-- Paths that will be marked as declared when the next header comes. -/
  pending : List Path := []
  /-- The path of the last header. -/
  header : Path := []

namespace Reading

/-- Mark a path. -/
def mark (reading : Reading) (path : Path) (mark : Mark) (deep : Bool) : Reading :=
  { reading with markings := ⟨path, mark, deep⟩ :: reading.markings }

/-- Mark the paths that wait for it. -/
def settle (reading : Reading) : Reading :=
  { reading with
    markings := reading.pending.map (fun path => ⟨path, .declared, false⟩) ++ reading.markings
    pending := [] }

/-- A header of a table. -/
def openTable (reading : Reading) (path : Path) : Option Reading :=
  let reading := reading.settle
  if marked reading.markings path .declared || marked reading.markings path .frozen then none
  else (editAt true some path reading.entries).map fun entries =>
    { reading.mark path .declared false with entries, header := path }

/-- A header of one more table of a list. -/
def openItem (reading : Reading) (path : Path) : Option Reading :=
  let reading := reading.settle
  match path.getLast? with
  | none => none
  | some name =>
    if marked reading.markings path .frozen then none
    else (editAt true (addTable name) path.dropLast reading.entries).map fun entries =>
      { reading with
        entries, header := path
        markings := ⟨path, .declared, false⟩ :: unmarked reading.markings path }

/-- The paths through the tables that a path with points leads through. -/
def between (header path : Path) : List Path :=
  (List.range path.length).tail.map fun length => header ++ path.take length

/-- A path with a value under the last header. -/
def add (reading : Reading) (path : Path) (value : Value) : Option Reading :=
  let through := between reading.header path
  let parent := reading.header ++ path.dropLast
  match path.getLast? with
  | none => none
  | some name =>
    if through.any fun path => marked reading.markings path .declared then none
    else if marked reading.markings parent .frozen then none
    else (editAt true (addNew name value) parent reading.entries).map fun entries =>
      let reading := { reading with entries, pending := reading.pending ++ through }
      if holdsOthers value then reading.mark (reading.header ++ path) .frozen true else reading

end Reading

/-- What is left of a statement has to be a comment at most, up to the end of its line. -/
def endLine? (text : Text) : Option Text := do
  let rest ← skipComment? (skipBlanks text)
  match rest with
  | [] => some []
  | '\n' :: rest => some rest
  | _ => none

/-- Read statements up to the end of the text. The fuel exceeds its length. -/
def readFrom : Nat → Reading → Text → Option Reading
  | 0, _, _ => none
  | fuel + 1, reading, text =>
    match skipBlanks text with
    | [] => some reading
    | '\n' :: rest => readFrom fuel reading rest
    | '#' :: rest => (endLine? ('#' :: rest)).bind (readFrom fuel reading)
    | '[' :: '[' :: rest => do
      let (path, rest) ← path? (rest.length + 1) (skipBlanks rest)
      let reading ← reading.openItem path
      match rest with
      | ']' :: ']' :: rest => readFrom fuel reading (← endLine? rest)
      | _ => none
    | '[' :: rest => do
      let (path, rest) ← path? (rest.length + 1) (skipBlanks rest)
      let reading ← reading.openTable path
      match rest with
      | ']' :: rest => readFrom fuel reading (← endLine? rest)
      | _ => none
    | rest => do
      let (path, value, rest) ← pair? (2 * rest.length + 2) rest
      let reading ← reading.add path value
      readFrom fuel reading (← endLine? rest)

/-- A text in which line breaks of two characters are line feeds. -/
def withFeeds (text : Text) : Text := replaceAll ['\r', '\n'] ['\n'] text

/-- The table that a settings file writes. -/
def parse? (text : Text) : Option Entries :=
  (readFrom (text.length + 1) {} (withFeeds text)).map Reading.entries

end Outdent.Toml
