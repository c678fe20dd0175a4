import Mathlib.Data.List.Basic
import Outdent.Files.Report

/-!
# Faults and files

Work on a file writes the destination and then shows a record of that. A fault before the record
leaves every file as it was. The record holds paths as they are, and a tag in a path is read as
markup; such a fault comes too late. Main statements: `shown?_writtenRecord`, the record is shown if
there are no brackets in the paths, and `changes_outdentFile_error`, when work that ends in a fault
has changed a file.
-/
namespace Outdent

namespace Console

/-! ## Markup around texts -/

/-- Text without brackets is kept, and leaves some backslashes to what is behind it. -/
theorem isSome_plainFrom?_append {text : Text} (plain : '[' ∉ text) (count : Nat) (rest : Text) :
    ∃ left, ∀ openStyles, (plainFrom? openStyles (piecesFrom 0 count (text ++ rest))).isSome =
      (plainFrom? openStyles (piecesFrom 0 left rest)).isSome := by
  induction text generalizing count with
  | nil => exact ⟨count, fun _ => rfl⟩
  | cons character text ih =>
    have here : character ≠ '[' := fun same => plain (same ▸ List.mem_cons_self)
    have there : '[' ∉ text := fun member => plain (List.mem_cons_of_mem _ member)
    by_cases slash : character = '\\'
    · obtain ⟨left, same⟩ := ih there (count + 1)
      refine ⟨left, fun openStyles => ?_⟩
      rw [List.cons_append, piecesFrom, if_pos slash, same]
    · obtain ⟨left, same⟩ := ih there 0
      refine ⟨left, fun openStyles => ?_⟩
      rw [List.cons_append, piecesFrom, if_neg slash, tagInside?_of_ne here]
      simp only [plainFrom?, Option.isSome_map, same]

/-- Text without brackets that ends in a blank is kept, and leaves no backslashes. -/
theorem isSome_plainFrom?_blank {text : Text} (plain : '[' ∉ text) (count : Nat) (rest : Text)
    (openStyles : List Text) :
    (plainFrom? openStyles (piecesFrom 0 count (text ++ ' ' :: rest))).isSome =
      (plainFrom? openStyles (piecesFrom 0 0 rest)).isSome := by
  obtain ⟨left, same⟩ := isSome_plainFrom?_append plain count (' ' :: rest)
  rw [same, piecesFrom, if_neg (by decide), tagInside?_of_ne (by decide)]
  simp only [plainFrom?, Option.isSome_map]

/-- The tag that opens the style of paths. -/
theorem piecesFrom_openPath (rest : Text) :
    piecesFrom 0 0 ("[path]".toList ++ rest) = tagPieces 0 "path".toList ++ piecesFrom 0 0 rest := by
  have found : tagInside? ('[' :: "path]".toList ++ rest) = some "path".toList := by
    simp [tagInside?, isTagStart, List.takeWhile]
  change piecesFrom 0 0 ('[' :: "path]".toList ++ rest) = _
  rw [List.cons_append, piecesFrom, if_neg (by decide), ← List.cons_append, found]
  rfl

/-- The tag that closes the style of paths, behind some backslashes. -/
theorem piecesFrom_closePath (count : Nat) (rest : Text) :
    piecesFrom 0 count ("[/path]".toList ++ rest) =
      tagPieces count "/path".toList ++ piecesFrom 0 0 rest := by
  have found : tagInside? ('[' :: "/path]".toList ++ rest) = some "/path".toList := by
    simp [tagInside?, isTagStart, List.takeWhile]
  change piecesFrom 0 count ('[' :: "/path]".toList ++ rest) = _
  rw [List.cons_append, piecesFrom, if_neg (by decide), ← List.cons_append, found]
  rfl

/-- The style of paths is opened. -/
theorem plainFrom?_openPath (openStyles : List Text) (pieces : List Piece) :
    plainFrom? openStyles (.tag "path".toList :: pieces) =
      plainFrom? (styleName "path".toList :: openStyles) pieces := by
  have style : tagStyle "path".toList = "path".toList := by decide +kernel
  rw [plainFrom?, style]
  rfl

/-- The style of paths is closed if it was opened last. -/
theorem plainFrom?_closePath (openStyles : List Text) (pieces : List Piece) :
    plainFrom? (styleName "path".toList :: openStyles) (.tag "/path".toList :: pieces) =
      plainFrom? openStyles pieces := by
  have style : tagStyle "/path".toList = '/' :: "path".toList := by decide +kernel
  have name : Text.strip "path".toList = "path".toList := by decide +kernel
  have closed : close? "path".toList (styleName "path".toList :: openStyles) = some openStyles := by
    rw [close?, name]
    simp only [List.contains_cons, beq_self_eq_true, Bool.true_or, if_true, List.erase_cons_head]
    rfl
  rw [plainFrom?, style]
  change (close? "path".toList _).bind _ = _
  rw [closed, Option.bind_some]

/-- Text without brackets in the tags of a path is kept. Behind it the style of paths is closed or
not: a backslash at the end of the text makes the closing tag text. -/
theorem isSome_plainFrom?_path {text : Text} (plain : '[' ∉ text) (rest : Text)
    (openStyles : List Text) :
    ∃ left, (plainFrom? openStyles
        (piecesFrom 0 0 ("[path]".toList ++ (text ++ ("[/path]".toList ++ rest))))).isSome =
      (plainFrom? left (piecesFrom 0 0 rest)).isSome := by
  obtain ⟨count, same⟩ := isSome_plainFrom?_append plain 0 ("[/path]".toList ++ rest)
  have opened : (plainFrom? openStyles
      (piecesFrom 0 0 ("[path]".toList ++ (text ++ ("[/path]".toList ++ rest))))).isSome =
        (plainFrom? (styleName "path".toList :: openStyles)
          (tagPieces count "/path".toList ++ piecesFrom 0 0 rest)).isSome := by
    rw [piecesFrom_openPath, ← piecesFrom_closePath, ← same, ← plainFrom?_openPath]
    exact Option.isSome_map
  rw [opened, tagPieces, List.cons_append, plainFrom?, Option.isSome_map]
  by_cases odd : count % 2 = 1
  · refine ⟨styleName "path".toList :: openStyles, ?_⟩
    rw [if_pos odd, List.cons_append, plainFrom?, Option.isSome_map, List.nil_append]
  · refine ⟨openStyles, ?_⟩
    rw [if_neg odd, List.cons_append, plainFrom?_closePath, List.nil_append]

end Console

namespace Files

open Console Marker

/-! ## The record of a file that was written -/

/-- A path without brackets, behind a base folder without brackets, has no brackets. -/
theorem bracket_not_mem_place {base : Text} {path : Path} (plainBase : '[' ∉ base)
    (plainPath : ∀ step ∈ path, '[' ∉ step) : '[' ∉ base ++ path.flatMap ('/' :: ·) := by
  intro member
  obtain inBase | inPath := List.mem_append.mp member
  · exact plainBase inBase
  · obtain ⟨step, among, inStep⟩ := List.mem_flatMap.mp inPath
    obtain slash | inStep := List.mem_cons.mp inStep
    · exact absurd slash (by decide)
    · exact plainPath step among inStep

/-- Digits have no brackets. -/
theorem bracket_not_mem_ofNat (value : Nat) : '[' ∉ Text.ofNat value := fun member =>
  absurd (Nat.isDigit_of_mem_toDigits (by decide) (by decide) member) (by decide)

/-- The record of a file that was written is shown, if there are no brackets in the paths. -/
theorem shown?_writtenRecord {base : Text} {input output : Path} (plainBase : '[' ∉ base)
    (plainInput : ∀ step ∈ input, '[' ∉ step) (plainOutput : ∀ step ∈ output, '[' ∉ step)
    (outdented : Nat) : (writtenRecord base input output outdented).shown?.isSome = true := by
  let front := Level.success.sign ++ ' ' :: ("Dedented ".toList ++ Text.ofNat outdented ++
    " template(s):".toList)
  have plainFront : '[' ∉ front := by
    have digits := bracket_not_mem_ofNat outdented
    simpa [front, Level.sign] using digits
  have plainArrow : '[' ∉ " ->".toList := by decide
  have colon : " template(s): ".toList = " template(s):".toList ++ [' '] := by decide
  have arrow : " -> ".toList = " ->".toList ++ [' '] := by decide
  have regroup : ∀ sign verb number colon arrow opening first second closing : Text,
      sign ++ ' ' :: (verb ++ number ++ (colon ++ [' ']) ++ (opening ++ base ++ first ++ closing) ++
          (arrow ++ [' ']) ++ (opening ++ base ++ second ++ closing)) =
        (sign ++ ' ' :: (verb ++ number ++ colon)) ++ ' ' :: (opening ++ ((base ++ first) ++
          (closing ++ (arrow ++ ' ' :: (opening ++ ((base ++ second) ++ (closing ++ []))))))) := by
    intros
    simp only [List.append_assoc, List.cons_append, List.nil_append, List.append_nil]
  have whole : (writtenRecord base input output outdented).message =
      front ++ ' ' :: ("[path]".toList ++ ((base ++ input.flatMap ('/' :: ·)) ++
        ("[/path]".toList ++ (" ->".toList ++ ' ' :: ("[path]".toList ++
          ((base ++ output.flatMap ('/' :: ·)) ++ ("[/path]".toList ++ []))))))) := by
    rw [writtenRecord, colon, arrow]
    exact regroup ..
  have shown : (writtenRecord base input output outdented).shown?.isSome =
      (plainFrom? []
        (piecesFrom 0 0 (writtenRecord base input output outdented).message)).isSome := by
    simp only [Record.shown?, plain?, Console.pieces, Option.isSome_map]
  obtain ⟨behindInput, first⟩ := isSome_plainFrom?_path
    (bracket_not_mem_place plainBase plainInput) (" ->".toList ++ ' ' :: ("[path]".toList ++
      ((base ++ output.flatMap ('/' :: ·)) ++ ("[/path]".toList ++ [])))) []
  obtain ⟨behindOutput, second⟩ := isSome_plainFrom?_path
    (bracket_not_mem_place plainBase plainOutput) [] behindInput
  rw [shown, whole, isSome_plainFrom?_blank plainFront, first,
    isSome_plainFrom?_blank plainArrow, second]
  rfl

/-! ## What work on a file changes -/

/-- Is the code of a result written? It is if the source could be read, and there is an output or a
template was outdented. -/
def isWritten (output : Option Path) (result : Result) : Bool :=
  result.success && (output.isSome || result.changed)

/-- Did some file change in work on a file? -/
def Report.Changes (report : Report) (disk : Disk) : Prop :=
  ∃ place, report.disk.file? place ≠ disk.file? place

section

variable {base : Text} {disk : Disk} {input : Path} {output : Option Path} {config : Option Config}

/-- Without a result nothing is done. -/
theorem outdentFile_of_error {fault : OutdentFault}
    (ran : runFile disk input config = .error fault) :
    outdentFile base disk input output config = .failed disk fault := by
  rw [outdentFile, ran]

/-- A result is written, or it is only told. -/
theorem outdentFile_of_ok {result : Result} (ran : runFile disk input config = .ok result) :
    outdentFile base disk input output config =
      if isWritten output result then writeResult base disk input (output.getD input) result
      else .told disk
        (if result.success then unchangedRecord base input
          else failedRecord base input result.errors) result := by
  rw [outdentFile, ran]
  cases read : result.success <;> cases output <;> cases count : result.changed <;>
    simp [isWritten, read, count]

/-- The code of a result is saved; if that fails there is a fault, and otherwise the result is told.
-/
theorem writeResult_eq (base : Text) (disk : Disk) (input destination : Path) (result : Result) :
    writeResult base disk input destination result =
      match (disk.save destination (Text.encode result.code)).2 with
      | some fault => .failed (disk.save destination (Text.encode result.code)).1 (.file fault)
      | none => .told (disk.save destination (Text.encode result.code)).1
          (writtenRecord base input destination result.outdented) result := by
  unfold writeResult
  split <;> rename_i saved <;> rw [saved]

/-- The files after a result is written are those after its code is saved. -/
theorem disk_writeResult (base : Text) (disk : Disk) (input destination : Path) (result : Result) :
    (writeResult base disk input destination result).disk =
      (disk.save destination (Text.encode result.code)).1 := by
  rw [writeResult_eq]
  split <;> rfl

/-- A result that is told is the result. -/
theorem Report.result_of_told {after : Disk} {record : Record} {told result : Result}
    (returned : (Report.told after record told).outcome = .ok result) : told = result := by
  unfold Report.told at returned
  split at returned
  · exact Except.ok.inj returned
  · cases returned

/-- Work that ends in a result wrote the destination, or changed no file. -/
theorem file?_outdentFile_of_ok {result : Result}
    (returned : (outdentFile base disk input output config).outcome = .ok result) :
    runFile disk input config = .ok result ∧
      ∀ place, (outdentFile base disk input output config).disk.file? place =
        if isWritten output result ∧ place = (output.getD input).resolved then
          some (Text.encode result.code)
        else disk.file? place := by
  cases ran : runFile disk input config with
  | error fault =>
    rw [outdentFile_of_error ran] at returned
    cases returned
  | ok found =>
    rw [outdentFile_of_ok ran] at returned ⊢
    cases written : isWritten output found with
    | false =>
      rw [written, if_neg (by decide)] at returned
      obtain rfl := Report.result_of_told returned
      exact ⟨rfl, fun place => by simp [written, Report.told]⟩
    | true =>
      rw [written, if_pos rfl, writeResult_eq] at returned
      cases saved : (disk.save (output.getD input) (Text.encode found.code)).2 with
      | some fault =>
        rw [saved] at returned
        cases returned
      | none =>
        rw [saved] at returned
        obtain rfl := Report.result_of_told returned
        refine ⟨rfl, fun place => ?_⟩
        rw [if_pos rfl, disk_writeResult, Disk.file?_save, written]
        simp only [saved, and_true, true_and]

/-- Work on a file changes a file if and only if the code of its result is written, can be saved, and
is not what was there before. -/
theorem changes_outdentFile_iff :
    (outdentFile base disk input output config).Changes disk ↔
      ∃ result, runFile disk input config = .ok result ∧ isWritten output result = true ∧
        (disk.save (output.getD input) (Text.encode result.code)).2 = none ∧
        disk.file? (output.getD input).resolved ≠ some (Text.encode result.code) := by
  unfold Report.Changes
  cases ran : runFile disk input config with
  | error fault => simp [outdentFile_of_error ran, Report.failed]
  | ok result =>
    rw [outdentFile_of_ok ran]
    cases written : isWritten output result with
    | false => simp [Report.told, written]
    | true =>
      simp only [if_true, disk_writeResult, Disk.file?_save]
      constructor
      · rintro ⟨place, changed⟩
        by_cases here : place = (output.getD input).resolved ∧
            (disk.save (output.getD input) (Text.encode result.code)).2 = none
        · rw [if_pos here, here.1] at changed
          exact ⟨result, rfl, written, here.2, changed.symm⟩
        · rw [if_neg here] at changed
          exact absurd rfl changed
      · rintro ⟨_, same, _, saved, differs⟩
        obtain rfl := Except.ok.inj same
        refine ⟨(output.getD input).resolved, ?_⟩
        rw [if_pos ⟨rfl, saved⟩]
        exact differs.symm

/-- Without brackets in the paths, a result that is written and can be saved is the outcome. -/
theorem outcome_outdentFile_of_plain {result : Result}
    (ran : runFile disk input config = .ok result) (written : isWritten output result = true)
    (saved : (disk.save (output.getD input) (Text.encode result.code)).2 = none)
    (plain : ∀ text ∈ base :: (input ++ output.getD input), '[' ∉ text) :
    (outdentFile base disk input output config).outcome = .ok result := by
  have shown := shown?_writtenRecord (plain base List.mem_cons_self)
    (fun step among => plain step (List.mem_cons_of_mem _ (List.mem_append_left _ among)))
    (fun step among => plain step (List.mem_cons_of_mem _ (List.mem_append_right _ among)))
    result.outdented
  rw [outdentFile_of_ok ran, if_pos written, writeResult_eq, saved]
  exact if_pos shown

/-- Work that ends in a fault changes a file if and only if the code is written, and is not what was
there before. Then the fault is the markup of the record, which is shown after the file is written;
there is a bracket in a path, and nothing but the destination changed. -/
theorem changes_outdentFile_error {fault : OutdentFault}
    (stopped : (outdentFile base disk input output config).outcome = .error fault) :
    ((outdentFile base disk input output config).Changes disk ↔
      ∃ result, runFile disk input config = .ok result ∧ isWritten output result = true ∧
        (disk.save (output.getD input) (Text.encode result.code)).2 = none ∧
        disk.file? (output.getD input).resolved ≠ some (Text.encode result.code)) ∧
    ((outdentFile base disk input output config).Changes disk →
      fault = .markup ∧ (∃ text ∈ base :: (input ++ output.getD input), '[' ∈ text) ∧
        ∀ place, place ≠ (output.getD input).resolved →
          (outdentFile base disk input output config).disk.file? place = disk.file? place) := by
  refine ⟨changes_outdentFile_iff, fun changed => ?_⟩
  obtain ⟨result, ran, written, saved, _⟩ := changes_outdentFile_iff.mp changed
  refine ⟨?_, ?_, file?_outdentFile_of_ne base disk input output config⟩
  · rw [outdentFile_of_ok ran, if_pos written, writeResult_eq, saved] at stopped
    change (if _ then _ else _) = _ at stopped
    split at stopped
    · cases stopped
    · exact (Except.error.inj stopped).symm
  · by_contra plain
    have free : ∀ text ∈ base :: (input ++ output.getD input), '[' ∉ text :=
      fun text among inside => plain ⟨text, among, inside⟩
    have returned := outcome_outdentFile_of_plain ran written saved free
    rw [returned] at stopped
    cases stopped

end

/-- A path with a tag in it closes the style of paths before the record does, when the file is
written already. -/
theorem changes_outdentFile_error_tag :
    let input := Path.ofText "[/].py"
    let disk := Disk.ofFiles
      [(input, Text.encode "x = dedent(\"\"\"\n    a\n      b\n    \"\"\")\n"), (["other"], [])]
    let report := outdentFile "ROOT" disk input none (some {})
    report.outcome = .error .markup ∧ report.Changes disk ∧
      report.disk.file? input.resolved = some (Text.encode "x = \"\"\"a\n  b\"\"\"\n") ∧
      report.disk.file? ["other"] = some [] := by
  intro input disk report
  have stopped : report.outcome = .error .markup := by decide +kernel
  have after : report.disk.file? input.resolved =
      some (Text.encode "x = \"\"\"a\n  b\"\"\"\n") := by decide +kernel
  have before : disk.file? input.resolved ≠ some (Text.encode "x = \"\"\"a\n  b\"\"\"\n") := by
    decide +kernel
  have changed : report.Changes disk := ⟨input.resolved, after ▸ before.symm⟩
  obtain ⟨_, _, kept⟩ := (changes_outdentFile_error stopped).2 changed
  exact ⟨stopped, changed, after, (kept ["other"] (by decide +kernel)).trans (by decide +kernel)⟩

end Files

end Outdent
