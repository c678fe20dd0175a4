import Outdent.Proofs.InPlace

/-!
# What work on a file writes

Work on a file writes one place, its destination, and only what a run over the text of the file
comes to. Nothing is written for a file that cannot be read or is no text, for a run that fails, or
in place of a file without markers. Main statements: `runFile_eq_ok_iff`, a file has the result of
the run over its text, and `outdentFile_destination`, what is on the disk after work on a file,
whatever comes of it.
-/
namespace Outdent.Files

open Text Marker

section

variable {disk : Disk} {input : Path} {config : Option Config}

/-- A path can be read and holds a text, and a result is that of the run over this text with unified
line breaks. -/
def HasResult (disk : Disk) (input : Path) (config : Option Config) (result : Result) : Prop :=
  ∃ settings text, configFor disk input config = .ok settings ∧
    disk.read input = .ok (encode text) ∧ run settings (unifyBreaks text) = .ok result

/-- The code of a file is the text that its bytes write, with unified line breaks. -/
theorem readCode_eq_ok_iff {code : Text} :
    readCode disk input = .ok code ↔
      ∃ text, disk.read input = .ok (encode text) ∧ unifyBreaks text = code := by
  unfold readCode
  cases read : disk.read input with
  | error fault => simp
  | ok bytes =>
    cases decoded : decode? bytes with
    | none =>
      have undecodable : ∀ text, bytes ≠ encode text := fun text same => by
        rw [decode?_eq_some_iff.mpr same] at decoded
        cases decoded
      simp [decoded, undecodable]
    | some text =>
      obtain rfl := decode?_eq_some_iff.mp decoded
      simp only [decoded, Except.ok.injEq]
      constructor
      · intro same
        exact ⟨text, rfl, same⟩
      · rintro ⟨other, same, rfl⟩
        rw [encode_injective same]

/-- A file has the result of the run over its text. -/
theorem runFile_eq_ok_iff {result : Result} :
    runFile disk input config = .ok result ↔ HasResult disk input config result := by
  unfold runFile HasResult
  cases configured : configFor disk input config with
  | error fault => simp [bind, Except.bind]
  | ok settings =>
    have told : ∀ code, (run settings code).mapError OutdentFault.run = .ok result ↔
        run settings code = .ok result := fun code => by
      cases run settings code <;> simp [Except.mapError]
    cases coded : readCode disk input with
    | error fault =>
      have unread : ∀ text, disk.read input ≠ .ok (encode text) := fun text read => by
        rw [readCode_eq_ok_iff.mpr ⟨text, read, rfl⟩] at coded
        cases coded
      simp [bind, Except.bind, unread]
    | ok code =>
      obtain ⟨text, read, rfl⟩ := readCode_eq_ok_iff.mp coded
      simp only [bind, Except.bind, told, read, Except.ok.injEq]
      constructor
      · intro ran
        exact ⟨settings, text, rfl, rfl, ran⟩
      · rintro ⟨_, other, rfl, same, ran⟩
        rw [encode_injective same]
        exact ran

/-- The code of a result is written if the source could be read, and there is an output or a
template was outdented. -/
theorem isWritten_iff {output : Option Path} {result : Result} :
    isWritten output result = true ↔
      result.success = true ∧ (output.isSome = true ∨ 0 < result.outdented) := by
  simp only [isWritten, Result.changed, Bool.and_eq_true, Bool.or_eq_true, decide_eq_true_eq]

/-- The disk after work on a file that has a result: the code is saved, or nothing is done. -/
theorem disk_outdentFile {result : Result} (ran : runFile disk input config = .ok result)
    (base : Text) (output : Option Path) :
    (outdentFile base disk input output config).disk =
      if isWritten output result then (disk.save (output.getD input) (encode result.code)).1
      else disk := by
  rw [outdentFile_of_ok ran]
  split
  · exact disk_writeResult ..
  · rfl

end

/-- What is on the disk after work on a file. Whatever comes of the work, no file but the
destination is another one than before, and the disk is as it was unless a result is written; what
the destination holds is then what it held or the code of the result. If the work comes to a result,
that is the one of the run over the text of the file, and the destination holds its code if it is
written; otherwise the disk is as it was. -/
theorem outdentFile_destination (base : Text) (disk : Disk) (input : Path) (output : Option Path)
    (config : Option Config) :
    let report := outdentFile base disk input output config
    let destination := (output.getD input).resolved
    (∀ place, place ≠ destination → report.disk.file? place = disk.file? place) ∧
      (report.disk = disk ∨ ∃ result, HasResult disk input config result ∧
        (result.success = true ∧ (output.isSome = true ∨ 0 < result.outdented)) ∧
          (report.disk.file? destination = disk.file? destination ∨
            report.disk.file? destination = some (encode result.code))) ∧
      ∀ result, report.outcome = .ok result → HasResult disk input config result ∧
        if result.success = true ∧ (output.isSome = true ∨ 0 < result.outdented) then
          report.disk.file? destination = some (encode result.code)
        else report.disk = disk := by
  intro report destination
  refine ⟨file?_outdentFile_of_ne base disk input output config, ?_, fun result returned => ?_⟩
  -- The outcome does not tell what an error left behind, so the cases are those of the run.
  · cases ran : runFile disk input config with
    | error fault => exact Or.inl (congrArg Report.disk (outdentFile_of_error ran))
    | ok result =>
      have after := disk_outdentFile ran base output
      by_cases written : isWritten output result = true
      · rw [if_pos written] at after
        refine Or.inr ⟨result, runFile_eq_ok_iff.mp ran, isWritten_iff.mp written, ?_⟩
        rw [show report.disk = _ from after, Disk.file?_save]
        split
        · exact Or.inr rfl
        · exact Or.inl rfl
      · rw [if_neg written] at after
        exact Or.inl after
  · obtain ⟨ran, files⟩ := file?_outdentFile_of_ok returned
    refine ⟨runFile_eq_ok_iff.mp ran, ?_⟩
    split <;> rename_i due <;> rw [← isWritten_iff] at due
    · rw [files, if_pos ⟨due, rfl⟩]
    · exact (disk_outdentFile ran base output).trans (if_neg due)

/-- A folder with a source, whose marker is the one that the project names. -/
def projectDisk : Disk :=
  Disk.ofFiles [(["a", "mod.py"].map String.toList, encode "x = md('a')\n"),
    (["pyproject.toml".toList], encode "[tool.dedentify]\ntag_name = 'md'\n")]

/-- An output in a folder that is missing, behind a detour: it holds the code, and the source
stays. -/
theorem outdentFile_destination_output :
    let input : Path := ["a", "mod.py"].map String.toList
    let output : Path := ["b", "..", "c", "out.py"].map String.toList
    let report := outdentFile "ROOT" projectDisk input (some output) none
    ∃ result, report.outcome = .ok result ∧ HasResult projectDisk input none result ∧
      report.disk.file? ["c".toList, "out.py".toList] = some (encode "x = 'a'\n") ∧
      report.disk.file? input = some (encode "x = md('a')\n") := by
  intro input output report
  have place : output.resolved = ["c".toList, "out.py".toList] := by decide +kernel
  have differs : input ≠ output.resolved := by decide +kernel
  have plain : ∀ text ∈ "ROOT".toList :: (input ++ output), '[' ∉ text := by decide
  have found : ((runFile projectDisk input none).toOption.any fun result =>
      isWritten (some output) result && result.code == "x = 'a'\n".toList &&
        (projectDisk.save output (encode result.code)).2 == none) = true := by
    decide +kernel
  cases ran : runFile projectDisk input none with
  | error fault =>
    rw [ran] at found
    cases found
  | ok result =>
    rw [ran] at found
    simp only [Except.toOption, Option.any_some, Bool.and_eq_true, beq_iff_eq] at found
    obtain ⟨⟨written, code⟩, saved⟩ := found
    have returned : report.outcome = .ok result :=
      outcome_outdentFile_of_plain ran written saved plain
    obtain ⟨others, _, told⟩ := outdentFile_destination "ROOT" projectDisk input (some output) none
    obtain ⟨same, holds⟩ := told result returned
    rw [if_pos (isWritten_iff.mp written), code] at holds
    refine ⟨result, returned, same, place ▸ holds, (others input differs).trans ?_⟩
    decide +kernel

end Outdent.Files
