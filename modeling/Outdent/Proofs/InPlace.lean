import Outdent.Proofs.Atomicity
import Outdent.Proofs.LineBreaks
import Outdent.Proofs.Rewritten
import Outdent.Proofs.Untouched

/-!
# Files that are rewritten in place

The text of a file falls into stretches, each of which is read as one piece of the source. A file is
read with its line breaks unified and without a byte order mark, so what is written back for a piece
that stays is its stretch with the line breaks unified. Main statements: `exists_stretches`, a text
falls into such stretches, and `outdentFile_in_place`, what is in a file afterwards, and when that is
what was there before with other text for the markers only.
-/
namespace Outdent

namespace Text

/-! ## Unified line breaks -/

/-- Text does not get longer when its line breaks are unified. -/
theorem length_unifyBreaks_le (text : Text) : (unifyBreaks text).length ≤ text.length := by
  fun_induction unifyBreaks text with
  | case1 => exact Nat.le_refl _
  | case2 rest ih =>
    simp only [List.length_cons]
    omega
  | case3 rest _ ih => exact Nat.succ_le_succ ih
  | case4 character rest _ _ ih => exact Nat.succ_le_succ ih

/-- Text with its line breaks unified is cut where the text can be cut. -/
theorem exists_append_of_unifyBreaks {text front behind : Text}
    (same : unifyBreaks text = front ++ behind) :
    ∃ left right, text = left ++ right ∧ unifyBreaks left = front ∧ unifyBreaks right = behind := by
  fun_induction unifyBreaks text generalizing front with
  | case1 =>
    obtain ⟨rfl, rfl⟩ := List.append_eq_nil_iff.mp same.symm
    exact ⟨[], [], rfl, rfl, rfl⟩
  | case2 rest ih =>
    cases front with
    | nil => exact ⟨[], '\r' :: '\n' :: rest, rfl, rfl, same⟩
    | cons first front =>
      obtain ⟨rfl, later⟩ := List.cons.inj same
      obtain ⟨left, right, rfl, rfl, rfl⟩ := ih later
      exact ⟨'\r' :: '\n' :: left, right, rfl, rfl, rfl⟩
  | case3 rest single ih =>
    cases front with
    | nil => exact ⟨[], '\r' :: rest, rfl, rfl, (unifyBreaks.eq_3 _ single).trans same⟩
    | cons first front =>
      obtain ⟨rfl, later⟩ := List.cons.inj same
      obtain ⟨left, right, rfl, rfl, rfl⟩ := ih later
      exact ⟨'\r' :: left, right, rfl,
        unifyBreaks.eq_3 _ fun others begins => single _ (by rw [begins]; rfl), rfl⟩
  | case4 character rest _ other ih =>
    have here : character ≠ '\r' := fun equal => other equal
    cases front with
    | nil => exact ⟨[], character :: rest, rfl, rfl, (unifyBreaks_cons here rest).trans same⟩
    | cons first front =>
      obtain ⟨rfl, later⟩ := List.cons.inj same
      obtain ⟨left, right, rfl, rfl, rfl⟩ := ih later
      exact ⟨character :: left, right, rfl, unifyBreaks_cons here left, rfl⟩

/-- Text with the same bytes is the same. -/
theorem encode_injective {first second : Text} (same : encode first = encode second) :
    first = second := by
  have read := congrArg decode? same
  rw [decode?_encode, decode?_encode] at read
  exact Option.some.inj read

end Text

open Text Source Marker

/-! ## Byte order marks -/

/-- The byte order mark that a text begins with, if there is one. -/
def byteMark (text : Text) : Text := if text.head? = some '\uFEFF' then ['\uFEFF'] else []

/-- A text is its byte order mark and what is behind it. -/
theorem byteMark_append (text : Text) : byteMark text ++ withoutByteMark text = text := by
  fun_cases withoutByteMark text with
  | case1 rest => rfl
  | case2 _ other =>
    have unmarked : text.head? ≠ some '\uFEFF' := fun begins => by
      obtain ⟨rest, same⟩ := List.head?_eq_some_iff.mp begins
      exact other rest same
    rw [byteMark, if_neg unmarked, List.nil_append]

/-- A byte order mark is no line break. -/
theorem withoutByteMark_unifyBreaks (text : Text) :
    withoutByteMark (unifyBreaks text) = unifyBreaks (withoutByteMark text) := by
  fun_cases unifyBreaks text with
  | case1 => rfl
  | case2 rest => rfl
  | case3 rest single => exact (unifyBreaks.eq_3 rest single).symm
  | case4 character rest _ other =>
    by_cases mark : character = '\uFEFF'
    · rw [mark]
      rfl
    · have stays : ∀ behind : Text,
          withoutByteMark (character :: behind) = character :: behind := fun behind => by
        rw [withoutByteMark]
        exact fun _ same => mark (List.cons.inj same).1
      rw [stays, stays, unifyBreaks_cons other]

/-! ## Stretches of a file -/

/-- A stretch of a file, which is read as a piece of the source. -/
structure Stretch where
  /-- The text of the file. -/
  text : Text
  /-- The piece of the source. -/
  piece : Piece
  /-- The piece is the text with its line breaks unified. -/
  reads : unifyBreaks text = piece.before

namespace Stretch

/-- The text of a stretch that has another text only if it is a marker. -/
def replaced (config : Config) (stretch : Stretch) : Text :=
  match stretch.piece with
  | .kept _ => stretch.text
  | .marker _ => stretch.piece.after config

/-- A stretch that is no marker has its text. -/
theorem replaced_of_kept (config : Config) {stretch : Stretch}
    (kept : stretch.piece.marker? = none) : stretch.replaced config = stretch.text := by
  unfold replaced
  split
  · rfl
  · rename_i marker
    simp [marker, Piece.marker?] at kept

/-- What is written back for a stretch is not longer than what stands there apart from markers. -/
theorem length_after_le (config : Config) (stretch : Stretch) :
    (stretch.piece.after config).length ≤ (stretch.replaced config).length := by
  obtain ⟨text, piece, reads⟩ := stretch
  cases piece with
  | kept kept =>
    have same : unifyBreaks text = kept := reads
    exact same ▸ length_unifyBreaks_le text
  | marker tree => exact Nat.le_refl _

/-- What is written back for a stretch is what stands there apart from markers, if it holds no
carriage return that stays. -/
theorem replaced_eq_after_iff (config : Config) (stretch : Stretch) :
    stretch.replaced config = stretch.piece.after config ↔
      (stretch.piece.marker? = none → '\r' ∉ stretch.text) := by
  obtain ⟨text, piece, reads⟩ := stretch
  cases piece with
  | kept kept =>
    have same : unifyBreaks text = kept := reads
    change text = kept ↔ (Piece.marker? (.kept kept) = none → '\r' ∉ text)
    rw [← same, eq_comm, unifyBreaks_eq_self_iff]
    exact ⟨fun free _ => free, fun free => free rfl⟩
  | marker tree => exact ⟨fun _ none => by simp [Piece.marker?] at none, fun _ => rfl⟩

end Stretch

/-- A text that is read as pieces falls into stretches, one for each. -/
theorem exists_stretches {pieces : List Piece} {text : Text}
    (reads : unifyBreaks text = pieces.flatMap Piece.before) :
    ∃ stretches : List Stretch, stretches.map Stretch.piece = pieces ∧
      stretches.flatMap Stretch.text = text := by
  induction pieces generalizing text with
  | nil => exact ⟨[], rfl, (eq_nil_of_unifyBreaks reads).symm⟩
  | cons piece pieces ih =>
    obtain ⟨front, behind, rfl, here, there⟩ := exists_append_of_unifyBreaks reads
    obtain ⟨stretches, rfl, rfl⟩ := ih there
    exact ⟨⟨front, piece, here⟩ :: stretches, rfl, rfl⟩

/-- What is written back is not longer than what stands there apart from markers. -/
theorem length_flatMap_after_le (config : Config) (stretches : List Stretch) :
    (stretches.flatMap (·.piece.after config)).length ≤
      (stretches.flatMap (·.replaced config)).length := by
  induction stretches with
  | nil => exact Nat.le_refl _
  | cons stretch stretches ih =>
    have here := stretch.length_after_le config
    simp only [List.flatMap_cons, List.length_append]
    omega

/-- What is written back is what stands there apart from markers, if that is so for each stretch. -/
theorem flatMap_replaced_eq_iff (config : Config) (mark : Text) (stretches : List Stretch) :
    mark ++ stretches.flatMap (·.replaced config) = stretches.flatMap (·.piece.after config) ↔
      mark = [] ∧ ∀ stretch ∈ stretches, stretch.replaced config = stretch.piece.after config := by
  constructor
  · intro same
    -- Nothing gets longer, so that no length can differ.
    have bound := length_flatMap_after_le config stretches
    have lengths := congrArg List.length same
    rw [List.length_append] at lengths
    obtain rfl : mark = [] := List.eq_nil_of_length_eq_zero (by omega)
    refine ⟨rfl, ?_⟩
    induction stretches with
    | nil => simp
    | cons stretch stretches ih =>
      have here := stretch.length_after_le config
      have there := length_flatMap_after_le config stretches
      simp only [List.nil_append, List.flatMap_cons, List.length_append] at same lengths
      obtain ⟨first, others⟩ := List.append_inj same (by omega)
      rw [List.forall_mem_cons]
      exact ⟨first, ih there others (by simpa using congrArg List.length others)⟩
  · rintro ⟨rfl, each⟩
    rw [List.nil_append]
    exact List.flatMap_congr each

/-! ## Files -/

namespace Marker

/-- A marker is rewritten in a tree exactly if an outermost one is. -/
theorem outermost_eq_nil_iff (config : Config) (tree : Tree) :
    outermost config tree = [] ↔ rewrittenIn config tree = [] := by
  rw [rewrittenIn_eq_flatMap, List.flatMap_eq_nil_iff]
  constructor
  · intro none
    simp [none]
  · intro each
    refine List.eq_nil_iff_forall_not_mem.mpr fun marker member => ?_
    have rewritten := (divides_pieces tree).rewritten marker member
    have inside : marker ∈ rewrittenIn config marker :=
      List.mem_filter.mpr ⟨Tree.mem_subtrees_self marker, rewritten⟩
    rw [each marker member] at inside
    cases inside

end Marker

namespace Files

/-- The file that is read is the one at the place of the path. -/
theorem file?_of_read {disk : Disk} {path : Path} {bytes : List UInt8}
    (read : disk.read path = .ok bytes) : disk.file? path.resolved = some bytes := by
  unfold Disk.read at read
  split at read
  · cases read
  · rename_i place followed
    obtain rfl : place = path.resolved := Disk.follow_eq followed
    split at read
    · cases read
    · cases read
    · rename_i found
      obtain rfl := Except.ok.inj read
      simp [Disk.file?, found, Entry.bytes?]

/-- A result over a file is that of a run over its text, with unified line breaks. -/
theorem run_of_runFile {disk : Disk} {input : Path} {config : Option Config} {result : Result}
    (ran : runFile disk input config = .ok result) :
    ∃ settings text, configFor disk input config = .ok settings ∧
      disk.file? input.resolved = some (encode text) ∧
        run settings (unifyBreaks text) = .ok result := by
  unfold runFile at ran
  cases configured : configFor disk input config with
  | error fault => simp [configured, bind, Except.bind] at ran
  | ok settings =>
    unfold readCode at ran
    cases read : disk.read input with
    | error fault => simp [configured, read, bind, Except.bind] at ran
    | ok bytes =>
      cases decoded : decode? bytes with
      | none => simp [configured, read, decoded, bind, Except.bind] at ran
      | some text =>
        simp only [configured, read, decoded, bind, Except.bind] at ran
        refine ⟨settings, text, rfl, ?_, ?_⟩
        · rw [file?_of_read read, decode?_eq_some_iff.mp decoded]
        · cases found : run settings (unifyBreaks text) with
          | error fault => simp [found, Except.mapError] at ran
          | ok other => simpa [found, Except.mapError] using ran

/-- A run writes a file in place exactly if a marker is rewritten, and then it writes the pieces. -/
theorem isWritten_of_run {config : Config} {code : Text} {tree : Tree} {result : Result}
    (parsed : parse? code = some tree) (ran : run config code = .ok result) :
    isWritten none result = !(outermost config tree).isEmpty ∧
      result.code = (pieces config tree).flatMap (Piece.after config) := by
  obtain rfl := result_of_run parsed ran
  refine ⟨?_, (divides_pieces tree).after.symm⟩
  have counted := outermost_eq_nil_iff config tree
  rw [← List.length_eq_zero_iff, ← List.length_eq_zero_iff] at counted
  rw [Bool.eq_iff_iff]
  simp only [isWritten, Result.changed, Option.isSome_none, Bool.false_or, Bool.true_and,
    decide_eq_true_eq, Bool.not_eq_true', List.isEmpty_eq_false_iff, ne_eq,
    ← List.length_eq_zero_iff, counted, rewrittenIn]
  omega

/-- What is in a file that is rewritten in place. Its text falls into stretches, each read as a piece
of the source, behind a byte order mark or none. Without a marker that is rewritten the file is as
it was. Otherwise the pieces are written back with what the markers are rewritten to: the file is
what it was, with other text for the markers only, exactly if it has no byte order mark and no
stretch that stays holds a carriage return. -/
theorem outdentFile_in_place {base : Text} {disk : Disk} {input : Path} {config : Option Config}
    {text : Text} {tree : Tree} {result : Result}
    (held : disk.file? input.resolved = some (encode text))
    (parsed : parse? (unifyBreaks text) = some tree)
    (returned : (outdentFile base disk input none config).outcome = .ok result) :
    ∃ settings, configFor disk input config = .ok settings ∧ ∃ stretches : List Stretch,
      stretches.map Stretch.piece = pieces settings tree ∧
      byteMark text ++ stretches.flatMap Stretch.text = text ∧
      (outdentFile base disk input none config).disk.file? input.resolved =
        some (encode (if (outermost settings tree).isEmpty then text
          else stretches.flatMap (·.piece.after settings))) ∧
      ((outdentFile base disk input none config).disk.file? input.resolved =
          some (encode (byteMark text ++ stretches.flatMap (·.replaced settings))) ↔
        outermost settings tree = [] ∨ byteMark text = [] ∧
          ∀ stretch ∈ stretches, stretch.piece.marker? = none → '\r' ∉ stretch.text) := by
  obtain ⟨ran, files⟩ := file?_outdentFile_of_ok returned
  obtain ⟨settings, other, configured, holds, run⟩ := run_of_runFile ran
  obtain rfl : other = text := encode_injective (Option.some.inj (holds.symm.trans held))
  have divides := @divides_pieces settings tree
  have reads : unifyBreaks (withoutByteMark other) =
      (pieces settings tree).flatMap Piece.before := by
    rw [divides.before, written_of_parse? parsed, withoutByteMark_unifyBreaks]
  obtain ⟨stretches, same, whole⟩ := exists_stretches reads
  have text : byteMark other ++ stretches.flatMap Stretch.text = other := by
    rw [whole, byteMark_append]
  obtain ⟨writes, code⟩ := isWritten_of_run parsed run
  have written : result.code = stretches.flatMap (·.piece.after settings) := by
    rw [code, ← same, List.flatMap_map]
  have after : (outdentFile base disk input none config).disk.file? input.resolved =
      some (encode (if (outermost settings tree).isEmpty then other
        else stretches.flatMap (·.piece.after settings))) := by
    rw [files, writes, ← written]
    cases (outermost settings tree).isEmpty <;> simp [held]
  refine ⟨settings, configured, stretches, same, text, after, ?_⟩
  rw [after, Option.some.injEq]
  by_cases none : outermost settings tree = []
  · -- All stretches stay, and nothing is written.
    have each : ∀ stretch ∈ stretches, stretch.piece.marker? = .none := by
      rwa [outermost, ← same, List.filterMap_map, List.filterMap_eq_nil_iff] at none
    have kept : stretches.flatMap (·.replaced settings) = stretches.flatMap Stretch.text :=
      List.flatMap_congr fun stretch among => Stretch.replaced_of_kept settings (each stretch among)
    rw [kept, text, none]
    exact ⟨fun _ => Or.inl rfl, fun _ => rfl⟩
  · have filled : (outermost settings tree).isEmpty = false := List.isEmpty_eq_false_iff.mpr none
    have pointwise := flatMap_replaced_eq_iff settings (byteMark other) stretches
    simp only [Stretch.replaced_eq_after_iff] at pointwise
    rw [filled, or_iff_right none, ← pointwise]
    exact ⟨fun bytes => (encode_injective bytes).symm, fun same => congrArg encode same.symm⟩

/-- A source with a byte order mark and line breaks of two characters. -/
def markedSource : Text := "\uFEFFx = dedent('a')\r\ny = 1\r\n"

/-- A folder with such a source. -/
def markedDisk : Disk := Disk.ofFiles [(["mod.py"], encode markedSource)]

/-- The byte order mark and the carriage return of a file are not written back. -/
theorem outdentFile_in_place_marked :
    (outdentFile "ROOT" markedDisk ["mod.py"] none (some {})).disk.file? (Path.resolved ["mod.py"]) =
        some (encode "x = 'a'\ny = 1\n") ∧
      ∃ stretches : List Stretch,
        byteMark markedSource ++ stretches.flatMap Stretch.text = markedSource ∧
        (outdentFile "ROOT" markedDisk ["mod.py"] none (some {})).disk.file?
            (Path.resolved ["mod.py"]) ≠
          some (encode (byteMark markedSource ++ stretches.flatMap (·.replaced {}))) := by
  have held : markedDisk.file? (Path.resolved ["mod.py"]) = some (encode markedSource) := by
    decide +kernel
  have marked : byteMark markedSource ≠ [] := by decide +kernel
  have differs : encode "x = 'a'\ny = 1\n" ≠ encode markedSource := by decide +kernel
  have plain : ∀ text ∈ "ROOT".toList :: ["mod.py".toList, "mod.py".toList], '[' ∉ text := by decide
  have after : (outdentFile "ROOT" markedDisk ["mod.py"] none (some {})).disk.file?
      (Path.resolved ["mod.py"]) = some (encode "x = 'a'\ny = 1\n") := by
    decide +kernel
  have found : ((runFile markedDisk ["mod.py"] (some {})).toOption.any fun result =>
      isWritten none result && (markedDisk.save ["mod.py"] (encode result.code)).2 == none &&
        (parse? (unifyBreaks markedSource)).isSome) = true := by
    decide +kernel
  cases ran : runFile markedDisk ["mod.py"] (some {}) with
  | error fault =>
    rw [ran] at found
    cases found
  | ok result =>
    rw [ran] at found
    simp only [Except.toOption, Option.any_some, Bool.and_eq_true, beq_iff_eq] at found
    obtain ⟨⟨written, saved⟩, parsed⟩ := found
    obtain ⟨tree, parsed⟩ := Option.isSome_iff_exists.mp parsed
    have returned := outcome_outdentFile_of_plain ran written saved plain
    obtain ⟨settings, configured, stretches, _, whole, wrote, exactly⟩ :=
      outdentFile_in_place held parsed returned
    obtain rfl : {} = settings := Except.ok.inj configured
    refine ⟨after, stretches, whole, fun same => ?_⟩
    obtain none | ⟨unmarked, _⟩ := exactly.mp same
    · rw [none, List.isEmpty_nil, if_pos rfl, after] at wrote
      exact differs (Option.some.inj wrote)
    · exact marked unmarked

end Files

end Outdent
