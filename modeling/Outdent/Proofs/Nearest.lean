import Outdent.Proofs.Overrides

/-!
# The nearest settings file

A project has the configuration of the options in the settings file that is nearest to its folder,
with the options that are given beside it. Nothing else on the disk matters, and a settings file
never gives the test of candidates. Main statements: `nearestSettings?_eq_some_iff`, what the
nearest settings file is, `ofProject_of_table`, its options are used, and `ofProject_nearest`, all of
this together.
-/
namespace Outdent

open Marker Files Entries

/-! ## Where the nearest settings file is -/

/-- A settings file lies so many steps above a place, and none on the way there. -/
structure IsNearest (disk : Disk) (place : Path) (steps : Nat) (bytes : List UInt8) : Prop where
  /-- The file is there. -/
  settings : settingsFile? disk (place.above steps) = some bytes
  /-- There is none that is nearer. -/
  closer : ∀ fewer < steps, settingsFile? disk (place.above fewer) = none

/-- A settings file lies no farther above a place than paths are long. -/
theorem le_of_settingsFile? {disk : Disk} {place : Path} {steps : Nat} {bytes : List UInt8}
    (found : settingsFile? disk (place.above steps) = some bytes) :
    steps ≤ place.length + disk.depth := by
  by_contra far
  have length := place.le_length_above steps
  have deep : disk.depth < (place.above steps ++ [settingsName]).length := by
    rw [List.length_append, List.length_singleton]
    omega
  rw [settingsFile?, Disk.file?_eq_none_of_depth deep] at found
  cases found

/-- The first of the places around a place for which something is found. -/
theorem Files.Path.findSome?_around_eq_some_iff {α : Type} (look : Path → Option α) (place : Path)
    (steps : Nat) (found : α) :
    (place.around steps).findSome? look = some found ↔
      ∃ near ≤ steps, look (place.above near) = some found ∧
        ∀ fewer < near, look (place.above fewer) = none := by
  rw [Path.around]
  induction steps with
  | zero => simp
  | succ steps ih =>
    rw [List.range_succ, List.map_append, List.findSome?_append, Option.or_eq_some_iff, ih,
      List.findSome?_eq_none_iff]
    constructor
    · rintro (⟨near, bound, there, free⟩ | ⟨free, there⟩)
      · exact ⟨near, by omega, there, free⟩
      · refine ⟨steps + 1, Nat.le_refl _, by simpa using there, fun fewer less => ?_⟩
        exact free _ (List.mem_map.mpr ⟨fewer, List.mem_range.mpr less, rfl⟩)
    · rintro ⟨near, bound, there, free⟩
      by_cases last : near = steps + 1
      · subst last
        refine Or.inr ⟨fun folder member => ?_, by simpa using there⟩
        obtain ⟨fewer, less, rfl⟩ := List.mem_map.mp member
        exact free fewer (List.mem_range.mp less)
      · exact Or.inl ⟨near, by omega, there, free⟩

/-- The search finds the nearest settings file. -/
theorem nearestSettings?_eq_some_iff (disk : Disk) (place : Path) (bytes : List UInt8) :
    nearestSettings? disk place = some bytes ↔ ∃ steps, IsNearest disk place steps bytes := by
  rw [nearestSettings?, Path.findSome?_around_eq_some_iff]
  constructor
  · rintro ⟨steps, _, there, free⟩
    exact ⟨steps, there, free⟩
  · rintro ⟨steps, there, free⟩
    exact ⟨steps, le_of_settingsFile? there, there, free⟩

/-- The search finds no settings file if there is none above the place. -/
theorem nearestSettings?_eq_none_iff (disk : Disk) (place : Path) :
    nearestSettings? disk place = none ↔
      ∀ steps, settingsFile? disk (place.above steps) = none := by
  rw [nearestSettings?, List.findSome?_eq_none_iff]
  constructor
  · intro absent steps
    by_contra there
    obtain ⟨bytes, found⟩ := Option.ne_none_iff_exists'.mp there
    have near := le_of_settingsFile? found
    have looked : place.above steps ∈ place.around (place.length + disk.depth) :=
      List.mem_map.mpr ⟨steps, List.mem_range.mpr (by omega), rfl⟩
    exact there (absent _ looked)
  · intro absent folder member
    obtain ⟨steps, _, rfl⟩ := List.mem_map.mp member
    exact absent steps

/-! ## What a settings file gives -/

/-- The table of a name, which is empty if it is missing. -/
def Entries.table? (entries : Entries) (name : Text) : Option Entries :=
  match entries.lookup? name with
  | none => some []
  | some (.table inner) => some inner
  | some _ => none

/-- A table is missing and empty, or it is there. -/
theorem Entries.table?_eq_some_iff (entries : Entries) (name : Text) (inner : Entries) :
    entries.table? name = some inner ↔
      (entries.lookup? name = none ∧ inner = []) ∨ entries.lookup? name = some (.table inner) := by
  unfold table?
  cases entries.lookup? name with
  | none => simp [eq_comm]
  | some value => cases value <;> simp

/-- The table for options in a settings file that can be read. -/
def settingsTable? (bytes : List UInt8) : Option Entries := do
  let text ← Text.decode? bytes
  let settings ← Toml.parse? text
  let tools ← settings.table? "tool"
  tools.table? "dedentify"

/-- The options that a table gives: all but the test of candidates. -/
def settingsOptions (table : Entries) : Entries :=
  (ofPairs table).without [Setting.shouldDedent.snake, Setting.shouldDedent.camel]

/-- The names and values of a table as pairs. -/
def tablePairs (table : Entries) : List (Value × Value) :=
  table.map fun (name, value) => (.text name, value)

/-- The pairs for options are those of the table for them. -/
theorem optionPairs_of_table {settings tools table : Entries}
    (outer : settings.table? "tool" = some tools) (inner : tools.table? "dedentify" = some table) :
    optionPairs settings = .ok (tablePairs table) := by
  rw [Entries.table?_eq_some_iff] at outer inner
  unfold optionPairs
  obtain ⟨missing, rfl⟩ | there := outer
  · rw [missing]
    obtain ⟨_, rfl⟩ | there := inner
    · rfl
    · cases there
  · rw [there]
    obtain ⟨missing, rfl⟩ | there := inner
    · simp only [missing]
      rfl
    · simp only [there]
      rfl

/-- A settings file that can be read gives the pairs of its table for options. -/
theorem projectPairs_of_table {disk : Disk} {place : Path} {bytes : List UInt8} {table : Entries}
    (nearest : nearestSettings? disk place = some bytes)
    (read : settingsTable? bytes = some table) :
    projectPairs disk place = .ok (tablePairs table) := by
  simp only [settingsTable?, Option.bind_eq_bind, Option.bind_eq_some_iff] at read
  obtain ⟨text, decoded, settings, parsed, tools, outer, inner⟩ := read
  simp only [projectPairs, nearest, decoded, parsed, optionPairs_of_table outer inner]

/-- The options of a settings file are those that its table for options gives. -/
theorem projectEntries_tablePairs (table : Entries) :
    projectEntries (tablePairs table) = settingsOptions table := by
  rw [projectEntries, textPairs, tablePairs, List.filterMap_map]
  exact congrArg (fun pairs => (ofPairs pairs).without _) (List.filterMap_some)

/-- In a table all names are texts. -/
theorem namedByTexts_tablePairs (table : Entries) : NamedByTexts (tablePairs table) :=
  List.forall_mem_map.mpr fun entry _ => ⟨entry.1, rfl⟩

/-! ## Fewer options -/

/-- An option that is left out, or given as before, comes to something if it did before. -/
theorem Setting.exists_checked {α : Type} {setting : Setting} {entries others : Entries}
    {default : α} {check : Value → Except Complaint α}
    (given : setting.given? entries = none ∨ setting.given? entries = setting.given? others)
    {value : α} (fine : setting.checked others default check = .ok value) :
    ∃ value, setting.checked entries default check = .ok value := by
  unfold checked at fine ⊢
  obtain absent | same := given
  · exact ⟨default, by rw [absent]⟩
  · exact ⟨value, by rw [same, fine]⟩

/-- Names of markers that are left out, or given as before, come to something if they did before. -/
theorem exists_namesOf {entries others : Entries}
    (given : Setting.tagName.given? entries = none ∨
      Setting.tagName.given? entries = Setting.tagName.given? others)
    {names : List Text} (fine : namesOf others = .ok (.ok names)) :
    ∃ names, namesOf entries = .ok (.ok names) := by
  unfold namesOf at fine ⊢
  obtain absent | same := given
  · exact ⟨["dedent".toList], by rw [absent]⟩
  · exact ⟨names, by rw [same, fine]⟩

namespace Marker.Config

/-- If some of the options of a configuration are left out, a configuration is made of the others.
-/
theorem exists_ofEntries {entries others : Entries} {config : Config}
    (made : ofEntries others = .ok config)
    (given : ∀ setting : Setting, setting.given? entries = none ∨
      setting.given? entries = setting.given? others)
    (known : unknownNames others = [] → unknownNames entries = []) :
    ∃ fewer, ofEntries entries = .ok fewer := by
  obtain ⟨names, keeps, left, right, test, unknown⟩ := (ofEntries_eq_ok_iff others config).mp made
  obtain ⟨names, named⟩ := exists_namesOf (given .tagName) names
  obtain ⟨keeps, kept⟩ := Setting.exists_checked (given .keepFunctionCall) keeps
  obtain ⟨left, atLeft⟩ := Setting.exists_checked (given .trimLeft) left
  obtain ⟨right, atRight⟩ := Setting.exists_checked (given .trimRight) right
  obtain ⟨test, tested⟩ := Setting.exists_checked (given .shouldDedent) test
  exact ⟨⟨names, keeps, ⟨left, right⟩, test, .words⟩, (ofEntries_eq_ok_iff entries _).mpr
    ⟨named, kept, atLeft, atRight, tested, known unknown.1, rfl⟩⟩

/-- The test of a configuration is that of the option for it. -/
theorem predicate_congr {entries others : Entries} {config other : Config}
    (made : ofEntries entries = .ok config) (more : ofEntries others = .ok other)
    (given : Setting.shouldDedent.given? entries = Setting.shouldDedent.given? others) :
    config.predicate = other.predicate := by
  obtain ⟨_, _, _, _, first, _⟩ := (ofEntries_eq_ok_iff entries config).mp made
  obtain ⟨_, _, _, _, second, _⟩ := (ofEntries_eq_ok_iff others other).mp more
  rw [Setting.checked, given] at first
  rw [Setting.checked] at second
  exact Except.ok.inj (first.symm.trans second)

/-- A configuration of a project is made of the options in its settings file and of those beside it.
-/
theorem exists_pairs_of_ofProject {disk : Disk} {folder : Path} {entries : Entries}
    {config : Config} (made : ofProject disk folder entries = .ok config) :
    ∃ pairs, ofEntries ((projectEntries pairs).renamed.putAll entries.explicit) = .ok config := by
  unfold ofProject at made
  split at made
  · cases made
  · rename_i pairs _
    refine ⟨pairs, ?_⟩
    have merged : ofEntriesBeside ((projectEntries pairs).renamed.putAll entries.explicit)
        (strangeNames pairs entries.explicit) = .ok config := by
      cases beside : ofEntriesBeside _ (strangeNames pairs entries.explicit) with
      | ok other => rw [beside] at made; exact congrArg _ (Except.ok.inj made)
      | error fault => rw [beside] at made; cases made
    -- Nothing is complained of, so all names are texts.
    have fine : strangeNames pairs entries.explicit = [] :=
      ((ofEntriesBeside_eq_ok_iff _ _ config).mp merged).2.2.2.2.2.1
    rw [ofEntries, ← strangeNames_of_texts (namedByTexts_of_strangeNames fine)
      (nodup_names_explicit entries) (camel_not_mem_putAll _ entries)]
    exact merged

end Marker.Config

/-- No option for a test is read from a settings file. -/
theorem lookup?_renamed_projectEntries (pairs : List (Value × Value)) :
    (projectEntries pairs).renamed.lookup? Setting.shouldDedent.snake = none := by
  rw [lookup?_renamed, lastFor?_eq_none_iff, List.mem_map]
  rintro ⟨pair, member, same⟩
  have left := (List.mem_filter.mp member).2
  obtain snake | camel := (snakeName_eq_snake_iff pair.1 .shouldDedent).mp same
  · rw [snake] at left
    revert left
    decide
  · rw [camel] at left
    revert left
    decide

/-- Without options besides, further options are used in one spelling. -/
theorem Marker.Config.ofOptions_nil_left (further : Entries) :
    ofOptions [] further = ofEntries further.renamed :=
  congrArg ofEntries (ofPairs_of_nodup (nodup_names_ofPairs _))

namespace Marker.Config

/-! ## Options of a project -/

variable {disk : Disk} {folder : Path} {entries : Entries}

/-- A project has the configuration of the options in the nearest settings file and those beside
it. -/
theorem ofProject_of_table {bytes : List UInt8} {table : Entries}
    (valued : ∀ entry ∈ entries, entry.2.isNothing = false)
    (nearest : nearestSettings? disk folder.resolved = some bytes)
    (read : settingsTable? bytes = some table) :
    ofProject disk folder entries =
      (ofOptions (settingsOptions table) entries).mapError .options := by
  rw [ofProject_of_pairs (projectPairs_of_table nearest read) (namedByTexts_tablePairs table),
    projectEntries_tablePairs, explicit_of_valued valued]
  rfl

/-- Where there is no settings file, only the options beside it are used. -/
theorem ofProject_of_nowhere (valued : ∀ entry ∈ entries, entry.2.isNothing = false)
    (nowhere : nearestSettings? disk folder.resolved = none) :
    ofProject disk folder entries = (ofOptions [] entries).mapError .options := by
  rw [ofProject_of_pairs (projectPairs_of_none nowhere) nofun,
    explicit_of_valued valued]
  rfl

/-- Only the nearest settings file matters. -/
theorem ofProject_congr {other : Disk}
    (same : nearestSettings? other folder.resolved = nearestSettings? disk folder.resolved)
    (entries : Entries) : ofProject other folder entries = ofProject disk folder entries := by
  simp only [ofProject, projectPairs, same]

/-- The test of a project is the one that is given beside its settings file. -/
theorem predicate_of_ofProject {config : Config}
    (valued : ∀ entry ∈ entries, entry.2.isNothing = false)
    (made : ofProject disk folder entries = .ok config) :
    ∃ alone, ofOptions [] entries = .ok alone ∧ config.predicate = alone.predicate := by
  obtain ⟨pairs, merged⟩ := exists_pairs_of_ofProject made
  have there : ∀ setting : Setting, setting.given? entries.renamed =
      (entries.renamed.lookup? setting.snake).map fun value => (setting.snake, value) :=
    fun setting => setting.given?_of_snake (camel_not_mem_renamed entries setting)
  have here := fun setting : Setting =>
    setting.given?_putAll_explicit (projectEntries pairs) entries
  have known : unknownNames ((projectEntries pairs).renamed.putAll entries.explicit) = [] →
      unknownNames entries.renamed = [] := by
    rw [unknownNames_eq (oneSpelling_of_snake (camel_not_mem_putAll _ entries)),
      unknownNames_eq (oneSpelling_of_snake (camel_not_mem_renamed entries)),
      List.map_eq_nil_iff, List.map_eq_nil_iff, List.filter_eq_nil_iff, List.filter_eq_nil_iff]
    exact fun known name member => known name ((mem_names_putAll _ _ _).mpr (Or.inr
      (explicit_of_valued valued ▸ member)))
  rw [explicit_of_valued valued] at merged here known
  rw [ofOptions_nil_left]
  obtain ⟨alone, given⟩ := exists_ofEntries merged (fun setting => by
    rw [here, there]
    cases entries.renamed.lookup? setting.snake with
    | none => exact Or.inl rfl
    | some value => exact Or.inr rfl) known
  refine ⟨alone, given, predicate_congr merged given ?_⟩
  rw [here, there, lookup?_renamed_projectEntries, Option.or_none]

/-- A project has the configuration of the options in the table of its nearest settings file, all
but the test, with the options that are given beside it, or the same fault; without a settings file
it has that of the options beside it. Nothing but the nearest settings file matters, be it right or
wrong, and the test is the one that is given beside it. -/
theorem ofProject_nearest (valued : ∀ entry ∈ entries, entry.2.isNothing = false) :
    (∀ disk folder steps bytes table, IsNearest disk folder.resolved steps bytes →
      settingsTable? bytes = some table →
        ofProject disk folder entries =
          (ofOptions (settingsOptions table) entries).mapError .options) ∧
      (∀ disk folder, (∀ steps, settingsFile? disk (folder.resolved.above steps) = none) →
        ofProject disk folder entries = (ofOptions [] entries).mapError .options) ∧
      (∀ disk other folder steps bytes, IsNearest disk folder.resolved steps bytes →
        IsNearest other folder.resolved steps bytes →
          ofProject other folder entries = ofProject disk folder entries) ∧
      ∀ disk folder config, ofProject disk folder entries = .ok config →
        ∃ alone, ofOptions [] entries = .ok alone ∧ config.predicate = alone.predicate := by
  have found : ∀ {disk place steps bytes}, IsNearest disk place steps bytes →
      nearestSettings? disk place = some bytes :=
    fun nearest => (nearestSettings?_eq_some_iff _ _ _).mpr ⟨_, nearest⟩
  refine ⟨?_, ?_, ?_, fun disk folder config => predicate_of_ofProject valued⟩
  · intro disk folder steps bytes table nearest read
    exact ofProject_of_table valued (found nearest) read
  · intro disk folder nowhere
    exact ofProject_of_nowhere valued ((nearestSettings?_eq_none_iff _ _).mpr nowhere)
  · intro disk other folder steps bytes here there
    exact ofProject_congr ((found there).trans (found here).symm) entries

/-- A settings file in which the line break at the beginning of a template stays, and with a test. -/
def keptBreakSettings : Text :=
  "[tool.dedentify]\ntrimLeft = false\nshould_dedent = \"ignored\"\n".toList

/-- Do options say nothing but that the line break at the beginning of a template stays? -/
def onlyKeepBreak : Entries → Bool
  | [(name, .truth false)] => name == Setting.trimLeft.camel
  | _ => false

/-- A settings file in the folder above the one of a project, and a malformed one above that, which
does not matter. -/
theorem ofProject_nearest_above :
    let settings := (["a", "pyproject.toml"].map String.toList, Text.encode keptBreakSettings)
    let malformed := (["pyproject.toml"].map String.toList, Text.encode "[".toList)
    let folder := ["a", "c", "..", "b"].map String.toList
    let entries : Entries := [("tag_name".toList, .text "md".toList)]
    (∀ entry ∈ entries, entry.2.isNothing = false) ∧
      IsNearest (.ofFiles [malformed, settings]) (Path.resolved folder) 1 settings.2 ∧
      IsNearest (.ofFiles [settings]) (Path.resolved folder) 1 settings.2 ∧
      ofProject (.ofFiles [malformed, settings]) folder entries =
        .ok { names := ["md".toList], trims := ⟨false, true⟩ } ∧
      ofProject (.ofFiles [settings]) folder entries =
        ofProject (.ofFiles [malformed, settings]) folder entries := by
  intro settings malformed folder entries
  have valued : ∀ entry ∈ entries, entry.2.isNothing = false := by
    intro entry member
    obtain rfl := List.mem_singleton.mp member
    rfl
  have here : IsNearest (.ofFiles [malformed, settings]) (Path.resolved folder) 1 settings.2 :=
    ⟨rfl, by decide⟩
  have there : IsNearest (.ofFiles [settings]) (Path.resolved folder) 1 settings.2 :=
    ⟨rfl, by decide⟩
  have nearest := ofProject_nearest valued
  have kept : (settingsTable? settings.2).any (onlyKeepBreak ∘ settingsOptions) = true := by
    decide +kernel
  obtain ⟨table, read, only⟩ := (Option.any_eq_true _ _).mp kept
  refine ⟨valued, here, there, ?_, nearest.2.2.1 _ _ folder 1 settings.2 here there⟩
  rw [nearest.1 _ folder 1 settings.2 table here read]
  unfold Function.comp onlyKeepBreak at only
  split at only
  · rename_i same
    rw [same, eq_of_beq only]
    rfl
  · cases only

end Marker.Config

end Outdent
