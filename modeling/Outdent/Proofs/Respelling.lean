import Outdent.Options.Config
import Outdent.Proofs.Merging

/-!
# Spellings of options

A configuration looks at options through two views: the pair that is given for each option, and the
names that no option has. What is made of entries is determined by these
(`ofEntriesBeside_congr`), so spellings and places matter only as far as the views show them. Main
statements: `ofEntries_eq_ok_iff`, what a configuration that is made holds, `ofEntries_respelled`,
entries with the same pairs under other spellings come to the same up to the spellings that
complaints show, and `ofOptions_of_oneSpelling`, options of which none is given in both spellings
are such entries.
-/
namespace Outdent

open Marker Entries

/-! ## Spellings -/

namespace Setting

/-- Every option is listed. -/
theorem mem_all (setting : Setting) : setting ∈ all := by
  cases setting <;> decide

/-- No option is spelled with underscores as another one is with capital letters. -/
theorem snake_ne_camel (setting other : Setting) : setting.snake ≠ other.camel := by
  cases setting <;> cases other <;> decide

/-- An option has two spellings, so of three two are the same. -/
theorem eq_of_spelled (setting : Setting) {name other third : Text}
    (first : name = setting.snake ∨ name = setting.camel)
    (second : other = setting.snake ∨ other = setting.camel)
    (last : third = setting.snake ∨ third = setting.camel) (apart : name ≠ third)
    (differ : other ≠ third) : name = other := by
  rcases first with rfl | rfl
  · have camel : third = setting.camel := last.resolve_left fun same => apart same.symm
    exact (second.resolve_right fun same => differ (same.trans camel.symm)).symm
  · have snake : third = setting.snake := last.resolve_right fun same => apart same.symm
    exact (second.resolve_left fun same => differ (same.trans snake.symm)).symm

/-- Options have different spellings with underscores. -/
theorem snake_injective {setting other : Setting} (same : setting.snake = other.snake) :
    setting = other := by
  revert same
  cases setting <;> cases other <;> decide

end Setting

/-- A spelling is that of an option with underscores or with capital letters. -/
theorem isSpelling_iff (name : Text) :
    isSpelling name = true ↔ ∃ setting : Setting, name = setting.snake ∨ name = setting.camel := by
  simp only [isSpelling, List.any_eq_true, Bool.or_eq_true, beq_iff_eq]
  constructor
  · rintro ⟨setting, _, same | same⟩
    · exact ⟨setting, Or.inl same.symm⟩
    · exact ⟨setting, Or.inr same.symm⟩
  · rintro ⟨setting, same | same⟩
    · exact ⟨setting, setting.mem_all, Or.inl same.symm⟩
    · exact ⟨setting, setting.mem_all, Or.inr same.symm⟩

/-- A spelling with capital letters is changed to the one with underscores. -/
theorem snakeName_camel (setting : Setting) : snakeName setting.camel = setting.snake := by
  cases setting <;> rfl

/-- A name is the spelling of an option with capital letters, or it is kept. -/
theorem snakeName_cases (name : Text) :
    (∃ setting : Setting, name = setting.camel ∧ snakeName name = setting.snake) ∨
      ((∀ setting : Setting, name ≠ setting.camel) ∧ snakeName name = name) := by
  by_cases capital : ∃ setting : Setting, name = setting.camel
  · obtain ⟨setting, rfl⟩ := capital
    exact Or.inl ⟨setting, rfl, snakeName_camel setting⟩
  · have other : ∀ setting : Setting, name ≠ setting.camel :=
      fun setting same => capital ⟨setting, same⟩
    have unfound : (Setting.all.find? fun setting => setting.camel == name) = none := by
      refine List.find?_eq_none.mpr fun setting _ => ?_
      have differ := (other setting).symm
      simpa using differ
    exact Or.inr ⟨other, by rw [snakeName, unfound]⟩

/-- A name that is no spelling is kept. -/
theorem snakeName_of_not_isSpelling {name : Text} (unknown : isSpelling name = false) :
    snakeName name = name := by
  rcases snakeName_cases name with ⟨setting, rfl, _⟩ | ⟨_, kept⟩
  · have spelled := (isSpelling_iff setting.camel).mpr ⟨setting, Or.inr rfl⟩
    rw [unknown] at spelled
    cases spelled
  · exact kept

/-- A name comes to the spelling of an option with underscores if it is one of its two. -/
theorem snakeName_eq_snake_iff (name : Text) (setting : Setting) :
    snakeName name = setting.snake ↔ name = setting.snake ∨ name = setting.camel := by
  constructor
  · intro same
    rcases snakeName_cases name with ⟨other, rfl, changed⟩ | ⟨_, kept⟩
    · rw [Setting.snake_injective (changed.symm.trans same)]
      exact Or.inr rfl
    · exact Or.inl (kept.symm.trans same)
  · rintro (rfl | rfl)
    · exact snakeName_snake setting
    · exact snakeName_camel setting

/-- No name comes to a spelling with capital letters. -/
theorem snakeName_ne_camel (name : Text) (setting : Setting) :
    snakeName name ≠ setting.camel := by
  rcases snakeName_cases name with ⟨other, _, changed⟩ | ⟨other, kept⟩
  · rw [changed]
    exact other.snake_ne_camel setting
  · rw [kept]
    exact other setting

/-- Changing the spelling twice changes it once. -/
theorem snakeName_snakeName (name : Text) : snakeName (snakeName name) = snakeName name := by
  rcases snakeName_cases name with ⟨setting, _, changed⟩ | ⟨_, kept⟩
  · rw [changed, snakeName_snake]
  · rw [kept, kept]

/-- A name stays a spelling of an option, or not. -/
theorem isSpelling_snakeName (name : Text) : isSpelling (snakeName name) = isSpelling name := by
  rcases snakeName_cases name with ⟨setting, rfl, changed⟩ | ⟨_, kept⟩
  · rw [changed, (isSpelling_iff setting.snake).mpr ⟨setting, Or.inl rfl⟩,
      (isSpelling_iff setting.camel).mpr ⟨setting, Or.inr rfl⟩]
  · rw [kept]

/-- Names that come to the same are the same, or the two spellings of an option. -/
theorem snakeName_eq_iff (name other : Text) :
    snakeName name = snakeName other ↔
      name = other ∨ ∃ setting : Setting, (name = setting.snake ∨ name = setting.camel) ∧
        (other = setting.snake ∨ other = setting.camel) := by
  constructor
  · intro same
    rcases snakeName_cases name with ⟨setting, _, changed⟩ | ⟨_, kept⟩
    · have behind : snakeName other = setting.snake := same.symm.trans changed
      exact Or.inr ⟨setting, (snakeName_eq_snake_iff name setting).mp changed,
        (snakeName_eq_snake_iff other setting).mp behind⟩
    · rcases snakeName_cases other with ⟨setting, _, changed⟩ | ⟨_, still⟩
      · have before : snakeName name = setting.snake := same.trans changed
        exact Or.inr ⟨setting, (snakeName_eq_snake_iff name setting).mp before,
          (snakeName_eq_snake_iff other setting).mp changed⟩
      · exact Or.inl (kept.symm.trans (same.trans still))
  · rintro (rfl | ⟨setting, first, second⟩)
    · rfl
    · rw [(snakeName_eq_snake_iff name setting).mpr first,
        (snakeName_eq_snake_iff other setting).mpr second]

/-! ## Views of options -/

/-- No option is given in both spellings. -/
def Entries.OneSpelling (entries : Entries) : Prop :=
  ∀ setting : Setting, ¬(setting.snake ∈ entries.names ∧ setting.camel ∈ entries.names)

namespace Marker.Config

/-- What a configuration is made of: the pairs that are given for options, and the complaints of
other names. -/
theorem ofEntriesBeside_congr {entries others : Entries}
    (given : ∀ setting : Setting, setting.given? entries = setting.given? others)
    (unknown : List Detail) : ofEntriesBeside entries unknown = ofEntriesBeside others unknown := by
  simp only [ofEntriesBeside, namesOf, Setting.checked, given]

end Marker.Config

namespace Setting

/-- The pair for an option is given under one of its spellings. -/
theorem spelled_of_given? {setting : Setting} {entries : Entries} {name : Text} {value : Value}
    (given : setting.given? entries = some (name, value)) :
    name = setting.snake ∨ name = setting.camel := by
  unfold given? at given
  split at given
  · exact Or.inl (Prod.ext_iff.mp (Option.some.inj given)).1.symm
  · obtain ⟨found, _, same⟩ := Option.map_eq_some_iff.mp given
    exact Or.inr (Prod.ext_iff.mp same).1.symm

/-- In entries without spellings in capital letters an option is looked up. -/
theorem given?_of_snake (setting : Setting) {entries : Entries}
    (absent : setting.camel ∉ entries.names) :
    setting.given? entries =
      (entries.lookup? setting.snake).map fun value => (setting.snake, value) := by
  unfold given?
  cases found : entries.lookup? setting.snake with
  | some value => rfl
  | none => rw [(lookup?_eq_none_iff entries setting.camel).mpr absent]; rfl

/-- A name of entries is used for an option if it is a spelling of it. -/
theorem map_given?_eq_some_iff (setting : Setting) {entries : Entries}
    (single : entries.OneSpelling) {name : Text} (member : name ∈ entries.names) :
    (setting.given? entries).map (·.1) = some name ↔
      name = setting.snake ∨ name = setting.camel := by
  constructor
  · intro used
    obtain ⟨⟨other, value⟩, given, rfl⟩ := Option.map_eq_some_iff.mp used
    exact spelled_of_given? given
  · have there : entries.lookup? name ≠ none := fun absent =>
      (lookup?_eq_none_iff entries name).mp absent member
    obtain ⟨value, found⟩ := Option.ne_none_iff_exists'.mp there
    rintro (rfl | rfl)
    · rw [given?, found]
      rfl
    · have absent : entries.lookup? setting.snake = none :=
        (lookup?_eq_none_iff entries _).mpr fun both => single setting ⟨both, member⟩
      rw [given?, absent, found]
      rfl

end Setting

/-- Where no option is given in both spellings, what is complained of are the names that are no
spellings. -/
theorem unknownNames_eq {entries : Entries} (single : entries.OneSpelling) :
    unknownNames entries =
      (entries.names.filter fun name => !isSpelling name).map unknownDetail := by
  have picked : ∀ name ∈ entries.names,
      (!(Setting.all.filterMap fun setting => (setting.given? entries).map (·.1)).contains name) =
        !isSpelling name := by
    intro name member
    rw [Bool.not_inj_iff, Bool.eq_iff_iff, List.contains_iff_mem, List.mem_filterMap,
      isSpelling_iff]
    constructor
    · rintro ⟨setting, _, used⟩
      exact ⟨setting, (setting.map_given?_eq_some_iff single member).mp used⟩
    · rintro ⟨setting, spelled⟩
      exact ⟨setting, setting.mem_all, (setting.map_given?_eq_some_iff single member).mpr spelled⟩
  unfold unknownNames
  exact congrArg _ (List.filter_congr picked)

/-! ## Other spellings -/

/-- A detail that shows names in the spelling with underscores. -/
def Detail.respelled (detail : Detail) : Detail :=
  { detail with
    place := detail.place.map fun
      | .name name => .name (snakeName name)
      | .index index => .index index }

/-- The same fault, whose details show names in the spelling with underscores. -/
def OptionFault.respelled : OptionFault → OptionFault
  | .noCollection => .noCollection
  | .invalid details => .invalid (details.map Detail.respelled)

/-- What an option comes to, with details that show names in the spelling with underscores. -/
def Checked.respelled {α : Type} (checked : Checked α) : Checked α :=
  checked.mapError (List.map Detail.respelled)

/-- Pairs with options in the spelling with underscores. -/
def Entries.respelled (pairs : Entries) : Entries :=
  pairs.map fun (name, value) => (snakeName name, value)

/-- The details are the same up to spelling. -/
theorem Checked.details_respelled {α : Type} (checked : Checked α) :
    checked.respelled.details = checked.details.map Detail.respelled := by
  cases checked <;> rfl

/-- Nothing is wrong in one spelling if nothing is wrong in another one. -/
theorem Checked.respelled_eq_ok_iff {α : Type} (checked : Checked α) (value : α) :
    checked.respelled = .ok value ↔ checked = .ok value := by
  cases checked <;> simp [Checked.respelled, Except.mapError]

/-- Only the place of a check shows a name. -/
theorem Checked.respelled_ofCheck {α : Type} (name : Text) (check : Except Complaint α) :
    (Checked.ofCheck [.name name] check).respelled =
      Checked.ofCheck [.name (snakeName name)] check := by
  cases check <;> rfl

/-- The name of an unknown name is kept. -/
theorem respelled_unknownDetail {name : Text} (unknown : isSpelling name = false) :
    (unknownDetail name).respelled = unknownDetail name := by
  simp [Detail.respelled, unknownDetail, snakeName_of_not_isSpelling unknown]

namespace Marker.Config

section Assembling

variable {names : Checked (List Text)} {keeps left right : Checked Bool}
  {test : Checked (Option (Source.Tree → Bool))} {unknown : List Detail}

/-- A configuration is made if nothing is wrong, and holds what its options come to. -/
theorem assemble_eq_ok_iff (config : Config) :
    assemble names keeps left right test unknown = .ok config ↔
      names = .ok config.names ∧ keeps = .ok config.keepsMarker ∧ left = .ok config.trims.left ∧
        right = .ok config.trims.right ∧ test = .ok config.predicate ∧ unknown = [] ∧
        config.check = .words := by
  constructor
  · intro made
    unfold assemble at made
    split at made
    · cases made
      exact ⟨rfl, rfl, rfl, rfl, rfl, rfl, rfl⟩
    · cases made
  · obtain ⟨_, _, _, _, check⟩ := config
    rintro ⟨rfl, rfl, rfl, rfl, rfl, rfl, rfl⟩
    rfl

variable (names keeps left right test unknown)

/-- A configuration is made, or everything that is wrong is told. -/
theorem assemble_cases :
    (∃ config, assemble names keeps left right test unknown = .ok config) ∨
      assemble names keeps left right test unknown =
        .error (.invalid (names.details ++ keeps.details ++ left.details ++ right.details ++
          test.details ++ unknown)) := by
  unfold assemble
  split
  · exact Or.inl ⟨_, rfl⟩
  · exact Or.inr rfl

/-- What is wrong with options is the same in another spelling. -/
theorem assemble_respelled :
    assemble names.respelled keeps.respelled left.respelled right.respelled test.respelled
        (unknown.map Detail.respelled) =
      (assemble names keeps left right test unknown).mapError OptionFault.respelled := by
  rcases assemble_cases names keeps left right test unknown with ⟨config, made⟩ | failed
  · rw [made]
    have whole := (assemble_eq_ok_iff config).mp made
    refine (assemble_eq_ok_iff config).mpr ?_
    simp only [Checked.respelled_eq_ok_iff, List.map_eq_nil_iff]
    exact whole
  · rcases assemble_cases names.respelled keeps.respelled left.respelled right.respelled
      test.respelled (unknown.map Detail.respelled) with ⟨config, made⟩ | again
    · -- Then nothing was wrong before.
      simp only [assemble_eq_ok_iff, Checked.respelled_eq_ok_iff, List.map_eq_nil_iff] at made
      rw [(assemble_eq_ok_iff config).mpr made] at failed
      cases failed
    · rw [failed, again]
      simp only [Checked.details_respelled, ← List.map_append]
      rfl

end Assembling

/-- What a configuration holds that entries make: what each option comes to. Nothing is complained
of. -/
theorem ofEntriesBeside_eq_ok_iff (entries : Entries) (unknown : List Detail) (config : Config) :
    ofEntriesBeside entries unknown = .ok config ↔
      namesOf entries = .ok (.ok config.names) ∧
        Setting.keepFunctionCall.checked entries false Value.truthOf = .ok config.keepsMarker ∧
        Setting.trimLeft.checked entries true Value.truthOf = .ok config.trims.left ∧
        Setting.trimRight.checked entries true Value.truthOf = .ok config.trims.right ∧
        Setting.shouldDedent.checked entries none Value.testOf = .ok config.predicate ∧
        unknown = [] ∧ config.check = .words := by
  unfold ofEntriesBeside
  cases namesOf entries with
  | error fault => simp [Except.bind]
  | ok names =>
    rw [Except.ok.injEq]
    exact assemble_eq_ok_iff config

/-- The same for entries by themselves. No name is unknown. -/
theorem ofEntries_eq_ok_iff (entries : Entries) (config : Config) :
    ofEntries entries = .ok config ↔
      namesOf entries = .ok (.ok config.names) ∧
        Setting.keepFunctionCall.checked entries false Value.truthOf = .ok config.keepsMarker ∧
        Setting.trimLeft.checked entries true Value.truthOf = .ok config.trims.left ∧
        Setting.trimRight.checked entries true Value.truthOf = .ok config.trims.right ∧
        Setting.shouldDedent.checked entries none Value.testOf = .ok config.predicate ∧
        unknownNames entries = [] ∧ config.check = .words :=
  ofEntriesBeside_eq_ok_iff entries _ config

end Marker.Config

/-- Names of markers are refused outright only if they are no collection. -/
theorem eq_noCollection_of_namesOf {entries : Entries} {fault : OptionFault}
    (refused : namesOf entries = .error fault) : fault = .noCollection := by
  unfold namesOf at refused
  split at refused
  · cases refused
  · split at refused
    · exact (Except.error.inj refused).symm
    · cases refused

section Respelling

variable {entries others : Entries}
  (given : ∀ setting : Setting,
    setting.given? others = (setting.given? entries).map fun found => (setting.snake, found.2))

include given

/-- An option comes to the same in another spelling. -/
theorem Setting.checked_respelled {α : Type} (setting : Setting) (default : α)
    (check : Value → Except Complaint α) :
    setting.checked others default check = (setting.checked entries default check).respelled := by
  unfold Setting.checked
  rw [given setting]
  cases found : setting.given? entries with
  | none => rfl
  | some pair =>
    obtain ⟨name, value⟩ := pair
    have spelled := (snakeName_eq_snake_iff name setting).mpr (Setting.spelled_of_given? found)
    simp only [Option.map_some]
    rw [Checked.respelled_ofCheck, spelled]

/-- The names of markers come to the same in another spelling. -/
theorem namesOf_respelled : namesOf others = (namesOf entries).map Checked.respelled := by
  unfold namesOf
  rw [given Setting.tagName]
  cases found : Setting.tagName.given? entries with
  | none => rfl
  | some pair =>
    obtain ⟨name, value⟩ := pair
    have spelled := (snakeName_eq_snake_iff name _).mpr (Setting.spelled_of_given? found)
    simp only [Option.map_some]
    cases value.collected? with
    | none => rfl
    | some values =>
      simp only [Except.map]
      rw [Checked.respelled_ofCheck, spelled]

/-- Entries with the same pairs under other spellings and the same unknown names come to the same
configuration or the same fault, whose details differ in spelling only. -/
theorem Marker.Config.ofEntries_respelled
    (unknown : unknownNames others = (unknownNames entries).map Detail.respelled) :
    ofEntries others = (ofEntries entries).mapError OptionFault.respelled := by
  unfold ofEntries ofEntriesBeside
  rw [namesOf_respelled given, unknown]
  simp only [Setting.checked_respelled given]
  cases named : namesOf entries with
  | error fault => rw [eq_noCollection_of_namesOf named]; rfl
  | ok names => exact assemble_respelled _ _ _ _ _ _

end Respelling

/-! ## One spelling -/

namespace Entries

/-- Names are brought to the spelling with underscores one by one. -/
theorem names_respelled (pairs : Entries) :
    (respelled pairs).names = pairs.names.map snakeName := by
  simp [names, respelled]

/-- Names are brought to the spelling with underscores one by one, and then stand there once. -/
theorem names_renamed (pairs : Entries) :
    pairs.renamed.names = (pairs.names.map snakeName).eraseDups := by
  rw [← names_respelled]
  exact names_putAll nodup_names_nil _

/-- No name is left in the spelling with capital letters. -/
theorem camel_not_mem_names {entries : Entries} {pairs : List Text}
    (brought : ∀ name ∈ entries.names, name ∈ pairs.map snakeName) (setting : Setting) :
    setting.camel ∉ entries.names := by
  intro member
  obtain ⟨name, _, same⟩ := List.mem_map.mp (brought _ member)
  exact snakeName_ne_camel name setting same

/-- Entries without spellings in capital letters give no option in both spellings. -/
theorem oneSpelling_of_snake {entries : Entries}
    (absent : ∀ setting : Setting, setting.camel ∉ entries.names) : entries.OneSpelling :=
  fun setting both => absent setting both.2

/-- Where no option is given in both spellings, names stay distinct in one. -/
theorem nodup_names_respelled {entries : Entries} (distinct : entries.names.Nodup)
    (single : entries.OneSpelling) : (respelled entries).names.Nodup := by
  rw [names_respelled]
  refine distinct.map_on fun name member other there same => ?_
  rcases (snakeName_eq_iff name other).mp same with equal | ⟨setting, rfl | rfl, rfl | rfl⟩
  · exact equal
  · rfl
  · exact absurd ⟨member, there⟩ (single setting)
  · exact absurd ⟨there, member⟩ (single setting)
  · rfl

/-- The value of an option in one spelling is that of the spelling in which it is given. -/
theorem lookup?_respelled {entries : Entries} (single : entries.OneSpelling) (setting : Setting) :
    (respelled entries).lookup? setting.snake =
      (entries.lookup? setting.snake).or (entries.lookup? setting.camel) := by
  induction entries with
  | nil => rfl
  | cons entry rest ih =>
    have later : OneSpelling rest := fun other both =>
      single other ⟨List.mem_cons_of_mem _ both.1, List.mem_cons_of_mem _ both.2⟩
    have first : respelled (entry :: rest) = (snakeName entry.1, entry.2) :: respelled rest := rfl
    rw [first, lookup?_cons, lookup?_cons, lookup?_cons, ih later]
    simp only [snakeName_eq_snake_iff]
    by_cases snake : entry.1 = setting.snake
    · simp [snake]
    · by_cases camel : entry.1 = setting.camel
      · have absent : lookup? rest setting.snake = none :=
          (lookup?_eq_none_iff rest _).mpr fun member =>
            single setting ⟨List.mem_cons_of_mem _ member, camel ▸ List.mem_cons_self⟩
        simp [camel, absent, (setting.snake_ne_camel setting).symm]
      · simp [snake, camel]

end Entries

/-- The pair that is given for an option is the same in one spelling. -/
theorem Setting.given?_respelled (setting : Setting) {entries : Entries}
    (single : entries.OneSpelling) :
    setting.given? entries.respelled =
      (setting.given? entries).map fun found => (setting.snake, found.2) := by
  have absent : setting.camel ∉ entries.respelled.names :=
    camel_not_mem_names (fun _ member => names_respelled entries ▸ member) setting
  rw [given?_of_snake setting absent, lookup?_respelled single, given?]
  cases entries.lookup? setting.snake with
  | some value => rfl
  | none => cases entries.lookup? setting.camel <;> rfl

/-- The same names are unknown in one spelling. -/
theorem unknownNames_respelled {entries : Entries} (single : entries.OneSpelling) :
    unknownNames entries.respelled = (unknownNames entries).map Detail.respelled := by
  have absent : ∀ setting : Setting, setting.camel ∉ entries.respelled.names :=
    camel_not_mem_names fun _ member => names_respelled entries ▸ member
  rw [unknownNames_eq single, unknownNames_eq (oneSpelling_of_snake absent), names_respelled,
    List.filter_map, List.map_map, List.map_map]
  have kept : (fun name => !isSpelling name) ∘ snakeName = fun name => !isSpelling name :=
    funext fun name => congrArg _ (isSpelling_snakeName name)
  rw [kept]
  refine List.map_congr_left fun name member => ?_
  have unknown : isSpelling name = false := by simpa using (List.mem_filter.mp member).2
  rw [Function.comp_apply, Function.comp_apply, respelled_unknownDetail unknown,
    snakeName_of_not_isSpelling unknown]

/-- Options of which none is given in both spellings come to the same, as they are spelled and in
one spelling. -/
theorem Marker.Config.ofOptions_of_oneSpelling {options : Entries}
    (distinct : options.names.Nodup) (single : options.OneSpelling) :
    ofOptions options [] = (ofEntries options).mapError OptionFault.respelled := by
  have brought : options.renamed = options.respelled :=
    ofPairs_of_nodup (nodup_names_respelled distinct single)
  change ofEntries options.renamed = _
  rw [brought]
  exact ofEntries_respelled (fun setting => setting.given?_respelled single)
    (unknownNames_respelled single)

end Outdent
