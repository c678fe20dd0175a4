import Outdent.Options.Project
import Outdent.Proofs.Precedence

/-!
# Options given beside a settings file

Options that are given beside a settings file win over it, and those that are given as nothing are
left out; but of two spellings of one option the later is used before that, so nothing in one
spelling takes back a value in the other. `Entries.standing` says which pairs are left, and
`Entries.Steady` that no value is taken back. Main statements: `ofProject_standing`, a project has
the configuration of the pairs that are left, and `ofProject_overrides`, leaving out what is given
as nothing comes to the same exactly where no value is taken back.
-/
namespace Outdent

open Marker Files Entries

/-! ## Pairs for options and other pairs -/

namespace Entries

/-- The pairs for names that no option has. -/
def unknown (entries : Entries) : Entries := entries.filter fun entry => !isSpelling entry.1

/-- The first pair is one for an unknown name, or the others are. -/
theorem unknown_cons (entry : Text × Value) (entries : Entries) :
    unknown (entry :: entries) =
      if isSpelling entry.1 then entries.unknown else entry :: entries.unknown := by
  rw [unknown, unknown, List.filter_cons]
  cases isSpelling entry.1 <;> rfl

/-- The names that no option has are those of the pairs for them. -/
theorem names_unknown (entries : Entries) :
    entries.unknown.names = entries.names.filter fun name => !isSpelling name := by
  rw [unknown, names, names, List.filter_map]
  rfl

/-- Pairs for unknown names are kept in one spelling. -/
theorem unknown_respelled (entries : Entries) : entries.respelled.unknown = entries.unknown := by
  rw [respelled, unknown, unknown, List.filter_map]
  have same : ((fun entry => !isSpelling entry.1) ∘ fun pair : Text × Value =>
      (snakeName pair.1, pair.2)) = fun entry => !isSpelling entry.1 :=
    funext fun pair => congrArg _ (isSpelling_snakeName pair.1)
  rw [same]
  refine (List.map_congr_left fun pair member => ?_).trans (List.map_id _)
  have strange : isSpelling pair.1 = false := by simpa using (List.mem_filter.mp member).2
  exact Prod.ext (snakeName_of_not_isSpelling strange) rfl

/-- Pairs for unknown names are merged for themselves. -/
theorem unknown_putAll (entries more : Entries) :
    (entries.putAll more).unknown = entries.unknown.putAll more.unknown :=
  filter_putAll (fun name => !isSpelling name) entries more

/-- Names that are distinct stay so if some are picked. -/
theorem nodup_names_filter {entries : Entries} (distinct : entries.names.Nodup)
    (test : Text × Value → Bool) : (names (entries.filter test)).Nodup :=
  distinct.sublist (List.filter_sublist.map _)

/-- In one spelling the pairs for unknown names are the same. -/
theorem unknown_renamed {entries : Entries} (distinct : entries.names.Nodup) :
    entries.renamed.unknown = entries.unknown := by
  have merged : entries.renamed.unknown = ofPairs entries.respelled.unknown :=
    unknown_putAll [] entries.respelled
  rw [merged, unknown_respelled]
  exact ofPairs_of_nodup (nodup_names_filter distinct _)

/-- In one spelling no option is given in capital letters. -/
theorem camel_not_mem_renamed (entries : Entries) (setting : Setting) :
    setting.camel ∉ entries.renamed.names := by
  refine @camel_not_mem_names _ entries.names (fun name member => ?_) setting
  rw [names_renamed, List.mem_eraseDups] at member
  exact member

end Entries

/-- Entries without spellings in capital letters come to the same if they give options the same
values. -/
theorem Marker.Config.ofEntriesBeside_of_values {entries others : Entries}
    (here : ∀ setting : Setting, setting.camel ∉ entries.names)
    (there : ∀ setting : Setting, setting.camel ∉ others.names)
    (values : ∀ setting : Setting,
      entries.lookup? setting.snake = others.lookup? setting.snake) (unknown : List Detail) :
    ofEntriesBeside entries unknown = ofEntriesBeside others unknown :=
  ofEntriesBeside_congr (fun setting => by
    rw [setting.given?_of_snake (here setting), setting.given?_of_snake (there setting),
      values setting]) unknown

/-- They come to the same by themselves if the other names are the same too. -/
theorem Marker.Config.ofEntries_of_values {entries others : Entries}
    (here : ∀ setting : Setting, setting.camel ∉ entries.names)
    (there : ∀ setting : Setting, setting.camel ∉ others.names)
    (values : ∀ setting : Setting,
      entries.lookup? setting.snake = others.lookup? setting.snake)
    (unknown : entries.unknown = others.unknown) : ofEntries entries = ofEntries others := by
  rw [ofEntries, ofEntries, ofEntriesBeside_of_values here there values,
    unknownNames_eq (oneSpelling_of_snake here), unknownNames_eq (oneSpelling_of_snake there),
    ← names_unknown, ← names_unknown, unknown]

/-! ## Names that no option has -/

/-- Texts that stand there once as names stand there once. -/
theorem eraseDupsBy_texts : ∀ names : List Text,
    (names.map Value.text).eraseDupsBy Value.sameName = names.eraseDups.map Value.text
  | [] => rfl
  | name :: rest => by
    rw [List.map_cons, List.eraseDupsBy_cons, List.filter_map, eraseDupsBy_texts,
      List.eraseDups_cons, List.map_cons]
    simp [Function.comp_def]
  termination_by names => names.length
  decreasing_by
    exact Nat.lt_succ_of_le (List.length_filter_le _ _)

/-- The names of entries that are no names of options are those of the pairs for them. -/
theorem strange_names (entries : Entries) :
    (entries.names.map Value.text).filter Value.isStrange =
      entries.unknown.names.map Value.text := by
  rw [List.filter_map, names_unknown]
  rfl

/-- Of options that are given beside a settings file only the other names are complained of. -/
theorem strangeNames_congr (pairs : List (Value × Value)) {entries others : Entries}
    (unknown : entries.unknown = others.unknown) :
    strangeNames pairs entries = strangeNames pairs others := by
  simp only [strangeNames, List.filter_append, strange_names, unknown]

/-- All names of pairs are texts. -/
def NamedByTexts (pairs : List (Value × Value)) : Prop := ∀ pair ∈ pairs, ∃ name, pair.1 = .text name

/-- Where nothing is complained of, all names of pairs are texts. -/
theorem namedByTexts_of_strangeNames {pairs : List (Value × Value)} {entries : Entries}
    (fine : strangeNames pairs entries = []) : NamedByTexts pairs := by
  intro pair member
  rw [strangeNames, List.map_eq_nil_iff] at fine
  cases strange : (pairs.map Prod.fst ++ entries.names.map Value.text).filter Value.isStrange with
  | cons name rest =>
    rw [strange, List.eraseDupsBy_cons] at fine
    cases fine
  | nil =>
    have known := List.filter_eq_nil_iff.mp strange pair.1
      (List.mem_append_left _ (List.mem_map_of_mem member))
    cases key : pair.1 with
    | text name => exact ⟨name, rfl⟩
    | _ => rw [key] at known; exact absurd rfl known

/-- Where all names of pairs are texts, they are those of the pairs with a text for a name. -/
theorem names_textPairs {pairs : List (Value × Value)} (texts : NamedByTexts pairs) :
    pairs.map Prod.fst = (textPairs pairs).names.map .text := by
  induction pairs with
  | nil => rfl
  | cons pair rest ih =>
    obtain ⟨⟨name, same⟩, others⟩ := List.forall_mem_cons.mp texts
    obtain ⟨first, value⟩ := pair
    obtain rfl : first = .text name := same
    rw [List.map_cons, ih others]
    rfl

/-- The options of a settings file leave the pairs for other names as they are, each name once. -/
theorem unknown_projectEntries (pairs : List (Value × Value)) :
    (projectEntries pairs).unknown = ofPairs (textPairs pairs).unknown := by
  have kept : (projectEntries pairs).unknown = (ofPairs (textPairs pairs)).unknown := by
    rw [projectEntries, without, unknown, unknown, List.filter_filter]
    refine List.filter_congr fun entry _ => ?_
    cases spelled : isSpelling entry.1 with
    | true => rfl
    | false =>
      have spellings : ∀ name ∈ [Setting.shouldDedent.snake, Setting.shouldDedent.camel],
          isSpelling name = true := by decide
      have other : entry.1 ∉ [Setting.shouldDedent.snake, Setting.shouldDedent.camel] :=
        fun member => absurd (spelled.symm.trans (spellings _ member)) Bool.false_ne_true
      simpa using other
  rw [kept]
  exact unknown_putAll [] (textPairs pairs)

/-- Where all names of pairs are texts, those are complained of that no option has. -/
theorem strangeNames_of_texts {pairs : List (Value × Value)} (texts : NamedByTexts pairs)
    {entries : Entries} (distinct : entries.names.Nodup)
    (snake : ∀ setting : Setting,
      setting.camel ∉ ((projectEntries pairs).renamed.putAll entries).names) :
    strangeNames pairs entries =
      unknownNames ((projectEntries pairs).renamed.putAll entries) := by
  have once : entries.unknown.names.eraseDups = entries.unknown.names :=
    eraseDups_of_nodup (nodup_names_filter distinct _)
  have settings : (projectEntries pairs).names.Nodup :=
    nodup_names_filter (nodup_names_ofPairs _) _
  have merged : ((projectEntries pairs).renamed.putAll entries).unknown.names =
      ((textPairs pairs).unknown.names ++ entries.unknown.names).eraseDups := by
    rw [unknown_putAll, unknown_renamed settings, unknown_projectEntries,
      names_putAll (nodup_names_ofPairs _), ofPairs, names_putAll nodup_names_nil, ← once,
      eraseDups_append_eraseDups, once]
    rfl
  rw [unknownNames_eq (oneSpelling_of_snake snake), ← names_unknown, merged, strangeNames,
    names_textPairs texts]
  rw [List.filter_append, strange_names, strange_names, ← List.map_append, eraseDupsBy_texts,
    List.map_map]
  rfl

/-! ## Options beside a settings file -/

namespace Entries

/-- Entries without those that are given as nothing. -/
def valued (entries : Entries) : Entries := entries.filter fun entry => !entry.2.isNothing

/-- Is nothing given for the option of a name? -/
def takesBack (entries : Entries) (name : Text) : Bool :=
  entries.any fun entry => entry.2.isNothing && snakeName entry.1 == snakeName name

/-- Entries without those that are given as nothing, and without those that are taken back behind
them. -/
def standing : Entries → Entries
  | [] => []
  | entry :: rest =>
    if entry.2.isNothing || takesBack rest entry.1 then standing rest else entry :: standing rest

/-- Nothing is given for an option behind a value. -/
def Steady (entries : Entries) : Prop :=
  entries.Pairwise fun earlier later =>
    snakeName later.1 = snakeName earlier.1 → later.2.isNothing = true →
      earlier.2.isNothing = true

/-- The first pair is given as something, or the others are. -/
theorem valued_cons (entry : Text × Value) (entries : Entries) :
    valued (entry :: entries) =
      if entry.2.isNothing then entries.valued else entry :: entries.valued := by
  rw [valued, valued, List.filter_cons]
  cases entry.2.isNothing <;> rfl

/-- The first pair for a name counts if there is no other one. -/
theorem lastFor?_cons (pair : Text × Value) (pairs : Entries) (name : Text) :
    lastFor? (pair :: pairs) name =
      (lastFor? pairs name).or (if snakeName pair.1 = name then some pair.2 else none) := by
  rw [← lookup?_reverse_respelled, ← lookup?_reverse_respelled, respelled, respelled,
    List.map_cons, List.reverse_cons, lookup?_append, lookup?_cons, lookup?_nil]

/-- What is taken back is given as nothing. -/
theorem takesBack_iff (entries : Entries) (name : Text) :
    entries.takesBack name = true ↔
      ∃ entry ∈ entries, entry.2.isNothing = true ∧ snakeName entry.1 = snakeName name := by
  simp [takesBack]

/-- The last pair for a name is one of the pairs. -/
theorem exists_of_lastFor? {entries : Entries} {name : Text} {value : Value}
    (found : lastFor? entries name = some value) :
    ∃ entry ∈ entries, snakeName entry.1 = name ∧ entry.2 = value := by
  obtain ⟨entry, last, rfl⟩ := Option.map_eq_some_iff.mp found
  exact ⟨entry, List.mem_reverse.mp (List.mem_of_find?_eq_some last),
    by simpa using List.find?_some last, rfl⟩

/-- Of the pairs that are left the last one for a name is the last one of all, unless that is given
as nothing. -/
theorem lastFor?_standing (entries : Entries) (name : Text) :
    lastFor? entries.standing name =
      (lastFor? entries name).filter fun value => !value.isNothing := by
  induction entries with
  | nil => rfl
  | cons entry rest ih =>
    rw [standing, lastFor?_cons]
    by_cases same : snakeName entry.1 = name
    · cases last : lastFor? rest name with
      | some value =>
        rw [last] at ih
        cases nothing : value.isNothing with
        | true =>
          obtain ⟨later, member, behind, rfl⟩ := exists_of_lastFor? last
          have back : takesBack rest entry.1 = true :=
            (takesBack_iff rest entry.1).mpr ⟨later, member, nothing, behind.trans same.symm⟩
          rw [back, Bool.or_true, if_pos rfl, ih]
          rfl
        | false =>
          have kept : lastFor? (standing rest) name = some value := by
            rw [ih, Option.filter_some, nothing]
            rfl
          split
          · rw [kept, Option.some_or, Option.filter_some, nothing]
            rfl
          · rw [lastFor?_cons, kept, Option.some_or, Option.some_or, Option.filter_some, nothing]
            rfl
      | none =>
        rw [last] at ih
        have unspoken : takesBack rest entry.1 = false := by
          rw [Bool.eq_false_iff]
          intro back
          obtain ⟨later, member, _, behind⟩ := (takesBack_iff rest entry.1).mp back
          exact (lastFor?_eq_none_iff rest name).mp last
            (List.mem_map.mpr ⟨later, member, behind.trans same⟩)
        rw [unspoken, Bool.or_false, Option.none_or, if_pos same, Option.filter_some]
        cases nothing : entry.2.isNothing with
        | true => rw [if_pos rfl, ih]; rfl
        | false => rw [if_neg (by decide), lastFor?_cons, ih, if_pos same]; rfl
    · rw [if_neg same, Option.or_none, ← ih]
      split
      · rfl
      · rw [lastFor?_cons, if_neg same, Option.or_none]

/-- What is left are some of the pairs. -/
theorem standing_sublist (entries : Entries) : entries.standing.Sublist entries.valued := by
  induction entries with
  | nil => exact .slnil
  | cons entry rest ih =>
    rw [standing, valued_cons]
    cases entry.2.isNothing with
    | true => exact ih
    | false =>
      cases takesBack rest entry.1 with
      | true => exact ih.cons entry
      | false => exact ih.cons_cons entry

/-- No value is taken back of the others, and the first pair is given as nothing or not taken back.
-/
theorem steady_cons (entry : Text × Value) (entries : Entries) :
    Steady (entry :: entries) ↔
      (entry.2.isNothing = true ∨ entries.takesBack entry.1 = false) ∧ entries.Steady := by
  rw [Steady, List.pairwise_cons, ← Bool.not_eq_true (entries.takesBack _), takesBack_iff]
  refine and_congr_left fun _ => ⟨fun still => ?_, ?_⟩
  · by_cases nothing : entry.2.isNothing = true
    · exact Or.inl nothing
    · exact Or.inr fun ⟨later, member, empty, same⟩ => nothing (still later member same empty)
  · rintro (nothing | unspoken) later member same empty
    · exact nothing
    · exact absurd ⟨later, member, empty, same⟩ unspoken

/-- What is left is what is given as something exactly if no value is taken back. -/
theorem standing_eq_valued_iff (entries : Entries) :
    entries.standing = entries.valued ↔ entries.Steady := by
  induction entries with
  | nil => exact ⟨fun _ => .nil, fun _ => rfl⟩
  | cons entry rest ih =>
    rw [standing, valued_cons, steady_cons, ← ih]
    cases entry.2.isNothing with
    | true => simp
    | false =>
      cases takesBack rest entry.1 with
      | true =>
        have shorter : standing rest ≠ entry :: valued rest := by
          intro same
          have length := (standing_sublist rest).length_le
          rw [same, List.length_cons] at length
          omega
        simpa using shorter
      | false => simp

/-! ### Views of the options that win -/

/-- No option that wins is spelled in capital letters. -/
theorem camel_not_mem_explicit (entries : Entries) (setting : Setting) :
    setting.camel ∉ entries.explicit.names := fun member =>
  camel_not_mem_renamed entries setting ((List.filter_sublist.map _).subset member)

/-- Options that win have distinct names. -/
theorem nodup_names_explicit (entries : Entries) : entries.explicit.names.Nodup :=
  nodup_names_filter (nodup_names_ofPairs _) _

/-- The last pair for a name wins, unless it is given as nothing. -/
theorem lookup?_explicit (entries : Entries) (name : Text) :
    entries.explicit.lookup? name =
      (lastFor? entries name).filter fun value => !value.isNothing := by
  have distinct : entries.renamed.names.Nodup := nodup_names_ofPairs _
  rw [explicit, lookup?_filter distinct (fun value => !value.isNothing), lookup?_renamed]

/-- The pairs for unknown names that win are those that are given as something. -/
theorem unknown_explicit {entries : Entries} (distinct : entries.names.Nodup) :
    entries.explicit.unknown = entries.unknown.valued := by
  rw [← unknown_renamed distinct]
  simp only [explicit, unknown, valued, List.filter_filter, Bool.and_comm]

/-- The pairs for unknown names that are left are those that are given as something. -/
theorem unknown_standing {entries : Entries} (distinct : entries.names.Nodup) :
    entries.standing.unknown = entries.unknown.valued := by
  induction entries with
  | nil => rfl
  | cons entry rest ih =>
    obtain ⟨first, others⟩ := List.nodup_cons.mp distinct
    rw [standing, unknown_cons]
    cases strange : isSpelling entry.1 with
    | true =>
      rw [if_pos rfl, ← ih others]
      split
      · rfl
      · rw [unknown_cons, strange, if_pos rfl]
    | false =>
      -- No other name comes to one that is no spelling, and that one is given once.
      have unspoken : takesBack rest entry.1 = false := by
        rw [← Bool.not_eq_true, takesBack_iff]
        rintro ⟨later, member, _, same⟩
        rcases (snakeName_eq_iff later.1 entry.1).mp same with equal | ⟨setting, _, spelled⟩
        · exact first (List.mem_map.mpr ⟨later, member, equal⟩)
        · rw [(isSpelling_iff entry.1).mpr ⟨setting, spelled⟩] at strange
          cases strange
      rw [unspoken, Bool.or_false, if_neg Bool.false_ne_true, valued_cons, ← ih others]
      split
      · rfl
      · rw [unknown_cons, strange, if_neg Bool.false_ne_true]

end Entries

/-- Options that win and those of a settings file have no spelling in capital letters together. -/
theorem Entries.camel_not_mem_putAll (settings entries : Entries) (setting : Setting) :
    setting.camel ∉ (settings.renamed.putAll entries.explicit).names := by
  intro member
  rcases (mem_names_putAll _ _ _).mp member with before | behind
  · exact camel_not_mem_renamed settings setting before
  · exact camel_not_mem_explicit entries setting behind

/-- The value of an option is the one that wins, or the one of the settings file. -/
theorem Entries.lookup?_putAll_explicit (settings entries : Entries) (name : Text) :
    (settings.renamed.putAll entries.explicit).lookup? name =
      (entries.explicit.lookup? name).or (settings.renamed.lookup? name) := by
  rw [lookup?_putAll, lookup?_reverse (nodup_names_explicit entries)]

/-- The pair for an option is the one that wins, or the one of the settings file. -/
theorem Setting.given?_putAll_explicit (setting : Setting) (settings entries : Entries) :
    setting.given? (settings.renamed.putAll entries.explicit) =
      ((entries.explicit.lookup? setting.snake).or (settings.renamed.lookup? setting.snake)).map
        fun value => (setting.snake, value) := by
  rw [given?_of_snake setting (camel_not_mem_putAll settings entries setting),
    lookup?_putAll_explicit]

/-- A project has the configuration of the options that are left beside its settings file. -/
theorem Marker.Config.ofProject_standing {entries : Entries} (distinct : entries.names.Nodup)
    (disk : Disk) (folder : Path) :
    ofProject disk folder entries = ofProject disk folder entries.standing := by
  have left : entries.standing.names.Nodup :=
    distinct.sublist (((standing_sublist entries).trans List.filter_sublist).map _)
  have values : ∀ name, entries.explicit.lookup? name = entries.standing.explicit.lookup? name := by
    intro name
    rw [lookup?_explicit, lookup?_explicit, lastFor?_standing, Option.filter_filter]
    simp
  have unknown : entries.explicit.unknown = entries.standing.explicit.unknown := by
    rw [unknown_explicit distinct, unknown_explicit left, unknown_standing distinct]
    simp [valued]
  have same : ∀ (settings : Entries) (strange : List Detail),
      ofEntriesBeside (settings.renamed.putAll entries.explicit) strange =
        ofEntriesBeside (settings.renamed.putAll entries.standing.explicit) strange := by
    intro settings
    refine ofEntriesBeside_of_values (camel_not_mem_putAll settings entries)
      (camel_not_mem_putAll settings entries.standing) fun setting => ?_
    rw [lookup?_putAll_explicit, lookup?_putAll_explicit, values]
  unfold ofProject
  split
  · rfl
  · rw [same, strangeNames_congr _ unknown]

/-! ## Values that are taken back -/

namespace Entries

/-- A value that is taken back is not there any more, where it would be without what is given as
nothing. -/
theorem exists_of_not_steady {entries : Entries} (distinct : entries.names.Nodup)
    (unsteady : ¬entries.Steady) :
    ∃ setting : Setting,
      (∃ value, lastFor? entries setting.snake = some value ∧ value.isNothing = true) ∧
        lastFor? entries.valued setting.snake ≠ none := by
  induction entries with
  | nil => exact absurd .nil unsteady
  | cons entry rest ih =>
    obtain ⟨first, others⟩ := List.nodup_cons.mp distinct
    rw [steady_cons, not_and_or, not_or, Bool.not_eq_true, Bool.not_eq_false] at unsteady
    rcases unsteady with ⟨given, back⟩ | later
    · -- The names differ and come to the same, so they are the two spellings of an option.
      obtain ⟨later, member, empty, same⟩ := (takesBack_iff rest entry.1).mp back
      have differ : later.1 ≠ entry.1 := fun equal =>
        first (List.mem_map.mpr ⟨later, member, equal⟩)
      obtain equal | ⟨setting, other, here⟩ := (snakeName_eq_iff later.1 entry.1).mp same
      · exact absurd equal differ
      have spelled := (snakeName_eq_snake_iff entry.1 setting).mpr here
      refine ⟨setting, ⟨later.2, ?_, empty⟩, ?_⟩
      · have there : lastFor? rest setting.snake ≠ none := by
          rw [Ne, lastFor?_eq_none_iff, not_not, List.mem_map]
          exact ⟨later, member, same.trans spelled⟩
        obtain ⟨value, last⟩ := Option.ne_none_iff_exists'.mp there
        obtain ⟨pair, inside, named, rfl⟩ := exists_of_lastFor? last
        have apart : pair.1 ≠ entry.1 := fun equal =>
          first (List.mem_map.mpr ⟨pair, inside, equal⟩)
        have one : pair.1 = later.1 :=
          setting.eq_of_spelled ((snakeName_eq_snake_iff pair.1 setting).mp named) other here apart
            differ
        rw [lastFor?_cons, last, List.inj_on_of_nodup_map others inside member one, Option.some_or]
      · rw [valued_cons, given, if_neg Bool.false_ne_true, lastFor?_cons, if_pos spelled]
        simp
    · obtain ⟨setting, ⟨value, last, empty⟩, given⟩ := ih others later
      refine ⟨setting, ⟨value, ?_, empty⟩, ?_⟩
      · rw [lastFor?_cons, last, Option.some_or]
      · rw [valued_cons]
        split
        · exact given
        · rw [lastFor?_cons]
          simp [given]

/-- Where everything is given as something, nothing is left out. -/
theorem explicit_of_valued {entries : Entries}
    (valued : ∀ entry ∈ entries, entry.2.isNothing = false) :
    entries.explicit = entries.renamed := by
  refine List.filter_eq_self.mpr fun entry member => ?_
  have last : lastFor? entries entry.1 = some entry.2 :=
    (lookup?_renamed entries entry.1).symm.trans (lookup?_of_mem (nodup_names_ofPairs _) member)
  obtain ⟨pair, inside, _, same⟩ := exists_of_lastFor? last
  rw [← same, valued pair inside]
  rfl

end Entries

/-- A base folder with nothing but a settings file. -/
def Files.Disk.ofSettings (text : Text) : Disk := ⟨[([settingsName], .file (Text.encode text))]⟩

/-- The settings file in the base folder is read. -/
theorem projectPairs_ofSettings {text : Text} {settings : Entries}
    (read : Toml.parse? text = some settings) :
    projectPairs (Disk.ofSettings text) [] = optionPairs settings := by
  have nearest : nearestSettings? (Disk.ofSettings text) [] = some (Text.encode text) := rfl
  simp only [projectPairs, nearest, Text.decode?_encode, read]

/-- A settings file that gives an empty text for an option. -/
def emptySetting (setting : Setting) : Text :=
  "[tool.dedentify]\n".toList ++ setting.snake ++ " = \"\"\n".toList

/-- Does a table hold nothing but an empty text for an option? -/
def holdsEmpty (setting : Setting) : Entries → Bool
  | [(tool, .table [(options, .table [(name, .text [])])])] =>
    tool == "tool".toList && options == "dedentify".toList && name == setting.snake
  | _ => false

/-- A settings file gives an empty text for an option. -/
theorem projectPairs_emptySetting (setting : Setting) :
    projectPairs (Disk.ofSettings (emptySetting setting)) [] =
      .ok [(.text setting.snake, .text [])] := by
  have found : (Toml.parse? (emptySetting setting)).any (holdsEmpty setting) = true := by
    cases setting <;> decide +kernel
  obtain ⟨settings, read, held⟩ := (Option.any_eq_true _ _).mp found
  rw [projectPairs_ofSettings read]
  unfold holdsEmpty at held
  split at held
  · simp only [Bool.and_eq_true, beq_iff_eq] at held
    obtain ⟨⟨rfl, rfl⟩, rfl⟩ := held
    rfl
  · cases held

/-- An option other than the test is read from a settings file. -/
theorem renamed_emptySetting {setting : Setting} (other : setting ≠ .shouldDedent) :
    (projectEntries [(.text setting.snake, .text [])]).renamed = [(setting.snake, .text [])] := by
  cases setting with
  | shouldDedent => exact absurd rfl other
  | tagName | keepFunctionCall | trimLeft | trimRight => rfl

namespace Marker.Config

/-- Where options are read from a settings file. -/
theorem ofProject_of_pairs {disk : Disk} {folder : Path} {pairs : List (Value × Value)}
    (found : projectPairs disk folder.resolved = .ok pairs)
    (texts : NamedByTexts pairs) (entries : Entries) :
    ofProject disk folder entries =
      (ofEntries ((projectEntries pairs).renamed.putAll entries.explicit)).mapError .options := by
  rw [ofProject, found, ofEntries]
  simp only
  rw [strangeNames_of_texts texts (nodup_names_explicit entries)
    (camel_not_mem_putAll (projectEntries pairs) entries)]

/-- An option other than the test makes no configuration of an empty text. -/
theorem ofEntries_ne_ok_of_empty {setting : Setting} (other : setting ≠ .shouldDedent)
    {entries : Entries} (given : setting.given? entries = some (setting.snake, .text []))
    (config : Config) : ofEntries entries ≠ .ok config := by
  rw [Ne, ofEntries_eq_ok_iff]
  rintro ⟨names, keeps, left, right, _, _⟩
  cases setting with
  | tagName => rw [namesOf, given] at names; cases names
  | keepFunctionCall => rw [Setting.checked, given] at keeps; cases keeps
  | trimLeft => rw [Setting.checked, given] at left; cases left
  | trimRight => rw [Setting.checked, given] at right; cases right
  | shouldDedent => exact other rfl

/-- A test that is given is in the configuration. -/
theorem predicate_ne_none {entries : Entries} {config : Config}
    (made : ofEntries entries = .ok config) {name : Text} {value : Value}
    (given : Setting.shouldDedent.given? entries = some (name, value))
    (something : value.isNothing = false) : config.predicate ≠ none := by
  obtain ⟨_, _, _, _, test, _⟩ := (ofEntries_eq_ok_iff entries config).mp made
  rw [Setting.checked, given] at test
  intro absent
  rw [absent] at test
  cases value with
  | nothing => cases something
  | _ => cases test

/-- A test that is not given is not in the configuration. -/
theorem predicate_eq_none {entries : Entries} {config : Config}
    (made : ofEntries entries = .ok config)
    (absent : Setting.shouldDedent.given? entries = none) : config.predicate = none := by
  obtain ⟨_, _, _, _, test, _⟩ := (ofEntries_eq_ok_iff entries config).mp made
  rw [Setting.checked, absent] at test
  exact (Except.ok.inj test).symm

/-- A value of a settings file does not matter where one is given beside it. -/
theorem ofEntries_of_covered {setting : Setting} {entries : Entries} {value : Value}
    (there : entries.explicit.lookup? setting.snake = some value) :
    ofEntries ((projectEntries [(.text setting.snake, .text [])]).renamed.putAll
        entries.explicit) =
      ofEntries ((Entries.renamed []).putAll entries.explicit) := by
  by_cases test : setting = .shouldDedent
  · subst test
    rfl
  · refine ofEntries_of_values (camel_not_mem_putAll _ _) (camel_not_mem_putAll [] _)
      (fun other => ?_) ?_
    · rw [lookup?_putAll_explicit, lookup?_putAll_explicit, renamed_emptySetting test,
        lookup?_cons]
      by_cases equal : setting = other
      · rw [← equal, there]
        rfl
      · rw [if_neg fun spelled => equal (Setting.snake_injective spelled)]
        rfl
    · have spelled := (isSpelling_iff setting.snake).mpr ⟨setting, Or.inl rfl⟩
      rw [unknown_putAll, unknown_putAll, renamed_emptySetting test, unknown_cons, spelled]
      rfl

section Missing

variable {entries others : Entries} {setting : Setting} {value : Value} {config : Config}
  (gone : entries.explicit.lookup? setting.snake = none)
  (there : others.explicit.lookup? setting.snake = some value)
  (alone : ofEntries ((Entries.renamed []).putAll others.explicit) = .ok config)

include gone there alone

/-- Without a settings file it matters if a test is there. -/
theorem ofProject_ne_of_test (test : setting = .shouldDedent)
    (something : value.isNothing = false) : ofProject {} [] entries ≠ ofProject {} [] others := by
  intro same
  subst test
  have nowhere : projectPairs {} (Path.resolved []) = .ok [] := rfl
  have nothing : projectEntries [] = [] := rfl
  have none : NamedByTexts [] := fun _ member => nomatch member
  rw [ofProject_of_pairs nowhere none, ofProject_of_pairs nowhere none, nothing, alone] at same
  cases made : ofEntries ((Entries.renamed []).putAll entries.explicit) with
  | error fault => rw [made] at same; cases same
  | ok other =>
    rw [made] at same
    obtain rfl := Except.ok.inj same
    have given := Setting.given?_putAll_explicit .shouldDedent [] others
    have absent := Setting.given?_putAll_explicit .shouldDedent [] entries
    rw [there] at given
    rw [gone] at absent
    exact predicate_ne_none alone given something (predicate_eq_none made absent)

/-- Beside a settings file with a wrong value it matters if a value that covers it is there. -/
theorem ofProject_ne_of_other (other : setting ≠ .shouldDedent) :
    ofProject (Disk.ofSettings (emptySetting setting)) [] entries ≠
      ofProject (Disk.ofSettings (emptySetting setting)) [] others := by
  intro same
  have pairs : projectPairs (Disk.ofSettings (emptySetting setting)) (Path.resolved []) = _ :=
    projectPairs_emptySetting setting
  have texts : NamedByTexts [(.text setting.snake, .text [])] :=
    List.forall_mem_singleton.mpr ⟨_, rfl⟩
  rw [ofProject_of_pairs pairs texts, ofProject_of_pairs pairs texts,
    ofEntries_of_covered there, alone] at same
  cases made : ofEntries ((projectEntries [(.text setting.snake, .text [])]).renamed.putAll
      entries.explicit) with
  | error fault => rw [made] at same; cases same
  | ok config =>
    have bare := setting.given?_putAll_explicit (projectEntries [(.text setting.snake, .text [])])
      entries
    rw [gone, renamed_emptySetting other, lookup?_cons, if_pos rfl,
      ← renamed_emptySetting other] at bare
    exact ofEntries_ne_ok_of_empty other bare config made

end Missing

/-- Where a value is taken back there is a project in which that matters, if the options that are
given as something make a configuration by themselves. -/
theorem exists_ofProject_ne {entries : Entries} (distinct : entries.names.Nodup) {config : Config}
    (made : ofOptions [] entries.valued = .ok config) (unsteady : ¬entries.Steady) :
    ∃ disk folder, ofProject disk folder entries ≠ ofProject disk folder entries.valued := by
  obtain ⟨setting, ⟨last, behind, empty⟩, given⟩ := exists_of_not_steady distinct unsteady
  obtain ⟨value, found⟩ := Option.ne_none_iff_exists'.mp given
  have full : ∀ entry ∈ entries.valued, entry.2.isNothing = false := fun entry member => by
    simpa using (List.mem_filter.mp member).2
  have gone : entries.explicit.lookup? setting.snake = none := by
    rw [lookup?_explicit, behind, Option.filter_some, empty]
    rfl
  have there : entries.valued.explicit.lookup? setting.snake = some value := by
    rw [explicit_of_valued full, lookup?_renamed, found]
  have alone : ofEntries ((Entries.renamed []).putAll entries.valued.explicit) = .ok config := by
    rw [explicit_of_valued full]
    exact made
  by_cases test : setting = .shouldDedent
  · obtain ⟨pair, inside, _, rfl⟩ := exists_of_lastFor? found
    exact ⟨_, _, ofProject_ne_of_test gone there alone test (full pair inside)⟩
  · exact ⟨_, _, ofProject_ne_of_other gone there alone test⟩

/-- Options given beside a settings file, in either spelling. What is given as nothing is left out,
and takes back the value that the other spelling of the same option gives in front of it; so where
no value is taken back, leaving out what is given as nothing comes to the same configuration or
fault in every project. Where one is taken back there is a project in which it does not, if what is
given as something makes a configuration by itself. -/
theorem ofProject_overrides {entries : Entries} (distinct : entries.names.Nodup) :
    (∀ disk folder, ofProject disk folder entries = ofProject disk folder entries.standing) ∧
      (entries.Steady → ∀ disk folder,
        ofProject disk folder entries = ofProject disk folder entries.valued) ∧
      ∀ config, ofOptions [] entries.valued = .ok config → ¬entries.Steady →
        ∃ disk folder, ofProject disk folder entries ≠ ofProject disk folder entries.valued := by
  refine ⟨ofProject_standing distinct, fun steady disk folder => ?_,
    fun config made unsteady => exists_ofProject_ne distinct made unsteady⟩
  rw [ofProject_standing distinct, (standing_eq_valued_iff entries).mpr steady]

/-- A name of markers that is taken back in the other spelling, so that the usual name is used. -/
theorem ofProject_overrides_taken_back :
    let entries : Entries := [("tag_name".toList, .text "md".toList), ("tagName".toList, .nothing)]
    entries.names.Nodup ∧ ofProject {} [] entries = .ok {} ∧
      ofProject {} [] entries.valued = .ok { names := ["md".toList] } ∧ ¬entries.Steady ∧
      ∃ disk folder, ofProject disk folder entries ≠ ofProject disk folder entries.valued := by
  intro entries
  have distinct : entries.names.Nodup := by decide
  have overrides := ofProject_overrides distinct
  have made : ofOptions [] entries.valued = .ok { names := ["md".toList] } := rfl
  have unsteady : ¬entries.Steady := by
    intro steady
    have kept := ((steady_cons _ _).mp steady).1
    revert kept
    decide
  refine ⟨distinct, ?_, rfl, unsteady, overrides.2.2 _ made unsteady⟩
  rw [overrides.1]
  rfl

end Marker.Config

end Outdent
