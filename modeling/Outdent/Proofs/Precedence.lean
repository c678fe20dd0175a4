import Outdent.Proofs.Respelling

/-!
# Which pair counts

Of several pairs for an option the last one counts, whatever its spelling, and further options count
before the others. Main statements: `lookup?_renamed`, the last pair for a name is found in one
spelling, `putAll_renamed`, options with further ones are a single table, and `ofOptions_spellings`,
the two ways to make a configuration of options agree.
-/
namespace Outdent

open Marker Entries

namespace Entries

/-- The value of the last pair for a name in the spelling with underscores. -/
def lastFor? (pairs : Entries) (name : Text) : Option Value :=
  (pairs.reverse.find? fun pair => snakeName pair.1 == name).map (·.2)

/-- The single table of options and further ones. Names are in the spelling with underscores, each
once where it is first given; it has the value of its last further pair, or if there is none of its
last pair among the others. -/
def single (options further : Entries) : Entries :=
  ((options ++ further).map fun pair => snakeName pair.1).eraseDups.filterMap fun name =>
    ((lastFor? further name).or (lastFor? options name)).map fun value => (name, value)

/-- The last pair for a name is the last one of it in one spelling. -/
theorem lookup?_reverse_respelled (pairs : Entries) (name : Text) :
    lookup? (respelled pairs).reverse name = lastFor? pairs name := by
  rw [lookup?, respelled, ← List.map_reverse, List.find?_map, Option.map_map]
  rfl

/-- In one spelling the last pair for a name counts. -/
theorem lookup?_renamed (pairs : Entries) (name : Text) :
    pairs.renamed.lookup? name = lastFor? pairs name :=
  (lookup?_ofPairs _ _).trans (lookup?_reverse_respelled pairs name)

/-- There is a last pair for a name that is given. -/
theorem lastFor?_eq_none_iff (pairs : Entries) (name : Text) :
    lastFor? pairs name = none ↔ name ∉ pairs.map fun pair => snakeName pair.1 := by
  rw [← lookup?_renamed, lookup?_eq_none_iff, names_renamed, List.mem_eraseDups, names, List.map_map]
  rfl

/-- Entries for names with values. -/
theorem names_filterMap (names : List Text) (value? : Text → Option Value)
    (valued : ∀ name ∈ names, value? name ≠ none) :
    Entries.names (names.filterMap fun name => (value? name).map fun value => (name, value)) =
      names := by
  induction names with
  | nil => rfl
  | cons name rest ih =>
    obtain ⟨value, found⟩ := Option.ne_none_iff_exists'.mp (valued name List.mem_cons_self)
    rw [List.filterMap_cons, found]
    simp only [Option.map_some, names_cons]
    rw [ih fun other member => valued other (List.mem_cons_of_mem _ member)]

/-- Entries for names with values have these values. -/
theorem lookup?_filterMap (names : List Text) (value? : Text → Option Value) (name : Text) :
    lookup? (names.filterMap fun name => (value? name).map fun value => (name, value)) name =
      if name ∈ names then value? name else none := by
  induction names with
  | nil => rfl
  | cons first rest ih =>
    rw [List.filterMap_cons]
    cases found : value? first with
    | none =>
      simp only [Option.map_none, ih, List.mem_cons]
      by_cases same : name = first
      · subst same
        simp [found]
      · simp [same]
    | some value =>
      simp only [Option.map_some, lookup?_cons, ih, List.mem_cons]
      by_cases same : name = first
      · subst same
        simp [found]
      · have differ : first ≠ name := fun equal => same equal.symm
        simp [same, differ]

/-- The names of the single table are those that are given, each once. -/
theorem names_single (options further : Entries) :
    (single options further).names =
      ((options ++ further).map fun pair => snakeName pair.1).eraseDups := by
  refine names_filterMap _ _ fun name member absent => ?_
  obtain ⟨behind, before⟩ := Option.or_eq_none_iff.mp absent
  rw [lastFor?_eq_none_iff] at behind before
  rw [List.mem_eraseDups, List.map_append, List.mem_append] at member
  exact member.elim before behind

/-- The values of the single table. -/
theorem lookup?_single (options further : Entries) (name : Text) :
    (single options further).lookup? name =
      (lastFor? further name).or (lastFor? options name) := by
  rw [single, lookup?_filterMap]
  split
  · rfl
  · rename_i absent
    rw [List.mem_eraseDups, List.map_append, List.mem_append, not_or] at absent
    rw [(lastFor?_eq_none_iff further name).mpr absent.2,
      (lastFor?_eq_none_iff options name).mpr absent.1]
    rfl

/-- Options with further ones in one spelling are the single table. -/
theorem putAll_renamed (options further : Entries) :
    options.renamed.putAll further.renamed = single options further := by
  have distinct : options.renamed.names.Nodup := nodup_names_ofPairs _
  refine eq_of_views (nodup_names_putAll distinct _) ?_ fun name => ?_
  · rw [names_putAll distinct, names_renamed, names_renamed, eraseDups_append_eraseDups,
      names_single, List.map_append, names, names, List.map_map, List.map_map]
    rfl
  · have once : further.renamed.names.Nodup := nodup_names_ofPairs _
    rw [lookup?_putAll, lookup?_reverse once, lookup?_renamed, lookup?_renamed, lookup?_single]

/-- Entries in the spelling with underscores, with distinct names, are kept. -/
theorem renamed_of_snake {entries : Entries} (distinct : entries.names.Nodup)
    (snake : ∀ name ∈ entries.names, snakeName name = name) : entries.renamed = entries := by
  have kept : respelled entries = entries := by
    refine (List.map_congr_left fun entry member => ?_).trans (List.map_id entries)
    exact Prod.ext (snake entry.1 (List.mem_map_of_mem member)) rfl
  exact (congrArg ofPairs kept).trans (ofPairs_of_nodup distinct)

/-- The single table is in the spelling with underscores. -/
theorem renamed_single (options further : Entries) :
    (single options further).renamed = single options further := by
  refine renamed_of_snake (names_single options further ▸ nodup_eraseDups _) fun name member => ?_
  rw [names_single, List.mem_eraseDups] at member
  obtain ⟨pair, _, rfl⟩ := List.mem_map.mp member
  exact snakeName_snakeName pair.1

end Entries

namespace Marker.Config

/-- The two ways to make a configuration of options agree. Options of which none is given in both
spellings make the same configuration as they are spelled and in one spelling, or the same fault,
with the same details in the same order up to the spelling of names. Options with further ones, in
any mix of spellings, are a single table, in which a name has the value of the last further pair for
it, or if there is none of its last pair among the others. -/
theorem ofOptions_spellings :
    (∀ options : Entries, options.names.Nodup → options.OneSpelling →
      ofOptions options [] = (ofEntries options).mapError OptionFault.respelled) ∧
    ∀ options further : Entries,
      ofOptions options further = ofOptions (single options further) [] := by
  refine ⟨fun options distinct single => ofOptions_of_oneSpelling distinct single,
    fun options further => ?_⟩
  have table : (single options further).renamed.putAll (Entries.renamed []) =
      single options further := renamed_single options further
  rw [ofOptions, ofOptions, table, putAll_renamed]

/-- Options in a mix of spellings, two of them wrong and one unknown. -/
theorem ofOptions_spellings_wrong :
    let options : Entries :=
      [("tagName".toList, .text []), ("bogus".toList, .nothing),
        ("trim_left".toList, .text "maybe".toList)]
    options.names.Nodup ∧ options.OneSpelling ∧
      ofEntries options = .error (.invalid
        [⟨[.name "tagName".toList], .blankName⟩, ⟨[.name "trim_left".toList], .truthText⟩,
          ⟨[.name "bogus".toList], .unknownName⟩]) ∧
      ofOptions options [] = .error (.invalid
        [⟨[.name "tag_name".toList], .blankName⟩, ⟨[.name "trim_left".toList], .truthText⟩,
          ⟨[.name "bogus".toList], .unknownName⟩]) := by
  intro options
  have distinct : options.names.Nodup := by decide
  have single : options.OneSpelling := by
    intro setting
    cases setting <;> decide
  have wrong : ofEntries options = .error (.invalid
      [⟨[.name "tagName".toList], .blankName⟩, ⟨[.name "trim_left".toList], .truthText⟩,
        ⟨[.name "bogus".toList], .unknownName⟩]) := rfl
  refine ⟨distinct, single, wrong, ?_⟩
  rw [ofOptions_spellings.1 options distinct single, wrong]
  rfl

end Marker.Config

end Outdent
