import Mathlib.Data.List.Nodup
import Outdent.Options.Entries

/-!
# Merging entries

What entries come to when more pairs are put into them. A look-up gives the last pair of a name, and
names stand in the order in which they are first given; by these two views entries with distinct
names are determined. Main statements: `lookup?_putAll`, the last pair counts, `names_putAll`, the
first one has the place, `eq_of_views`, nothing else matters, and `filter_putAll`, pairs that are
picked by name are merged for themselves.
-/
namespace Outdent.Entries

/-- The first pair is put before the others. -/
theorem putAll_cons (entries : Entries) (pair : Text × Value) (more : Entries) :
    entries.putAll (pair :: more) = (entries.put pair.1 pair.2).putAll more := rfl

/-- The name of the first entry comes first. -/
theorem names_cons (entry : Text × Value) (entries : Entries) :
    names (entry :: entries) = entry.1 :: entries.names := rfl

/-! ## Look-ups -/

/-- No name is found where there is nothing. -/
@[simp] theorem lookup?_nil (name : Text) : lookup? [] name = none := rfl

/-- The first entry has the name, or the others are asked. -/
theorem lookup?_cons (entry : Text × Value) (entries : Entries) (name : Text) :
    lookup? (entry :: entries) name =
      if entry.1 = name then some entry.2 else entries.lookup? name := by
  by_cases same : entry.1 = name <;> simp [lookup?, same]

/-- What comes first is asked first. -/
theorem lookup?_append (entries others : Entries) (name : Text) :
    lookup? (entries ++ others) name = (entries.lookup? name).or (others.lookup? name) := by
  rw [lookup?, lookup?, lookup?, List.find?_append, Option.map_or]

/-- A name is not found if there is no entry with it. -/
theorem lookup?_eq_none_iff (entries : Entries) (name : Text) :
    entries.lookup? name = none ↔ name ∉ entries.names := by
  induction entries with
  | nil => simp [names]
  | cons entry rest ih =>
    rw [lookup?_cons]
    unfold names at ih ⊢
    by_cases same : entry.1 = name
    · simp [same]
    · have differ : name ≠ entry.1 := fun equal => same equal.symm
      simp [same, differ, ih]

/-- Where every name is given once, what is there is found. -/
theorem lookup?_of_mem {entries : Entries} (distinct : entries.names.Nodup) {name : Text}
    {value : Value} (member : (name, value) ∈ entries) : entries.lookup? name = some value := by
  induction entries with
  | nil => cases member
  | cons entry rest ih =>
    obtain ⟨first, others⟩ := List.nodup_cons.mp distinct
    rw [lookup?_cons]
    rcases List.mem_cons.mp member with rfl | behind
    · exact if_pos rfl
    · have differ : entry.1 ≠ name := fun same =>
        first (List.mem_map.mpr ⟨(name, value), behind, same.symm⟩)
      rw [if_neg differ, ih others behind]

/-- Where every name is given once, the order does not matter. -/
theorem lookup?_reverse {entries : Entries} (distinct : entries.names.Nodup) (name : Text) :
    lookup? entries.reverse name = entries.lookup? name := by
  induction entries with
  | nil => rfl
  | cons entry rest ih =>
    obtain ⟨first, others⟩ := List.nodup_cons.mp distinct
    rw [List.reverse_cons, lookup?_append, ih others, lookup?_cons, lookup?_cons]
    by_cases same : entry.1 = name
    · have absent : lookup? rest name = none := (lookup?_eq_none_iff rest name).mpr (same ▸ first)
      simp [same, absent]
    · simp [same]

/-- Of pairs that are put into entries the last one with a name counts. -/
theorem lookup?_putAll (entries more : Entries) (name : Text) :
    (entries.putAll more).lookup? name =
      (lookup? more.reverse name).or (entries.lookup? name) := by
  induction more generalizing entries with
  | nil => rfl
  | cons pair rest ih =>
    rw [putAll_cons, ih, lookup?_put, List.reverse_cons, lookup?_append, lookup?_cons,
      Option.or_assoc]
    by_cases same : pair.1 = name <;> simp [same]

/-- Of pairs with the same name the last one counts. -/
theorem lookup?_ofPairs (pairs : Entries) (name : Text) :
    (ofPairs pairs).lookup? name = lookup? pairs.reverse name := by
  rw [ofPairs, lookup?_putAll, lookup?_nil, Option.or_none]

/-! ## Names -/

/-- Names stay distinct if one more is put. -/
theorem nodup_names_put {entries : Entries} (distinct : entries.names.Nodup) (name : Text)
    (value : Value) : (entries.put name value).names.Nodup := by
  rw [names_put]
  split
  · exact distinct
  · rename_i absent
    rw [List.nodup_append]
    refine ⟨distinct, List.nodup_singleton name, fun other member last here equal => ?_⟩
    have same : other = name := equal.trans (List.mem_singleton.mp here)
    exact absent (same ▸ member)

/-- Names stay distinct if more are put. -/
theorem nodup_names_putAll {entries : Entries} (distinct : entries.names.Nodup) (more : Entries) :
    (entries.putAll more).names.Nodup := by
  induction more generalizing entries with
  | nil => exact distinct
  | cons pair rest ih => exact ih (nodup_names_put distinct pair.1 pair.2)

/-- The names are those that were there and those that are put. -/
theorem mem_names_putAll (entries more : Entries) (name : Text) :
    name ∈ (entries.putAll more).names ↔ name ∈ entries.names ∨ name ∈ more.names := by
  induction more generalizing entries with
  | nil => exact (or_iff_left List.not_mem_nil).symm
  | cons pair rest ih =>
    rw [putAll_cons, ih, names_put, names_cons, List.mem_cons]
    by_cases there : pair.1 ∈ entries.names
    · rw [if_pos there]
      constructor
      · rintro (before | behind)
        · exact Or.inl before
        · exact Or.inr (Or.inr behind)
      · rintro (before | rfl | behind)
        · exact Or.inl before
        · exact Or.inl there
        · exact Or.inr behind
    · rw [if_neg there, List.mem_append, List.mem_singleton, or_assoc]

/-- Where there are no entries, names are distinct. -/
theorem nodup_names_nil : (names []).Nodup := List.nodup_nil

/-- Pairs of which later ones win have distinct names. -/
theorem nodup_names_ofPairs (pairs : Entries) : (ofPairs pairs).names.Nodup :=
  nodup_names_putAll nodup_names_nil pairs

/-- Names that are distinct stand there once. -/
theorem eraseDups_of_nodup {names : List Text} (distinct : names.Nodup) :
    names.eraseDups = names := by
  induction names with
  | nil => rfl
  | cons name rest ih =>
    obtain ⟨first, others⟩ := List.nodup_cons.mp distinct
    have kept : rest.filter (fun other => !other == name) = rest := by
      refine List.filter_eq_self.mpr fun other member => ?_
      have differ : other ≠ name := fun same => first (same ▸ member)
      simpa using differ
    rw [List.eraseDups_cons, kept, ih others]

/-- Names that are put stand behind the others, each where it is first given. -/
theorem names_putAll {entries : Entries} (distinct : entries.names.Nodup) (more : Entries) :
    (entries.putAll more).names = (entries.names ++ more.names).eraseDups := by
  induction more generalizing entries with
  | nil =>
    change entries.names = (entries.names ++ []).eraseDups
    rw [List.append_nil, eraseDups_of_nodup distinct]
  | cons pair rest ih =>
    rw [putAll_cons, ih (nodup_names_put distinct pair.1 pair.2), names_put]
    change _ = (entries.names ++ pair.1 :: names rest).eraseDups
    by_cases there : pair.1 ∈ entries.names
    · rw [if_pos there, List.eraseDups_append, List.eraseDups_append]
      have gone : (pair.1 :: names rest).removeAll entries.names =
          (names rest).removeAll entries.names := by
        simp [List.removeAll, there]
      rw [gone]
    · rw [if_neg there, List.append_assoc]
      rfl

/-- What is picked of names that stand there once is what is picked of all, once. -/
theorem filter_eraseDups (test : Text → Bool) :
    ∀ names : List Text, names.eraseDups.filter test = (names.filter test).eraseDups
  | [] => rfl
  | name :: rest => by
    have inside := filter_eraseDups test (rest.filter fun other => !other == name)
    rw [List.eraseDups_cons]
    by_cases picked : test name = true
    · rw [List.filter_cons_of_pos picked, List.filter_cons_of_pos picked, List.eraseDups_cons,
        inside, List.filter_filter, List.filter_filter]
      simp only [Bool.and_comm]
    · have gone : (rest.filter fun other => !other == name).filter test = rest.filter test := by
        rw [List.filter_filter]
        refine List.filter_congr fun other _ => ?_
        by_cases same : other = name
        · simp [same, picked]
        · simp [same]
      rw [List.filter_cons_of_neg picked, List.filter_cons_of_neg picked, inside, gone]
  termination_by names => names.length
  decreasing_by
    exact Nat.lt_succ_of_le (List.length_filter_le _ _)

/-- Names that stand there once are distinct. -/
theorem nodup_eraseDups : ∀ names : List Text, names.eraseDups.Nodup
  | [] => List.nodup_nil
  | name :: rest => by
    rw [List.eraseDups_cons, List.nodup_cons]
    refine ⟨fun member => ?_, nodup_eraseDups _⟩
    simp [List.mem_eraseDups] at member
  termination_by names => names.length
  decreasing_by
    exact Nat.lt_succ_of_le (List.length_filter_le _ _)

/-- Names that come later may stand there once before all of them are looked at. -/
theorem eraseDups_append_eraseDups (names others : List Text) :
    (names.eraseDups ++ others.eraseDups).eraseDups = (names ++ others).eraseDups := by
  have seen : others.eraseDups.removeAll names.eraseDups = (others.removeAll names).eraseDups := by
    rw [List.removeAll, List.removeAll, filter_eraseDups]
    simp [List.mem_eraseDups]
  rw [List.eraseDups_append, List.eraseDups_append, seen,
    eraseDups_of_nodup (nodup_eraseDups names), eraseDups_of_nodup (nodup_eraseDups _)]

/-- Entries with distinct names are determined by the order of their names and the value of each. -/
theorem eq_of_views {entries others : Entries} (distinct : entries.names.Nodup)
    (order : entries.names = others.names)
    (values : ∀ name, entries.lookup? name = others.lookup? name) : entries = others := by
  induction entries generalizing others with
  | nil =>
    cases others with
    | nil => rfl
    | cons => cases order
  | cons entry rest ih =>
    cases others with
    | nil => cases order
    | cons other more =>
      rw [names_cons, names_cons] at order
      obtain ⟨first, behind⟩ := List.cons.inj order
      rw [names_cons] at distinct
      obtain ⟨apart, distinct⟩ := List.nodup_cons.mp distinct
      have here := values entry.1
      rw [lookup?_cons, lookup?_cons, if_pos rfl, if_pos first.symm, Option.some.injEq] at here
      have later : ∀ name, lookup? rest name = lookup? more name := by
        intro name
        have there := values name
        rw [lookup?_cons, lookup?_cons, ← first] at there
        by_cases same : entry.1 = name
        · have absent : name ∉ names rest := same ▸ apart
          rw [(lookup?_eq_none_iff rest name).mpr absent,
            (lookup?_eq_none_iff more name).mpr (behind ▸ absent)]
        · rwa [if_neg same, if_neg same] at there
      rw [ih distinct behind later, Prod.ext first here]

/-! ## Pairs picked by name -/

section Picking

variable (test : Text → Bool)

/-- A name that is picked is put among those that are picked. -/
theorem filter_put (entries : Entries) (name : Text) (value : Value) :
    (entries.put name value).filter (fun entry => test entry.1) =
      if test name then put (entries.filter fun entry => test entry.1) name value
      else entries.filter fun entry => test entry.1 := by
  induction entries with
  | nil => by_cases picked : test name = true <;> simp [put, picked]
  | cons entry rest ih =>
    rw [put]
    by_cases same : entry.1 = name
    · by_cases picked : test name = true <;> simp [same, picked, put]
    · by_cases picked : test name = true <;> by_cases other : test entry.1 = true <;>
        simp [same, picked, other, put, ih]

/-- Pairs that are picked by name are merged for themselves. -/
theorem filter_putAll (entries more : Entries) :
    (entries.putAll more).filter (fun entry => test entry.1) =
      putAll (entries.filter fun entry => test entry.1) (more.filter fun pair => test pair.1) := by
  induction more generalizing entries with
  | nil => rfl
  | cons pair rest ih =>
    rw [putAll_cons, ih, filter_put, List.filter_cons]
    by_cases picked : test pair.1 = true
    · rw [if_pos picked, if_pos picked, putAll_cons]
    · rw [if_neg picked, if_neg picked]

/-- Entries picked by their values have the values that are picked. -/
theorem lookup?_filter {entries : Entries} (distinct : entries.names.Nodup)
    (picked : Value → Bool) (name : Text) :
    lookup? (entries.filter fun entry => picked entry.2) name =
      (entries.lookup? name).filter picked := by
  induction entries with
  | nil => rfl
  | cons entry rest ih =>
    obtain ⟨first, others⟩ := List.nodup_cons.mp distinct
    have absent : entry.1 = name → lookup? rest name = none := fun same =>
      (lookup?_eq_none_iff rest name).mpr (same ▸ first)
    rw [List.filter_cons]
    by_cases here : picked entry.2 = true
    · rw [if_pos here, lookup?_cons, lookup?_cons, ih others]
      by_cases same : entry.1 = name <;> simp [same, Option.filter_some, here]
    · rw [if_neg here, lookup?_cons, ih others]
      by_cases same : entry.1 = name <;> simp [same, Option.filter_some, here, absent]

end Picking

/-- Pairs with distinct names are the entries that they make. -/
theorem ofPairs_of_nodup {pairs : Entries} (distinct : pairs.names.Nodup) :
    ofPairs pairs = pairs := by
  refine eq_of_views (nodup_names_ofPairs pairs) ?_ fun name => ?_
  · rw [ofPairs, names_putAll nodup_names_nil]
    exact eraseDups_of_nodup distinct
  · rw [lookup?_ofPairs, lookup?_reverse distinct]

end Outdent.Entries
