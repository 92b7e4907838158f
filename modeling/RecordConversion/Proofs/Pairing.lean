import Mathlib.Data.List.Nodup
import RecordConversion.Pairing

/-!
# Pairing where names are distinct

Fields pair with the last target of their name.  Where no two fields of a record have one name,
apart from case, it does not matter which is the last one: the pairs are all pairs of fields of one
name, and they are the same both ways round.

* `mem_pairFields_iff`: which fields pair.
* `pairFields_perm_swap`: the pairs from the targets to the sources are those from the sources to
  the targets, turned round.
* `pairFields_append_ignore`: further ignored names only take pairs away.
-/

namespace RecordConversion

/-- The pair the other way round. -/
def FieldPair.swap (pair : FieldPair) : FieldPair :=
  ⟨pair.target, pair.source⟩

@[simp]
theorem FieldPair.swap_swap
    (pair : FieldPair) :
    pair.swap.swap = pair :=
  rfl

theorem FieldPair.swap_injective :
    Function.Injective FieldPair.swap := by
  intro pair other same
  rw [← pair.swap_swap, same, other.swap_swap]

/-- What is made of some elements, each of which can be read off from it, keeps their order. -/
theorem map_filterMap_sublist
    {α β : Type} {make : α → Option β} {read : β → α}
    (reads : ∀ item made, make item = some made → read made = item) (items : List α) :
    ((items.filterMap make).map read).Sublist items := by
  induction items with
  | nil => exact List.Sublist.refl _
  | cons first rest ih =>
      cases made : make first with
      | none => simpa [List.filterMap_cons, made] using ih.cons first
      | some result => simpa [List.filterMap_cons, made, reads first result made] using ih

/-- An element with a property at the end of a list is the last one with it. -/
theorem findRev?_concat {α : Type}
    {p : α → Bool} {before : List α} {last : α} (holds : p last = true) :
    (before ++ [last]).findRev? p = some last :=
  findRev?_eq_some_iff.2 ⟨holds, before, [], rfl, by simp⟩

/-- Where keys are distinct, the last element with a key is the one that has it. -/
theorem findRev?_eq_some_iff_of_nodup
    {α : Type} {key : α → String} {items : List α}
    (distinct : (items.map key).Nodup) {wanted : String} {item : α} :
    items.findRev? (fun other => key other == wanted) = some item ↔
      item ∈ items ∧ key item = wanted := by
  rw [findRev?_eq_some_iff, beq_iff_eq]
  constructor
  · rintro ⟨here, before, after, rfl, _⟩
    exact ⟨by simp, here⟩
  · rintro ⟨member, here⟩
    obtain ⟨before, after, rfl⟩ := List.append_of_mem member
    refine ⟨here, before, after, rfl, fun other later => ?_⟩
    rw [List.map_append, List.map_cons, List.nodup_append, List.nodup_cons] at distinct
    rw [beq_eq_false_iff_ne, ← here]
    intro same
    exact distinct.2.1.1 (same ▸ List.mem_map_of_mem later)

section Fields

variable {sources targets : List RecordField} {ignore : List String}

/-- The source fields of the pairs come in the order of the source. -/
theorem sources_pairFields_sublist
    (sources targets : List RecordField) (ignore : List String) :
    ((pairFields sources targets ignore).map FieldPair.source).Sublist sources := by
  apply map_filterMap_sublist
  intro field pair made
  split at made
  · cases made
  · obtain ⟨_, _, rfl⟩ := Option.map_eq_some_iff.1 made
    rfl

theorem mem_of_mem_pairFields
    {pair : FieldPair} (member : pair ∈ pairFields sources targets ignore) :
    pair.source ∈ sources ∧ pair.target ∈ targets := by
  obtain ⟨field, here, made⟩ := List.mem_filterMap.1 member
  split at made
  · cases made
  · obtain ⟨other, found, rfl⟩ := Option.map_eq_some_iff.1 made
    obtain ⟨_, before, after, shape, _⟩ := findRev?_eq_some_iff.1 found
    exact ⟨here, by simp [shape]⟩

/-- Where the names of the targets are distinct, two fields pair exactly if they have one name and
this is not ignored. -/
theorem mem_pairFields_iff
    (distinct : (targets.map RecordField.matchKey).Nodup) {pair : FieldPair} :
    pair ∈ pairFields sources targets ignore ↔
      pair.source ∈ sources ∧ pair.target ∈ targets ∧
        pair.target.matchKey = pair.source.matchKey ∧
          pair.source.matchKey ∉ ignoredKeys ignore := by
  obtain ⟨source, target⟩ := pair
  have found (field : RecordField) :
      targets.findRev? (fun other => other.matchKey == field.matchKey) = some target ↔
        target ∈ targets ∧ target.matchKey = field.matchKey :=
    findRev?_eq_some_iff_of_nodup distinct
  simp only [pairFields, List.mem_filterMap, List.contains_eq_mem, decide_eq_true_eq,
    Option.ite_none_left_eq_some, Option.map_eq_some_iff, FieldPair.mk.injEq]
  constructor
  · rintro ⟨_, member, kept, _, last, rfl, rfl⟩
    obtain ⟨member', same⟩ := (found _).1 last
    exact ⟨member, member', same, kept⟩
  · rintro ⟨member, member', same, kept⟩
    exact ⟨source, member, kept, target, (found source).2 ⟨member', same⟩, rfl, rfl⟩

/-- Where names are distinct, each source field is in at most one pair. -/
theorem nodup_source_keys_pairFields
    (distinct : (sources.map RecordField.matchKey).Nodup) :
    ((pairFields sources targets ignore).map fun pair => pair.source.matchKey).Nodup := by
  have ordered :=
    (sources_pairFields_sublist sources targets ignore).map RecordField.matchKey
  rw [List.map_map] at ordered
  exact ordered.nodup distinct

/-- The fields of a pair have one name, so each target field is in at most one pair too. -/
theorem nodup_target_keys_pairFields
    (distinct : (sources.map RecordField.matchKey).Nodup)
    (distinct' : (targets.map RecordField.matchKey).Nodup) :
    ((pairFields sources targets ignore).map fun pair => pair.target.matchKey).Nodup := by
  have one_name : ∀ pair ∈ pairFields sources targets ignore,
      pair.target.matchKey = pair.source.matchKey :=
    fun pair member => ((mem_pairFields_iff distinct').1 member).2.2.1
  rw [List.map_congr_left one_name]
  exact nodup_source_keys_pairFields distinct

/-- Where names are distinct on both sides, the pairs the other way are the same pairs turned
round. -/
theorem pairFields_perm_swap
    (distinct : (sources.map RecordField.matchKey).Nodup)
    (distinct' : (targets.map RecordField.matchKey).Nodup) :
    (pairFields targets sources ignore).Perm
      ((pairFields sources targets ignore).map FieldPair.swap) := by
  have back : (pairFields targets sources ignore).Nodup :=
    (nodup_source_keys_pairFields distinct').of_map _
  have there : (pairFields sources targets ignore).Nodup :=
    (nodup_source_keys_pairFields distinct).of_map _
  rw [List.perm_ext_iff_of_nodup back (there.map FieldPair.swap_injective)]
  intro pair
  rw [← pair.swap_swap, List.mem_map_of_injective FieldPair.swap_injective,
    mem_pairFields_iff distinct, mem_pairFields_iff distinct']
  constructor
  · rintro ⟨member, member', same, kept⟩
    exact ⟨member', member, same.symm, same ▸ kept⟩
  · rintro ⟨member, member', same, kept⟩
    exact ⟨member', member, same.symm, same ▸ kept⟩

end Fields

/-! ## Ignored names -/

theorem Text.lowercase_eq_empty_iff
    (s : String) :
    Text.lowercase s = "" ↔ s = "" := by
  rw [Text.lowercase, ← String.toList_eq_nil_iff, String.toList_ofList, ← String.toList_eq_nil_iff]
  cases s.toList with
  | nil => exact iff_of_true rfl rfl
  | cons c rest =>
      refine iff_of_false (fun empty => ?_) (List.cons_ne_nil c rest)
      rw [Text.lowerAfter, List.append_eq_nil_iff] at empty
      have some_character := empty.1
      rw [Text.lowerOf] at some_character
      split_ifs at some_character

/-- The name is the one that some entry gives, up to case and to blanks around the entry. -/
def NamedBy (entries : List String) (name : String) : Prop :=
  ∃ entry ∈ entries, Text.trim entry ≠ "" ∧ Text.lowercase name = Text.lowercase (Text.trim entry)

instance (entries : List String) (name : String) : Decidable (NamedBy entries name) :=
  inferInstanceAs (Decidable (∃ entry ∈ entries,
    Text.trim entry ≠ "" ∧ Text.lowercase name = Text.lowercase (Text.trim entry)))

/-- The ignored names are those of the entries that are not blank. -/
theorem lowercase_mem_ignoredKeys_iff
    {entries : List String} {name : String} :
    Text.lowercase name ∈ ignoredKeys entries ↔ NamedBy entries name := by
  simp only [ignoredKeys, NamedBy, List.mem_filter, List.mem_map, Bool.not_eq_true',
    String.isEmpty_eq_false_iff]
  constructor
  · rintro ⟨⟨entry, listed, same⟩, some_name⟩
    rw [← same, ne_eq, Text.lowercase_eq_empty_iff] at some_name
    exact ⟨entry, listed, some_name, same.symm⟩
  · rintro ⟨entry, listed, visible, same⟩
    refine ⟨⟨entry, listed, same.symm⟩, ?_⟩
    rwa [same, ne_eq, Text.lowercase_eq_empty_iff]

theorem ignoredKeys_append
    (ignore more : List String) :
    ignoredKeys (ignore ++ more) = ignoredKeys ignore ++ ignoredKeys more := by
  simp [ignoredKeys]

/-- Further ignored names take away the pairs whose source they name, and no others. -/
theorem pairFields_append_ignore
    (sources targets : List RecordField) (ignore more : List String) :
    pairFields sources targets (ignore ++ more) =
      (pairFields sources targets ignore).filter fun pair => ¬ NamedBy more pair.source.name := by
  rw [pairFields, pairFields, List.filter_filterMap]
  refine List.filterMap_congr fun field _ => ?_
  have named : field.matchKey ∈ ignoredKeys more ↔ NamedBy more field.name :=
    lowercase_mem_ignoredKeys_iff
  simp only [ignoredKeys_append, List.contains_eq_mem, List.mem_append, decide_eq_true_eq, named]
  by_cases ignored : field.matchKey ∈ ignoredKeys ignore
  · simp [ignored]
  · cases targets.findRev? (fun other => other.matchKey == field.matchKey) with
    | none => simp
    | some other =>
        by_cases taken : NamedBy more field.name <;> simp [ignored, taken, Option.filter]

end RecordConversion
