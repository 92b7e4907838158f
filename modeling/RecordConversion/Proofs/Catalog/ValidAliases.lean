import RecordConversion.Catalog.Validation
import RecordConversion.Proofs.Catalog.Built
import RecordConversion.Proofs.Declarations.ExpansionEnds

/-!
# Aliases of accepted configurations

Validation looks at where the chain of aliases from each alias ends.  In the catalog of an accepted
configuration every type therefore stands for what it resolves to, and no alias leads back to itself
by such a chain alone.

It does not look below the top of an alias target.  An accepted alias may mention itself behind a
pointer or inside a slice, and then the recursions of expansion and of the search for an embedded
record do not end.  They end for every type exactly if no alias does so
(`CatalogConfig.noSelfMention_iff_of_validate`), which the expansions of the declared names tell.
-/

namespace RecordConversion

open HostType (Inside Behind Nowhere)

/-- An alias without faults resolves to a type that is not kept as text. -/
theorem TypeConfig.resolve_ne_other
    {config : TypeConfig} {catalog : Catalog} {ref : QualifiedName}
    (faultless : config.linkFaults catalog ref = [])
    (aliased : config.alias?.isSome = true)
    (spelling : String) :
    catalog.table.resolve (.named ref) ≠ .other spelling := by
  intro text
  simp [linkFaults, aliased, text] at faultless

namespace CatalogConfig

/-- An accepted configuration builds a catalog in which its declarations have no faults. -/
theorem exists_catalog_of_validate
    {config : CatalogConfig}
    (accepted : config.validate = []) :
    ∃ catalog, Catalog.ofConfig config = .ok catalog ∧ config.linkErrors catalog = [] := by
  rw [validate] at accepted
  split at accepted
  · split at accepted
    · next catalog built => exact ⟨catalog, built, accepted⟩
    · cases accepted
  · next some_errors => exact absurd accepted some_errors

theorem linkFaults_of_linkErrors
    {config : CatalogConfig} {catalog : Catalog}
    (faultless : config.linkErrors catalog = [])
    {ref : QualifiedName} {space : NamespaceConfig} {type : TypeConfig}
    (here : (ref.path, space) ∈ config.namespaces.entries)
    (given : (ref.name, type) ∈ space.types.entries) :
    type.linkFaults catalog ref = [] := by
  simp only [linkErrors, List.flatMap_eq_nil_iff, List.map_eq_nil_iff] at faultless
  exact faultless (ref.path, space) here (ref.name, type) given

/-- In the catalog of an accepted configuration every chain of aliases ends. -/
theorem exists_chainsEnd_of_validate
    {config : CatalogConfig}
    (accepted : config.validate = []) :
    ∃ catalog, Catalog.ofConfig config = .ok catalog ∧ catalog.table.ChainsEnd := by
  obtain ⟨catalog, built, faultless⟩ := exists_catalog_of_validate accepted
  refine ⟨catalog, built, Declarations.chainsEnd_of_aliases fun ref target step => ?_⟩
  obtain ⟨space, type, expression, here, given, aliased, -⟩ :=
    Catalog.exists_alias_of_ofConfig built step
  exact type.resolve_ne_other (linkFaults_of_linkErrors faultless here given) (by rw [aliased]; rfl)

/-! ## Recursions below the top -/

/-- Of an accepted configuration: no chain of aliases comes back to itself.  The recursions of
expansion and of the search for an embedded record end for every type exactly if no alias mentions
itself inside its target, or behind its pointers.  The expansions of the declared names tell whether
one does. -/
theorem noSelfMention_iff_of_validate
    {config : CatalogConfig}
    (accepted : config.validate = []) :
    ∃ catalog, Catalog.ofConfig config = .ok catalog ∧
      catalog.table.NoSelfMention Nowhere ∧
      (catalog.table.NoSelfMention Inside ↔ ∀ type, catalog.table.Ends Inside type) ∧
      (catalog.table.NoSelfMention Behind ↔ ∀ type, catalog.table.Ends Behind type) ∧
      (catalog.table.NoSelfMention Inside → catalog.table.NoSelfMention Behind) ∧
      (∀ type, (catalog.table.expand? type).isSome = true ↔ catalog.table.Ends Inside type) ∧
      (catalog.table.NoSelfMention Inside ↔
        ∀ ref ∈ catalog.table.names, (catalog.table.expand? (.named ref)).isSome = true) := by
  obtain ⟨catalog, built, chains⟩ := exists_chainsEnd_of_validate accepted
  have all_pieces :
      catalog.table.NoSelfMention Inside ↔ ∀ type, catalog.table.Ends Inside type :=
    chains.noSelfMention_iff_ends fun _ _ inside => inside
  have behind_pointers :
      catalog.table.NoSelfMention Behind ↔ ∀ type, catalog.table.Ends Behind type :=
    chains.noSelfMention_iff_ends fun _ _ => Behind.inside
  refine ⟨catalog, built, chains.noSelfMention_nowhere, all_pieces, behind_pointers, ?_,
    Declarations.isSome_expand?_iff_ends, ?_⟩
  · intro fresh
    exact behind_pointers.2 fun type =>
      (all_pieces.1 fresh type).of_inside fun _ _ => Behind.inside
  · simp only [Declarations.isSome_expand?_iff_ends]
    exact chains.noSelfMention_iff_names_end fun _ _ inside => inside

/-- A configured alias of a type expression. -/
def aliasOf (target : String) : TypeConfig :=
  ⟨none, none, some target, []⟩

/-- A configuration of one namespace. -/
def inModel (types : List (String × TypeConfig)) : CatalogConfig :=
  ⟨none, Keyed.ofList [("m", ⟨none, none, Keyed.ofList types⟩)]⟩

/-- Aliases of aliases, none of which mentions itself. -/
def nestedAliases : CatalogConfig :=
  inModel [("Key", aliasOf "string"), ("Keys", aliasOf "[]Key"), ("Index", aliasOf "map[Key]*Keys")]

theorem noSelfMention_iff_of_validate_nestedAliases :
    nestedAliases.validate = [] ∧
      ∃ catalog, Catalog.ofConfig nestedAliases = .ok catalog ∧
        catalog.table.NoSelfMention Inside ∧
        (∀ type, catalog.table.Ends Inside type) ∧
        ∀ type, catalog.table.Ends Behind type := by
  have accepted : nestedAliases.validate = [] := by decide +kernel
  have expanded :
      (Catalog.ofConfig nestedAliases).toOption.all (fun catalog =>
        catalog.table.names.all fun ref => (catalog.table.expand? (.named ref)).isSome) = true := by
    decide +kernel
  obtain ⟨catalog, built, -, inside, behind, weaker, -, names⟩ :=
    noSelfMention_iff_of_validate accepted
  have fresh : catalog.table.NoSelfMention Inside := by
    refine names.2 ?_
    simpa [built, Except.toOption] using expanded
  exact ⟨accepted, catalog, built, fresh, inside.1 fresh, behind.1 (weaker fresh)⟩

/-- A list of its own lists and a pointer to itself, by aliases. -/
def recursiveAliases : CatalogConfig :=
  inModel [("A", aliasOf "[]A"), ("P", aliasOf "*P")]

theorem not_noSelfMention_recursiveAliases :
    recursiveAliases.validate = [] ∧
      ∃ catalog, Catalog.ofConfig recursiveAliases = .ok catalog ∧
        ¬ catalog.table.NoSelfMention Inside ∧
        (¬ ∀ type, catalog.table.Ends Inside type) ∧
        ¬ ∀ type, catalog.table.Ends Behind type := by
  have accepted : recursiveAliases.validate = [] := by decide +kernel
  have targets :
      (Catalog.ofConfig recursiveAliases).toOption.all (fun catalog =>
        catalog.table.aliasTarget? (.named ⟨"m", "A"⟩) = some (.slice (.named ⟨"m", "A"⟩)) ∧
        catalog.table.aliasTarget? (.named ⟨"m", "P"⟩) = some (.pointer (.named ⟨"m", "P"⟩))) =
          true := by
    decide +kernel
  obtain ⟨catalog, built, chains⟩ := exists_chainsEnd_of_validate accepted
  obtain ⟨list_target, pointer_target⟩ :
      catalog.table.aliasTarget? (.named ⟨"m", "A"⟩) = some (.slice (.named ⟨"m", "A"⟩)) ∧
      catalog.table.aliasTarget? (.named ⟨"m", "P"⟩) = some (.pointer (.named ⟨"m", "P"⟩)) := by
    simpa [built, Except.toOption] using targets
  have inside_cycle : ¬ catalog.table.NoSelfMention Inside := fun fresh =>
    fresh ⟨"m", "A"⟩
      (.single ⟨_, list_target, .single (List.mem_singleton_self (HostType.named ⟨"m", "A"⟩))⟩)
  have pointer_cycle : ¬ catalog.table.NoSelfMention Behind := fun fresh =>
    fresh ⟨"m", "P"⟩ (.single ⟨_, pointer_target, .single rfl⟩)
  refine ⟨accepted, catalog, built, inside_cycle, ?_, ?_⟩
  · rwa [← chains.noSelfMention_iff_ends fun _ _ inside => inside]
  · rwa [← chains.noSelfMention_iff_ends fun _ _ => Behind.inside]

end CatalogConfig
end RecordConversion
