import RecordConversion.Proofs.Catalog.Discovery
import RecordConversion.Proofs.Catalog.References
import RecordConversion.Proofs.Plan.Extension

/-!
# Declarations that are added to a catalog

An accepted configuration uses declared names only, and so do the predeclared namespaces, whose
names stay declared when a configuration is laid over them.  So the table of its catalog is closed
(`Catalog.closed_of_linkErrors`), and a catalog that has more namespaces and more declarations gives
the same discoveries and plans.

* `Catalog.plan_eq_of_kept`: discoveries and plans from declared roots.
-/

namespace RecordConversion

namespace Catalog

variable {catalog larger : Catalog}

/-! ## Larger catalogs -/

theorem localName_of_load
    {path : String} {space : Namespace} (loaded : catalog.load path = .ok space) :
    catalog.localName path = space.localName := by
  rw [load] at loaded
  split at loaded
  · next found =>
      cases loaded
      rw [localName, found]
  · cases loaded

/-- A catalog that keeps what a closed one loads and declares keeps its answers. -/
theorem keepsAnswers_of_closed
    (declared : catalog.provider.LoadsDeclared) (closed : catalog.table.Closed)
    (loads : ∀ path space, catalog.load path = .ok space → larger.load path = .ok space)
    (lookups : ∀ ref declaration, catalog.lookup ref = some declaration →
      larger.lookup ref = some declaration) :
    catalog.provider.KeepsAnswers larger.provider := by
  have grows : catalog.table.Grows larger.table :=
    ⟨closed, fun ref declaration => by simpa only [lookup_table] using lookups ref declaration⟩
  exact {
    declared := declared
    declarations := grows
    load := loads
    localName := fun path space loaded => by
      exact (localName_of_load (loads path space loaded)).trans (localName_of_load loaded).symm
    identical := fun a b => grows.identical_eq
    assignable := fun a b => grows.assignable_eq
    convertible := fun a b => grows.convertible_eq
    supportsStringer := fun type => grows.supportsStringer_eq }

/-- A catalog that answers as the catalog of an accepted configuration wherever this has a namespace
or a declaration gives the same discoveries from its declared names and the same plans between them,
with the same reports. -/
theorem plan_eq_of_kept
    {config : CatalogConfig}
    (accepted : config.validate = []) (built : ofConfig config = .ok catalog)
    (loads : ∀ path space, catalog.load path = .ok space → larger.load path = .ok space)
    (lookups : ∀ ref declaration, catalog.lookup ref = some declaration →
      larger.lookup ref = some declaration) :
    (∀ root, (catalog.lookup root).isSome = true →
      larger.provider.discover root = catalog.provider.discover root) ∧
    ∀ request : PlanRequest, (catalog.lookup request.source).isSome = true →
      (catalog.lookup request.target).isSome = true →
        larger.provider.plan request = catalog.provider.plan request ∧
        ∀ resolver : Resolver, resolver.rules ⊆ Rule.standard →
          resolver.plan larger.provider request = resolver.plan catalog.provider request := by
  obtain ⟨other, built', faultless⟩ := CatalogConfig.exists_catalog_of_validate accepted
  obtain rfl : catalog = other := Except.ok.inj (built.symm.trans built')
  have keeps : catalog.provider.KeepsAnswers larger.provider :=
    keepsAnswers_of_closed (loadsDeclared_of_ofConfig built) (closed_of_linkErrors built faultless)
      loads lookups
  have declared {ref : QualifiedName} (known : (catalog.lookup ref).isSome = true) :
      ∃ declaration, catalog.provider.declarations.lookup ref = some declaration :=
    Option.isSome_iff_exists.1 ((catalog.lookup_table ref).symm ▸ known)
  constructor
  · intro root known
    obtain ⟨declaration, found⟩ := declared known
    exact keeps.discover_eq found
  · intro request known known'
    obtain ⟨source, from_declared⟩ := declared known
    obtain ⟨target, to_declared⟩ := declared known'
    have same {resolver : Resolver} (standard : resolver.rules ⊆ Rule.standard) :
        resolver.plan larger.provider request = resolver.plan catalog.provider request :=
      keeps.plan_eq standard from_declared to_declared
    refine ⟨?_, fun resolver => same⟩
    rw [Provider.plan, Provider.plan, same (List.Subset.refl _)]

/-- Books and the cards that stand for them, each with the next one. -/
def library : CatalogConfig :=
  let item (name added : String) : String × TypeConfig :=
    (name, ⟨some [⟨some "Title", "string", false, none⟩, ⟨some "Added", added, false, none⟩,
      ⟨some "Next", "*" ++ name, false, none⟩], none, none, []⟩)
  ⟨none, Keyed.ofList
    [("m", ⟨none, none, Keyed.ofList [item "Book" "time.Time"]⟩),
      ("d", ⟨none, none, Keyed.ofList [item "Card" "string"]⟩)]⟩

/-- The catalog with a further namespace, which has books of its own. -/
def withArchive (catalog : Catalog) : Catalog :=
  catalog.extend ⟨"archive", "archive", none⟩
    (Keyed.ofList [("Book", ⟨⟨"archive", "Book"⟩, .alias (.named ⟨"m", "Book"⟩), []⟩)])

/-- A namespace that was not there leaves the others as they are. -/
theorem withArchive_keeps
    (fresh : catalog.spaces.get? "archive" = none) :
    (∀ path space, catalog.load path = .ok space → catalog.withArchive.load path = .ok space) ∧
      ∀ ref declaration, catalog.lookup ref = some declaration →
        catalog.withArchive.lookup ref = some declaration := by
  constructor
  · intro path space loaded
    have other : path ≠ "archive" := by
      rintro rfl
      simp [load, fresh] at loaded
    rw [load, withArchive, get?_extend_of_ne _ _ _ other]
    exact loaded
  · intro ref declaration found
    have other : ref.path ≠ "archive" := by
      intro here
      simp [lookup, here, fresh] at found
    rw [lookup, withArchive, get?_extend_of_ne _ _ _ other]
    exact found

/-- Books become cards by one plan, with or without the archive. -/
theorem plan_eq_of_kept_library :
    library.validate = [] ∧
    ∃ catalog plan, ofConfig library = .ok catalog ∧
      (catalog.lookup ⟨"archive", "Book"⟩).isSome = false ∧
      (catalog.withArchive.lookup ⟨"archive", "Book"⟩).isSome = true ∧
      (catalog.provider.plan ⟨"m", "Book", "d", "Card", none, []⟩).value = .ok plan ∧
      (catalog.withArchive.provider.plan ⟨"m", "Book", "d", "Card", none, []⟩).value =
        .ok plan := by
  have accepted : library.validate = [] := by decide +kernel
  have computed :
      (ofConfig library).toOption.any (fun catalog =>
        (catalog.spaces.get? "archive").isNone ∧
        (catalog.lookup ⟨"m", "Book"⟩).isSome ∧ (catalog.lookup ⟨"d", "Card"⟩).isSome ∧
        (catalog.provider.plan ⟨"m", "Book", "d", "Card", none, []⟩).value.toOption.isSome) =
          true := by
    decide +kernel
  cases built : ofConfig library with
  | error cause => simp [built, Except.toOption] at computed
  | ok catalog =>
      obtain ⟨fresh, books, cards, planned⟩ :
          catalog.spaces.get? "archive" = none ∧
          (catalog.lookup ⟨"m", "Book"⟩).isSome = true ∧
          (catalog.lookup ⟨"d", "Card"⟩).isSome = true ∧
          (catalog.provider.plan ⟨"m", "Book", "d", "Card", none, []⟩).value.toOption.isSome =
            true := by
        simpa [built, Except.toOption] using computed
      obtain ⟨loads, lookups⟩ := withArchive_keeps fresh
      cases answered : (catalog.provider.plan ⟨"m", "Book", "d", "Card", none, []⟩).value with
      | error cause => simp [answered, Except.toOption] at planned
      | ok plan =>
          obtain ⟨same, _⟩ := (plan_eq_of_kept accepted built loads lookups).2
            ⟨"m", "Book", "d", "Card", none, []⟩ books cards
          refine ⟨accepted, catalog, plan, rfl, ?_, ?_, answered, same ▸ answered⟩
          · simp [lookup, fresh]
          · simp only [withArchive, extend, fresh, lookup, Keyed.get?_insert, if_true,
              Option.bind_some]
            rfl

end Catalog
end RecordConversion
