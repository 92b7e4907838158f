import RecordConversion.Proofs.Catalog.Lookup
import RecordConversion.Proofs.Catalog.ValidAliases
import RecordConversion.Proofs.Discovery.DeclaredReferences

/-!
# Discovery in a catalog

A catalog loads every namespace that declares something, under the path that is asked for, whether
its configuration is valid or not.

* `Catalog.discover_keeps_references`: what a discovery in a catalog answers.
-/

namespace RecordConversion
namespace Catalog

/-- A catalog loads what it declares. -/
theorem loadsDeclared_of_ofConfig
    {config : CatalogConfig} {catalog : Catalog}
    (built : ofConfig config = .ok catalog) :
    catalog.provider.LoadsDeclared where
  asked := loadsAsAsked_of_ofConfig built
  loads := by
    intro ref declaration found
    obtain ⟨space, here, _⟩ := lookup_table_iff.1 found
    exact ⟨space.info, by simp [provider, load, here]⟩

/-- In a catalog, valid or not, a discovery fails exactly if there is no record of its root, and
says the same about it.  Otherwise each record is what its own name stands for, the last one is that
of the root, and what a record refers to within the boundary is among them.  No reference is
skipped. -/
theorem discover_keeps_references
    {config : CatalogConfig} {catalog : Catalog}
    (built : ofConfig config = .ok catalog) (root : QualifiedName) :
    (∀ error, (catalog.provider.discover root).value = .error error ↔
      catalog.provider.record? root = .error error) ∧
    (∀ records, (catalog.provider.discover root).value = .ok records →
      (∀ record ∈ records, catalog.provider.record? record.key = .ok record) ∧
      (∃ before record, catalog.provider.record? root = .ok record ∧
        records = before ++ [record]) ∧
      ∃ space, catalog.load root.path = .ok space ∧
        ∀ record ∈ records, ∀ field ∈ record.fields, ∀ target,
          field.shape.nestedRecord? = some target →
            inBoundary space.rootModule? record.path target.path = true →
              target ∈ records.map Record.key) ∧
    (catalog.provider.discover root).warnings = [] := by
  have declared := loadsDeclared_of_ofConfig built
  refine ⟨fun error => declared.discover_error_iff, ?_, declared.warnings_discover root⟩
  intro records answered
  obtain ⟨before, last, found, shape, _⟩ := Provider.exists_root_of_discover answered
  obtain ⟨space, loaded⟩ := Provider.exists_load_of_discover answered
  obtain ⟨after, run, rfl⟩ := Provider.exists_finishes_of_discover loaded answered
  refine ⟨fun record => run.record?_key declared.asked, ⟨before, last, found, shape⟩,
    space, loaded, ?_⟩
  intro record member field listed target names inside
  exact declared.mem_keys_of_refers loaded answered member
    (run.refers_of_field declared.asked member listed names inside)

/-- Nodes with a next node, a name that is declared nowhere, and a list of nodes as an alias. -/
def danglingNodes : CatalogConfig :=
  .inModel
    [("Node", ⟨some [⟨some "Next", "*Node", false, none⟩, ⟨some "Mark", "Missing", false, none⟩,
      ⟨some "Tree", "Tree", false, none⟩], none, none, []⟩),
     ("Tree", ⟨some [⟨some "Nodes", "Nodes", false, none⟩], none, none, []⟩),
     ("Nodes", CatalogConfig.aliasOf "[]Node")]

/-- From a tree its nodes are discovered, and the name that is declared nowhere is no record. -/
theorem discover_keeps_references_danglingNodes :
    danglingNodes.validate ≠ [] ∧
    ∃ catalog records error, ofConfig danglingNodes = .ok catalog ∧
      (catalog.provider.discover ⟨"m", "Tree"⟩).value = .ok records ∧
      records.map Record.key = [⟨"m", "Node"⟩, ⟨"m", "Tree"⟩] ∧
      (∀ record ∈ records, catalog.provider.record? record.key = .ok record) ∧
      (catalog.provider.discover ⟨"m", "Tree"⟩).warnings = [] ∧
      (catalog.provider.discover ⟨"m", "Missing"⟩).value = .error error ∧
      catalog.provider.record? ⟨"m", "Missing"⟩ = .error error := by
  have invalid : danglingNodes.validate ≠ [] := by decide +kernel
  have computed :
      (ofConfig danglingNodes).toOption.any (fun catalog =>
        (catalog.provider.discover ⟨"m", "Tree"⟩).value.map (·.map Record.key) =
          .ok [⟨"m", "Node"⟩, ⟨"m", "Tree"⟩] ∧
        catalog.provider.record? ⟨"m", "Missing"⟩ = .error (.notFound ⟨"m", "Missing"⟩)) =
          true := by
    decide +kernel
  cases built : ofConfig danglingNodes with
  | error cause => simp [built, Except.toOption] at computed
  | ok catalog =>
      obtain ⟨found, missing⟩ :
          (catalog.provider.discover ⟨"m", "Tree"⟩).value.map (·.map Record.key) =
            .ok [⟨"m", "Node"⟩, ⟨"m", "Tree"⟩] ∧
          catalog.provider.record? ⟨"m", "Missing"⟩ = .error (.notFound ⟨"m", "Missing"⟩) := by
        simpa [built, Except.toOption] using computed
      obtain ⟨records, answered, keys⟩ := map_eq_ok_iff.1 found
      obtain ⟨_, kept, silent⟩ := discover_keeps_references built ⟨"m", "Tree"⟩
      obtain ⟨fails, _⟩ := discover_keeps_references built ⟨"m", "Missing"⟩
      exact ⟨invalid, catalog, records, _, rfl, answered, keys, (kept records answered).1,
        silent, (fails _).2 missing, missing⟩

end Catalog
end RecordConversion
