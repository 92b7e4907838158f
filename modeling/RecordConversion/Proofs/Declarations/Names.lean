import RecordConversion.Declarations.Basic
import RecordConversion.Proofs.FinitePool

/-!
# Declared names

A table declares finitely many names.  Whatever enters a new declared name at each step, such as
the way through embedded members or the discovery of records, ends after as many steps as there
are names left.

`Declarations.unseen` counts what is left, and `Declarations.mem_names_of_recordBody?` says that
every name of a record is declared.
-/

namespace RecordConversion
namespace Declarations

variable (table : Declarations)

/-- The declared names, in the order of the table. -/
def names : List QualifiedName :=
  table.entries.map Prod.fst

/-- The number of declared names that are not among the given ones. -/
def unseen (seen : List QualifiedName) : Nat :=
  table.names.countP fun name => !seen.contains name

variable {table : Declarations}

theorem mem_names_of_lookup
    {ref : QualifiedName} {declaration : Declaration}
    (found : table.lookup ref = some declaration) :
    ref ∈ table.names := by
  obtain ⟨before, after, shape, -⟩ := List.lookup_eq_some_iff.1 found
  rw [names, shape]
  simp

/-- Only a name that is declared as an alias has a target. -/
theorem exists_lookup_of_aliasTarget?
    {type target : HostType}
    (step : table.aliasTarget? type = some target) :
    ∃ ref name methods, type = .named ref ∧
      table.lookup ref = some ⟨name, .alias target, methods⟩ := by
  cases type with
  | named ref =>
      rw [aliasTarget?] at step
      split at step
      · next name _ methods found =>
          cases step
          exact ⟨ref, name, methods, rfl, found⟩
      · cases step
  | _ => cases step

theorem exists_alias_of_aliasTarget?
    {type target : HostType}
    (step : table.aliasTarget? type = some target) :
    ∃ ref declaration, type = .named ref ∧ (ref, declaration) ∈ table.entries ∧
      declaration.definition = .alias target := by
  obtain ⟨ref, name, methods, rfl, found⟩ := exists_lookup_of_aliasTarget? step
  obtain ⟨before, after, shape, -⟩ := List.lookup_eq_some_iff.1 found
  exact ⟨ref, ⟨name, .alias target, methods⟩, rfl, by simp [shape], rfl⟩

theorem resolve_of_lookup_eq_none
    {ref : QualifiedName}
    (missing : table.lookup ref = none) :
    table.resolve (.named ref) = .named ref := by
  have target : table.aliasTarget? (.named ref) = none := by
    simp [aliasTarget?, missing]
  simp [resolve, expansionLimit, resolveWithin, target]

theorem underlying_of_lookup_eq_none
    {ref : QualifiedName}
    (missing : table.lookup ref = none) :
    table.underlying (.named ref) = .named ref := by
  have body : table.definitionOf? (.named ref) = none := by
    simp [definitionOf?, missing]
  simp [underlying, resolve_of_lookup_eq_none missing, expansionLimit, underlyingWithin, body]

theorem exists_lookup_of_recordBody?
    {ref : QualifiedName} {body : List Field}
    (found : table.recordBody? (.named ref) = some body) :
    ∃ declaration, table.lookup ref = some declaration := by
  cases entry : table.lookup ref with
  | some declaration => exact ⟨declaration, rfl⟩
  | none => simp [recordBody?, underlying_of_lookup_eq_none entry] at found

/-- The name of a record is declared. -/
theorem mem_names_of_recordBody?
    {ref : QualifiedName} {body : List Field}
    (found : table.recordBody? (.named ref) = some body) :
    ref ∈ table.names := by
  obtain ⟨declaration, entry⟩ := exists_lookup_of_recordBody? found
  exact mem_names_of_lookup entry

/-! ## Names that are left -/

theorem unseen_le_length
    (seen : List QualifiedName) :
    table.unseen seen ≤ table.entries.length := by
  have bound : table.unseen seen ≤ table.names.length := List.countP_le_length
  rwa [names, List.length_map] at bound

theorem unseen_le_of_subset
    {seen more : List QualifiedName}
    (grown : seen ⊆ more) :
    table.unseen more ≤ table.unseen seen := by
  apply List.countP_mono_left
  intro name _ fresh
  simp only [Bool.not_eq_true', List.contains_eq_mem, decide_eq_false_iff_not] at fresh ⊢
  exact fun old => fresh (grown old)

/-- A declared name that is seen for the first time is one less that is left. -/
theorem unseen_cons_lt
    {seen : List QualifiedName} {ref : QualifiedName}
    (declared : ref ∈ table.names)
    (fresh : ref ∉ seen) :
    table.unseen (ref :: seen) < table.unseen seen := by
  refine countP_lt_countP ?_ declared (by simpa using fresh) (by simp)
  intro name _ unmet
  simp only [List.contains_cons, Bool.not_or, Bool.and_eq_true] at unmet
  exact unmet.2

end Declarations
end RecordConversion
