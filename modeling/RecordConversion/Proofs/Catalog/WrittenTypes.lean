import RecordConversion.Proofs.Catalog.Built
import RecordConversion.Proofs.Declarations.Shapes
import RecordConversion.Proofs.HostType.RoundTrip

/-!
# Types that are written down

An expression denotes no record body at its outermost part, and a name that it denotes has a path
and is not empty.  In a built catalog aliases lead to types that have been written too, so what a
written type stands for is such a type.  A written type with the shape of a record therefore goes by
a name, which the shape shows.

* `HostType.expressible_of_ofExpression`: what is written is expressible.
* `Catalog.exists_recordRef?_of_written`: records go by names.
-/

namespace RecordConversion

namespace HostType

/-- A type is no record body, and if it is a name, this has a path and is not empty. -/
def Expressible : HostType → Prop
  | .record _ => False
  | .named ref => ref.path ≠ "" ∧ ref.name ≠ ""
  | _ => True

/-- A type that some expression denotes in a namespace. -/
def WrittenIn (home : String) (type : HostType) : Prop :=
  ∃ expression, ofExpression expression home = .ok type

theorem expressible_of_readLeaf
    {home : String} {cs : List Char} {type : HostType}
    (reads : readLeaf home cs = .ok type) :
    type.Expressible := by
  rw [readLeaf] at reads
  split_ifs at reads
  · cases reads
    trivial
  · cases reads
    trivial
  · split at reads
    · cases reads
      trivial
    · obtain ⟨path, name, -, ⟨present, -, identifier⟩, rfl⟩ := refers_of_readName reads
      have named : name ≠ [] := by
        rintro rfl
        cases identifier
      simpa [Expressible] using ⟨present, named⟩

theorem expressible_of_read
    {home : String} {cs : List Char} {type : HostType}
    (reads : read home cs = .ok type) :
    type.Expressible := by
  fun_induction read home cs generalizing type with
  | case1 => cases reads
  | case2 rest _ =>
      obtain ⟨target, -, rfl⟩ := map_eq_ok_iff.1 reads
      trivial
  | case3 rest _ =>
      obtain ⟨element, -, rfl⟩ := map_eq_ok_iff.1 reads
      trivial
  | case4 => cases reads
  | case5 => cases reads
  | case6 =>
      obtain ⟨value, -, rfl⟩ := map_eq_ok_iff.1 reads
      trivial
  | case7 cs => exact expressible_of_readLeaf reads

theorem expressible_of_ofExpression
    {expression home : String} {type : HostType}
    (reads : ofExpression expression home = .ok type) :
    type.Expressible :=
  expressible_of_read (ofExpression_eq_ok_iff.1 reads)

end HostType

/-! ## Meanings of written types -/

theorem Declarations.StandsFor.expressible
    {table : Declarations} {type meaning : HostType}
    (targets : ∀ type target, table.aliasTarget? type = some target → target.Expressible)
    (stands : table.StandsFor type meaning) (expressible : type.Expressible) :
    meaning.Expressible := by
  induction stands with
  | itself => exact expressible
  | through step _ ih => exact ih (targets _ _ step)

namespace Catalog

variable {config : CatalogConfig} {catalog : Catalog}

/-- The aliases of a built catalog lead to types that have been written. -/
theorem expressible_of_aliasTarget?
    (built : ofConfig config = .ok catalog) (type target : HostType)
    (step : catalog.table.aliasTarget? type = some target) :
    target.Expressible := by
  obtain ⟨ref, _, _, rfl, _⟩ := Declarations.exists_lookup_of_aliasTarget? step
  obtain ⟨_, _, _, _, _, _, parsed⟩ := exists_alias_of_ofConfig built step
  exact HostType.expressible_of_ofExpression parsed

/-- A written type with the shape of a record goes by a name that the shape shows. -/
theorem exists_recordRef?_of_written
    (built : ofConfig config = .ok catalog)
    {home : String} {type : HostType} (written : type.WrittenIn home)
    (record : (catalog.table.shapeOf type).kind = .record) :
    ∃ ref, (catalog.table.shapeOf type).recordRef? = some ref := by
  obtain ⟨expression, parsed⟩ := written
  obtain ⟨meaning, stands, shown⟩ :=
    Declarations.exists_record_of_isShapeOf (catalog.table.isShapeOf_shapeOf type) record
  have expressible : meaning.Expressible :=
    stands.expressible (expressible_of_aliasTarget? built)
      (HostType.expressible_of_ofExpression parsed)
  rcases shown with ⟨body, rfl⟩ | ⟨ref, rfl, shape⟩
  · cases expressible
  · exact ⟨ref, by rw [shape]; exact Shape.recordRef?_eq_some_iff.2 ⟨expressible, rfl⟩⟩

end Catalog
end RecordConversion
