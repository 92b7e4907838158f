import RecordConversion.Proofs.Discovery.Reachability
import RecordConversion.Proofs.Embedding.Selection
import RecordConversion.Proofs.Pairing

/-!
# The fields of discovered records

Every record of a discovery has been built by bringing its fields together.  So no two of its fields
have one name, apart from case, and each field carries the shape of its type.

* `Provider.tidy_of_discover`: this holds of all records of a discovery.
-/

namespace RecordConversion

/-- The fields of a record have distinct names and the shapes of their types. -/
structure Record.Tidy
    (record : Record) (table : Declarations) : Prop where
  distinct : (record.fields.map RecordField.matchKey).Nodup
  classified : ∀ field ∈ record.fields, field.shape = table.shapeOf field.type

namespace Provider

variable {provider : Provider}

theorem nodup_keys_fieldsOf
    (ref : QualifiedName) (members : List Field) :
    ((provider.fieldsOf ref members).map RecordField.matchKey).Nodup := by
  rw [fieldsOf_eq_leading]
  exact Selection.nodup_names_fields_leading _

theorem shape_of_mem_fieldsOf
    {ref : QualifiedName} {members : List Field} {field : RecordField}
    (offered : field ∈ provider.fieldsOf ref members) :
    field.shape = provider.declarations.shapeOf field.type := by
  obtain ⟨member, _, _, _, trail, via, rfl⟩ := exists_member_of_mem_fieldsOf offered
  rfl

theorem tidy_of_record?
    {ref : QualifiedName} {record : Record}
    (built : provider.record? ref = .ok record) :
    record.Tidy provider.declarations := by
  obtain ⟨space, _, inside⟩ := record?_eq_ok_iff.1 built
  obtain ⟨body, _, rfl⟩ := exists_body_of_recordIn inside
  exact ⟨nodup_keys_fieldsOf _ _, fun field => shape_of_mem_fieldsOf⟩

theorem exists_built_of_discover
    {root : QualifiedName} {records : List Record}
    (answered : (provider.discover root).value = .ok records)
    {record : Record} (member : record ∈ records) :
    ∃ ref, provider.record? ref = .ok record := by
  obtain ⟨space, loaded⟩ := exists_load_of_discover answered
  obtain ⟨after, run, rfl⟩ := exists_finishes_of_discover loaded answered
  exact run.built (by simp [Discovery.start]) record member

/-- The records of a discovery have fields of distinct names with the shapes of their types. -/
theorem tidy_of_discover
    {root : QualifiedName} {records : List Record}
    (answered : (provider.discover root).value = .ok records)
    {record : Record} (member : record ∈ records) :
    record.Tidy provider.declarations := by
  obtain ⟨ref, built⟩ := exists_built_of_discover answered member
  exact tidy_of_record? built

end Provider
end RecordConversion
