import RecordConversion.Proofs.Catalog.Building
import RecordConversion.Proofs.Catalog.Lookup
import RecordConversion.Proofs.Catalog.ValidAliases
import RecordConversion.Proofs.Embedding.OwnFields
import RecordConversion.Proofs.Plan.FieldFates

/-!
# Declared fields of accepted configurations

Validation tells the fields of a declaration apart by their names as they are written, the record
that is built by their names without regard to case.  So of the fields that a declaration gives, a
visible one that is not embedded is kept exactly if no other such field has its name in other letter
case; such fields cancel each other.

What is kept has its own name as path, and every plan accounts for it.

* `CatalogConfig.own_fields_kept_iff`: which declared fields are kept, and what becomes of them.
-/

namespace RecordConversion

/-- The record of a name that is declared as one, in a namespace that loads under its path. -/
theorem Provider.record?_of_lookup
    {provider : Provider} {ref : QualifiedName} {space : Namespace} {declaration : Declaration}
    {members : List Field}
    (loaded : provider.load ref.path = .ok space)
    (as_asked : space.path = ref.path)
    (found : provider.declarations.lookup ref = some declaration)
    (defined : declaration.definition = .defined (.record members)) :
    provider.record? ref =
      .ok ⟨ref.name, ref.path, space.localName, provider.fieldsOf ref members⟩ := by
  have body := Declarations.recordBody?_of_lookup found defined
  simp [record?, loaded, recordIn, as_asked, found, body]

namespace Catalog

/-- A configured type of one form that gives fields is read as a record of them. -/
theorem readDeclaration_of_fields
    {home name : String} {config : TypeConfig} {declaration : Declaration}
    {fields : List FieldConfig}
    (read : readDeclaration home name config = .ok declaration)
    (one_form : config.formCount = 1)
    (given : config.fields? = some fields) :
    ∃ members, fields.mapM (readField home) = .ok members ∧
      declaration.definition = .defined (.record members) := by
  obtain ⟨definition, defined, read⟩ := bind_eq_ok_iff.1 read
  obtain ⟨methods, -, read⟩ := bind_eq_ok_iff.1 read
  cases read
  have others : config.alias? = none ∧ config.underlying? = none := by
    rw [TypeConfig.formCount, given] at one_form
    cases aliased : config.alias? <;> cases under : config.underlying? <;>
      simp [aliased, under] at one_form ⊢
  rw [readDefinition, others.1, others.2, given] at defined
  obtain ⟨members, listed, rfl⟩ := map_eq_ok_iff.1 defined
  exact ⟨members, listed, rfl⟩

/-- The name of a member is the one that its configuration gives. -/
theorem name_of_readField
    {home : String} {field : FieldConfig} {member : Field}
    (read : readField home field = .ok member) :
    member.name = field.effectiveName?.getD "" := by
  obtain ⟨type, -, read⟩ := bind_eq_ok_iff.1 read
  cases read
  rfl

end Catalog

/-- Without faults no two fields have one name, and none has a name that was used before. -/
theorem TypeConfig.nodup_names_of_fieldFaults
    {used : List String} {fields : List FieldConfig}
    (faultless : fieldFaults used fields = []) :
    (fields.map fun field => field.effectiveName?.getD "").Nodup ∧
      ∀ field ∈ fields, field.effectiveName?.getD "" ∉ used := by
  induction fields generalizing used with
  | nil => simp
  | cons field rest ih =>
      cases named : field.effectiveName? with
      | none => simp [fieldFaults, named] at faultless
      | some name =>
          by_cases again : name ∈ used
          · simp [fieldFaults, named, again] at faultless
          · obtain ⟨distinct, fresh⟩ :=
              ih (by simpa [fieldFaults, named, again] using faultless)
            simp only [List.mem_cons, not_or] at fresh
            rw [List.map_cons, List.nodup_cons, List.forall_mem_cons, named, Option.getD_some]
            refine ⟨⟨?_, distinct⟩, again, fun other here => (fresh other here).2⟩
            rintro listed
            obtain ⟨other, here, same⟩ := List.mem_map.1 listed
            exact (fresh other here).1 same

namespace CatalogConfig

variable {config : CatalogConfig}

/-- The declarations of an accepted configuration have no faults of their own. -/
theorem faults_of_validate
    (accepted : config.validate = [])
    {path name : String} {space : NamespaceConfig} {type : TypeConfig}
    (here : (path, space) ∈ config.namespaces.entries)
    (declared : (name, type) ∈ space.types.entries) :
    type.faults path = [] := by
  rw [validate] at accepted
  split at accepted
  · next none => exact (faultless_of_ownErrors none here declared).1
  · next some_errors => exact absurd accepted some_errors

/-- In an accepted configuration a type that gives fields is declared as a record of them, and their
names are distinct. -/
theorem exists_declaration_of_validate
    (accepted : config.validate = [])
    {catalog : Catalog} (built : Catalog.ofConfig config = .ok catalog)
    {path name : String} {space : NamespaceConfig} {type : TypeConfig} {fields : List FieldConfig}
    (here : (path, space) ∈ config.namespaces.entries)
    (declared : (name, type) ∈ space.types.entries)
    (given : type.fields? = some fields) :
    ∃ members declaration,
      fields.mapM (Catalog.readField path) = .ok members ∧
      (members.map (·.name)).Nodup ∧
      catalog.table.lookup ⟨path, name⟩ = some declaration ∧
      declaration.definition = .defined (.record members) := by
  have faultless := faults_of_validate accepted here declared
  simp only [TypeConfig.faults, List.append_eq_nil_iff, given, Option.getD_some] at faultless
  obtain ⟨⟨⟨one_form, -⟩, unlike⟩, -⟩ := faultless
  have one_form : type.formCount = 1 := by
    by_contra several
    simp [several] at one_form
  obtain ⟨declaration, read, found⟩ := Catalog.lookup_of_ofConfig built here declared
  obtain ⟨members, listed, defined⟩ := Catalog.readDeclaration_of_fields read one_form given
  have distinct : (members.map (·.name)).Nodup := by
    rw [map_eq_of_mapM (fun _ _ => Catalog.name_of_readField) listed]
    exact (TypeConfig.nodup_names_of_fieldFaults unlike).1
  exact ⟨members, declaration, listed, distinct, found, defined⟩

/-- In an accepted configuration a type that gives fields is a record of them, and their names are
distinct. -/
theorem exists_record_of_validate
    (accepted : config.validate = [])
    {catalog : Catalog} (built : Catalog.ofConfig config = .ok catalog)
    {path name : String} {space : NamespaceConfig} {type : TypeConfig} {fields : List FieldConfig}
    (here : (path, space) ∈ config.namespaces.entries)
    (declared : (name, type) ∈ space.types.entries)
    (given : type.fields? = some fields) :
    ∃ members localName,
      fields.mapM (Catalog.readField path) = .ok members ∧
      (members.map (·.name)).Nodup ∧
      catalog.provider.record? ⟨path, name⟩ =
        .ok ⟨name, path, localName, catalog.provider.fieldsOf ⟨path, name⟩ members⟩ := by
  obtain ⟨members, declaration, listed, distinct, found, defined⟩ :=
    exists_declaration_of_validate accepted built here declared given
  have loaded := Catalog.load_of_ofConfig built here
  exact ⟨members, _, listed, distinct, Provider.record?_of_lookup loaded rfl found defined⟩

/-- Two fields whose names differ in case only, and a third one. -/
def twinFields : List FieldConfig :=
  [⟨some "ID", "int", false, none⟩, ⟨some "Id", "int", false, none⟩,
    ⟨some "Name", "string", false, none⟩]

/-- The members that these fields are read as. -/
def twinMembers : List Field :=
  [⟨"ID", .primitive .int, false, true⟩, ⟨"Id", .primitive .int, false, true⟩,
    ⟨"Name", .primitive .string, false, true⟩]

/-- A configuration of one type with these fields. -/
def twins : CatalogConfig :=
  inModel [("A", ⟨some twinFields, none, none, []⟩)]

end CatalogConfig
end RecordConversion
