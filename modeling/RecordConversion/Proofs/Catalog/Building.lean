import RecordConversion.Catalog.Validation
import RecordConversion.Proofs.Reading

/-!
# Configurations that build

Building a catalog reads the type expressions of a configuration, and nothing else can go wrong with
it.  The first round of validation reads every expression, so a configuration that shows no fault
there builds, and only the second round can find faults with it.

* `Catalog.exists_ofConfig`: a configuration of readable expressions builds.
* `CatalogConfig.exists_catalog_of_ownErrors`: a configuration without faults of the first round.
-/

namespace RecordConversion

/-- An expression denotes a type where it is written in a namespace. -/
def ReadableIn (home expression : String) : Prop :=
  ∃ type, HostType.ofExpression expression home = .ok type

namespace Catalog

theorem exists_readField
    {home : String} {field : FieldConfig}
    (readable : ReadableIn home field.type) :
    ∃ member, readField home field = .ok member := by
  obtain ⟨type, read⟩ := readable
  exact ⟨_, bind_eq_ok_iff.2 ⟨type, read, rfl⟩⟩

theorem exists_readMethod
    {home : String} {method : MethodConfig}
    (readable :
      ∀ expression ∈ method.params ++ method.returns?.toList, ReadableIn home expression) :
    ∃ read, readMethod home method = .ok read := by
  rw [List.forall_mem_append] at readable
  obtain ⟨params, taken⟩ := exists_mapM_eq_ok readable.1
  obtain ⟨returns, given⟩ := exists_mapM_eq_ok readable.2
  exact ⟨_, bind_eq_ok_iff.2 ⟨params, taken, bind_eq_ok_iff.2 ⟨returns, given, rfl⟩⟩⟩

/-- One form of a type is read, by the expressions that belong to it. -/
theorem exists_readDefinition
    {home : String} {config : TypeConfig}
    (readable : ∀ expression ∈ config.expressions, ReadableIn home expression) :
    ∃ definition, readDefinition home config = .ok definition := by
  rw [readDefinition]
  split
  · next target given =>
      obtain ⟨type, read⟩ := readable target (by simp [TypeConfig.expressions, given])
      exact ⟨_, map_eq_ok_iff.2 ⟨type, read, rfl⟩⟩
  · next body _ given =>
      obtain ⟨type, read⟩ := readable body (by simp [TypeConfig.expressions, given])
      exact ⟨_, map_eq_ok_iff.2 ⟨type, read, rfl⟩⟩
  · have fields :
        ∀ field ∈ config.fields?.getD [], ∃ member, readField home field = .ok member := by
      intro field here
      refine exists_readField (readable _ ?_)
      simp only [TypeConfig.expressions, List.mem_append]
      exact .inl (.inl (.inl (List.mem_map_of_mem here)))
    obtain ⟨members, listed⟩ := exists_mapM_eq_ok fields
    exact ⟨_, map_eq_ok_iff.2 ⟨members, listed, rfl⟩⟩

theorem exists_readDeclaration
    {home : String} {config : TypeConfig}
    (readable : ∀ expression ∈ config.expressions, ReadableIn home expression) (name : String) :
    ∃ declaration, readDeclaration home name config = .ok declaration := by
  have methods : ∀ method ∈ config.methods, ∃ read, readMethod home method = .ok read := by
    intro method here
    refine exists_readMethod fun expression part => readable expression ?_
    exact List.mem_append_right _ (List.mem_flatMap.2 ⟨method, here, part⟩)
  obtain ⟨definition, defined⟩ := exists_readDefinition readable
  obtain ⟨read, listed⟩ := exists_mapM_eq_ok methods
  exact ⟨_, bind_eq_ok_iff.2 ⟨definition, defined, bind_eq_ok_iff.2 ⟨read, listed, rfl⟩⟩⟩

theorem exists_readDeclarations
    {home : String} {config : NamespaceConfig}
    (readable : ∀ entry ∈ config.types.entries, ∀ expression ∈ entry.2.expressions,
      ReadableIn home expression) :
    ∃ declarations, readDeclarations home config = .ok declarations := by
  have types : ∀ entry ∈ config.types.entries, ∃ read,
      (readDeclaration home entry.1 entry.2).map (fun declaration => (entry.1, declaration)) =
        .ok read := by
    intro entry here
    obtain ⟨declaration, read⟩ := exists_readDeclaration (readable entry here) entry.1
    exact ⟨_, map_eq_ok_iff.2 ⟨declaration, read, rfl⟩⟩
  obtain ⟨entries, listed⟩ := exists_mapM_eq_ok types
  exact ⟨_, bind_eq_ok_iff.2 ⟨entries, listed, rfl⟩⟩

theorem exists_overlay
    (module? : Option String) (catalog : Catalog) {spaces : List (String × NamespaceConfig)}
    (readable : ∀ space ∈ spaces, ∀ entry ∈ space.2.types.entries,
      ∀ expression ∈ entry.2.expressions, ReadableIn space.1 expression) :
    ∃ built, overlay module? catalog spaces = .ok built := by
  induction spaces generalizing catalog with
  | nil => exact ⟨catalog, rfl⟩
  | cons first rest ih =>
      rw [List.forall_mem_cons] at readable
      obtain ⟨declarations, read⟩ := exists_readDeclarations readable.1
      obtain ⟨built, laid⟩ := ih (catalog.extend (describe module? first.1 first.2) declarations)
        readable.2
      exact ⟨built, bind_eq_ok_iff.2 ⟨declarations, read, laid⟩⟩

/-- A configuration builds if each of its expressions denotes a type. -/
theorem exists_ofConfig
    {config : CatalogConfig}
    (readable : ∀ space ∈ config.namespaces.entries, ∀ entry ∈ space.2.types.entries,
      ∀ expression ∈ entry.2.expressions, ReadableIn space.1 expression) :
    ∃ built, ofConfig config = .ok built :=
  exists_overlay _ _ readable

end Catalog

namespace TypeConfig

theorem readable_of_expressionFaults
    {home : String} {expressions : List String}
    (faultless : expressionFaults home expressions = [])
    {expression : String} (here : expression ∈ expressions) :
    ReadableIn home expression := by
  have unfaulty := List.filterMap_eq_nil_iff.1 faultless expression here
  cases read : HostType.ofExpression expression home with
  | ok type => exact ⟨type, read⟩
  | error fault => simp [read] at unfaulty

end TypeConfig

namespace CatalogConfig

variable {config : CatalogConfig}

/-- A configuration without faults of the first round has none in its declarations, and their names
are identifiers. -/
theorem faultless_of_ownErrors
    (faultless : config.ownErrors = [])
    {path name : String} {space : NamespaceConfig} {type : TypeConfig}
    (here : (path, space) ∈ config.namespaces.entries)
    (given : (name, type) ∈ space.types.entries) :
    type.faults path = [] ∧ Text.isIdentifier name.toList = true := by
  simp only [ownErrors, List.flatMap_eq_nil_iff, List.append_eq_nil_iff,
    List.map_eq_nil_iff] at faultless
  obtain ⟨named, own⟩ := (faultless (path, space) here).2 (name, type) given
  exact ⟨own, by simpa using named⟩

/-- A configuration without faults of the first round builds, and validation finds what the second
round finds in the catalog. -/
theorem exists_catalog_of_ownErrors
    (faultless : config.ownErrors = []) :
    ∃ catalog, Catalog.ofConfig config = .ok catalog ∧
      config.validate = config.linkErrors catalog := by
  have readable : ∀ space ∈ config.namespaces.entries, ∀ entry ∈ space.2.types.entries,
      ∀ expression ∈ entry.2.expressions, ReadableIn space.1 expression := by
    rintro ⟨path, space⟩ here ⟨name, type⟩ given expression written
    have own := (faultless_of_ownErrors faultless here given).1
    simp only [TypeConfig.faults, List.append_eq_nil_iff] at own
    exact TypeConfig.readable_of_expressionFaults own.2 written
  obtain ⟨catalog, built⟩ := Catalog.exists_ofConfig readable
  exact ⟨catalog, built, by rw [validate, faultless, built]⟩

end CatalogConfig
end RecordConversion
