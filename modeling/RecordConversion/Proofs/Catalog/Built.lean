import RecordConversion.Catalog.Basic
import RecordConversion.Proofs.Declarations.Names
import RecordConversion.Proofs.Reading

/-!
# Built catalogs

A catalog is built by laying the configured namespaces over the predeclared ones.  Every declaration
of the table of a built catalog is read from the type that the configuration gives under its name,
or predeclared (`Catalog.mem_table_ofConfig`).

No predeclared name is an alias, so every alias is configured (`Catalog.exists_alias_of_ofConfig`).
-/

namespace RecordConversion

namespace Catalog

/-- The names and declarations of a table are those of the namespaces. -/
theorem mem_table_iff
    {catalog : Catalog} {ref : QualifiedName} {declaration : Declaration} :
    (ref, declaration) ∈ catalog.table.entries ↔
      ∃ space, (ref.path, space) ∈ catalog.spaces.entries ∧
        (ref.name, declaration) ∈ space.declarations.entries := by
  obtain ⟨path, name⟩ := ref
  simp only [table, List.mem_flatMap, List.mem_map, Prod.exists, Prod.mk.injEq,
    QualifiedName.mk.injEq]
  constructor
  · rintro ⟨_, space, here, _, _, inner, ⟨rfl, rfl⟩, rfl⟩
    exact ⟨space, here, inner⟩
  · rintro ⟨space, here, inner⟩
    exact ⟨path, space, here, name, declaration, inner, ⟨rfl, rfl⟩, rfl⟩

/-! ## Reading declarations -/

theorem exists_of_mem_readDeclarations
    {home : String} {config : NamespaceConfig} {declarations : Keyed Declaration}
    (read : readDeclarations home config = .ok declarations)
    {name : String} {declaration : Declaration}
    (member : (name, declaration) ∈ declarations.entries) :
    ∃ type, (name, type) ∈ config.types.entries ∧
      readDeclaration home name type = .ok declaration := by
  obtain ⟨entries, listed, read⟩ := bind_eq_ok_iff.1 read
  cases read
  rcases Keyed.mem_insertAll member with here | nothing
  · obtain ⟨⟨name', type⟩, given, found⟩ := exists_of_mem_mapM listed here
    obtain ⟨declaration', found, same⟩ := map_eq_ok_iff.1 found
    cases same
    exact ⟨type, given, found⟩
  · cases nothing

/-- Only a configured alias is read as one, and its target from the given expression. -/
theorem exists_expression_of_readDeclaration
    {home name : String} {config : TypeConfig} {declaration : Declaration} {target : HostType}
    (read : readDeclaration home name config = .ok declaration)
    (aliased : declaration.definition = .alias target) :
    ∃ expression, config.alias? = some expression ∧
      HostType.ofExpression expression home = .ok target := by
  obtain ⟨definition, defined, read⟩ := bind_eq_ok_iff.1 read
  obtain ⟨methods, -, read⟩ := bind_eq_ok_iff.1 read
  cases read
  obtain rfl : definition = .alias target := aliased
  rw [readDefinition] at defined
  split at defined
  · next expression given =>
      obtain ⟨type, parsed, same⟩ := map_eq_ok_iff.1 defined
      exact ⟨expression, given, by rw [parsed, Definition.alias.inj same]⟩
  · obtain ⟨body, -, other⟩ := map_eq_ok_iff.1 defined
    cases other
  · obtain ⟨body, -, other⟩ := map_eq_ok_iff.1 defined
    cases other

/-! ## Laying namespaces over a catalog -/

/-- A declaration stands in the namespace that is laid over a catalog, or was there before. -/
theorem mem_table_extend
    {catalog : Catalog} {info : Namespace} {declarations : Keyed Declaration}
    {ref : QualifiedName} {declaration : Declaration}
    (member : (ref, declaration) ∈ (catalog.extend info declarations).table.entries) :
    (ref.path = info.path ∧ (ref.name, declaration) ∈ declarations.entries) ∨
      (ref, declaration) ∈ catalog.table.entries := by
  obtain ⟨space, here, inner⟩ := mem_table_iff.1 member
  rw [extend] at here
  split at here
  · next old found =>
      rcases Keyed.mem_setEntry here with new | kept
      · obtain ⟨same, rfl⟩ := Prod.mk.inj new
        rcases Keyed.mem_insertAll inner with added | before
        · exact .inl ⟨same, added⟩
        · exact .inr (mem_table_iff.2 ⟨old, same ▸ Keyed.mem_of_get? found, before⟩)
      · exact .inr (mem_table_iff.2 ⟨space, kept, inner⟩)
  · rcases Keyed.mem_setEntry here with new | kept
    · obtain ⟨same, rfl⟩ := Prod.mk.inj new
      exact .inl ⟨same, inner⟩
    · exact .inr (mem_table_iff.2 ⟨space, kept, inner⟩)

/-- A type is configured under a name, and the declaration is what is read from it. -/
def ReadFrom
    (spaces : List (String × NamespaceConfig))
    (ref : QualifiedName) (declaration : Declaration) : Prop :=
  ∃ space type, (ref.path, space) ∈ spaces ∧ (ref.name, type) ∈ space.types.entries ∧
    readDeclaration ref.path ref.name type = .ok declaration

theorem mem_table_overlay
    {module? : Option String} {catalog built : Catalog}
    {spaces : List (String × NamespaceConfig)}
    (read : overlay module? catalog spaces = .ok built)
    {ref : QualifiedName} {declaration : Declaration}
    (member : (ref, declaration) ∈ built.table.entries) :
    ReadFrom spaces ref declaration ∨ (ref, declaration) ∈ catalog.table.entries := by
  induction spaces generalizing catalog with
  | nil =>
      cases read
      exact .inr member
  | cons first rest ih =>
      obtain ⟨path, config⟩ := first
      obtain ⟨declarations, declared, read⟩ := bind_eq_ok_iff.1 read
      rcases ih read with ⟨space, type, here, given, found⟩ | before
      · exact .inl ⟨space, type, List.mem_cons_of_mem _ here, given, found⟩
      · rcases mem_table_extend before with ⟨same, here⟩ | old
        · obtain ⟨type, given, found⟩ := exists_of_mem_readDeclarations declared here
          obtain rfl : ref.path = path := same
          exact .inl ⟨config, type, List.mem_cons_self, given, found⟩
        · exact .inr old

/-- Every declaration of a built catalog is configured or predeclared. -/
theorem mem_table_ofConfig
    {config : CatalogConfig} {built : Catalog}
    (read : ofConfig config = .ok built)
    {ref : QualifiedName} {declaration : Declaration}
    (member : (ref, declaration) ∈ built.table.entries) :
    ReadFrom config.namespaces.entries ref declaration ∨
      (ref, declaration) ∈ builtin.table.entries :=
  mem_table_overlay read member

/-! ## Aliases -/

/-- No predeclared name is an alias. -/
theorem isAlias_builtin :
    ∀ entry ∈ builtin.table.entries, entry.2.isAlias = false := by
  decide

/-- Every alias of a built catalog is configured as one, by an expression for its target. -/
theorem exists_alias_of_ofConfig
    {config : CatalogConfig} {built : Catalog}
    (read : ofConfig config = .ok built)
    {ref : QualifiedName} {target : HostType}
    (step : built.table.aliasTarget? (.named ref) = some target) :
    ∃ space type expression, (ref.path, space) ∈ config.namespaces.entries ∧
      (ref.name, type) ∈ space.types.entries ∧ type.alias? = some expression ∧
        HostType.ofExpression expression ref.path = .ok target := by
  obtain ⟨_, declaration, same, entry, aliased⟩ :=
    Declarations.exists_alias_of_aliasTarget? step
  cases same
  rcases mem_table_ofConfig read entry with ⟨space, type, here, given, found⟩ | predeclared
  · obtain ⟨expression, configured, parsed⟩ := exists_expression_of_readDeclaration found aliased
    exact ⟨space, type, expression, here, given, configured, parsed⟩
  · have no_alias := isAlias_builtin _ predeclared
    simp [Declaration.isAlias, aliased] at no_alias

end Catalog
end RecordConversion
