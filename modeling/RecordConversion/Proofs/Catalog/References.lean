import RecordConversion.Proofs.Catalog.DeclaredFields
import RecordConversion.Proofs.Declarations.Extension

/-!
# References of accepted configurations

Validation reads the expressions of the configuration once more and looks their names up in the
catalog that is built from it.  That catalog also has the predeclared namespaces, which a
configuration can extend and replace in part.  Declarations are never taken away, so what is
predeclared refers to declared names as before, and what is configured does by validation.

* `Catalog.covers_types_of_linkErrors`: the names in a declaration are declared.
* `CatalogConfig.references_of_validate`: names, aliases, defined types and records of an accepted
  configuration.
-/

namespace RecordConversion

/-- The types in a declaration: the one that is given for its name, and those of its methods. -/
def Declaration.types (declaration : Declaration) : List HostType :=
  declaration.definition.type ::
    declaration.methods.flatMap fun method => method.params ++ method.returns

/-! ## Types that something is known about -/

/-- A type that is not kept as text and is no name without a declaration. -/
def Declarations.Resolved (table : Declarations) : HostType → Prop
  | .other _ => False
  | .named ref => ∃ declaration, table.lookup ref = some declaration
  | _ => True

theorem Declarations.resolved_of_covers
    {table : Declarations} {type : HostType}
    (covered : table.Covers type)
    (no_text : ∀ spelling, type ≠ .other spelling) :
    table.Resolved type := by
  cases type with
  | other spelling => exact absurd rfl (no_text spelling)
  | named ref => exact covers_named.1 covered
  | _ => trivial

/-! ## Configured types -/

namespace TypeConfig

/-- A name is written in one of the expressions of a type, as read in a namespace. -/
def Names (config : TypeConfig) (home : String) (ref : QualifiedName) : Prop :=
  ∃ expression ∈ config.expressions, ∃ type,
    HostType.ofExpression expression home = .ok type ∧ ref ∈ type.names

variable {config : TypeConfig} {catalog : Catalog} {ref : QualifiedName}

/-- The names that a configured type without faults writes are declared. -/
theorem exists_lookup_of_linkFaults
    (faultless : config.linkFaults catalog ref = [])
    {name : QualifiedName} (names : config.Names ref.path name) :
    ∃ declaration, catalog.lookup name = some declaration := by
  simp only [linkFaults, List.append_eq_nil_iff, List.map_eq_nil_iff, List.filter_eq_nil_iff,
    List.mem_flatMap, List.mem_filterMap, Option.isNone_iff_eq_none] at faultless
  obtain ⟨expression, written, type, read, here⟩ := names
  have read' : (HostType.ofExpression expression ref.path).toOption = some type := by
    rw [read]
    rfl
  exact Option.ne_none_iff_exists'.1 (faultless.1.1 name ⟨type, ⟨expression, written, read'⟩, here⟩)

/-- What is below a defined type without faults is not kept as text. -/
theorem underlying_ne_other
    (faultless : config.linkFaults catalog ref = [])
    (defined : config.underlying?.isSome = true)
    (spelling : String) :
    catalog.table.underlying (.named ref) ≠ .other spelling := by
  intro text
  simp [linkFaults, defined, text] at faultless

end TypeConfig

namespace Catalog

variable {catalog : Catalog}

theorem lookup_table
    (catalog : Catalog) (ref : QualifiedName) :
    catalog.table.lookup ref = catalog.lookup ref := by
  ext declaration
  rw [lookup_table_iff, lookup, Option.bind_eq_some_iff]

/-! ## Names that stay declared -/

theorem exists_lookup_extend
    {ref : QualifiedName} (info : Namespace) (declarations : Keyed Declaration)
    (declared : ∃ declaration, catalog.lookup ref = some declaration) :
    ∃ declaration, (catalog.extend info declarations).lookup ref = some declaration := by
  obtain ⟨declaration, found⟩ := declared
  by_cases other : ref.path = info.path
  · obtain ⟨space, here, listed⟩ := Option.bind_eq_some_iff.1 found
    rw [other] at here
    simp only [extend, here, lookup, other, Keyed.get?_insert, if_true, Option.bind_some,
      Keyed.get?_insertAll _ declarations.distinct, listed]
    cases declarations.entries.lookup ref.name with
    | none => exact ⟨declaration, rfl⟩
    | some added => exact ⟨added, rfl⟩
  · exact ⟨declaration, by rw [lookup, get?_extend_of_ne _ _ _ other]; exact found⟩

theorem exists_lookup_overlay
    {module? : Option String} {spaces : List (String × NamespaceConfig)} {built : Catalog}
    (read : overlay module? catalog spaces = .ok built) {ref : QualifiedName}
    (declared : ∃ declaration, catalog.lookup ref = some declaration) :
    ∃ declaration, built.lookup ref = some declaration := by
  induction spaces generalizing catalog with
  | nil =>
      cases read
      exact declared
  | cons first rest ih =>
      obtain ⟨declarations, -, read⟩ := bind_eq_ok_iff.1 read
      exact ih read (exists_lookup_extend _ declarations declared)

/-- Predeclared types use predeclared names. -/
theorem closed_builtin :
    ∀ entry ∈ builtin.table.entries, ∀ type ∈ entry.2.types, ∀ ref ∈ type.names,
      (builtin.lookup ref).isSome = true := by
  decide +kernel

/-! ## Where the names in a declaration come from -/

theorem names_of_readDefinition
    {home : String} {config : TypeConfig} {definition : Definition} {ref : QualifiedName}
    (read : readDefinition home config = .ok definition) (here : ref ∈ definition.type.names) :
    config.Names home ref := by
  rw [readDefinition] at read
  split at read
  · next target given =>
      obtain ⟨type, parsed, rfl⟩ := map_eq_ok_iff.1 read
      exact ⟨target, by simp [TypeConfig.expressions, given], type, parsed, here⟩
  · next body _ given =>
      obtain ⟨type, parsed, rfl⟩ := map_eq_ok_iff.1 read
      exact ⟨body, by simp [TypeConfig.expressions, given], type, parsed, here⟩
  · obtain ⟨members, listed, rfl⟩ := map_eq_ok_iff.1 read
    obtain ⟨member, inside, named⟩ := HostType.mem_memberNames_iff.1 here
    obtain ⟨field, given, read⟩ := exists_of_mem_mapM listed inside
    obtain ⟨type, parsed, made⟩ := bind_eq_ok_iff.1 read
    cases made
    refine ⟨field.type, ?_, type, parsed, named⟩
    simp only [TypeConfig.expressions, List.mem_append]
    exact .inl (.inl (.inl (List.mem_map_of_mem given)))

/-- The types of a method are read from its parameters and its result. -/
theorem exists_of_mem_readMethod
    {home : String} {config : MethodConfig} {method : Method} {type : HostType}
    (read : readMethod home config = .ok method) (part : type ∈ method.params ++ method.returns) :
    ∃ expression ∈ config.params ++ config.returns?.toList,
      HostType.ofExpression expression home = .ok type := by
  obtain ⟨params, taken, read⟩ := bind_eq_ok_iff.1 read
  obtain ⟨returns, given, read⟩ := bind_eq_ok_iff.1 read
  cases read
  rcases List.mem_append.1 part with param | result
  · obtain ⟨expression, written, parsed⟩ := exists_of_mem_mapM taken param
    exact ⟨expression, List.mem_append_left _ written, parsed⟩
  · obtain ⟨expression, written, parsed⟩ := exists_of_mem_mapM given result
    exact ⟨expression, List.mem_append_right _ written, parsed⟩

/-- The names in a declaration are written in the expressions of its configuration. -/
theorem names_of_readDeclaration
    {home name : String} {config : TypeConfig} {declaration : Declaration} {type : HostType}
    {ref : QualifiedName}
    (read : readDeclaration home name config = .ok declaration)
    (part : type ∈ declaration.types) (here : ref ∈ type.names) :
    config.Names home ref := by
  obtain ⟨definition, defined, read⟩ := bind_eq_ok_iff.1 read
  obtain ⟨methods, listed, read⟩ := bind_eq_ok_iff.1 read
  cases read
  rcases List.mem_cons.1 part with rfl | of_method
  · exact names_of_readDefinition defined here
  · obtain ⟨method, inside, part⟩ := List.mem_flatMap.1 of_method
    obtain ⟨given, configured, read⟩ := exists_of_mem_mapM listed inside
    obtain ⟨expression, written, parsed⟩ := exists_of_mem_readMethod read part
    refine ⟨expression, ?_, type, parsed, here⟩
    exact List.mem_append_right _ (List.mem_flatMap.2 ⟨given, configured, written⟩)

/-! ## Closed tables -/

/-- In a catalog without faults all names in a declaration are declared. -/
theorem covers_types_of_linkErrors
    {config : CatalogConfig}
    (built : ofConfig config = .ok catalog) (faultless : config.linkErrors catalog = [])
    {ref : QualifiedName} {declaration : Declaration}
    (found : catalog.table.lookup ref = some declaration) {type : HostType}
    (part : type ∈ declaration.types) :
    catalog.table.Covers type := by
  intro name named
  rw [lookup_table]
  rcases mem_table_ofConfig built ((lookup_eq_some_iff_of_nodup catalog.nodup_names_table).1 found)
    with ⟨space, given, here, configured, read⟩ | predeclared
  · exact given.exists_lookup_of_linkFaults
      (CatalogConfig.linkFaults_of_linkErrors faultless here configured)
      (names_of_readDeclaration read part named)
  · exact exists_lookup_overlay built
      (Option.isSome_iff_exists.1 (closed_builtin _ predeclared type part name named))

/-- The table of a catalog without faults is closed. -/
theorem closed_of_linkErrors
    {config : CatalogConfig}
    (built : ofConfig config = .ok catalog) (faultless : config.linkErrors catalog = []) :
    catalog.table.Closed :=
  fun _ _ found => covers_types_of_linkErrors built faultless found List.mem_cons_self

end Catalog

namespace CatalogConfig

variable {config : CatalogConfig}

/-- The catalog of an accepted configuration.  Every name in a declaration is declared, be it in
what the declaration stands for or in its methods, and what is declared as a record is one.  A
configured alias resolves to a type that is known, what is below a configured defined type is known,
and a type that is configured by fields has them as its members. -/
theorem references_of_validate
    (accepted : config.validate = []) :
    ∃ catalog, Catalog.ofConfig config = .ok catalog ∧
      (∀ ref declaration, catalog.lookup ref = some declaration →
        (∀ type ∈ declaration.types, ∀ name ∈ type.names, (catalog.lookup name).isSome = true) ∧
        ∀ members, declaration.definition = .defined (.record members) →
          catalog.table.recordBody? (.named ref) = some members) ∧
      ∀ path space name type, (path, space) ∈ config.namespaces.entries →
        (name, type) ∈ space.types.entries →
          (type.alias?.isSome = true →
            catalog.table.Resolved (catalog.table.resolve (.named ⟨path, name⟩))) ∧
          (type.underlying?.isSome = true →
            catalog.table.Resolved (catalog.table.underlying (.named ⟨path, name⟩))) ∧
          ∀ fields, type.fields? = some fields →
            ∃ members, fields.mapM (Catalog.readField path) = .ok members ∧
              catalog.table.recordBody? (.named ⟨path, name⟩) = some members := by
  obtain ⟨catalog, built, faultless⟩ := exists_catalog_of_validate accepted
  have closed : catalog.table.Closed := Catalog.closed_of_linkErrors built faultless
  refine ⟨catalog, built, ?_, ?_⟩
  · intro ref declaration found
    rw [← catalog.lookup_table] at found
    refine ⟨fun type part name named => ?_,
      fun members => Declarations.recordBody?_of_lookup found⟩
    rw [← catalog.lookup_table]
    exact Option.isSome_iff_exists.2
      (Catalog.covers_types_of_linkErrors built faultless found part name named)
  · intro path space name type here given
    have own : type.linkFaults catalog ⟨path, name⟩ = [] :=
      linkFaults_of_linkErrors faultless here given
    obtain ⟨declaration, -, found⟩ := Catalog.lookup_of_ofConfig built here given
    have covered : catalog.table.Covers (.named ⟨path, name⟩) :=
      Declarations.covers_named.2 ⟨declaration, found⟩
    refine ⟨fun aliased => ?_, fun defined => ?_, fun fields listed => ?_⟩
    · exact Declarations.resolved_of_covers (closed.covers_resolve covered)
        (type.resolve_ne_other own aliased)
    · exact Declarations.resolved_of_covers (closed.covers_underlying covered)
        (type.underlying_ne_other own defined)
    · obtain ⟨members, declaration, read, -, found, record⟩ :=
        exists_declaration_of_validate accepted built here given listed
      exact ⟨members, read, Declarations.recordBody?_of_lookup found record⟩

/-- A zone beside the predeclared types of time, of which the month becomes a text, and events that
use both. -/
def calendar : CatalogConfig :=
  ⟨none, Keyed.ofList
    [("time", ⟨none, none, Keyed.ofList
      [("Month", ⟨none, some "string", none, []⟩), ("Zone", ⟨none, none, some "*Location", []⟩)]⟩),
    ("m", ⟨none, none, Keyed.ofList
      [("Event", ⟨some [⟨some "At", "map[time.Month][]time.Zone", false, none⟩], none, none,
        [⟨"Until", ["Event"], some "*time.Duration", true⟩]⟩),
      ("Events", ⟨none, some "[]Event", none, []⟩)]⟩)]⟩

/-- The zone is a pointer to the predeclared location, the month a text, and what events use is
declared. -/
theorem references_of_validate_calendar :
    calendar.validate = [] ∧
      ∃ catalog, Catalog.ofConfig calendar = .ok catalog ∧
        catalog.table.resolve (.named ⟨"time", "Zone"⟩) = .pointer (.named ⟨"time", "Location"⟩) ∧
        catalog.table.Resolved (catalog.table.underlying (.named ⟨"m", "Events"⟩)) ∧
        (∃ members, catalog.table.recordBody? (.named ⟨"m", "Event"⟩) = some members) ∧
        ∀ declaration, catalog.lookup ⟨"m", "Event"⟩ = some declaration →
          ∀ type ∈ declaration.types, ∀ name ∈ type.names, (catalog.lookup name).isSome = true := by
  have accepted : calendar.validate = [] := by decide +kernel
  have zone :
      (Catalog.ofConfig calendar).toOption.all (fun catalog =>
        catalog.table.resolve (.named ⟨"time", "Zone"⟩) =
          .pointer (.named ⟨"time", "Location"⟩)) = true := by
    decide +kernel
  obtain ⟨catalog, built, declared, given⟩ := references_of_validate accepted
  have events := (given "m" _ "Events" _ (.tail _ (.head _)) (.tail _ (.head _))).2.1 rfl
  obtain ⟨members, -, body⟩ :=
    (given "m" _ "Event" _ (.tail _ (.head _)) (.head _)).2.2 _ rfl
  refine ⟨accepted, catalog, built, ?_, events, ⟨members, body⟩,
    fun declaration found => (declared _ declaration found).1⟩
  simpa [built, Except.toOption] using zone

end CatalogConfig
end RecordConversion
