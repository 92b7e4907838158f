import RecordConversion.Proofs.Catalog.ReadingOrder
import RecordConversion.Proofs.Catalog.References

/-!
# A configuration laid over the predeclared namespaces

What a catalog answers comes from the namespaces that it holds: their order, the order of the
declarations in each, and what stands under a name.  A namespace that is laid over a catalog keeps
what is there in its place and goes behind it with what is new, so a built catalog shows the
predeclared namespaces first and what is configured wherever it is.

* `Catalog.IsOverlay`: a catalog answers for a configuration over the predeclared namespaces.
* `Catalog.ofConfig_overlay`: when building fails, and what it gives otherwise.
-/

namespace RecordConversion

namespace CatalogConfig

/-- The type that a configuration gives under a name. -/
def type? (config : CatalogConfig) (ref : QualifiedName) : Option TypeConfig :=
  (config.namespaces.get? ref.path).bind fun space => space.types.get? ref.name

/-- The names of the types that a configuration gives in a namespace, in order. -/
def typeNames (config : CatalogConfig) (path : String) : List String :=
  match config.namespaces.get? path with
  | some space => space.types.keys
  | none => []

end CatalogConfig

namespace Catalog

/-! ## What a catalog holds -/

theorem lookup_eq_held
    (catalog : Catalog) (ref : QualifiedName) :
    catalog.lookup ref = (catalog.held ref.path).get? ref.name := by
  rw [lookup, held]
  cases catalog.spaces.get? ref.path <;> rfl

theorem declarationsIn_eq_held
    (catalog : Catalog) (path : String) :
    catalog.declarationsIn path = (catalog.held path).values := by
  rw [declarationsIn, held]
  cases catalog.spaces.get? path <;> rfl

/-- Every declaration carries the name under which it is found. -/
def NamesAgree (catalog : Catalog) : Prop :=
  ∀ ref declaration, catalog.lookup ref = some declaration → declaration.ref = ref

theorem NamesAgree.names_declarationsIn
    {catalog : Catalog} (agree : catalog.NamesAgree) (path : String) :
    (catalog.declarationsIn path).map (·.ref.name) = (catalog.held path).keys := by
  rw [declarationsIn_eq_held, Keyed.values, Keyed.keys, List.map_map]
  refine List.map_congr_left fun entry here => ?_
  have found : catalog.lookup ⟨path, entry.1⟩ = some entry.2 := by
    rw [lookup_eq_held]
    exact (Keyed.get?_eq_some_iff _).2 here
  exact congrArg QualifiedName.name (agree _ _ found)

/-- Predeclared types carry their names. -/
theorem namesAgree_builtin :
    builtin.NamesAgree := by
  have agree : ∀ entry ∈ builtin.table.entries, entry.2.ref = entry.1 := by decide
  intro ref declaration found
  rw [← lookup_table, Declarations.lookup, lookup_eq_some_iff_of_nodup builtin.nodup_names_table]
    at found
  exact agree _ found

/-! ## The order of namespaces -/

theorem paths_extend
    (catalog : Catalog) (info : Namespace) (declarations : Keyed Declaration) :
    (catalog.extend info declarations).paths =
      if info.path ∈ catalog.paths then catalog.paths else catalog.paths ++ [info.path] := by
  rw [extend]
  split <;> exact Keyed.keys_insert _ _ _

theorem paths_overlay
    {module? : Option String} {catalog built : Catalog}
    {spaces : List (String × NamespaceConfig)}
    (read : overlay module? catalog spaces = .ok built)
    (distinct : (spaces.map Prod.fst).Nodup) :
    built.paths = Keyed.withNew catalog.paths (spaces.map Prod.fst) := by
  induction spaces generalizing catalog with
  | nil =>
      cases read
      exact (List.append_nil _).symm
  | cons first rest ih =>
      obtain ⟨declarations, -, read⟩ := bind_eq_ok_iff.1 read
      rw [List.map_cons, List.nodup_cons] at distinct
      rw [List.map_cons, Keyed.withNew_cons _ distinct.1, ih read distinct.2, paths_extend]
      rfl

/-! ## Configured declarations -/

theorem keys_of_readDeclarations
    {home : String} {config : NamespaceConfig} {declarations : Keyed Declaration}
    (read : readDeclarations home config = .ok declarations) :
    declarations.keys = config.types.keys := by
  obtain ⟨entries, listed, read⟩ := bind_eq_ok_iff.1 read
  cases read
  have names := names_of_readEntries listed
  rw [Keyed.ofList, Keyed.keys_insertAll _ (names ▸ config.types.distinct), names]
  simp [Keyed.withNew, Keyed.empty, Keyed.keys]

theorem ref_of_readDeclaration
    {home name : String} {config : TypeConfig} {declaration : Declaration}
    (read : readDeclaration home name config = .ok declaration) :
    declaration.ref = ⟨home, name⟩ := by
  obtain ⟨definition, -, read⟩ := bind_eq_ok_iff.1 read
  obtain ⟨methods, -, read⟩ := bind_eq_ok_iff.1 read
  cases read
  rfl

section Built

variable {config : CatalogConfig} {built : Catalog}

theorem get?_of_not_configured
    (read : ofConfig config = .ok built) {path : String}
    (absent : config.namespaces.get? path = none) :
    built.spaces.get? path = builtin.spaces.get? path := by
  refine get?_overlay_of_not_mem read ?_
  rw [Keyed.mem_keys_iff_lookup, ← Keyed.get?, absent]
  nofun

theorem held_of_not_configured
    (read : ofConfig config = .ok built) {path : String}
    (absent : config.namespaces.get? path = none) :
    built.held path = builtin.held path := by
  rw [held, held, get?_of_not_configured read absent]

/-- A configured namespace holds what is read from its configuration over what is predeclared in
it. -/
theorem exists_laidOver
    (read : ofConfig config = .ok built) {path : String} {space : NamespaceConfig}
    (given : config.namespaces.get? path = some space) :
    ∃ declarations, readDeclarations path space = .ok declarations ∧
      (built.held path).keys = Keyed.withNew (builtin.held path).keys space.types.keys ∧
        ∀ name, (built.held path).get? name =
          (declarations.get? name).or ((builtin.held path).get? name) := by
  obtain ⟨placed, declarations, found, declared, laid⟩ :=
    exists_space_of_overlay read config.namespaces.distinct ((Keyed.get?_eq_some_iff _).1 given)
  have holds : built.held path = placed.declarations := by rw [held, found]
  refine ⟨declarations, declared, ?_, fun name => ?_⟩
  · rw [holds, laid.keys, keys_of_readDeclarations declared]
  · rw [holds, laid.get?]

theorem keys_held_of_ofConfig
    (read : ofConfig config = .ok built) (path : String) :
    (built.held path).keys = Keyed.withNew (builtin.held path).keys (config.typeNames path) := by
  rw [CatalogConfig.typeNames]
  cases given : config.namespaces.get? path with
  | none =>
      rw [held_of_not_configured read given]
      exact (List.append_nil _).symm
  | some space =>
      obtain ⟨_, -, keys, -⟩ := exists_laidOver read given
      exact keys

theorem exists_lookup_of_type?
    (read : ofConfig config = .ok built) {ref : QualifiedName} {type : TypeConfig}
    (given : config.type? ref = some type) :
    ∃ declaration, readDeclaration ref.path ref.name type = .ok declaration ∧
      built.lookup ref = some declaration := by
  obtain ⟨space, here, listed⟩ := Option.bind_eq_some_iff.1 given
  obtain ⟨declaration, declared, found⟩ :=
    lookup_of_ofConfig read ((Keyed.get?_eq_some_iff _).1 here)
      ((Keyed.get?_eq_some_iff _).1 listed)
  exact ⟨declaration, declared, by rw [← lookup_table]; exact found⟩

/-- Under a name that is not configured stands what is predeclared. -/
theorem lookup_of_not_configured
    (read : ofConfig config = .ok built) {ref : QualifiedName}
    (absent : config.type? ref = none) :
    built.lookup ref = builtin.lookup ref := by
  rw [lookup_eq_held, lookup_eq_held]
  cases given : config.namespaces.get? ref.path with
  | none => rw [held_of_not_configured read given]
  | some space =>
      obtain ⟨declarations, declared, -, laid⟩ := exists_laidOver read given
      have unlisted : declarations.get? ref.name = none := by
        rw [CatalogConfig.type?, given, Option.bind_some] at absent
        rw [← Option.not_isSome_iff_eq_none, ← Keyed.mem_keys_iff,
          keys_of_readDeclarations declared, Keyed.mem_keys_iff, absent]
        nofun
      rw [laid, unlisted, Option.none_or]

theorem NamesAgree.of_ofConfig
    (read : ofConfig config = .ok built) :
    built.NamesAgree := by
  intro ref declaration found
  cases given : config.type? ref with
  | none =>
      rw [lookup_of_not_configured read given] at found
      exact namesAgree_builtin ref declaration found
  | some type =>
      obtain ⟨declaration', declared, found'⟩ := exists_lookup_of_type? read given
      obtain rfl := Option.some.inj (found.symm.trans found')
      exact ref_of_readDeclaration declared

end Built

/-! ## The whole catalog -/

/-- A catalog answers for a configuration where this says something, and like the predeclared
catalog elsewhere.  What is predeclared comes first and stays in its place. -/
structure IsOverlay (built : Catalog) (config : CatalogConfig) : Prop where
  lookup_configured : ∀ ref type, config.type? ref = some type →
    ∃ declaration, readDeclaration ref.path ref.name type = .ok declaration ∧
      built.lookup ref = some declaration
  lookup_other : ∀ ref, config.type? ref = none → built.lookup ref = builtin.lookup ref
  provided : ∀ ref, built.provider.declarations.lookup ref = built.lookup ref
  paths : built.paths =
    builtin.paths ++ config.namespaces.keys.filter (· ∉ builtin.paths)
  distinct : built.paths.Nodup
  declarations : ∀ path,
    (built.declarationsIn path).map some =
      ((builtin.declarationsIn path).map (·.ref.name) ++
        (config.typeNames path).filter
          (· ∉ (builtin.declarationsIn path).map (·.ref.name))).map
        fun name => built.lookup ⟨path, name⟩
  load_configured : ∀ path space, config.namespaces.get? path = some space →
    built.provider.load path =
      .ok ⟨path, space.name?.getD (defaultLocalName path), space.module?.or config.module?⟩
  load_other : ∀ path, config.namespaces.get? path = none →
    built.provider.load path = builtin.provider.load path
  named : ∀ ref declaration, built.lookup ref = some declaration → declaration.ref = ref

theorem isOverlay_of_ofConfig
    {config : CatalogConfig} {built : Catalog}
    (read : ofConfig config = .ok built) :
    built.IsOverlay config where
  lookup_configured _ _ := exists_lookup_of_type? read
  lookup_other _ := lookup_of_not_configured read
  provided := built.lookup_table
  paths := paths_overlay read config.namespaces.distinct
  distinct := built.spaces.distinct
  declarations := by
    intro path
    rw [declarationsIn_eq_held built, Keyed.map_some_values, keys_held_of_ofConfig read,
      namesAgree_builtin.names_declarationsIn]
    exact List.map_congr_left fun name _ => (lookup_eq_held built ⟨path, name⟩).symm
  load_configured _ _ given :=
    load_of_ofConfig read ((Keyed.get?_eq_some_iff _).1 given)
  load_other := by
    intro path absent
    change built.load path = builtin.load path
    rw [load, load, get?_of_not_configured read absent]
  named := NamesAgree.of_ofConfig read

/-- Building fails exactly if an expression that is read denotes no type, and then with the error of
the first such expression.  Otherwise the configuration is laid over the predeclared namespaces. -/
theorem ofConfig_overlay
    (config : CatalogConfig) :
    ((∃ error, ofConfig config = .error error) ↔
      ∃ written ∈ config.readings, ¬ ReadableIn written.1 written.2) ∧
    (∀ error, ofConfig config = .error error ↔ config.FirstFault error) ∧
    ((∀ written ∈ config.readings, ReadableIn written.1 written.2) →
      ∃ built, ofConfig config = .ok built ∧ built.IsOverlay config) := by
  refine ⟨exists_ofConfig_eq_error_iff, fun _ => ofConfig_eq_error_iff, fun readable => ?_⟩
  have faultless : ¬ ∃ error, ofConfig config = .error error := by
    rw [exists_ofConfig_eq_error_iff]
    rintro ⟨written, here, unreadable⟩
    exact unreadable (readable written here)
  cases read : ofConfig config with
  | error error => exact absurd ⟨error, read⟩ faultless
  | ok built => exact ⟨built, rfl, isOverlay_of_ofConfig read⟩

/-- A namespace beside the predeclared ones, of which one gets a further type and another
`Month`. -/
def clocks : CatalogConfig :=
  ⟨some "app", Keyed.ofList
    [("m", ⟨none, some "own", Keyed.ofList [("Stamp", ⟨none, none, some "time.Time", []⟩)]⟩),
      ("time", ⟨some "clock", none, Keyed.ofList
        [("Zone", ⟨some [⟨some "Name", "string", false, none⟩], none, none, []⟩),
          ("Month", ⟨none, some "string", none, []⟩)]⟩)]⟩

/-- Two expressions that denote no type, and one in a form that is not read. -/
def brokenClocks : CatalogConfig :=
  ⟨none, Keyed.ofList
    [("m", ⟨none, none, Keyed.ofList
      [("Stamp", ⟨some [⟨some "At", "*", false, none⟩], none, some "time.Time", []⟩),
        ("Span", ⟨none, some "[]", none, []⟩), ("Lost", ⟨none, none, some "map[", []⟩)]⟩)]⟩

theorem ofConfig_overlay_clocks :
    (∃ built, ofConfig clocks = .ok built ∧
      built.paths = ["time", "database/sql", "m"] ∧
      (built.declarationsIn "time").length = 5 ∧
      (built.lookup ⟨"time", "Month"⟩).map (·.definition) = some (.defined (.primitive .string)) ∧
      built.lookup ⟨"time", "Duration"⟩ = builtin.lookup ⟨"time", "Duration"⟩ ∧
      built.provider.load "time" = .ok ⟨"time", "clock", some "app"⟩ ∧
      built.provider.load "m" = .ok ⟨"m", "m", some "own"⟩) ∧
    ofConfig brokenClocks = .error ⟨"[]", .emptyType⟩ := by
  constructor
  · have readable : ∀ written ∈ clocks.readings, ReadableIn written.1 written.2 := by
      have faultless : ∀ written ∈ clocks.readings, faultIn written = none := by decide +kernel
      exact fun written here => faultIn_eq_none_iff.1 (faultless written here)
    obtain ⟨built, read, overlay⟩ := (ofConfig_overlay clocks).2.2 readable
    have months : readDeclaration "time" "Month" ⟨none, some "string", none, []⟩ =
        .ok ⟨⟨"time", "Month"⟩, .defined (.primitive .string), []⟩ := by decide +kernel
    refine ⟨built, read, ?_, ?_, ?_, ?_, ?_, ?_⟩
    · exact overlay.paths.trans (by decide +kernel)
    · have listed := congrArg List.length (overlay.declarations "time")
      rw [List.length_map, List.length_map] at listed
      exact listed.trans (by decide +kernel)
    · obtain ⟨month, declared, found⟩ := overlay.lookup_configured ⟨"time", "Month"⟩ _ rfl
      rw [found, Except.ok.inj (declared.symm.trans months)]
      rfl
    · exact overlay.lookup_other _ rfl
    · exact overlay.load_configured "time" _ rfl
    · exact (overlay.load_configured "m" _ rfl).trans (by decide +kernel)
  · refine ((ofConfig_overlay brokenClocks).2.1 _).2
      ⟨[("m", "time.Time")], "m", "[]", [("m", "map[")], by decide +kernel, ?_, by decide +kernel⟩
    have faultless : ∀ written ∈ [("m", "time.Time")], faultIn written = none := by decide +kernel
    exact fun written here => faultIn_eq_none_iff.1 (faultless written here)

end Catalog
end RecordConversion
