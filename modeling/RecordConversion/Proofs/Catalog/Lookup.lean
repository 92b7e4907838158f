import Mathlib.Data.List.Nodup
import RecordConversion.Proofs.Catalog.Built
import RecordConversion.Proofs.Discovery.Reachability

/-!
# What a built catalog gives under a name

The names of a table are distinct, so what is declared under a name is what is found there.  In a
built catalog every configured namespace is loaded under its path, and every configured type is
found under its name as it is read from the configuration.

* `Catalog.lookup_table_iff`: what is found in the table of a catalog.
* `Catalog.exists_space_of_overlay`: a configured namespace lies over what the catalog holds there.
* `Catalog.lookup_of_ofConfig`: a configured type is found as it is read.
* `Catalog.loadsAsAsked_of_ofConfig`: every namespace is loaded under the path that is asked for.
-/

namespace RecordConversion

/-! ## Tables with distinct keys -/

theorem lookup_eq_some_iff_of_nodup
    {α β : Type} [BEq α] [LawfulBEq α] {entries : List (α × β)}
    (distinct : (entries.map Prod.fst).Nodup) {key : α} {value : β} :
    entries.lookup key = some value ↔ (key, value) ∈ entries := by
  constructor
  · intro found
    obtain ⟨before, after, rfl, -⟩ := List.lookup_eq_some_iff.1 found
    simp
  · intro member
    obtain ⟨before, after, rfl⟩ := List.append_of_mem member
    rw [List.map_append, List.nodup_append] at distinct
    refine List.lookup_eq_some_iff.2 ⟨before, after, rfl, fun entry earlier => ?_⟩
    rw [bne_iff_ne]
    exact fun same =>
      distinct.2.2 entry.1 (List.mem_map_of_mem earlier) key (by simp) same.symm

namespace Keyed

variable {α : Type}

theorem get?_eq_some_iff
    (table : Keyed α) {key : String} {value : α} :
    table.get? key = some value ↔ (key, value) ∈ table.entries :=
  lookup_eq_some_iff_of_nodup table.distinct

/-- Further entries come before those of the table. -/
theorem get?_insertAll
    (table : Keyed α) {added : List (String × α)}
    (distinct : (added.map Prod.fst).Nodup) (key : String) :
    (table.insertAll added).get? key = (added.lookup key).or (table.get? key) := by
  induction added generalizing table with
  | nil => rfl
  | cons first rest ih =>
      obtain ⟨name, value⟩ := first
      rw [List.map_cons, List.nodup_cons] at distinct
      have inserted : table.insertAll ((name, value) :: rest) =
          (table.insert name value).insertAll rest := rfl
      rw [inserted, ih _ distinct.2, get?_insert, List.lookup_cons]
      by_cases same : key = name
      · subst same
        have unlisted : rest.lookup key = none := by
          rw [← Option.not_isSome_iff_eq_none, ← mem_keys_iff_lookup]
          exact distinct.1
        simp [unlisted]
      · have test : (key == name) = false := beq_eq_false_iff_ne.2 same
        rw [if_neg same, test]

/-- Names with further ones behind them, of which those that are already there are left out. -/
def withNew (names added : List String) : List String :=
  names ++ added.filter (· ∉ names)

/-- A name goes to the end if it is new, before the names that come after it. -/
theorem withNew_cons
    (names : List String) {name : String} {rest : List String} (single : name ∉ rest) :
    withNew names (name :: rest) =
      withNew (if name ∈ names then names else names ++ [name]) rest := by
  by_cases present : name ∈ names
  · simp [withNew, present]
  · have others : rest.filter (· ∉ names) = rest.filter (· ∉ names ++ [name]) := by
      refine List.filter_congr fun other here => ?_
      have unlike : other ≠ name := fun same => single (same ▸ here)
      simp [unlike]
    rw [if_neg present, withNew, withNew, ← others,
      List.filter_cons_of_pos (by simpa using present),
      List.append_assoc, List.singleton_append]

/-- Further entries go behind those of the table, apart from the ones that replace them. -/
theorem keys_insertAll
    (table : Keyed α) {added : List (String × α)}
    (distinct : (added.map Prod.fst).Nodup) :
    (table.insertAll added).keys = withNew table.keys (added.map Prod.fst) := by
  induction added generalizing table with
  | nil => exact (List.append_nil _).symm
  | cons first rest ih =>
      rw [List.map_cons, List.nodup_cons] at distinct
      have inserted : table.insertAll (first :: rest) =
          (table.insert first.1 first.2).insertAll rest := rfl
      rw [inserted, ih _ distinct.2, keys_insert, List.map_cons, withNew_cons _ distinct.1]

/-- The values stand in the order of their names. -/
theorem map_some_values
    (table : Keyed α) :
    table.values.map some = table.keys.map table.get? := by
  rw [values, keys, List.map_map, List.map_map]
  refine List.map_congr_left fun entry here => ?_
  exact ((get?_eq_some_iff table).2 here).symm

theorem get?_ofList
    {entries : List (String × α)}
    (distinct : (entries.map Prod.fst).Nodup) (key : String) :
    (ofList entries).get? key = entries.lookup key := by
  rw [ofList, get?_insertAll _ distinct]
  exact Option.or_none

end Keyed

namespace Catalog

/-! ## The table of a catalog -/

/-- No name is declared twice. -/
theorem nodup_names_table
    (catalog : Catalog) :
    catalog.table.names.Nodup := by
  rw [Declarations.names, table, List.map_flatMap, List.nodup_flatMap]
  constructor
  · rintro ⟨path, space⟩ _
    have qualified : Function.Injective fun name => (⟨path, name⟩ : QualifiedName) :=
      fun _ _ same => (QualifiedName.mk.inj same).2
    have distinct := space.declarations.distinct.map qualified
    rw [List.map_map] at distinct ⊢
    exact distinct
  · refine (List.pairwise_map.1 catalog.spaces.distinct).imp ?_
    rintro ⟨path, space⟩ ⟨path', space'⟩ other ref here there
    simp only [List.map_map, List.mem_map] at here there
    obtain ⟨_, _, rfl⟩ := here
    obtain ⟨_, _, same⟩ := there
    exact other (QualifiedName.mk.inj same).1.symm

/-- What is found under a name is declared in the namespace with its path. -/
theorem lookup_table_iff
    {catalog : Catalog} {ref : QualifiedName} {declaration : Declaration} :
    catalog.table.lookup ref = some declaration ↔
      ∃ space, catalog.spaces.get? ref.path = some space ∧
        space.declarations.get? ref.name = some declaration := by
  rw [Declarations.lookup, lookup_eq_some_iff_of_nodup catalog.nodup_names_table, mem_table_iff]
  simp only [Keyed.get?_eq_some_iff]

/-! ## Reading declarations -/

theorem names_of_readEntries
    {home : String} {types : List (String × TypeConfig)} {entries : List (String × Declaration)}
    (listed : types.mapM (fun entry =>
      (readDeclaration home entry.1 entry.2).map fun declaration => (entry.1, declaration)) =
        .ok entries) :
    entries.map Prod.fst = types.map Prod.fst := by
  refine map_eq_of_mapM (fun item result found => ?_) listed
  obtain ⟨_, _, rfl⟩ := map_eq_ok_iff.1 found
  rfl

theorem get?_of_readDeclarations
    {home : String} {config : NamespaceConfig} {declarations : Keyed Declaration}
    (read : readDeclarations home config = .ok declarations)
    {name : String} {type : TypeConfig}
    (given : (name, type) ∈ config.types.entries) :
    ∃ declaration, readDeclaration home name type = .ok declaration ∧
      declarations.get? name = some declaration := by
  obtain ⟨entries, listed, read⟩ := bind_eq_ok_iff.1 read
  cases read
  have distinct : (entries.map Prod.fst).Nodup :=
    names_of_readEntries listed ▸ config.types.distinct
  obtain ⟨result, member, found⟩ := exists_result_of_mem_mapM listed given
  obtain ⟨declaration, declared, rfl⟩ := map_eq_ok_iff.1 found
  refine ⟨declaration, declared, ?_⟩
  rw [Keyed.get?_ofList distinct]
  exact (lookup_eq_some_iff_of_nodup distinct).2 member

/-! ## Laying namespaces over a catalog -/

/-- The declarations that a catalog holds in a namespace. -/
def held (catalog : Catalog) (path : String) : Keyed Declaration :=
  match catalog.spaces.get? path with
  | some space => space.declarations
  | none => Keyed.empty

end Catalog

/-- A namespace with the given description and the given declarations, which are laid over
others. -/
structure CatalogSpace.LaidOver
    (space : CatalogSpace) (info : Namespace) (declarations older : Keyed Declaration) : Prop where
  info : space.info = info
  keys : space.declarations.keys = Keyed.withNew older.keys declarations.keys
  get? : ∀ name, space.declarations.get? name =
    (declarations.get? name).or (older.get? name)

/-- What is laid over other declarations is found. -/
theorem CatalogSpace.LaidOver.get?_of_declared
    {space : CatalogSpace} {info : Namespace} {declarations older : Keyed Declaration}
    (laid : space.LaidOver info declarations older)
    {name : String} {declaration : Declaration}
    (found : declarations.get? name = some declaration) :
    space.declarations.get? name = some declaration := by
  rw [laid.get?, found, Option.some_or]

namespace Catalog

theorem get?_extend_self
    (catalog : Catalog) (info : Namespace) (declarations : Keyed Declaration) :
    ∃ space, (catalog.extend info declarations).spaces.get? info.path = some space ∧
      space.LaidOver info declarations (catalog.held info.path) := by
  cases before : catalog.spaces.get? info.path with
  | some old =>
      simp only [extend, held, before]
      refine ⟨_, by rw [Keyed.get?_insert, if_pos rfl], rfl, ?_, fun name => ?_⟩
      · exact Keyed.keys_insertAll _ declarations.distinct
      · exact Keyed.get?_insertAll _ declarations.distinct name
  | none =>
      simp only [extend, held, before]
      refine ⟨_, by rw [Keyed.get?_insert, if_pos rfl], rfl, ?_, fun name => Option.or_none.symm⟩
      simp [Keyed.withNew, Keyed.empty, Keyed.keys]

theorem get?_extend_of_ne
    (catalog : Catalog) (info : Namespace) (declarations : Keyed Declaration) {path : String}
    (other : path ≠ info.path) :
    (catalog.extend info declarations).spaces.get? path = catalog.spaces.get? path := by
  rw [extend]
  split <;> rw [Keyed.get?_insert, if_neg other]

theorem get?_overlay_of_not_mem
    {module? : Option String} {catalog built : Catalog}
    {spaces : List (String × NamespaceConfig)}
    (read : overlay module? catalog spaces = .ok built)
    {path : String} (unlisted : path ∉ spaces.map Prod.fst) :
    built.spaces.get? path = catalog.spaces.get? path := by
  induction spaces generalizing catalog with
  | nil =>
      cases read
      rfl
  | cons first rest ih =>
      obtain ⟨home, config⟩ := first
      obtain ⟨declarations, -, read⟩ := bind_eq_ok_iff.1 read
      simp only [List.map_cons, List.mem_cons, not_or] at unlisted
      rw [ih read unlisted.2, get?_extend_of_ne _ _ _ unlisted.1]

theorem held_extend_of_ne
    (catalog : Catalog) (info : Namespace) (declarations : Keyed Declaration) {path : String}
    (other : path ≠ info.path) :
    (catalog.extend info declarations).held path = catalog.held path := by
  rw [held, held, get?_extend_of_ne _ _ _ other]

/-- A namespace that is laid over a catalog is described as configured and holds the declarations
that are read from its configuration, over those that the catalog holds. -/
theorem exists_space_of_overlay
    {module? : Option String} {catalog built : Catalog}
    {spaces : List (String × NamespaceConfig)}
    (read : overlay module? catalog spaces = .ok built)
    (distinct : (spaces.map Prod.fst).Nodup)
    {path : String} {config : NamespaceConfig} (here : (path, config) ∈ spaces) :
    ∃ space declarations, built.spaces.get? path = some space ∧
      readDeclarations path config = .ok declarations ∧
        space.LaidOver (describe module? path config) declarations (catalog.held path) := by
  induction spaces generalizing catalog with
  | nil => cases here
  | cons first rest ih =>
      obtain ⟨home, first⟩ := first
      obtain ⟨declarations, declared, read⟩ := bind_eq_ok_iff.1 read
      rw [List.map_cons, List.nodup_cons] at distinct
      rcases List.mem_cons.1 here with same | later
      · cases same
        obtain ⟨space, found, laid⟩ :=
          get?_extend_self catalog (describe module? path config) declarations
        exact ⟨space, declarations, by rw [get?_overlay_of_not_mem read distinct.1]; exact found,
          declared, laid⟩
      · have other : path ≠ home := by
          rintro rfl
          exact distinct.1 (List.mem_map.2 ⟨_, later, rfl⟩)
        obtain ⟨space, declarations', found, declared', laid⟩ := ih read distinct.2 later
        rw [held_extend_of_ne catalog (describe module? home first) declarations other] at laid
        exact ⟨space, declarations', found, declared', laid⟩

/-- A configured type is found under its name as it is read. -/
theorem lookup_of_ofConfig
    {config : CatalogConfig} {built : Catalog}
    (read : ofConfig config = .ok built)
    {path name : String} {space : NamespaceConfig} {type : TypeConfig}
    (here : (path, space) ∈ config.namespaces.entries)
    (given : (name, type) ∈ space.types.entries) :
    ∃ declaration, readDeclaration path name type = .ok declaration ∧
      built.table.lookup ⟨path, name⟩ = some declaration := by
  obtain ⟨placed, declarations, found, declared, laid⟩ :=
    exists_space_of_overlay read config.namespaces.distinct here
  obtain ⟨declaration, read, listed⟩ := get?_of_readDeclarations declared given
  exact ⟨declaration, read, lookup_table_iff.2 ⟨placed, found, laid.get?_of_declared listed⟩⟩

/-- A configured namespace is loaded as it is described. -/
theorem load_of_ofConfig
    {config : CatalogConfig} {built : Catalog}
    (read : ofConfig config = .ok built)
    {path : String} {space : NamespaceConfig}
    (here : (path, space) ∈ config.namespaces.entries) :
    built.load path = .ok (describe config.module? path space) := by
  obtain ⟨placed, _, found, -, laid⟩ :=
    exists_space_of_overlay read config.namespaces.distinct here
  rw [load, found]
  exact congrArg Except.ok laid.info

/-! ## Loading -/

/-- The description of every namespace has the path under which the namespace stands. -/
def PathsAgree (catalog : Catalog) : Prop :=
  ∀ path space, catalog.spaces.get? path = some space → space.info.path = path

theorem PathsAgree.overlay
    {module? : Option String} {catalog built : Catalog}
    {spaces : List (String × NamespaceConfig)}
    (agree : catalog.PathsAgree)
    (read : overlay module? catalog spaces = .ok built) :
    built.PathsAgree := by
  induction spaces generalizing catalog with
  | nil =>
      cases read
      exact agree
  | cons first rest ih =>
      obtain ⟨home, config⟩ := first
      obtain ⟨declarations, -, read⟩ := bind_eq_ok_iff.1 read
      refine ih (fun path space found => ?_) read
      by_cases same : path = home
      · subst same
        obtain ⟨placed, found', laid⟩ :=
          get?_extend_self catalog (describe module? path config) declarations
        obtain rfl := Option.some.inj (found'.symm.trans found)
        rw [laid.info]
        rfl
      · rw [get?_extend_of_ne _ _ _ same] at found
        exact agree path space found

theorem pathsAgree_builtin :
    builtin.PathsAgree := by
  have agree : ∀ entry ∈ builtin.spaces.entries, entry.2.info.path = entry.1 := by decide
  exact fun path space found => agree (path, space) (Keyed.mem_of_get? found)

/-- A built catalog loads every namespace under the path that is asked for. -/
theorem loadsAsAsked_of_ofConfig
    {config : CatalogConfig} {built : Catalog}
    (read : ofConfig config = .ok built) :
    built.provider.LoadsAsAsked := by
  intro path info loaded
  have agree := pathsAgree_builtin.overlay read
  change built.load path = .ok info at loaded
  rw [load] at loaded
  split at loaded
  · next space found =>
      cases loaded
      exact agree path space found
  · cases loaded

end Catalog
end RecordConversion
