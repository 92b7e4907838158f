import Mathlib.Algebra.Order.BigOperators.Group.List
import Mathlib.Algebra.Order.Ring.Nat
import RecordConversion.CommandLine.Run
import RecordConversion.Proofs.Catalog.Overlay
import RecordConversion.Proofs.Catalog.ValidAliases

/-!
# How many types a catalog declares

A namespace that is laid over a catalog adds its types, except those whose names the catalog has
already: they take the place of what is there.  So a built catalog has as many types as are
predeclared and configured together, less the configured ones under predeclared names.

The validation command prints what the built catalog has beyond the predeclared types.  That is the
number of configured types exactly if no predeclared name is configured.

* `Catalog.typeCount_extend`, `Catalog.typeCount_overlay`: one namespace, and all of them.
* `CatalogConfig.printed_count`: the number that is printed.
-/

namespace RecordConversion

namespace Keyed

variable {α : Type}

theorem length_keys
    (table : Keyed α) :
    table.keys.length = table.size :=
  List.length_map _

/-- Of the names that are added, those that are there already make nothing longer. -/
theorem length_withNew
    (names added : List String) :
    (withNew names added).length + added.countP (· ∈ names) = names.length + added.length := by
  rw [withNew, List.length_append, ← List.countP_eq_length_filter,
    List.length_eq_countP_add_countP (· ∈ names) (l := added)]
  simp only [decide_not, decide_eq_true_eq]
  omega

/-- A table that is laid over another adds its entries, except those whose names are there. -/
theorem size_insertAll
    (table added : Keyed α) :
    (table.insertAll added.entries).size + added.keys.countP (· ∈ table.keys) =
      table.size + added.size := by
  simp only [← length_keys]
  rw [keys_insertAll _ added.distinct]
  exact length_withNew table.keys added.keys

/-- In a total over the entries an old value makes way for the new one. -/
theorem sum_values_insert
    (count : α → Nat) (table : Keyed α) (key : String) (value : α) :
    ((table.insert key value).values.map count).sum + (table.get? key).elim 0 count =
      (table.values.map count).sum + count value := by
  obtain ⟨entries, distinct⟩ := table
  simp only [values, insert, get?]
  clear distinct
  induction entries with
  | nil => simp [setEntry]
  | cons entry rest ih =>
      obtain ⟨name, old⟩ := entry
      by_cases here : name = key
      · subst here
        simp only [setEntry, if_true, List.map_cons, List.sum_cons, List.lookup_cons_self,
          Option.elim_some]
        omega
      · have test : (key == name) = false := beq_eq_false_iff_ne.2 fun same => here same.symm
        simp only [setEntry, here, if_false, List.map_cons, List.sum_cons, List.lookup_cons, test]
        omega

end Keyed

namespace Catalog

/-- How many of some names in a namespace a catalog has already. -/
def knownIn (catalog : Catalog) (path : String) (names : List String) : Nat :=
  names.countP fun name => (catalog.lookup ⟨path, name⟩).isSome

theorem knownIn_eq_countP
    (catalog : Catalog) (path : String) (names : List String) :
    catalog.knownIn path names = names.countP (· ∈ (catalog.held path).keys) := by
  refine List.countP_congr fun name _ => ?_
  rw [lookup_eq_held, ← Keyed.mem_keys_iff, decide_eq_true_eq]

theorem typeCount_eq_sum
    (catalog : Catalog) :
    catalog.typeCount = (catalog.spaces.values.map fun space => space.declarations.size).sum := by
  simp only [typeCount, List.length_flatMap, Keyed.length_keys]

/-- A namespace adds its types, except those whose names are known. -/
theorem typeCount_extend
    (catalog : Catalog) (info : Namespace) (declarations : Keyed Declaration) :
    (catalog.extend info declarations).typeCount + catalog.knownIn info.path declarations.keys =
      catalog.typeCount + declarations.size := by
  rw [knownIn_eq_countP]
  have replaced := Keyed.sum_values_insert
    (fun space => space.declarations.size) catalog.spaces info.path
  cases before : catalog.spaces.get? info.path with
  | none =>
      have unknown : declarations.keys.countP (· ∈ (Keyed.empty : Keyed Declaration).keys) = 0 :=
        List.countP_eq_zero.2 fun name _ => by simp [Keyed.empty, Keyed.keys]
      simp only [before, Option.elim_none] at replaced
      simp only [extend, held, before, typeCount_eq_sum, unknown]
      exact replaced ⟨info, declarations⟩
  | some space =>
      have merged := space.declarations.size_insertAll declarations
      simp only [before, Option.elim_some] at replaced
      have laid := replaced ⟨info, space.declarations.insertAll declarations.entries⟩
      simp only [extend, held, before, typeCount_eq_sum]
      dsimp only at laid
      omega

/-- How many of the types in some namespaces a catalog has already. -/
def knownAmong (catalog : Catalog) (spaces : List (String × NamespaceConfig)) : Nat :=
  (spaces.map fun space => catalog.knownIn space.1 space.2.types.keys).sum

/-- Namespaces with distinct paths do not bear on what is known of one another. -/
theorem knownAmong_extend
    (catalog : Catalog) (info : Namespace) (declarations : Keyed Declaration)
    {spaces : List (String × NamespaceConfig)} (apart : info.path ∉ spaces.map Prod.fst) :
    (catalog.extend info declarations).knownAmong spaces = catalog.knownAmong spaces := by
  refine congrArg List.sum (List.map_congr_left fun space here => ?_)
  have other : space.1 ≠ info.path := fun same => apart (same ▸ List.mem_map_of_mem here)
  rw [knownIn_eq_countP, knownIn_eq_countP, held_extend_of_ne _ _ _ other]

/-- The types of all namespaces are added, except those whose names are known. -/
theorem typeCount_overlay
    {module? : Option String} {catalog built : Catalog}
    {spaces : List (String × NamespaceConfig)}
    (read : overlay module? catalog spaces = .ok built)
    (distinct : (spaces.map Prod.fst).Nodup) :
    built.typeCount + catalog.knownAmong spaces =
      catalog.typeCount + (spaces.map fun space => space.2.types.size).sum := by
  induction spaces generalizing catalog with
  | nil =>
      cases read
      rfl
  | cons first rest ih =>
      obtain ⟨path, config⟩ := first
      obtain ⟨declarations, declared, read⟩ := bind_eq_ok_iff.1 read
      rw [List.map_cons, List.nodup_cons] at distinct
      have later := ih read distinct.2
      rw [knownAmong_extend catalog (describe module? path config) declarations distinct.1] at later
      have names := keys_of_readDeclarations declared
      have sizes : declarations.size = config.types.size := by
        rw [← Keyed.length_keys, names, Keyed.length_keys]
      have here := catalog.typeCount_extend (describe module? path config) declarations
      rw [names, sizes] at here
      simp only [knownAmong, List.map_cons, List.sum_cons] at later ⊢
      change _ + catalog.knownIn path config.types.keys = _ at here
      omega

end Catalog

namespace CatalogConfig

/-- How many of the types that a configuration declares take the place of predeclared ones. -/
def replacedCount (config : CatalogConfig) : Nat :=
  Catalog.builtin.knownAmong config.namespaces.entries

/-- No type is declared under a predeclared name. -/
def DeclaresNew (config : CatalogConfig) : Prop :=
  ∀ ref type, config.type? ref = some type → Catalog.builtin.lookup ref = none

theorem replacedCount_eq_zero_iff
    {config : CatalogConfig} :
    config.replacedCount = 0 ↔ config.DeclaresNew := by
  simp only [replacedCount, Catalog.knownAmong, Catalog.knownIn, List.sum_eq_zero_iff_forall_eq_nat,
    List.forall_mem_map, List.countP_eq_zero, Option.not_isSome_iff_eq_none]
  constructor
  · intro fresh ref type given
    obtain ⟨space, here, listed⟩ := Option.bind_eq_some_iff.1 given
    refine fresh (ref.path, space) ((Keyed.get?_eq_some_iff _).1 here) ref.name ?_
    rw [Keyed.mem_keys_iff, listed]
    rfl
  · rintro fresh ⟨path, space⟩ here name named
    obtain ⟨type, listed⟩ := Option.isSome_iff_exists.1 ((Keyed.mem_keys_iff _ _).1 named)
    refine fresh ⟨path, name⟩ type ?_
    rw [type?, (Keyed.get?_eq_some_iff _).2 here]
    exact listed

theorem typeCount_eq_sum_entries
    (config : CatalogConfig) :
    config.typeCount = (config.namespaces.entries.map fun space => space.2.types.size).sum := by
  simp only [typeCount, List.length_flatMap, Keyed.length_keys, Keyed.values, List.map_map]
  rfl

/-- A built catalog has the predeclared and the configured types, of which those under one name
count once. -/
theorem typeCount_of_ofConfig
    {config : CatalogConfig} {built : Catalog}
    (read : Catalog.ofConfig config = .ok built) :
    built.typeCount + config.replacedCount =
      Catalog.builtin.typeCount + config.typeCount := by
  rw [typeCount_eq_sum_entries]
  exact Catalog.typeCount_overlay read config.namespaces.distinct

/-- What takes the place of a predeclared type is declared. -/
theorem replacedCount_le_typeCount
    (config : CatalogConfig) :
    config.replacedCount ≤ config.typeCount := by
  rw [typeCount_eq_sum_entries]
  refine List.sum_le_sum fun space _ => ?_
  rw [← Keyed.length_keys]
  exact List.countP_le_length

/-- The catalog of an accepted configuration has at least as many types as are predeclared.  What it
has beyond them is printed: the number of configured types less those that take the place of a
predeclared one, so the number of configured types exactly if none does. -/
theorem printed_count
    {config : CatalogConfig}
    (accepted : config.validate = []) :
    ∃ built, Catalog.ofValidConfig config = .ok built ∧
      Catalog.builtin.typeCount ≤ built.typeCount ∧
      built.typeCount - Catalog.builtin.typeCount = config.typeCount - config.replacedCount ∧
      (built.typeCount - Catalog.builtin.typeCount = config.typeCount ↔ config.DeclaresNew) ∧
      ∀ tree path list text, FileTree.readText tree path = .ok text → ofYaml text = .ok config →
        tree.run (.validate path list) =
          (.done ((if list then built.summary else "") ++ "OK: " ++ path ++ " (" ++
            toString (config.typeCount - config.replacedCount) ++ " declared types)\n"), tree) := by
  obtain ⟨built, read, -⟩ := exists_catalog_of_validate accepted
  have loaded : Catalog.ofValidConfig config = .ok built := by
    rw [Catalog.ofValidConfig, accepted]
    simp only [Catalog.ofConfigUnchecked, read]
  have counts := typeCount_of_ofConfig read
  have replaced := config.replacedCount_le_typeCount
  have beyond :
      built.typeCount - Catalog.builtin.typeCount = config.typeCount - config.replacedCount := by
    omega
  refine ⟨built, loaded, by omega, beyond, ?_, ?_⟩
  · rw [← replacedCount_eq_zero_iff]
    omega
  · intro tree path list text given holds
    have opened : Catalog.ofFile path (tree.readText path) = .ok built := by
      rw [given, Catalog.ofFile, Catalog.ofContent]
      exact (congrArg (Except.bind · Catalog.ofValidConfig) holds).trans loaded
    rw [FileTree.run, Command.onCatalog, opened]
    simp only [Command.validated, beyond]

/-- A predeclared namespace that gets a further type and another `Month`. -/
def zones : CatalogConfig :=
  ⟨none, Keyed.ofList
    [("m", ⟨none, none, Keyed.ofList [("Stamp", aliasOf "time.Time")]⟩),
      ("time", ⟨none, none, Keyed.ofList
        [("Zone", ⟨none, some "string", none, []⟩), ("Month", ⟨none, some "int", none, []⟩)]⟩)]⟩

/-- The lines of a file that holds `zones`. -/
def zonesLines : List String :=
  ["namespaces:",
   "  m:",
   "    types:",
   "      Stamp: \x7b alias: time.Time \x7d",
   "  time:",
   "    types:",
   "      Zone: \x7b underlying: string \x7d",
   "      Month: \x7b underlying: int \x7d"]

/-- A working directory with one file. -/
def directoryOf (name content : String) : FileTree :=
  ⟨[(Place.working.child name, .file content)]⟩

theorem printed_count_zones :
    zones.validate = [] ∧ zones.typeCount = 3 ∧ ¬ zones.DeclaresNew ∧
      ((directoryOf "catalog.yaml" (Text.unlines zonesLines)).run
        (.validate "catalog.yaml" false)).1 = .done "OK: catalog.yaml (2 declared types)\n" := by
  have accepted : zones.validate = [] := by decide +kernel
  have declared : zones.typeCount = 3 := by decide +kernel
  have replaced : zones.replacedCount = 1 := by decide +kernel
  have given : (directoryOf "catalog.yaml" (Text.unlines zonesLines)).readText "catalog.yaml" =
      .ok (Text.unlines zonesLines) := by decide +kernel
  have holds : ofYaml (Text.unlines zonesLines) = .ok zones := by decide +kernel
  obtain ⟨built, -, -, beyond, exact_iff, printed⟩ := printed_count accepted
  refine ⟨accepted, declared, ?_, ?_⟩
  · rw [← exact_iff, beyond, declared, replaced]
    decide
  · rw [printed _ "catalog.yaml" false _ given holds, declared, replaced]
    rfl

/-- One type, under a predeclared name. -/
def months : CatalogConfig :=
  ⟨none, Keyed.ofList
    [("time", ⟨none, none, Keyed.ofList [("Month", ⟨none, some "int", none, []⟩)]⟩)]⟩

/-- The lines of a file that holds `months`. -/
def monthsLines : List String :=
  ["namespaces:",
   "  time:",
   "    types:",
   "      Month: \x7b underlying: int \x7d"]

/-- A type that takes the place of a predeclared one is declared and not counted. -/
theorem uncounted_months :
    months.validate = [] ∧ months.typeCount = 1 ∧
      ofYaml (Text.unlines monthsLines) = .ok months ∧
      (Catalog.ofValidConfig months).toOption.map
        (fun built => built.typeCount - Catalog.builtin.typeCount) = some 0 ∧
      ((directoryOf "catalog.yaml" (Text.unlines monthsLines)).run
        (.validate "catalog.yaml" false)).1 = .done "OK: catalog.yaml (0 declared types)\n" := by
  decide +kernel

end CatalogConfig
end RecordConversion
