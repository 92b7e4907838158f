import RecordConversion.Proofs.Catalog.FaultTexts
import RecordConversion.Proofs.Catalog.ValidAliases
import RecordConversion.Proofs.Declarations.ChainLengths

/-!
# Reported chains of names

The second round of validation asks for the end of a chain of names and reports the chain if the
answer is a text.  A chain that never ends has no other answer, and neither has one that is too
long.  But a chain may also end in a type that is kept as text, and then the same is reported of it.

* `TypeConfig.mem_linkFaults_aliasCycle`, `TypeConfig.mem_linkFaults_unresolved`: when a chain is
  reported.
* `CatalogConfig.reports_chains_iff`: of the chains that do not end in a text, exactly those without
  an end in reach are reported.
-/

namespace RecordConversion

/-! ## Faults of chains -/

namespace TypeConfig

variable (config : TypeConfig) (catalog : Catalog) (ref : QualifiedName)

theorem mem_linkFaults_aliasCycle :
    .aliasCycle ∈ config.linkFaults catalog ref ↔
      config.alias?.isSome = true ∧ (catalog.table.resolve (.named ref)).IsText := by
  cases answer : catalog.table.resolve (.named ref) <;> simp [linkFaults, answer, HostType.IsText]

theorem mem_linkFaults_unresolved :
    .unresolved ∈ config.linkFaults catalog ref ↔
      config.underlying?.isSome = true ∧ (catalog.table.underlying (.named ref)).IsText := by
  cases answer : catalog.table.underlying (.named ref) <;>
    simp [linkFaults, answer, HostType.IsText]

end TypeConfig

/-! ## Reports -/

namespace CatalogConfig

/-- Validation says these words of a declaration. -/
def Reports (config : CatalogConfig) (ref : QualifiedName) (words : String) : Prop :=
  ref.key ++ ": " ++ words ∈ config.validate.map ValidationError.message

variable {config : CatalogConfig} {catalog : Catalog}

/-- Of a configuration without faults of the first round, an alias is reported as a cycle exactly if
it resolves to a text, and a type over another one as unresolved exactly if a text is below it. -/
theorem reports_iff_isText
    (faultless : config.ownErrors = []) (built : config.validate = config.linkErrors catalog)
    {path name : String} {space : NamespaceConfig} {type : TypeConfig}
    (here : (path, space) ∈ config.namespaces.entries)
    (given : (name, type) ∈ space.types.entries) :
    (config.Reports ⟨path, name⟩ "alias cycle" ↔
      type.alias?.isSome = true ∧ (catalog.table.resolve (.named ⟨path, name⟩)).IsText) ∧
    (config.Reports ⟨path, name⟩ "underlying type does not resolve" ↔
      type.underlying?.isSome = true ∧
        (catalog.table.underlying (.named ⟨path, name⟩)).IsText) := by
  have cyclic : DeclarationFault.aliasCycle.OfLinks := trivial
  have unresolved : DeclarationFault.unresolved.OfLinks := trivial
  exact ⟨(mem_messages_iff faultless built here given cyclic).trans
      (type.mem_linkFaults_aliasCycle catalog _),
    (mem_messages_iff faultless built here given unresolved).trans
      (type.mem_linkFaults_unresolved catalog _)⟩

/-- Of a configuration without faults of the first round: unless a chain of names from a declaration
ends in a text, an alias is reported as a cycle exactly if no type is in reach that is no alias, and
a type over another one as unresolved exactly if no type is in reach that is no declared name. -/
theorem reports_chains_iff
    {config : CatalogConfig}
    (faultless : config.ownErrors = []) :
    ∃ catalog, Catalog.ofConfig config = .ok catalog ∧
      ∀ path space, (path, space) ∈ config.namespaces.entries →
      ∀ name type, (name, type) ∈ space.types.entries →
        ((∀ meaning, catalog.table.StandsForSoon (.named ⟨path, name⟩) meaning →
            ¬ meaning.IsText) →
          (config.Reports ⟨path, name⟩ "alias cycle" ↔
            type.alias?.isSome = true ∧
              ¬ ∃ meaning, catalog.table.StandsForSoon (.named ⟨path, name⟩) meaning)) ∧
        ((∀ bottom, catalog.table.RestsOnSoon (.named ⟨path, name⟩) bottom → ¬ bottom.IsText) →
          (config.Reports ⟨path, name⟩ "underlying type does not resolve" ↔
            type.underlying?.isSome = true ∧
              ¬ ∃ bottom, catalog.table.RestsOnSoon (.named ⟨path, name⟩) bottom)) := by
  obtain ⟨catalog, built, linked⟩ := exists_catalog_of_ownErrors faultless
  refine ⟨catalog, built, fun path space here name type given => ?_⟩
  obtain ⟨cyclic, unresolved⟩ := reports_iff_isText faultless linked here given
  rw [cyclic, unresolved, Declarations.resolve_isText_iff, Declarations.underlying_isText_iff,
    not_exists, not_exists]
  constructor
  · exact fun no_text => and_congr_right'
      (forall₂_congr fun meaning soon => iff_of_false (no_text meaning soon) id)
  · exact fun no_text => and_congr_right'
      (forall₂_congr fun bottom rests => iff_of_false (no_text bottom rests) id)

/-- A configured type over a type expression. -/
def definedOver (body : String) : TypeConfig :=
  ⟨none, some body, none, []⟩

/-- Two aliases of each other, an alias that ends, a type over itself and one over such a type. -/
def loopsAndEnds : CatalogConfig :=
  inModel [("A", aliasOf "B"), ("B", aliasOf "A"), ("Id", aliasOf "Num"),
    ("Num", definedOver "int"), ("Self", definedOver "Self"), ("Over", definedOver "Id")]

theorem reports_chains_iff_loopsAndEnds :
    loopsAndEnds.ownErrors = [] ∧
      loopsAndEnds.Reports ⟨"m", "A"⟩ "alias cycle" ∧
      ¬ loopsAndEnds.Reports ⟨"m", "Id"⟩ "alias cycle" ∧
      loopsAndEnds.Reports ⟨"m", "Self"⟩ "underlying type does not resolve" ∧
      ¬ loopsAndEnds.Reports ⟨"m", "Over"⟩ "underlying type does not resolve" := by
  have faultless : loopsAndEnds.ownErrors = [] := by decide +kernel
  have ends : (Catalog.ofConfig loopsAndEnds).toOption.all (fun catalog =>
      catalog.table.resolveWithin expansionLimit (.named ⟨"m", "A"⟩) = none ∧
      catalog.table.resolveWithin expansionLimit (.named ⟨"m", "Id"⟩) =
        some (.named ⟨"m", "Num"⟩) ∧
      catalog.table.underlyingWithin expansionLimit
        (catalog.table.resolve (.named ⟨"m", "Self"⟩)) = none ∧
      catalog.table.underlying (.named ⟨"m", "Over"⟩) = .primitive .int) = true := by
    decide +kernel
  obtain ⟨catalog, built, reported⟩ := reports_chains_iff faultless
  obtain ⟨endless, id_end, self_endless, over_end⟩ := holds_of_all built ends
  have no_meaning : ¬ ∃ meaning, catalog.table.StandsForSoon (.named ⟨"m", "A"⟩) meaning := by
    simp [Declarations.standsForSoon_iff, endless]
  have meaning : catalog.table.StandsForSoon (.named ⟨"m", "Id"⟩) (.named ⟨"m", "Num"⟩) :=
    Declarations.standsForSoon_iff.2 id_end
  have no_bottom : ¬ ∃ bottom, catalog.table.RestsOnSoon (.named ⟨"m", "Self"⟩) bottom := by
    rintro ⟨bottom, rests⟩
    simpa [self_endless] using rests.underlyingWithin_eq
  have bottom : ∃ bottom, catalog.table.RestsOnSoon (.named ⟨"m", "Over"⟩) bottom := by
    by_contra none
    obtain ⟨_, text⟩ := Declarations.underlying_isText_iff (.named ⟨"m", "Over"⟩) |>.2
      fun bottom rests => absurd ⟨bottom, rests⟩ none
    simp [over_end] at text
  refine ⟨faultless, ?_, ?_, ?_, ?_⟩
  · have exact_for_A := (reported "m" _ (.head _) "A" _ (.head _)).1
    exact (exact_for_A fun meaning soon => absurd ⟨meaning, soon⟩ no_meaning).2 ⟨rfl, no_meaning⟩
  · have exact_for_Id := (reported "m" _ (.head _) "Id" _ (.tail _ (.tail _ (.head _)))).1
    refine fun claimed => ((exact_for_Id ?_).1 claimed).2 ⟨_, meaning⟩
    rintro other soon ⟨_, rfl⟩
    cases soon.standsFor.unique meaning.standsFor
  · have exact_for_Self := (reported "m" _ (.head _) "Self" _
      (.tail _ (.tail _ (.tail _ (.tail _ (.head _)))))).2
    exact (exact_for_Self fun bottom rests => absurd ⟨bottom, rests⟩ no_bottom).2 ⟨rfl, no_bottom⟩
  · have exact_for_Over := (reported "m" _ (.head _) "Over" _
      (.tail _ (.tail _ (.tail _ (.tail _ (.tail _ (.head _))))))).2
    refine fun claimed => ((exact_for_Over ?_).1 claimed).2 bottom
    rintro other rests ⟨_, rfl⟩
    simpa [over_end] using rests.underlying_eq

/-! ## Reported chains with an end -/

/-- A chain with one alias more than the limit. -/
def longChain : CatalogConfig :=
  inModel (((List.range 64).map fun i => ("T" ++ toString i, aliasOf ("T" ++ toString (i + 1)))) ++
    [("T64", aliasOf "int")])

theorem reports_longChain :
    longChain.ownErrors = [] ∧ longChain.Reports ⟨"m", "T0"⟩ "alias cycle" ∧
      ∃ catalog, Catalog.ofConfig longChain = .ok catalog ∧
        catalog.table.StandsFor (.named ⟨"m", "T0"⟩) (.primitive .int) := by
  have chained :
      longChain.ownErrors = [] ∧ (Catalog.ofConfig longChain).toOption.all (fun catalog =>
        catalog.table.resolveWithin expansionLimit (.named ⟨"m", "T0"⟩) = none ∧
        catalog.table.resolveWithin (expansionLimit + 2) (.named ⟨"m", "T0"⟩) =
          some (.primitive .int)) = true := by
    decide +kernel
  obtain ⟨faultless, ends⟩ := chained
  obtain ⟨catalog, built, linked⟩ := exists_catalog_of_ownErrors faultless
  obtain ⟨out_of_reach, int_end⟩ := holds_of_all built ends
  obtain ⟨hops, -, chain⟩ := Declarations.resolveWithin_eq_some_iff.1 int_end
  have text : (catalog.table.resolve (.named ⟨"m", "T0"⟩)).IsText :=
    ⟨_, by rw [Declarations.resolve, out_of_reach, Option.getD_none]⟩
  have cyclic := (reports_iff_isText faultless linked (.head _) (.head _)).1.2 ⟨rfl, text⟩
  exact ⟨faultless, cyclic, catalog, built, chain.standsFor⟩

/-- An alias of an array type and a type over a channel type. -/
def keptAsText : CatalogConfig :=
  inModel [("A", aliasOf "[4]int"), ("B", definedOver "chan int")]

theorem reports_keptAsText :
    keptAsText.ownErrors = [] ∧ keptAsText.Reports ⟨"m", "A"⟩ "alias cycle" ∧
      keptAsText.Reports ⟨"m", "B"⟩ "underlying type does not resolve" ∧
      ∃ catalog, Catalog.ofConfig keptAsText = .ok catalog ∧
        catalog.table.StandsFor (.named ⟨"m", "A"⟩) (.other "[4]int") ∧
        catalog.table.RestsOnSoon (.named ⟨"m", "B"⟩) (.other "chan int") := by
  have kept :
      keptAsText.ownErrors = [] ∧ (Catalog.ofConfig keptAsText).toOption.all (fun catalog =>
        catalog.table.resolveWithin expansionLimit (.named ⟨"m", "A"⟩) = some (.other "[4]int") ∧
        catalog.table.resolveWithin expansionLimit (.named ⟨"m", "B"⟩) =
          some (.named ⟨"m", "B"⟩) ∧
        catalog.table.definitionOf? (.named ⟨"m", "B"⟩) = some (.other "chan int")) = true := by
    decide +kernel
  obtain ⟨faultless, ends⟩ := kept
  obtain ⟨catalog, built, linked⟩ := exists_catalog_of_ownErrors faultless
  obtain ⟨array_end, itself, defined⟩ := holds_of_all built ends
  have array : catalog.table.StandsForSoon (.named ⟨"m", "A"⟩) (.other "[4]int") :=
    Declarations.standsForSoon_iff.2 array_end
  have chan_end : catalog.table.StandsForSoon (.other "chan int") (.other "chan int") :=
    ⟨0, by decide, .itself rfl⟩
  have channel : catalog.table.RestsOnSoon (.named ⟨"m", "B"⟩) (.other "chan int") :=
    ⟨1, by decide, .past (Declarations.standsForSoon_iff.2 itself) defined (.bottom chan_end rfl)⟩
  have cyclic := (reports_iff_isText faultless linked (.head _) (.head _)).1.2
    ⟨rfl, _, array.resolve_eq⟩
  have unresolved := (reports_iff_isText faultless linked (.head _) (.tail _ (.head _))).2.2
    ⟨rfl, _, channel.underlying_eq⟩
  exact ⟨faultless, cyclic, unresolved, catalog, built, array.standsFor, channel⟩

/-- Chains with an end are reported: one because it has too many aliases, and others because the end
is a type that is kept as text. -/
theorem reports_chains_with_ends :
    (longChain.ownErrors = [] ∧ longChain.Reports ⟨"m", "T0"⟩ "alias cycle" ∧
      ∃ catalog, Catalog.ofConfig longChain = .ok catalog ∧
        catalog.table.StandsFor (.named ⟨"m", "T0"⟩) (.primitive .int)) ∧
    keptAsText.ownErrors = [] ∧ keptAsText.Reports ⟨"m", "A"⟩ "alias cycle" ∧
      keptAsText.Reports ⟨"m", "B"⟩ "underlying type does not resolve" ∧
      ∃ catalog, Catalog.ofConfig keptAsText = .ok catalog ∧
        catalog.table.StandsFor (.named ⟨"m", "A"⟩) (.other "[4]int") ∧
        catalog.table.RestsOnSoon (.named ⟨"m", "B"⟩) (.other "chan int") :=
  ⟨reports_longChain, reports_keptAsText⟩

end CatalogConfig
end RecordConversion
