import RecordConversion.Proofs.Plan.Passes
import RecordConversion.Proofs.Plan.RecordPairs
import RecordConversion.Proofs.Rule.Extension

/-!
# Plans in an extended provider

The pairs of a plan are pairs of records that have been discovered, so the types of their fields are
covered by what the provider declares.  An extended provider that keeps its answers therefore pairs
the same fields, spells their types alike and resolves them as before.

* `Provider.KeepsAnswers.plan_eq`: plans by the standard rules.
-/

namespace RecordConversion

/-- Both records of a pair have fields of covered types. -/
structure RecordPair.CoveredBy
    (pair : RecordPair) (table : Declarations) : Prop where
  source : pair.source.CoveredBy table
  target : pair.target.CoveredBy table

theorem RecordPair.CoveredBy.reversed
    {pair : RecordPair} {table : Declarations} (covered : pair.CoveredBy table) :
    pair.reversed.CoveredBy table :=
  ⟨covered.target, covered.source⟩

namespace Provider

variable {provider larger : Provider} {resolver : Resolver} {request : PlanRequest}

theorem Grows.fieldPairs_eq
    (grows : provider.Grows larger)
    (outputPath : String) (ignore : List String) {pair : RecordPair}
    (covered : pair.CoveredBy provider.declarations) :
    larger.fieldPairs outputPath ignore pair = provider.fieldPairs outputPath ignore pair := by
  refine List.map_congr_left fun fields member => ?_
  obtain ⟨from_source, from_target⟩ := mem_of_mem_pairFields member
  simp only [grows.spell_eq outputPath (covered.source _ from_source),
    grows.spell_eq outputPath (covered.target _ from_target)]

/-- The field pairs of a covered pair are covered. -/
theorem coveredBy_of_mem_fieldPairs
    {table : Declarations} {outputPath : String} {ignore : List String} {pair : RecordPair}
    (covered : pair.CoveredBy table) {fields : FieldPair}
    (member : fields ∈ provider.fieldPairs outputPath ignore pair) :
    fields.CoveredBy table := by
  obtain ⟨origin, listed, rfl⟩ := List.mem_map.1 member
  obtain ⟨from_source, from_target⟩ := mem_of_mem_pairFields listed
  exact ⟨covered.source origin.source from_source, covered.target origin.target from_target⟩

section KeepsAnswers

variable (keeps : provider.KeepsAnswers larger)
include keeps

theorem KeepsAnswers.convertPair_eq
    (standard : resolver.rules ⊆ Rule.standard)
    (outputPath : String) (rootName? : Option String) (all : List RecordPair) {pair : RecordPair}
    (covered : pair.CoveredBy provider.declarations) :
    resolver.convertPair larger outputPath request rootName? all pair =
      resolver.convertPair provider outputPath request rootName? all pair := by
  simp only [Resolver.convertPair, keeps.fieldPairs_eq outputPath request.ignore covered,
    keeps.resolve_eq standard all fun _ => coveredBy_of_mem_fieldPairs covered]

/-- The converters of covered pairs are made as before, with the same report. -/
theorem KeepsAnswers.convertPairs_eq
    (standard : resolver.rules ⊆ Rule.standard)
    (outputPath : String) (rootName? : Option String) (all : List RecordPair)
    {pairs : List RecordPair} (covered : ∀ pair ∈ pairs, pair.CoveredBy provider.declarations) :
    resolver.convertPairs larger outputPath request rootName? all pairs =
      resolver.convertPairs provider outputPath request rootName? all pairs := by
  induction pairs generalizing resolver with
  | nil => rfl
  | cons pair rest ih =>
      rw [List.forall_mem_cons] at covered
      have after :
          (resolver.convertPair provider outputPath request rootName? all pair).2.rules ⊆
            Rule.standard :=
        (Resolver.convertPair_eq resolver provider outputPath request rootName? all pair).2 ▸
          standard
      simp only [Resolver.convertPairs,
        keeps.convertPair_eq standard outputPath rootName? all covered.1, ih after covered.2]

theorem KeepsAnswers.planBetween_eq
    (standard : resolver.rules ⊆ Rule.standard) {sources targets : List Record}
    (covered : ∀ pair ∈ forwardPairs sources targets, pair.CoveredBy provider.declarations) :
    resolver.planBetween larger request sources targets =
      resolver.planBetween provider request sources targets := by
  have back_covered :
      ∀ pair ∈ backwardPairs (forwardPairs sources targets),
        pair.CoveredBy provider.declarations := by
    intro pair member
    obtain ⟨forth, kept, rfl⟩ := List.mem_map.1 member
    exact (covered forth (List.mem_of_mem_filter kept)).reversed
  have between (outputPath : String) (rootName? : Option String) (all pairs : List RecordPair) :
      (resolver.convertPairs provider outputPath request rootName? all pairs).2.rules ⊆
        Rule.standard :=
    (Resolver.convertPairs_eq resolver provider outputPath request rootName? all pairs).2 ▸ standard
  rw [forwardPairs] at covered back_covered
  simp only [Resolver.planBetween, keeps.convertPairs_eq standard _ _ _ covered,
    keeps.convertPairs_eq (between _ _ _ _) _ _ _ back_covered]

/-- A plan between declared roots is made as before, with the same report. -/
theorem KeepsAnswers.plan_eq
    (standard : resolver.rules ⊆ Rule.standard)
    {source target : Declaration}
    (from_declared : provider.declarations.lookup request.source = some source)
    (to_declared : provider.declarations.lookup request.target = some target) :
    resolver.plan larger request = resolver.plan provider request := by
  rw [Resolver.plan, Resolver.plan, keeps.discover_eq from_declared,
    keeps.discover_eq to_declared]
  cases from_discovered : (provider.discover request.source).value with
  | error cause => rfl
  | ok sources =>
      cases to_discovered : (provider.discover request.target).value with
      | error cause => simp only [to_discovered]
      | ok targets =>
          have closed := keeps.declarations.closed
          obtain ⟨before, first, _, rfl, distinct⟩ := exists_root_of_discover from_discovered
          obtain ⟨before', second, _, rfl, _⟩ := exists_root_of_discover to_discovered
          have covered :
              ∀ pair ∈ forwardPairs (before ++ [first]) (before' ++ [second]),
                pair.CoveredBy provider.declarations := by
            intro pair member
            obtain ⟨from_sources, from_targets⟩ := records_of_mem_forwardPairs distinct member
            exact ⟨coveredBy_of_discover closed from_discovered from_sources,
              coveredBy_of_discover closed to_discovered from_targets⟩
          simp only [to_discovered, keeps.planBetween_eq standard covered]

end KeepsAnswers

end Provider
end RecordConversion
