import RecordConversion.Proofs.Plan.Passes
import RecordConversion.Proofs.Rule.Delegation

/-!
# Resolvers that are used again

A resolver takes up the record pairs of each batch in place of those of the batch before, and keeps
its rules.  So what it answers does not depend on what it has been asked, and a resolver that is
used again and again answers as a new one does each time.  Standard rules ask the record pairs for
nothing but the identities of their records.

* `Resolver.answer_eq`: one answer, by the rules of the resolver.
* `Resolver.resolve_eq_of_sameKeys`: batches whose record pairs have the same identities.
* `Resolver.answers_forget`: the answers of a resolver after any history.
-/

namespace RecordConversion

/-! ## Record pairs of the same identities -/

/-- Each pair of identities that is in the one list is in the other. -/
def SameKeys (records others : List RecordPair) : Prop :=
  ∀ keys, keys ∈ records.map RecordPair.keys ↔ keys ∈ others.map RecordPair.keys

theorem nodup_eraseDups {α : Type} [BEq α] [LawfulBEq α] :
    (items : List α) → items.eraseDups.Nodup
  | [] => by simp
  | first :: rest => by
      rw [List.eraseDups_cons, List.nodup_cons, List.mem_eraseDups]
      exact ⟨by simp, nodup_eraseDups _⟩
termination_by items => items.length
decreasing_by exact Nat.lt_succ_of_le (List.length_filter_le ..)

/-- Two sets of record pairs answer alike to all that can be asked of them. -/
structure PairSet.Alike (set other : PairSet) : Prop where
  contains : ∀ source target, set.contains source target = other.contains source target
  isEmpty : set.isEmpty = other.isEmpty
  size : set.size = other.size

theorem PairSet.alike_ofPairs
    {records others : List RecordPair} (same : SameKeys records others) :
    (ofPairs records).Alike (ofPairs others) := by
  have listed (keys : QualifiedName × QualifiedName) :
      keys ∈ (ofPairs records).keys ↔ keys ∈ (ofPairs others).keys := by
    rw [ofPairs, ofPairs, List.mem_eraseDups, List.mem_eraseDups]
    exact same keys
  have rearranged : (ofPairs records).keys.Perm (ofPairs others).keys :=
    (List.perm_ext_iff_of_nodup (nodup_eraseDups _) (nodup_eraseDups _)).2 listed
  refine ⟨fun source target => ?_, ?_, rearranged.length_eq⟩
  · simp only [PairSet.contains, List.contains_eq_mem, listed]
  · rw [isEmpty, isEmpty, Bool.eq_iff_iff, List.isEmpty_iff, List.isEmpty_iff]
    exact ⟨fun none => (none ▸ rearranged).nil_eq.symm, fun none => (none ▸ rearranged).eq_nil⟩

namespace Rule

variable {set other : PairSet}

theorem nestedStruct_eq_of_alike
    (alike : set.Alike other) (provider : Provider) (pair : FieldPair) :
    nestedStruct.convert? ⟨provider, some set⟩ pair =
      nestedStruct.convert? ⟨provider, some other⟩ pair := by
  have records (source target : QualifiedName × Bool) :
      delegateRecord? set pair source target = delegateRecord? other pair source target := by
    rw [delegateRecord?, delegateRecord?, alike.contains]
  have slices (source target : QualifiedName × Bool) :
      delegateSlice? set pair source target = delegateSlice? other pair source target := by
    rw [delegateSlice?, delegateSlice?, alike.contains]
  have empty := alike.isEmpty
  cases none : set.isEmpty with
  | true => simp [nestedStruct, Option.filter, none, empty ▸ none]
  | false =>
      simp only [nestedStruct, Option.filter, none, empty ▸ none, Bool.not_false, if_true,
        Option.bind_some, records, slices]

/-- A standard rule gives the same conversion among record pairs that answer alike. -/
theorem conversion?_eq_of_alike
    {rule : Rule} (standard : rule ∈ Rule.standard)
    (alike : set.Alike other) (provider : Provider) (pair : FieldPair) :
    rule.conversion? provider set pair = rule.conversion? provider other pair := by
  cases asks : rule.needsPairSet with
  | false => simp [conversion?, asks]
  | true =>
      obtain rfl := eq_nestedStruct standard asks
      exact congrArg (Option.map _) (nestedStruct_eq_of_alike alike provider pair)

end Rule

namespace Resolver

variable {resolver : Resolver} {provider : Provider}

/-! ## One batch -/

theorem firstRule?_eq_of_alike
    {set other : PairSet} (alike : set.Alike other) (pair : FieldPair)
    {rules : List Rule} (standard : ∀ rule ∈ rules, rule ∈ Rule.standard) :
    firstRule? provider set pair rules = firstRule? provider other pair rules := by
  induction rules with
  | nil => rfl
  | cons rule rest ih =>
      rw [List.forall_mem_cons] at standard
      rw [firstRule?, firstRule?, Rule.conversion?_eq_of_alike standard.1 alike, ih standard.2]

/-- By standard rules a batch depends on its record pairs only in the identities of the records. -/
theorem resolve_eq_of_sameKeys
    (standard : ∀ rule ∈ resolver.rules, rule ∈ Rule.standard)
    {records others : List RecordPair} (same : SameKeys records others)
    (provider : Provider) (fields : List FieldPair) :
    (resolver.resolve provider fields records).1 = (resolver.resolve provider fields others).1 := by
  have alike := PairSet.alike_ofPairs same
  have each (pair : FieldPair) :
      (resolver.rebuild records).resolveField provider pair =
        (resolver.rebuild others).resolveField provider pair := by
    simp only [resolveField, rebuild, firstRule?_eq_of_alike alike pair standard]
  have results : fields.map ((resolver.rebuild records).resolveField provider) =
      fields.map ((resolver.rebuild others).resolveField provider) :=
    List.map_congr_left fun pair _ => each pair
  have size : (resolver.rebuild records).pairs.size = (resolver.rebuild others).pairs.size :=
    alike.size
  simp only [resolve, results, size]

/-! ## Plans -/

/-- The first of several converters clears away what earlier batches have left. -/
theorem convertPairs_eq_ofRules
    (resolver : Resolver) (provider : Provider) (outputPath : String) (request : PlanRequest)
    (rootName? : Option String) (all : List RecordPair) {pairs : List RecordPair}
    (some_pair : pairs ≠ []) :
    resolver.convertPairs provider outputPath request rootName? all pairs =
      (ofRules resolver.rules).convertPairs provider outputPath request rootName? all pairs := by
  obtain ⟨pair, rest, rfl⟩ := List.exists_cons_of_ne_nil some_pair
  rfl

theorem planBetween_eq_ofRules
    (resolver : Resolver) (provider : Provider) (request : PlanRequest)
    (sources targets : List Record) :
    (resolver.planBetween provider request sources targets).1 =
        ((ofRules resolver.rules).planBetween provider request sources targets).1 ∧
      (resolver.planBetween provider request sources targets).2.rules = resolver.rules := by
  rw [planBetween, planBetween]
  split
  · exact ⟨rfl, rfl⟩
  · next some_pair =>
      have some_pair :
          withRootPair sources.getLast? targets.getLast? (pairRecords sources targets) ≠ [] :=
        mt List.isEmpty_iff.2 some_pair
      constructor
      · simp only [resolver.convertPairs_eq_ofRules provider _ request _ _ some_pair]
      · simp only [(convertPairs_eq _ provider _ request _ _ _).2]

/-- A plan is made as by a new resolver with the same rules, which the resolver keeps. -/
theorem plan_eq_ofRules
    (resolver : Resolver) (provider : Provider) (request : PlanRequest) :
    (resolver.plan provider request).1 = ((ofRules resolver.rules).plan provider request).1 ∧
      (resolver.plan provider request).2.rules = resolver.rules := by
  cases from_discovered : (provider.discover request.source).value with
  | error cause => simp [Resolver.plan, from_discovered]
  | ok sources =>
      cases to_discovered : (provider.discover request.target).value with
      | error cause => simp [Resolver.plan, from_discovered, to_discovered]
      | ok targets =>
          obtain ⟨answer, kept⟩ := planBetween_eq_ofRules resolver provider request sources targets
          simp [Resolver.plan, from_discovered, to_discovered, answer, kept]

end Resolver

/-! ## Histories -/

/-- What a resolver can be asked. -/
inductive Query where
  | batch (provider : Provider) (fields : List FieldPair) (records : List RecordPair)
  | plan (provider : Provider) (request : PlanRequest)

/-- What a resolver answers. -/
inductive Answer where
  | conversions (answer : Logged (List FieldConversion))
  | plan (answer : Logged (Except PlanError Plan))

/-- The strategies in the answer to a batch. -/
def Answer.strategies : Answer → List Strategy
  | conversions answer => answer.value.map FieldConversion.strategy
  | plan _ => []

namespace Resolver

/-- The answer to a query, and the resolver after it. -/
def answer (resolver : Resolver) : Query → Answer × Resolver
  | .batch provider fields records =>
    let (conversions, after) := resolver.resolve provider fields records
    (.conversions conversions, after)
  | .plan provider request =>
    let (plan, after) := resolver.plan provider request
    (.plan plan, after)

/-- The answers of one resolver to queries, one after the other. -/
def answers : Resolver → List Query → List Answer
  | _, [] => []
  | resolver, query :: rest =>
    let (first, after) := resolver.answer query
    first :: after.answers rest

/-- A query is answered as by a new resolver with the same rules, which the resolver keeps. -/
theorem answer_eq_ofRules
    (resolver : Resolver) (query : Query) :
    (resolver.answer query).1 = ((ofRules resolver.rules).answer query).1 ∧
      (resolver.answer query).2.rules = resolver.rules := by
  cases query with
  | batch provider fields records => exact ⟨rfl, rfl⟩
  | plan provider request =>
      obtain ⟨same, kept⟩ := resolver.plan_eq_ofRules provider request
      exact ⟨congrArg Answer.plan same, kept⟩

/-- A resolver answers each query as a new resolver with the same rules does. -/
theorem answers_eq_map
    (resolver : Resolver) (queries : List Query) :
    resolver.answers queries =
      queries.map fun query => ((ofRules resolver.rules).answer query).1 := by
  induction queries generalizing resolver with
  | nil => rfl
  | cons query rest ih =>
      obtain ⟨first, kept⟩ := resolver.answer_eq_ofRules query
      simp only [answers, List.map_cons, ih, kept, first]

/-- A resolver with standard rules has no memory: after any history it answers as a new one with the
same rules, and a batch depends on its record pairs only in the identities of their records. -/
theorem answers_forget
    {resolver : Resolver} (standard : ∀ rule ∈ resolver.rules, rule ∈ Rule.standard) :
    (∀ queries, resolver.answers queries =
      queries.map fun query => ((ofRules resolver.rules).answer query).1) ∧
    ∀ provider fields records others, SameKeys records others →
      (resolver.answer (.batch provider fields records)).1 =
        (resolver.answer (.batch provider fields others)).1 := by
  refine ⟨resolver.answers_eq_map, fun provider fields records others same => ?_⟩
  exact congrArg Answer.conversions (resolve_eq_of_sameKeys standard same provider fields)

/-- A provider that declares nothing. -/
def blankProvider : Provider where
  declarations := ⟨[]⟩
  load path := .ok ⟨path, path, none⟩

/-- A field that holds a pen of a namespace. -/
def penField (path : String) : RecordField :=
  ⟨"Pen", "Pen", path ++ ".Pen", .record path "Pen" "Pen", .named ⟨path, "Pen"⟩, true, ""⟩

/-- The pens of an office and those of a depot. -/
def penPair (fields : List RecordField) : RecordPair :=
  ⟨⟨"Pen", "office", "office", fields⟩, ⟨"Pen", "depot", "depot", []⟩⟩

/-- Pens are left to their converter in a batch that has one, whatever the fields of the records and
however often it is listed, and skipped in the next batch, which has none. -/
theorem answers_forget_pens :
    let resolver := ofRules [Rule.nestedStruct, Rule.sameType]
    let batch (records : List RecordPair) : Query :=
      .batch blankProvider [⟨penField "office", penField "depot"⟩] records
    (∀ rule ∈ resolver.rules, rule ∈ Rule.standard) ∧
      resolver.answers [batch [penPair []], batch []] =
        [((ofRules resolver.rules).answer (batch [penPair []])).1,
          ((ofRules resolver.rules).answer (batch [])).1] ∧
      (resolver.answer (batch [penPair []])).1 =
        (resolver.answer (batch [penPair [penField "office"], penPair []])).1 ∧
      (resolver.answers [batch [penPair []], batch []]).map Answer.strategies =
        [[.nestedStructConvert], [.skip]] := by
  intro resolver batch
  have standard : ∀ rule ∈ resolver.rules, rule ∈ Rule.standard := by
    simp [resolver, ofRules, Rule.standard]
  have same : SameKeys [penPair []] [penPair [penField "office"], penPair []] := by
    simp [SameKeys, penPair, RecordPair.keys, Record.key]
  obtain ⟨history, identities⟩ := answers_forget standard
  exact ⟨standard, history _, identities _ _ _ _ same, rfl⟩

end Resolver
end RecordConversion
