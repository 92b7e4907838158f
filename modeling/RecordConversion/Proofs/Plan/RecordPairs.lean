import Mathlib.Data.List.Nodup
import Mathlib.Data.Prod.Basic
import RecordConversion.Proofs.Discovery.LeafFirst
import RecordConversion.Proofs.Pairing
import RecordConversion.Proofs.Plan.Delegation

/-!
# The record pairs of a plan

A discovery ends with its root and repeats no record.  So the pair of the two roots is among the
pairs by name exactly if the roots have one name, and it is then the first of them; otherwise it is
put before them.  Either way the pairs of the first pass are the root pair and, without it, the
pairs by name.

A pair by name has two records of one name, and its target is the last one of that name.  Hence no
pair is another one turned round, and the two passes share no pair of identities.

* `forwardPairs_eq`: the pairs of the first pass.
* `nodup_keys_passes`: no pair of identities comes twice in the two passes.
* `Provider.plan_pairs_roots_first`: the converters of every plan, and that a plan never fails for
  want of pairs.
-/

namespace RecordConversion

/-- The records between which a converter converts. -/
def Converter.records (converter : Converter) : RecordPair :=
  ⟨converter.source, converter.target⟩

/-! ## Pairs by name -/

theorem mem_pairRecords_iff
    {sources targets : List Record} {pair : RecordPair} :
    pair ∈ pairRecords sources targets ↔
      pair.source ∈ sources ∧
        targets.findRev? (fun target => target.name == pair.source.name) = some pair.target := by
  obtain ⟨source, target⟩ := pair
  simp only [pairRecords, List.mem_reverse, List.mem_filterMap, Option.map_eq_some_iff,
    RecordPair.mk.injEq]
  constructor
  · rintro ⟨_, member, _, found, rfl, rfl⟩
    exact ⟨member, found⟩
  · rintro ⟨member, found⟩
    exact ⟨source, member, target, found, rfl, rfl⟩

/-- The records of a pair by name have one name. -/
theorem name_eq_of_mem_pairRecords
    {sources targets : List Record} {pair : RecordPair}
    (member : pair ∈ pairRecords sources targets) :
    pair.target.name = pair.source.name := by
  have found := (mem_pairRecords_iff.1 member).2
  have named := (findRev?_eq_some_iff.1 found).1
  simpa using named

/-- Pairs by name whose records have one name have one target. -/
theorem target_eq_of_mem_pairRecords
    {sources targets : List Record} {pair other : RecordPair}
    (member : pair ∈ pairRecords sources targets)
    (member' : other ∈ pairRecords sources targets)
    (same : pair.source.name = other.source.name) :
    pair.target = other.target := by
  have found := (mem_pairRecords_iff.1 member).2
  have found' := (mem_pairRecords_iff.1 member').2
  rw [same] at found
  exact Option.some.inj (found.symm.trans found')

/-- Each source has at most one pair by name. -/
theorem nodup_keys_pairRecords
    {sources targets : List Record}
    (distinct : (sources.map Record.key).Nodup) :
    ((pairRecords sources targets).map RecordPair.keys).Nodup := by
  have from_sources :
      ((pairRecords sources targets).map RecordPair.source).Sublist sources.reverse := by
    rw [pairRecords, List.map_reverse, List.reverse_sublist]
    apply map_filterMap_sublist
    intro source pair made
    obtain ⟨_, _, rfl⟩ := Option.map_eq_some_iff.1 made
    rfl
  have keys : ((pairRecords sources targets).map RecordPair.keys).map Prod.fst =
      ((pairRecords sources targets).map RecordPair.source).map Record.key := by
    rw [List.map_map, List.map_map]
    rfl
  apply List.Nodup.of_map Prod.fst
  rw [keys]
  apply (from_sources.map Record.key).nodup
  rw [List.map_reverse]
  exact List.nodup_reverse.2 distinct

/-! ## The root pair among them -/

/-- Where no pair comes twice, dropping repetitions changes nothing. -/
theorem distinctPairs_eq_self
    {seen : List (QualifiedName × QualifiedName)} {pairs : List RecordPair}
    (distinct : (pairs.map RecordPair.keys).Nodup)
    (fresh : ∀ pair ∈ pairs, pair.keys ∉ seen) :
    distinctPairs seen pairs = pairs := by
  induction pairs generalizing seen with
  | nil => rfl
  | cons pair rest ih =>
      rw [List.map_cons, List.nodup_cons] at distinct
      have new : pair.keys ∉ seen := fresh pair List.mem_cons_self
      have later : ∀ other ∈ rest, other.keys ∉ pair.keys :: seen := by
        intro other member
        rw [List.mem_cons, not_or]
        constructor
        · intro same
          exact distinct.1 (same ▸ List.mem_map_of_mem member)
        · exact fresh other (List.mem_cons_of_mem _ member)
      have kept := ih distinct.2 later
      simp [distinctPairs, new, kept]

section Roots

variable {before before' : List Record} {source target : Record}

/-- The roots pair by name exactly if they have one name. -/
theorem root_mem_pairRecords_iff :
    (⟨source, target⟩ : RecordPair) ∈ pairRecords (before ++ [source]) (before' ++ [target]) ↔
      target.name = source.name := by
  constructor
  · exact name_eq_of_mem_pairRecords
  · intro same
    apply mem_pairRecords_iff.2
    exact ⟨by simp, findRev?_concat (by simpa using same)⟩

/-- If the roots have one name, their pair is the first of the pairs by name. -/
theorem pairRecords_of_same_name
    (same : target.name = source.name) :
    pairRecords (before ++ [source]) (before' ++ [target]) =
      ⟨source, target⟩ :: pairRecords before (before' ++ [target]) := by
  have last :
      (before' ++ [target]).findRev? (fun other => other.name == source.name) = some target :=
    findRev?_concat (by simpa using same)
  rw [pairRecords, List.filterMap_append, List.reverse_append, List.filterMap_cons, last]
  rfl

variable (distinct : ((before ++ [source]).map Record.key).Nodup)
include distinct

/-- A pair by name that has the identities of the roots is that of the roots. -/
theorem eq_root_of_keys_eq
    {pair : RecordPair}
    (member : pair ∈ pairRecords (before ++ [source]) (before' ++ [target]))
    (same : pair.keys = (⟨source, target⟩ : RecordPair).keys) :
    pair = ⟨source, target⟩ := by
  obtain ⟨same_source, same_target⟩ := Prod.mk.inj same
  have from_root : pair.source = source :=
    List.inj_on_of_nodup_map distinct (mem_pairRecords_iff.1 member).1 (by simp) same_source
  have named : target.name = source.name := by
    have name := name_eq_of_mem_pairRecords member
    rw [from_root] at name
    exact (congrArg QualifiedName.name same_target).symm.trans name
  have to_root : pair.target = target :=
    target_eq_of_mem_pairRecords member (root_mem_pairRecords_iff.2 named)
      (by rw [from_root])
  rw [← from_root, ← to_root]

/-- The pairs of the first pass are the root pair and, without it, the pairs by name. -/
theorem forwardPairs_eq :
    forwardPairs (before ++ [source]) (before' ++ [target]) =
      ⟨source, target⟩ ::
        (pairRecords (before ++ [source]) (before' ++ [target])).filter
          fun pair => pair ≠ ⟨source, target⟩ := by
  have no_repetition :
      ((pairRecords (before ++ [source]) (before' ++ [target])).map RecordPair.keys).Nodup :=
    nodup_keys_pairRecords distinct
  have found_iff :
      ((pairRecords (before ++ [source]) (before' ++ [target])).any
          fun pair => pair.keys == (⟨source, target⟩ : RecordPair).keys) = true ↔
        target.name = source.name := by
    rw [List.any_eq_true]
    constructor
    · rintro ⟨pair, member, same⟩
      obtain rfl := eq_root_of_keys_eq distinct member (beq_iff_eq.1 same)
      exact name_eq_of_mem_pairRecords member
    · intro same
      exact ⟨_, root_mem_pairRecords_iff.2 same, by simp⟩
  simp only [forwardPairs, withRootPair, List.getLast?_concat]
  by_cases same : target.name = source.name
  · have found := found_iff.2 same
    have shape :
        pairRecords (before ++ [source]) (before' ++ [target]) =
          ⟨source, target⟩ :: pairRecords before (before' ++ [target]) :=
      pairRecords_of_same_name same
    have others : ∀ pair ∈ pairRecords before (before' ++ [target]),
        decide (pair ≠ (⟨source, target⟩ : RecordPair)) = true := by
      intro pair member
      rw [decide_eq_true_eq]
      rintro rfl
      rw [shape, List.map_cons, List.nodup_cons] at no_repetition
      exact no_repetition.1 (List.mem_map_of_mem member)
    simp only [found, if_true]
    rw [shape, List.filter_cons_of_neg (by simp), List.filter_eq_self.2 others]
  · have missing := mt found_iff.1 same
    have others : ∀ pair ∈ pairRecords (before ++ [source]) (before' ++ [target]),
        decide (pair ≠ (⟨source, target⟩ : RecordPair)) = true := by
      intro pair member
      rw [decide_eq_true_eq]
      rintro rfl
      exact same (name_eq_of_mem_pairRecords member)
    have fresh :
        (⟨source, target⟩ : RecordPair).keys ∉
          (pairRecords (before ++ [source]) (before' ++ [target])).map RecordPair.keys := by
      intro listed
      obtain ⟨pair, member, keys⟩ := List.mem_map.1 listed
      exact missing (List.any_eq_true.2 ⟨pair, member, by simpa using keys⟩)
    simp only [missing, Bool.false_eq_true, if_false]
    rw [List.filter_eq_self.2 others]
    apply distinctPairs_eq_self
    · rw [List.map_cons, List.nodup_cons]
      exact ⟨fresh, no_repetition⟩
    · simp

/-- The records of a pair of the first pass have been discovered. -/
theorem records_of_mem_forwardPairs
    {pair : RecordPair}
    (member : pair ∈ forwardPairs (before ++ [source]) (before' ++ [target])) :
    pair.source ∈ before ++ [source] ∧ pair.target ∈ before' ++ [target] := by
  rw [forwardPairs_eq distinct] at member
  rcases List.mem_cons.1 member with rfl | member
  · simp
  · obtain ⟨listed, found⟩ := mem_pairRecords_iff.1 (List.mem_filter.1 member).1
    obtain ⟨_, earlier, later, shape, _⟩ := findRev?_eq_some_iff.1 found
    exact ⟨listed, by simp [shape]⟩

/-! ## The two passes together -/

theorem nodup_keys_forwardPairs :
    ((forwardPairs (before ++ [source]) (before' ++ [target])).map RecordPair.keys).Nodup := by
  rw [forwardPairs_eq distinct, List.map_cons, List.nodup_cons]
  constructor
  · intro listed
    obtain ⟨pair, member, keys⟩ := List.mem_map.1 listed
    obtain ⟨member, other⟩ := List.mem_filter.1 member
    exact of_decide_eq_true other (eq_root_of_keys_eq distinct member keys)
  · exact (List.filter_sublist.map RecordPair.keys).nodup (nodup_keys_pairRecords distinct)

/-- A pair of the first pass whose records have one name is a pair by name. -/
theorem mem_pairRecords_of_mem_forwardPairs
    {pair : RecordPair}
    (member : pair ∈ forwardPairs (before ++ [source]) (before' ++ [target]))
    (same : pair.target.name = pair.source.name) :
    pair ∈ pairRecords (before ++ [source]) (before' ++ [target]) := by
  rw [forwardPairs_eq distinct] at member
  rcases List.mem_cons.1 member with rfl | member
  · exact root_mem_pairRecords_iff.2 same
  · exact (List.mem_filter.1 member).1

/-- Every pair by name is in the first pass. -/
theorem mem_forwardPairs_of_mem_pairRecords
    {pair : RecordPair}
    (member : pair ∈ pairRecords (before ++ [source]) (before' ++ [target])) :
    pair ∈ forwardPairs (before ++ [source]) (before' ++ [target]) := by
  rw [forwardPairs_eq distinct, List.mem_cons]
  by_cases root : pair = ⟨source, target⟩
  · exact .inl root
  · exact .inr (List.mem_filter.2 ⟨member, decide_eq_true root⟩)

/-- A pair of different records and the same pair turned round are not both in the first pass.  Two
pairs by one name share the last record of that name, and only the pair of the roots may have two
names. -/
theorem not_mem_swap
    {pair other : RecordPair}
    (member : pair ∈ forwardPairs (before ++ [source]) (before' ++ [target]))
    (member' : other ∈ forwardPairs (before ++ [source]) (before' ++ [target]))
    (turned : other.keys = pair.keys.swap) :
    pair.source.key = pair.target.key := by
  obtain ⟨same_source, same_target⟩ := Prod.mk.inj turned
  have names : other.source.name = pair.target.name ∧ other.target.name = pair.source.name :=
    ⟨congrArg QualifiedName.name same_source, congrArg QualifiedName.name same_target⟩
  by_cases named : pair.target.name = pair.source.name
  · have by_name := mem_pairRecords_of_mem_forwardPairs distinct member named
    have named' : other.target.name = other.source.name := by rw [names.1, names.2, named]
    have by_name' := mem_pairRecords_of_mem_forwardPairs distinct member' named'
    have one : pair.target = other.target :=
      target_eq_of_mem_pairRecords by_name by_name' (by rw [names.1, named])
    rw [one]
    exact same_target.symm
  · have is_root : ∀ both : RecordPair, both.target.name ≠ both.source.name →
        both ∈ forwardPairs (before ++ [source]) (before' ++ [target]) →
          both = ⟨source, target⟩ := by
      intro both differs listed
      rw [forwardPairs_eq distinct] at listed
      rcases List.mem_cons.1 listed with root | listed
      · exact root
      · exact absurd (name_eq_of_mem_pairRecords (List.mem_filter.1 listed).1) differs
    have root := is_root pair named member
    have root' := is_root other (by rw [names.1, names.2]; exact Ne.symm named) member'
    rw [root, root'] at same_source
    rw [root]
    exact same_source

/-- No pair of identities comes twice in the two passes. -/
theorem nodup_keys_passes :
    ((forwardPairs (before ++ [source]) (before' ++ [target]) ++
      backwardPairs (forwardPairs (before ++ [source]) (before' ++ [target]))).map
        RecordPair.keys).Nodup := by
  have forward :
      ((forwardPairs (before ++ [source]) (before' ++ [target])).map RecordPair.keys).Nodup :=
    nodup_keys_forwardPairs distinct
  rw [List.map_append, keys_backwardPairs, List.nodup_append]
  refine ⟨forward, (forward.filter _).map Prod.swap_injective, ?_⟩
  rintro keys there keys' back rfl
  obtain ⟨other, member', rfl⟩ := List.mem_map.1 there
  obtain ⟨turned, kept, swapped⟩ := List.mem_map.1 back
  obtain ⟨listed, differs⟩ := List.mem_filter.1 kept
  obtain ⟨pair, member, rfl⟩ := List.mem_map.1 listed
  exact of_decide_eq_true differs (not_mem_swap distinct member member' swapped.symm)

end Roots

namespace Resolver

theorem records_converterOf
    (rules : List Rule) (provider : Provider) (outputPath : String) (request : PlanRequest)
    (rootName? : Option String) (all pairs : List RecordPair) :
    (pairs.map (converterOf rules provider outputPath request rootName? all)).map
        Converter.records = pairs := by
  rw [List.map_map]
  exact List.map_id pairs

/-- Between two discoveries there is always a pair, that of the roots. -/
theorem planBetween_ne_noMatch
    {resolver : Resolver} {provider : Provider} {request : PlanRequest}
    {before before' : List Record} {source target : Record} (from_name to_name : String)
    (distinct : ((before ++ [source]).map Record.key).Nodup) :
    (resolver.planBetween provider request (before ++ [source]) (before' ++ [target])).1.value ≠
      .error (.noMatch from_name to_name) := by
  rw [planBetween_value, forwardPairs_eq distinct]
  intro failed
  cases failed

end Resolver

namespace Provider

variable {provider : Provider} {request : PlanRequest}

/-- Between two discoveries that answer there is always a plan. -/
theorem exists_plan_of_discovered
    {sources targets : List Record}
    (from_discovered : (provider.discover request.source).value = .ok sources)
    (to_discovered : (provider.discover request.target).value = .ok targets) :
    ∃ plan, (provider.plan request).value = .ok plan := by
  obtain ⟨before, source, _, rfl, distinct⟩ := exists_root_of_discover from_discovered
  obtain ⟨before', target, _, rfl, _⟩ := exists_root_of_discover to_discovered
  rw [Provider.plan, Resolver.plan_value_of_discovered from_discovered to_discovered,
    Resolver.planBetween]
  split
  · next empty =>
      rw [← forwardPairs, forwardPairs_eq distinct] at empty
      cases empty
  · exact ⟨_, rfl⟩

/-- A plan is made from two discoveries, each of which ends with the root that was asked for. -/
theorem exists_roots_of_plan
    {plan : Plan}
    (answered : (provider.plan request).value = .ok plan) :
    ∃ before source before' target,
      plan.MadeFrom Rule.standard provider request (before ++ [source]) (before' ++ [target]) ∧
      provider.record? request.source = .ok source ∧
      provider.record? request.target = .ok target ∧
      ((before ++ [source]).map Record.key).Nodup := by
  obtain ⟨sources, targets, made⟩ := Resolver.exists_madeFrom answered
  obtain ⟨before, source, source_built, rfl, distinct⟩ :=
    exists_root_of_discover made.from_discovered
  obtain ⟨before', target, target_built, rfl, _⟩ := exists_root_of_discover made.to_discovered
  exact ⟨before, source, before', target, made, source_built, target_built, distinct⟩

/-- A plan never fails for want of pairs.  Its converters go first from the root to the root, then,
from the roots down, from each source to the last target of its name, except that the roots do not
come again; and then the other way for every pair of different records, in the same order.  No two
converters are between the same records in the same direction. -/
theorem plan_pairs_roots_first
    (provider : Provider) (request : PlanRequest) :
    (∀ from_name to_name,
      (provider.plan request).value ≠ .error (.noMatch from_name to_name)) ∧
    ∀ plan, (provider.plan request).value = .ok plan →
      ∃ sources targets source target,
        (provider.discover request.source).value = .ok sources ∧
        (provider.discover request.target).value = .ok targets ∧
        provider.record? request.source = .ok source ∧
        provider.record? request.target = .ok target ∧
        ∃ forward backward : List RecordPair,
          plan.converters.map Converter.records = forward ++ backward ∧
          forward =
            ⟨source, target⟩ ::
              (sources.reverse.filterMap fun record =>
                (targets.findRev? fun other => other.name == record.name).map fun other =>
                  (⟨record, other⟩ : RecordPair)).filter (fun pair => pair ≠ ⟨source, target⟩) ∧
          backward =
            (forward.filter fun pair => pair.source.key ≠ pair.target.key).map
              RecordPair.reversed ∧
          (plan.converters.map Converter.keys).Nodup := by
  constructor
  · intro from_name to_name failed
    rw [Provider.plan, Resolver.plan] at failed
    cases from_discovered : (provider.discover request.source).value with
    | error cause => simp [from_discovered] at failed
    | ok sources =>
        cases to_discovered : (provider.discover request.target).value with
        | error cause => simp [from_discovered, to_discovered] at failed
        | ok targets =>
            obtain ⟨before, source, _, rfl, distinct⟩ := exists_root_of_discover from_discovered
            obtain ⟨before', target, _, rfl, _⟩ := exists_root_of_discover to_discovered
            simp only [from_discovered, to_discovered, Logged.after] at failed
            exact Resolver.planBetween_ne_noMatch from_name to_name distinct failed
  · intro plan answered
    obtain ⟨sources, targets, made⟩ := Resolver.exists_madeFrom answered
    obtain ⟨before, source, source_built, rfl, distinct⟩ :=
      exists_root_of_discover made.from_discovered
    obtain ⟨before', target, target_built, rfl, _⟩ := exists_root_of_discover made.to_discovered
    have records :
        plan.converters.map Converter.records =
          forwardPairs (before ++ [source]) (before' ++ [target]) ++
            backwardPairs (forwardPairs (before ++ [source]) (before' ++ [target])) := by
      rw [made.converters, List.map_append, Resolver.records_converterOf,
        Resolver.records_converterOf]
    refine ⟨_, _, source, target, made.from_discovered, made.to_discovered, source_built,
      target_built, _, _, records, ?_, ?_, ?_⟩
    · rw [forwardPairs_eq distinct, pairRecords, ← List.filterMap_reverse]
    · rw [backwardPairs]
      congr 2
      funext pair
      simp only [Record.sameIdentity, decide_not]
      rfl
    · have keys : plan.converters.map Converter.keys =
          (plan.converters.map Converter.records).map RecordPair.keys := by
        rw [List.map_map]
        rfl
      rw [keys, records]
      exact nodup_keys_passes distinct

/-- The conversion of an order of the office into a buyer of the depot. -/
def officeOrderToDepotBuyer : PlanRequest :=
  ⟨"office", "Order", "depot", "Buyer", none, []⟩

/-- From the orders of the office to the buyers of the depot the roots come first, although their
names differ, and each other record goes to the one of its name. -/
theorem plan_pairs_roots_first_trade :
    ∃ plan, (trade.plan officeOrderToDepotBuyer).value = .ok plan ∧
      plan.converters.map
          (fun converter => (converter.source.key.text, converter.target.key.text)) =
        [("office.Order", "depot.Buyer"), ("office.Order", "depot.Order"),
          ("office.Buyer", "depot.Buyer"), ("office.Line", "depot.Line"),
          ("depot.Buyer", "office.Order"), ("depot.Order", "office.Order"),
          ("depot.Buyer", "office.Buyer"), ("depot.Line", "office.Line")] ∧
      (plan.converters.map Converter.keys).Nodup := by
  obtain ⟨plan, answered, texts⟩ :
      ∃ plan, (trade.plan officeOrderToDepotBuyer).value = .ok plan ∧
        plan.converters.map
            (fun converter => (converter.source.key.text, converter.target.key.text)) =
          [("office.Order", "depot.Buyer"), ("office.Order", "depot.Order"),
            ("office.Buyer", "depot.Buyer"), ("office.Line", "depot.Line"),
            ("depot.Buyer", "office.Order"), ("depot.Order", "office.Order"),
            ("depot.Buyer", "office.Buyer"), ("depot.Line", "office.Line")] :=
    ⟨_, rfl, rfl⟩
  obtain ⟨_, answers⟩ := plan_pairs_roots_first trade officeOrderToDepotBuyer
  obtain ⟨_, _, _, _, _, _, _, _, _, _, _, _, _, distinct⟩ := answers plan answered
  exact ⟨plan, answered, texts, distinct⟩

end Provider
end RecordConversion
