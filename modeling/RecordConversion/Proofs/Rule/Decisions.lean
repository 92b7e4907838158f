import Mathlib.Data.List.Nodup
import RecordConversion.Proofs.Resolver
import RecordConversion.Proofs.Rule.Conditions

/-!
# Which strategy a field pair gets

The rules are tried in order, but most of them ask for shapes that the rules before them pass by.
So a strategy that one rule alone gives is chosen exactly if that rule gives it and the two types
are not taken for each other: `Rule.sameType` is the only rule that can come in between.  Delegation
has two more in its way, that for pointers and that for nullable values.

* `Provider.strategy_eq_iff`: a strategy that one rule alone gives.
* `Provider.strategy_eq_pointerUnwrap_iff` and the others by strategy: when it is chosen.
* `Provider.strategy_eq_iff_of_delegates`: when records are left to their converter, and how.
* `Provider.strategy_eq_or_of_fewer`: what changes where there are fewer converters.
-/

namespace RecordConversion

/-- Where no other element gives a result, it is found exactly if the one element gives it and those
before that one give none. -/
theorem findSome?_eq_some_iff_of_elsewhere
    {α β : Type} {f : α → Option β} {before after : List α} {item : α} {result : β}
    (elsewhere : ∀ other ∈ before ++ after, f other ≠ some result) :
    (before ++ item :: after).findSome? f = some result ↔
      f item = some result ∧ ∀ other ∈ before, f other = none := by
  rw [List.findSome?_append, Option.or_eq_some_iff, List.findSome?_eq_none_iff,
    List.findSome?_cons]
  constructor
  · rintro (earlier | ⟨declined, found⟩)
    · obtain ⟨other, member, given⟩ := List.exists_of_findSome?_eq_some earlier
      exact absurd given (elsewhere other (List.mem_append_left _ member))
    · refine ⟨?_, declined⟩
      cases answer : f item with
      | some given =>
          rw [answer] at found
          exact found
      | none =>
          rw [answer] at found
          obtain ⟨other, member, given⟩ := List.exists_of_findSome?_eq_some found
          exact absurd given (elsewhere other (List.mem_append_right _ member))
  · rintro ⟨given, declined⟩
    exact .inr ⟨declined, by rw [given]⟩

/-- Two searches through the same items have one answer if they agree on each item, or find only
what is excluded, and neither answer is excluded. -/
theorem findSome?_eq_of_excluded {α β : Type}
    (excluded : β → Bool) {f g : α → Option β} {items : List α}
    (agree : ∀ item ∈ items,
      f item = g item ∨ (f item).all excluded = true ∧ (g item).all excluded = true)
    (allowed : (items.findSome? f).any excluded = false)
    (allowed' : (items.findSome? g).any excluded = false) :
    items.findSome? f = items.findSome? g := by
  induction items with
  | nil => rfl
  | cons item rest ih =>
      have later := fun other member => agree other (List.mem_cons_of_mem item member)
      have here := agree item List.mem_cons_self
      rw [List.findSome?_cons] at allowed allowed' ⊢
      rw [List.findSome?_cons]
      cases found : f item <;> cases found' : g item <;> simp_all

namespace Rule

/-- No two standard rules have one name. -/
theorem nodup_names_standard :
    (standard.map Rule.name).Nodup := by
  decide

/-- The rule for records with a converter is the only one that delegates. -/
theorem Gives.name_of_delegates
    {rule : Rule} {strategy : Strategy}
    (gives : Gives rule strategy) (delegates : strategy.delegates = true) :
    rule.name = nestedStruct.name := by
  cases gives <;> first | rfl | cases delegates

end Rule

namespace Resolver

/-- A conversion is one of the pair that it was asked for. -/
@[simp]
theorem pair_resolveField
    (resolver : Resolver) (provider : Provider) (pair : FieldPair) :
    (resolver.resolveField provider pair).value.pair = pair := by
  cases decided : firstRule? provider resolver.pairs pair resolver.rules with
  | none =>
      simp [resolveField, decided, Logged.quiet, FieldConversion.skipped, FieldConversion.pair]
  | some answer =>
      obtain ⟨rule, conversion⟩ := answer
      obtain ⟨_, _, _, given, _⟩ := firstRule?_eq_some_iff.1 decided
      obtain ⟨_, _, rfl⟩ := Option.map_eq_some_iff.1 given
      simp [resolveField, decided, FieldConversion.pair]

/-- The conversions of a batch are what its pairs are resolved to. -/
theorem mem_resolve_iff
    {resolver : Resolver} {provider : Provider} {fields : List FieldPair}
    {records : List RecordPair}
    {conversion : FieldConversion} :
    conversion ∈ (resolver.resolve provider fields records).1.value ↔
      conversion.pair ∈ fields ∧
        ((resolver.rebuild records).resolveField provider conversion.pair).value = conversion := by
  rw [resolve_value, List.mem_map]
  constructor
  · rintro ⟨pair, listed, rfl⟩
    rw [pair_resolveField]
    exact ⟨listed, rfl⟩
  · rintro ⟨listed, resolved⟩
    exact ⟨conversion.pair, listed, resolved⟩

/-- Types that are taken for each other are assigned: the first of the standard rules takes them. -/
theorem resolveField_of_alike
    {provider : Provider} {pair : FieldPair}
    (alike : provider.alike pair.source.type pair.target.type = true) (pairs : PairSet) :
    (resolveField ⟨Rule.standard, pairs⟩ provider pair).value =
      ⟨pair.source, pair.target, .directAssign, assignment pair.place pair.value⟩ := by
  have given : Rule.sameType.conversion? provider pairs pair =
      some ⟨pair.source, pair.target, .directAssign, assignment pair.place pair.value⟩ := by
    simp [Rule.conversion?, Rule.sameType, alike]
  have decided : firstRule? provider pairs pair Rule.standard =
      some (Rule.sameType,
        ⟨pair.source, pair.target, .directAssign, assignment pair.place pair.value⟩) :=
    firstRule?_eq_some_iff.2 ⟨[], Rule.standard.tail, rfl, given, by simp⟩
  rw [resolveField, decided]

end Resolver

/-- The strategy that the standard rules choose for a pair, given the record pairs of the batch. -/
def Provider.strategy
    (provider : Provider) (records : List RecordPair) (pair : FieldPair) : Strategy :=
  ((Resolver.standard.rebuild records).resolveField provider pair).value.strategy

/-- The conversions of a batch have the strategies that its record pairs choose. -/
theorem Resolver.strategies_resolve
    (provider : Provider) (fields : List FieldPair) (records : List RecordPair) :
    (standard.resolve provider fields records).1.value.map FieldConversion.strategy =
      fields.map (provider.strategy records) := by
  rw [resolve_value, List.map_map]
  rfl

namespace Provider

variable {provider : Provider} {records : List RecordPair} {pair : FieldPair} {strategy : Strategy}

/-- The strategy is that of the first rule that gives one. -/
theorem strategy_eq_findSome?
    (provider : Provider) (records : List RecordPair) (pair : FieldPair) :
    provider.strategy records pair =
      (Rule.standard.findSome? fun rule =>
        rule.strategy? provider (.ofPairs records) pair).getD .skip := by
  have decided :
      (Resolver.firstRule? provider (.ofPairs records) pair Rule.standard).map
          (fun answer => answer.2.strategy) =
        Rule.standard.findSome? fun rule =>
          rule.strategy? provider (.ofPairs records) pair := by
    rw [Resolver.firstRule?_eq_findSome?, List.map_findSome?]
    congr 1
    funext rule
    simp [Rule.strategy?, Function.comp_def]
  rw [← decided, strategy, Resolver.rebuild, Resolver.standard, Resolver.ofRules]
  cases answer : Resolver.firstRule? provider (.ofPairs records) pair Rule.standard with
  | none => simp [Resolver.resolveField, answer, Logged.quiet, FieldConversion.skipped]
  | some found => simp [Resolver.resolveField, answer]

/-- A strategy that one rule alone gives is chosen exactly if that rule gives it and the rules
before it pass. -/
theorem strategy_eq_iff
    (before after : List Rule) {rule : Rule}
    (order : Rule.standard = before ++ rule :: after)
    (only : ∀ other, Rule.Gives other strategy → other.name = rule.name)
    (converts : strategy ≠ .skip) :
    provider.strategy records pair = strategy ↔
      rule.strategy? provider (.ofPairs records) pair = some strategy ∧
        ∀ other ∈ before, other.strategy? provider (.ofPairs records) pair = none := by
  have elsewhere :
      ∀ other ∈ before ++ after,
        other.strategy? provider (.ofPairs records) pair ≠ some strategy := by
    intro other member given
    have standard : other ∈ Rule.standard := by
      rw [order, List.mem_append, List.mem_cons]
      rcases List.mem_append.1 member with earlier | later
      · exact .inl earlier
      · exact .inr (.inr later)
    have same := only other (Rule.gives_of_strategy? standard given)
    have distinct := Rule.nodup_names_standard
    rw [order, List.map_append, List.map_cons, List.nodup_middle, List.nodup_cons, ← same,
      ← List.map_append] at distinct
    exact distinct.1 (List.mem_map_of_mem member)
  rw [strategy_eq_findSome?, order, ← findSome?_eq_some_iff_of_elsewhere elsewhere]
  cases (before ++ rule :: after).findSome? fun rule =>
      rule.strategy? provider (.ofPairs records) pair with
  | none => simp [converts.symm]
  | some chosen => simp

/-- Where the other rules pass whenever a rule gives a strategy of its own, only identical types
come before it. -/
theorem strategy_eq_iff_of_gives
    (others after : List Rule) {rule : Rule} {condition : Prop}
    (order : Rule.standard = .sameType :: others ++ rule :: after)
    (only : ∀ other, Rule.Gives other strategy → other.name = rule.name)
    (converts : strategy ≠ .skip)
    (gives : rule.strategy? provider (.ofPairs records) pair = some strategy ↔ condition)
    (passed : condition →
      ∀ other ∈ others, other.strategy? provider (.ofPairs records) pair = none) :
    provider.strategy records pair = strategy ↔
      provider.alike pair.source.type pair.target.type = false ∧ condition := by
  rw [strategy_eq_iff _ _ order only converts, gives, List.forall_mem_cons,
    Rule.sameType_declines_iff]
  constructor
  · rintro ⟨holds, unlike, _⟩
    exact ⟨unlike, holds⟩
  · rintro ⟨unlike, holds⟩
    exact ⟨holds, unlike, passed holds⟩

/-! ## Strategy by strategy -/

section Classified

variable (classified : pair.Classified provider.declarations)
include classified

/-- The rule for basic types passes by a pointer. -/
theorem basicCast_declines_of_pointer
    {pointee : HostType}
    (pointer : provider.pointerTarget? pair.source.type = some pointee ∨
      provider.pointerTarget? pair.target.type = some pointee) :
    ∀ other ∈ [Rule.basicCast], other.strategy? provider (.ofPairs records) pair = none := by
  rw [List.forall_mem_singleton]
  apply Rule.basicCast_declines
  rcases pointer with leads | leads
  · refine .inl fun basic => ?_
    cases (pointerTarget?_eq_none classified.isShapeOf_source (.inl basic)).symm.trans leads
  · refine .inr fun basic => ?_
    cases (pointerTarget?_eq_none classified.isShapeOf_target (.inl basic)).symm.trans leads

theorem strategy_eq_pointerUnwrap_iff :
    provider.strategy records pair = .pointerUnwrap ↔
      provider.alike pair.source.type pair.target.type = false ∧
        provider.Follows pair.source pair.target := by
  refine strategy_eq_iff_of_gives [.basicCast] _ rfl (by rintro _ ⟨⟩; rfl) (by nofun)
    Rule.pointer_gives_unwrap_iff ?_
  rintro ⟨_, leads, _⟩
  exact basicCast_declines_of_pointer classified (.inl leads)

theorem strategy_eq_pointerWrap_iff :
    provider.strategy records pair = .pointerWrap ↔
      provider.alike pair.source.type pair.target.type = false ∧
        provider.Makes pair.source pair.target := by
  refine strategy_eq_iff_of_gives [.basicCast] _ rfl (by rintro _ ⟨⟩; rfl) (by nofun)
    Rule.pointer_gives_wrap_iff ?_
  rintro ⟨_, _, leads, _⟩
  exact basicCast_declines_of_pointer classified (.inr leads)

/-- The rules for basic types and for pointers pass by a record and a value, either way round. -/
theorem declined_of_record
    (record : pair.source.shape.kind = .record ∧
        (pair.target.shape.kind = .basic ∨ pair.target.shape.kind = .record) ∨
      (pair.source.shape.kind = .basic ∨ pair.source.shape.kind = .record) ∧
        pair.target.shape.kind = .record) :
    ∀ other ∈ [Rule.basicCast, .pointer],
      other.strategy? provider (.ofPairs records) pair = none := by
  have values : (pair.source.shape.kind = .basic ∨ pair.source.shape.kind = .record) ∧
      (pair.target.shape.kind = .basic ∨ pair.target.shape.kind = .record) := by
    rcases record with ⟨record, value⟩ | ⟨value, record⟩
    · exact ⟨.inr record, value⟩
    · exact ⟨value, .inr record⟩
  have from_plain := pointerTarget?_eq_none classified.isShapeOf_source values.1
  have to_plain := pointerTarget?_eq_none classified.isShapeOf_target values.2
  rw [List.forall_mem_cons, List.forall_mem_singleton, Rule.pointer_declines_iff]
  refine ⟨Rule.basicCast_declines ?_, ?_, ?_⟩
  · rcases record with ⟨record, _⟩ | ⟨_, record⟩
    · exact .inl (by rw [record]; nofun)
    · exact .inr (by rw [record]; nofun)
  · rintro ⟨_, leads, _⟩
    cases from_plain.symm.trans leads
  · rintro ⟨_, _, leads, _⟩
    cases to_plain.symm.trans leads

theorem strategy_eq_nullableToValue_iff :
    provider.strategy records pair = .nullableToValue ↔
      provider.alike pair.source.type pair.target.type = false ∧
        pair.source.shape.Boxes pair.target.shape := by
  refine strategy_eq_iff_of_gives [.basicCast, .pointer] _ rfl (by rintro _ ⟨⟩; rfl) (by nofun)
    Rule.nullable_gives_payload_iff ?_
  intro boxes
  exact declined_of_record classified (.inl ⟨boxes.kind_box, boxes.kind_payload⟩)

theorem strategy_eq_valueToNullable_iff :
    provider.strategy records pair = .valueToNullable ↔
      provider.alike pair.source.type pair.target.type = false ∧
        pair.target.shape.Boxes pair.source.shape := by
  refine strategy_eq_iff_of_gives [.basicCast, .pointer] _ rfl (by rintro _ ⟨⟩; rfl) (by nofun)
    Rule.nullable_gives_nullable_iff ?_
  intro boxes
  exact declined_of_record classified (.inr ⟨boxes.kind_payload, boxes.kind_box⟩)

theorem strategy_eq_timeToString_iff :
    provider.strategy records pair = .timeToString ↔
      provider.alike pair.source.type pair.target.type = false ∧
        pair.source.shape.isTime = true ∧ pair.target.shape.isString = true := by
  refine strategy_eq_iff_of_gives ([.basicCast, .pointer] ++ [.nullable]) _ rfl
    (by rintro _ ⟨⟩; rfl) (by nofun) Rule.timeString_gives_text_iff ?_
  rintro ⟨time, text⟩
  rw [List.forall_mem_append, List.forall_mem_singleton]
  exact ⟨declined_of_record classified
      (.inl ⟨Shape.kind_of_isTime time, .inl (Shape.kind_of_isString text)⟩),
    Rule.nullable_declines_of_time (.inl ⟨time, text⟩)⟩

theorem strategy_eq_stringToTime_iff :
    provider.strategy records pair = .stringToTime ↔
      provider.alike pair.source.type pair.target.type = false ∧
        pair.source.shape.isString = true ∧ pair.target.shape.isTime = true := by
  refine strategy_eq_iff_of_gives ([.basicCast, .pointer] ++ [.nullable]) _ rfl
    (by rintro _ ⟨⟩; rfl) (by nofun) Rule.timeString_gives_time_iff ?_
  rintro ⟨text, time⟩
  rw [List.forall_mem_append, List.forall_mem_singleton]
  exact ⟨declined_of_record classified
      (.inr ⟨.inl (Shape.kind_of_isString text), Shape.kind_of_isTime time⟩),
    Rule.nullable_declines_of_time (.inr ⟨text, time⟩)⟩

end Classified

/-- Between records the rule for pointers asks for types that are taken for each other. -/
theorem pointer_declines_iff_of_delegable
    {a b : QualifiedName}
    (delegable : pair.source.shape.Delegable pair.target.shape a b strategy)
    (unlike : provider.alike pair.source.type pair.target.type = false) :
    Rule.pointer.strategy? provider (.ofPairs records) pair = none ↔
      ¬ provider.Likens pair.source.type pair.target.type := by
  have from_composite := Shape.isBasic_eq_false delegable.source_not_basic
  have to_composite := Shape.isBasic_eq_false delegable.swap.source_not_basic
  simp only [Rule.pointer_declines_iff, Follows, Makes, Likens, from_composite, to_composite,
    unlike, Bool.false_eq_true, and_false, false_and, or_false, false_or, not_or]

/-- Records are left to a converter exactly if there is one for them and neither identical types nor
a nullable value come in between; their shapes say by which strategy. -/
theorem strategy_eq_iff_of_delegates
    (delegates : strategy.delegates = true) :
    provider.strategy records pair = strategy ↔
      ¬ provider.Likens pair.source.type pair.target.type ∧
        (¬ pair.source.shape.Boxes pair.target.shape ∧
          ¬ pair.target.shape.Boxes pair.source.shape) ∧
        ∃ a b, pair.source.shape.Delegable pair.target.shape a b strategy ∧
          ∃ known ∈ records, known.keys = (a, b) := by
  rw [strategy_eq_iff [.sameType, .basicCast, .pointer, .nullable, .timeString] _ rfl
      (fun _ gives => gives.name_of_delegates delegates) (by rintro rfl; cases delegates),
    Rule.nestedStruct_gives_iff, List.forall_mem_cons, List.forall_mem_cons, List.forall_mem_cons,
    List.forall_mem_cons, List.forall_mem_singleton, Rule.sameType_declines_iff,
    Rule.nullable_declines_iff]
  constructor
  · rintro ⟨⟨a, b, delegable, paired⟩, unlike, _, no_pointer, unboxed, _⟩
    exact ⟨(pointer_declines_iff_of_delegable delegable unlike).1 no_pointer, unboxed, a, b,
      delegable, paired⟩
  · rintro ⟨unlikened, unboxed, a, b, delegable, paired⟩
    have unlike : provider.alike pair.source.type pair.target.type = false := by
      rw [← Bool.not_eq_true]
      exact fun alike => unlikened (.inl alike)
    have from_composite := delegable.source_not_basic
    exact ⟨⟨a, b, delegable, paired⟩, unlike, Rule.basicCast_declines (.inl from_composite),
      (pointer_declines_iff_of_delegable delegable unlike).2 unlikened, unboxed,
      Rule.timeString_declines from_composite delegable.swap.source_not_basic⟩

/-! ## Fewer record pairs -/

section Fewer

variable {others : List RecordPair}

theorem any_delegates_findSome?
    (kept : (provider.strategy records pair).delegates = false) :
    (Rule.standard.findSome? fun rule =>
      rule.strategy? provider (.ofPairs records) pair).any Strategy.delegates = false := by
  rw [strategy_eq_findSome?] at kept
  cases answer : Rule.standard.findSome? fun rule =>
      rule.strategy? provider (.ofPairs records) pair with
  | none => rfl
  | some chosen => simpa [answer] using kept

theorem all_delegates_nestedStruct
    (provider : Provider) (records : List RecordPair) (pair : FieldPair) :
    (Rule.nestedStruct.strategy? provider (.ofPairs records) pair).all Strategy.delegates =
      true := by
  cases answer : Rule.nestedStruct.strategy? provider (.ofPairs records) pair with
  | none => rfl
  | some strategy =>
      obtain ⟨_, _, delegable, _⟩ := Rule.nestedStruct_gives_iff.1 answer
      exact delegable.delegates

/-- Strategies that do not delegate are the same whatever record pairs there are. -/
theorem strategy_eq_of_not_delegates
    (kept : (provider.strategy records pair).delegates = false)
    (kept' : (provider.strategy others pair).delegates = false) :
    provider.strategy records pair = provider.strategy others pair := by
  rw [strategy_eq_findSome?, strategy_eq_findSome?]
  congr 1
  refine findSome?_eq_of_excluded Strategy.delegates ?_ (any_delegates_findSome? kept)
    (any_delegates_findSome? kept')
  intro rule standard
  cases asks : rule.needsPairSet with
  | false => exact .inl (by simp [Rule.strategy?, Rule.conversion?, asks])
  | true =>
      obtain rfl := Rule.eq_nestedStruct standard asks
      exact .inr ⟨all_delegates_nestedStruct .., all_delegates_nestedStruct ..⟩

/-- Where there are fewer record pairs, the strategy is the same unless it delegated and no longer
does. -/
theorem strategy_eq_or_of_fewer
    (fewer : ∀ a b strategy, pair.source.shape.Delegable pair.target.shape a b strategy →
      (∃ known ∈ others, known.keys = (a, b)) → ∃ known ∈ records, known.keys = (a, b)) :
    provider.strategy others pair = provider.strategy records pair ∨
      (provider.strategy records pair).delegates = true ∧
        (provider.strategy others pair).delegates = false := by
  cases delegates' : (provider.strategy others pair).delegates with
  | true =>
      obtain ⟨unlikened, unboxed, a, b, delegable, paired⟩ :=
        (strategy_eq_iff_of_delegates delegates').1 rfl
      refine .inl ((strategy_eq_iff_of_delegates delegates').2 ?_).symm
      exact ⟨unlikened, unboxed, a, b, delegable, fewer a b _ delegable paired⟩
  | false =>
      cases delegates : (provider.strategy records pair).delegates with
      | true => exact .inr ⟨rfl, rfl⟩
      | false => exact .inl (strategy_eq_of_not_delegates delegates' delegates)

end Fewer

end Provider
end RecordConversion
