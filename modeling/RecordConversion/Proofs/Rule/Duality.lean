import RecordConversion.Catalog.Basic
import RecordConversion.Proofs.Declarations.Symmetry
import RecordConversion.Proofs.Pairing
import RecordConversion.Proofs.Rule.Decisions

/-!
# Strategies of the way back

A field pair turned round, among the record pairs turned round, gets the opposite strategy: a
pointer is made where one was followed, a nullable value taken apart where one was put together, a
text read as a time where a time was written, and records are left to their converter either way.
Pointers to basic values have one exception: an integer converts to a text, and a text not to an
integer.

* `Provider.follows_back`, `Provider.makes_back`: pointers the other way.
* `Provider.strategies_dual`: the strategies of every field pair and of the pair turned round.
-/

namespace RecordConversion

/-- The provider adds nothing to what the declarations say of the identity of types and of their
conversions. -/
structure Provider.FollowsDeclarations
    (provider : Provider) : Prop where
  identical : provider.identical = provider.declarations.identical
  convertible : provider.convertible = provider.declarations.convertible

/-- A type with a basic shape is no interface. -/
theorem Declarations.underlying_ne_interface
    {table : Declarations} {shape : Shape} {type : HostType}
    (seen : table.IsShapeOf shape type) (basic : shape.isBasic = true) :
    table.underlying type ≠ .interface := by
  have kind := Shape.kind_of_isBasic basic
  intro open_
  rcases kind_underlying_of_isShapeOf seen (by rw [kind]; nofun) with same | unstructured
  · rw [open_, kind] at same
    cases same
  · rw [open_] at unstructured
    cases unstructured

/-- The record pairs turned round hold two records exactly if the pairs hold them the other way. -/
theorem exists_reversed_iff
    {records : List RecordPair} {a b : QualifiedName} :
    (∃ known ∈ records.map RecordPair.reversed, known.keys = (b, a)) ↔
      ∃ known ∈ records, known.keys = (a, b) := by
  simp [RecordPair.keys, RecordPair.reversed, and_comm]

namespace Provider

variable {provider : Provider} {pair : FieldPair} {records : List RecordPair}

section Relations

variable (declared : provider.FollowsDeclarations)
include declared

theorem alike_comm
    (a b : HostType) :
    provider.alike a b = provider.alike b a := by
  rw [alike, alike, declared.identical, Declarations.identical_comm, BEq.comm]

theorem likens_back
    {source target : HostType}
    (likens : provider.Likens source target) :
    provider.Likens target source := by
  rcases likens with alike | ⟨pointee, leads, plain, alike⟩ | ⟨pointee, plain, leads, alike⟩
  · exact .inl (by rw [alike_comm declared, alike])
  · exact .inr (.inr ⟨pointee, plain, leads, by rw [alike_comm declared, alike]⟩)
  · exact .inr (.inl ⟨pointee, leads, plain, by rw [alike_comm declared, alike]⟩)

theorem not_likens_swap_iff
    {source target : HostType} :
    ¬ provider.Likens source target ↔ ¬ provider.Likens target source :=
  not_congr ⟨likens_back declared, likens_back declared⟩

/-- Where a pointer is followed one is made on the way back, unless what it leads to is an integer
that becomes a text. -/
theorem follows_back
    (classified : pair.Classified provider.declarations)
    (follows : provider.Follows pair.source pair.target) :
    provider.Makes pair.target pair.source ∨
      ∃ pointee, provider.pointerTarget? pair.source.type = some pointee ∧
        provider.declarations.IntegerToText pointee pair.target.type := by
  obtain ⟨pointee, leads, plain, alike | ⟨converts, from_basic, to_basic⟩⟩ := follows
  · exact .inl ⟨pointee, plain, leads, .inl (by rw [alike_comm declared, alike])⟩
  · have closed := Declarations.underlying_ne_interface classified.isShapeOf_target to_basic
    rw [declared.convertible] at converts
    rcases Declarations.convertible_back closed converts with back | integer
    · rw [← declared.convertible] at back
      exact .inl ⟨pointee, plain, leads, .inr ⟨back, to_basic, from_basic⟩⟩
    · exact .inr ⟨pointee, leads, integer⟩

/-- Where a pointer is made it is followed on the way back, unless the value is an integer that
becomes a text. -/
theorem makes_back
    (classified : pair.Classified provider.declarations)
    (makes : provider.Makes pair.source pair.target) :
    provider.Follows pair.target pair.source ∨
      ∃ pointee, provider.pointerTarget? pair.target.type = some pointee ∧
        provider.declarations.IntegerToText pair.source.type pointee := by
  obtain ⟨pointee, plain, leads, alike | ⟨converts, from_basic, to_basic⟩⟩ := makes
  · exact .inl ⟨pointee, leads, plain, .inl (by rw [alike_comm declared, alike])⟩
  · have closed : provider.declarations.underlying pointee ≠ .interface := by
      obtain ⟨element, inner, basic⟩ := (Option.any_eq_true _ _).1 to_basic
      exact Declarations.underlying_ne_interface
        (isShapeOf_pointerTarget classified.isShapeOf_target leads inner) basic
    rw [declared.convertible] at converts
    rcases Declarations.convertible_back closed converts with back | integer
    · rw [← declared.convertible] at back
      exact .inl ⟨pointee, leads, plain, .inr ⟨back, to_basic, from_basic⟩⟩
    · exact .inr ⟨pointee, leads, integer⟩

/-- Records that are left to a converter are left to one on the way back. -/
theorem delegates_back
    {strategy : Strategy}
    (delegates : strategy.delegates = true)
    (delegated : provider.strategy records pair = strategy) :
    provider.strategy (records.map RecordPair.reversed) pair.swap = strategy := by
  rw [strategy_eq_iff_of_delegates delegates] at delegated ⊢
  obtain ⟨unlikened, unboxed, a, b, delegable, paired⟩ := delegated
  exact ⟨(not_likens_swap_iff declared).1 unlikened, unboxed.symm, b, a, delegable.swap,
    exists_reversed_iff.2 paired⟩

/-- With the standard rules, a pair of classified fields and the pair turned round get opposite
strategies.  The exceptions are integers that become texts where a pointer is followed or made. -/
theorem strategies_dual
    (classified : pair.Classified provider.declarations) (records : List RecordPair) :
    (provider.strategy records pair = .timeToString ↔
      provider.strategy (records.map RecordPair.reversed) pair.swap = .stringToTime) ∧
    (provider.strategy records pair = .nullableToValue ↔
      provider.strategy (records.map RecordPair.reversed) pair.swap = .valueToNullable) ∧
    (∀ strategy ∈ [Strategy.nestedStructConvert, .nestedStructPointerConvert, .nestedSliceConvert],
      provider.strategy records pair = strategy ↔
        provider.strategy (records.map RecordPair.reversed) pair.swap = strategy) ∧
    (provider.strategy records pair = .pointerUnwrap →
      provider.strategy (records.map RecordPair.reversed) pair.swap = .pointerWrap ∨
        ∃ pointee, provider.pointerTarget? pair.source.type = some pointee ∧
          provider.declarations.IntegerToText pointee pair.target.type) ∧
    (provider.strategy records pair = .pointerWrap →
      provider.strategy (records.map RecordPair.reversed) pair.swap = .pointerUnwrap ∨
        ∃ pointee, provider.pointerTarget? pair.target.type = some pointee ∧
          provider.declarations.IntegerToText pair.source.type pointee) := by
  have turned : pair.swap.Classified provider.declarations :=
    ⟨classified.target, classified.source⟩
  have unlike_iff :
      provider.alike pair.swap.source.type pair.swap.target.type = false ↔
        provider.alike pair.source.type pair.target.type = false := by
    rw [alike_comm declared]
    rfl
  refine ⟨?_, ?_, ?_, ?_, ?_⟩
  · rw [strategy_eq_timeToString_iff classified, strategy_eq_stringToTime_iff turned, unlike_iff]
    exact and_congr_right fun _ => and_comm
  · rw [strategy_eq_nullableToValue_iff classified, strategy_eq_valueToNullable_iff turned,
      unlike_iff]
    rfl
  · intro strategy listed
    have delegates : strategy.delegates = true := by
      simp only [List.mem_cons, List.not_mem_nil, or_false] at listed
      rcases listed with rfl | rfl | rfl <;> rfl
    refine ⟨delegates_back declared delegates, fun delegated => ?_⟩
    have twice : RecordPair.reversed ∘ RecordPair.reversed = id := rfl
    have there := delegates_back declared delegates delegated
    rwa [FieldPair.swap_swap, List.map_map, twice, List.map_id] at there
  · intro unwrapped
    obtain ⟨unlike, follows⟩ := (strategy_eq_pointerUnwrap_iff classified).1 unwrapped
    rw [strategy_eq_pointerWrap_iff turned, unlike_iff]
    exact (follows_back declared classified follows).imp_left fun makes => ⟨unlike, makes⟩
  · intro wrapped
    obtain ⟨unlike, makes⟩ := (strategy_eq_pointerWrap_iff classified).1 wrapped
    rw [strategy_eq_pointerUnwrap_iff turned, unlike_iff]
    exact (makes_back declared classified makes).imp_left fun follows => ⟨unlike, follows⟩

end Relations

/-- Four field pairs with the strategies of each and of the pair turned round: a time, a nullable
text and a pointer to a number go both ways, and a pointer to a number that becomes a text does not
come back. -/
theorem strategies_dual_builtin :
    Catalog.builtin.provider.FollowsDeclarations ∧
    [(.named ⟨"time", "Time"⟩, .primitive .string),
        (.named ⟨"database/sql", "NullString"⟩, .primitive .string),
        (.pointer (.primitive .int), .primitive .int64),
        (.pointer (.primitive .int), .primitive .string)].map
        (fun types : HostType × HostType =>
          (Catalog.builtin.provider.strategy []
              (Catalog.builtin.provider.pairOf "" types.1 types.2),
            Catalog.builtin.provider.strategy []
              (Catalog.builtin.provider.pairOf "" types.1 types.2).swap)) =
      [(.timeToString, .stringToTime), (.nullableToValue, .valueToNullable),
        (.pointerUnwrap, .pointerWrap), (.pointerUnwrap, .skip)] ∧
    ∃ pointee, Catalog.builtin.provider.pointerTarget? (.pointer (.primitive .int)) = some pointee ∧
      Catalog.builtin.provider.declarations.IntegerToText pointee (.primitive .string) := by
  have declared : Catalog.builtin.provider.FollowsDeclarations := ⟨rfl, rfl⟩
  have classified := Catalog.builtin.provider.classified_pairOf "" (.pointer (.primitive .int))
    (.primitive .string)
  obtain ⟨_, _, _, unwrapped, _⟩ := strategies_dual declared classified []
  refine ⟨declared, rfl, (unwrapped rfl).resolve_left ?_⟩
  intro wrapped
  cases wrapped

end Provider
end RecordConversion
