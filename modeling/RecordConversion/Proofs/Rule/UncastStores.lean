import RecordConversion.Catalog.Basic
import RecordConversion.Proofs.Declarations.Compatibility
import RecordConversion.Proofs.Declarations.Shapes
import RecordConversion.Proofs.Resolver
import RecordConversion.Proofs.Rule.Answers

/-!
# Values that are stored without a cast

The rules for nullable values, for times and for texts look at shapes, which see through defined
names, and write statements without a cast.  Whether such a statement is well typed is a matter of
the types, where a defined name counts.

* `Resolver.assignable_uncast_iff`: the value may be assigned exactly if its type and that of the
  place are one type behind aliases, so a name that is defined over the type makes the statement
  ill typed.
-/

namespace RecordConversion

namespace Strategy

/-- The strategies that take a value of one known type, or give one, and never cast. -/
def storesUncast : Strategy → Bool
  | nullableToValue | timeToString | customMethodCall | valueToNullable | stringToTime => true
  | _ => false

end Strategy

namespace FieldConversion

/-- The type of the value that a conversion takes or gives without a cast, and the type of the place
where it goes: a payload or a text that is stored in the target, or a source that becomes a payload
or is read as a text. -/
def uncast? (conversion : FieldConversion) : Option (HostType × HostType) :=
  match conversion.strategy with
  | .nullableToValue =>
    (Nullable.ofShape? conversion.source.shape).map fun nullable =>
      (nullable.payload.type, conversion.target.type)
  | .timeToString | .customMethodCall => some (.primitive .string, conversion.target.type)
  | .valueToNullable =>
    (Nullable.ofShape? conversion.target.shape).map fun nullable =>
      (conversion.source.type, nullable.payload.type)
  | .stringToTime => some (conversion.source.type, .primitive .string)
  | _ => none

end FieldConversion

namespace Declarations

variable {table : Declarations}

theorem isNamed_primitive
    (kind : Primitive) :
    table.isNamed (.primitive kind) = true :=
  isNamed_iff.2 (.inr ⟨kind, resolve_primitive kind⟩)

/-- What a type over a basic one stands for is a named type. -/
theorem isNamed_of_underlying_primitive
    {meaning : HostType} {kind : Primitive}
    (no_alias : table.aliasTarget? meaning = none)
    (primitive : table.underlying meaning = .primitive kind) :
    table.isNamed meaning = true := by
  by_cases named : ∃ ref, meaning = .named ref
  · obtain ⟨ref, rfl⟩ := named
    exact isNamed_of_no_alias no_alias
  · rw [underlying_of_not_named fun ref same => named ⟨ref, same⟩] at primitive
    rw [primitive]
    exact isNamed_primitive kind

/-- Between the type of a payload and a type of its shape, in either direction, only identical types
may be assigned. -/
theorem assignable_payload_iff
    {payload : Payload} {type : HostType}
    (accepted : payload.accepts (table.shapeOf type) = true) :
    (table.assignable payload.type type = true ↔
        table.resolve payload.type = table.resolve type) ∧
      (table.assignable type payload.type = true ↔
        table.resolve type = table.resolve payload.type) := by
  cases payload with
  | basic kind spelling =>
      obtain ⟨meaning, stands, primitive⟩ := exists_meaning_of_basic? (beq_iff_eq.1 accepted)
      have known_values : table.HasValues (.primitive kind) :=
        .inl (by rw [underlying_primitive]; rfl)
      have values : table.HasValues meaning := .inl (by rw [primitive]; rfl)
      exact assignable_iff_resolve_eq (isNamed_primitive kind) known_values stands
        (isNamed_of_underlying_primitive stands.no_alias primitive) values
  | record ref =>
      obtain ⟨stands, record⟩ := standsFor_of_recordRef? (beq_iff_eq.1 accepted)
      have named := isNamed_of_no_alias stands.no_alias
      exact assignable_iff_resolve_eq named (.inr record) stands named (.inr record)

/-- Between the type of texts and a type of its shape only identical types may be assigned. -/
theorem assignable_string_iff
    {type : HostType}
    (string : (table.shapeOf type).isString = true) :
    (table.assignable (.primitive .string) type = true ↔
        table.resolve (.primitive .string) = table.resolve type) ∧
      (table.assignable type (.primitive .string) = true ↔
        table.resolve type = table.resolve (.primitive .string)) := by
  have accepted : (Payload.basic .string "string").accepts (table.shapeOf type) = true := string
  exact assignable_payload_iff accepted

end Declarations

namespace Rule

variable {context : RuleContext} {pair : FieldPair} {strategy : Strategy} {text : String}

/-- The conversions that store uncast are those of nullable values, of times and of texts, each by
its own test on the shapes. -/
theorem storesUncast_cases
    {rule : Rule} (standard : rule ∈ Rule.standard)
    (given : rule.convert? context pair = some (strategy, text))
    (uncast : strategy.storesUncast = true) :
    (∃ nullable, Nullable.ofShape? pair.source.shape = some nullable ∧
        nullable.payload.accepts pair.target.shape = true ∧ strategy = .nullableToValue) ∨
      (∃ nullable, Nullable.ofShape? pair.target.shape = some nullable ∧
        nullable.payload.accepts pair.source.shape = true ∧ strategy = .valueToNullable) ∨
      (pair.target.shape.isString = true ∧
        (strategy = .timeToString ∨ strategy = .customMethodCall)) ∨
      pair.source.shape.isString = true ∧ strategy = .stringToTime := by
  cases gives_of_convert? standard given with
  | payload | nullable =>
      rcases nullable_eq_some_iff.1 given with taken | ⟨_, put⟩
      · obtain ⟨nullable, box, accepted, same, _⟩ := payloadOf?_eq_some_iff.1 taken
        exact .inl ⟨nullable, box, accepted, same⟩
      · obtain ⟨nullable, box, accepted, same, _⟩ := nullableOf?_eq_some_iff.1 put
        exact .inr (.inl ⟨nullable, box, accepted, same⟩)
  | timeText | textTime =>
      rcases timeString_eq_some_iff.1 given with ⟨⟨_, string⟩, same, _⟩ | ⟨_, ⟨string, _⟩, same, _⟩
      · exact .inr (.inr (.inl ⟨string, .inl same⟩))
      · exact .inr (.inr (.inr ⟨string, same⟩))
  | stringer => exact .inr (.inr (.inl ⟨(stringer_eq_some_iff.1 given).1.1, .inr rfl⟩))
  | _ => cases uncast

/-- What a standard rule stores uncast may be assigned exactly if it has the type of its place. -/
theorem assignable_iff_of_storesUncast
    {rule : Rule} (standard : rule ∈ Rule.standard)
    {provider : Provider} {pairs : PairSet} {conversion : FieldConversion}
    (classified : pair.Classified provider.declarations)
    (given : rule.conversion? provider pairs pair = some conversion)
    (uncast : conversion.strategy.storesUncast = true) :
    ∃ value place, conversion.uncast? = some (value, place) ∧
      (provider.declarations.assignable value place = true ↔
        provider.declarations.resolve value = provider.declarations.resolve place) := by
  obtain ⟨⟨strategy, text⟩, answer, rfl⟩ := Option.map_eq_some_iff.1 given
  rcases storesUncast_cases standard answer uncast with
    ⟨nullable, box, accepted, rfl⟩ | ⟨nullable, box, accepted, rfl⟩ | ⟨string, cause⟩ |
      ⟨string, rfl⟩
  · rw [classified.target] at accepted
    refine ⟨nullable.payload.type, pair.target.type, ?_, ?_⟩
    · simp [FieldConversion.uncast?, box]
    · exact (Declarations.assignable_payload_iff accepted).1
  · rw [classified.source] at accepted
    refine ⟨pair.source.type, nullable.payload.type, ?_, ?_⟩
    · simp [FieldConversion.uncast?, box]
    · exact (Declarations.assignable_payload_iff accepted).2
  · rw [classified.target] at string
    refine ⟨.primitive .string, pair.target.type, ?_, ?_⟩
    · rcases cause with rfl | rfl
      · rfl
      · rfl
    · exact (Declarations.assignable_string_iff string).1
  · rw [classified.source] at string
    exact ⟨pair.source.type, .primitive .string, rfl, (Declarations.assignable_string_iff string).2⟩

end Rule

namespace Resolver

/-- Where a conversion of the standard rules stores without a cast, the value may be assigned to its
place exactly if both types are one behind aliases. -/
theorem assignable_uncast_iff
    (catalog : Catalog) (fields : List FieldPair) (records : List RecordPair)
    (classified : ∀ pair ∈ fields, pair.Classified catalog.table)
    (conversion : FieldConversion)
    (member : conversion ∈ (standard.resolve catalog.provider fields records).1.value)
    (uncast : conversion.strategy.storesUncast = true) :
    ∃ value place, conversion.uncast? = some (value, place) ∧
      (catalog.provider.assignable value place = true ↔
        catalog.table.resolve value = catalog.table.resolve place) := by
  rw [resolve_value] at member
  obtain ⟨pair, listed, rfl⟩ := List.mem_map.1 member
  have converted :
      ((standard.rebuild records).resolveField catalog.provider pair).value.strategy ≠ .skip := by
    intro skipped
    rw [skipped] at uncast
    cases uncast
  obtain ⟨rule, deciding, given⟩ := exists_rule_of_resolveField converted
  exact Rule.assignable_iff_of_storesUncast deciding (classified pair listed) given uncast

/-- Beside the predeclared names, a type over strings and a further name of strings. -/
def labels : Catalog :=
  Catalog.builtin.extend ⟨"d", "d", none⟩
    (Keyed.ofList
      [("Status", ⟨⟨"d", "Status"⟩, .defined (.primitive .string), []⟩),
        ("Label", ⟨⟨"d", "Label"⟩, .alias (.primitive .string), []⟩)])

/-- A nullable string in a namespace of its own, and a field of a type of another namespace. -/
def fromNullString (name : String) : FieldPair :=
  labels.provider.pairOf "m" (.named ⟨"database/sql", "NullString"⟩) (.named ⟨"d", name⟩)

/-- The payload of a nullable string may be assigned to a field whose type is a further name of
strings. -/
theorem assignable_uncast_iff_label :
    (∀ pair ∈ [fromNullString "Label"], pair.Classified labels.table) ∧
    ∃ conversion ∈
        (standard.resolve labels.provider [fromNullString "Label"] []).1.value,
      conversion.strategy = .nullableToValue ∧
      conversion.uncast? = some (.primitive .string, .named ⟨"d", "Label"⟩) ∧
      labels.provider.assignable (.primitive .string) (.named ⟨"d", "Label"⟩) = true := by
  have classified : ∀ pair ∈ [fromNullString "Label"], pair.Classified labels.table := by
    intro pair member
    rw [List.mem_singleton.1 member]
    exact labels.provider.classified_pairOf _ _ _
  obtain ⟨conversion, given, strategy, stored⟩ :
      ∃ conversion,
        (standard.resolve labels.provider [fromNullString "Label"] []).1.value = [conversion] ∧
          conversion.strategy = .nullableToValue ∧
            conversion.uncast? = some (.primitive .string, .named ⟨"d", "Label"⟩) :=
    ⟨_, rfl, rfl, rfl⟩
  have member :
      conversion ∈ (standard.resolve labels.provider [fromNullString "Label"] []).1.value := by
    rw [given]
    exact List.mem_singleton_self conversion
  obtain ⟨value, place, same, assignable_iff⟩ :=
    assignable_uncast_iff labels _ [] classified conversion member (by rw [strategy]; rfl)
  cases stored.symm.trans same
  exact ⟨classified, conversion, member, strategy, stored, assignable_iff.2 rfl⟩

/-- The payload of a nullable string is stored without a cast in a field of a type defined over
strings, to which no string may be assigned. -/
theorem not_assignable_uncast_status :
    (fromNullString "Status").Classified labels.table ∧
    (standard.resolve labels.provider [fromNullString "Status"] []).1.value.map
        (fun conversion => (conversion.strategy, conversion.expression, conversion.uncast?)) =
      [(.nullableToValue, "if src.F.Valid \x7b\ndst.F = src.F.String\n\x7d",
        some (.primitive .string, .named ⟨"d", "Status"⟩))] ∧
    labels.provider.assignable (.primitive .string) (.named ⟨"d", "Status"⟩) = false := by
  refine ⟨labels.provider.classified_pairOf _ _ _, ?_, ?_⟩
  · rfl
  · rfl

end Resolver

end RecordConversion
