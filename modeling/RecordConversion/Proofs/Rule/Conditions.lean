import RecordConversion.Proofs.Declarations.Shapes
import RecordConversion.Proofs.Rule.Delegation

/-!
# What the rules ask of a field pair

For the rules that take pointers, nullable values, times and records apart, the condition under
which each of their strategies is given, in terms of the two types and their shapes alone.

* `Provider.Follows`, `Provider.Makes`: a pointer on one side.
* `Shape.Boxes`: a nullable record and its payload.
* `Shape.Delegable`: two records, single or in slices, and the strategy that delegates them.
-/

namespace RecordConversion

/-- The strategy that a rule gives for a pair among the given converters. -/
def Rule.strategy?
    (rule : Rule) (provider : Provider) (pairs : PairSet) (pair : FieldPair) : Option Strategy :=
  (rule.conversion? provider pairs pair).map FieldConversion.strategy

namespace Rule

variable {provider : Provider} {pairs : PairSet} {pair : FieldPair} {strategy : Strategy}

theorem strategy?_eq_some_iff
    {rule : Rule} :
    rule.strategy? provider pairs pair = some strategy ↔
      ∃ text, rule.convert? ⟨provider, if rule.needsPairSet then some pairs else none⟩ pair =
        some (strategy, text) := by
  simp [strategy?, conversion?, Option.map_eq_some_iff]

theorem gives_of_strategy?
    {rule : Rule} (standard : rule ∈ Rule.standard)
    (given : rule.strategy? provider pairs pair = some strategy) :
    Gives rule strategy := by
  obtain ⟨text, answer⟩ := strategy?_eq_some_iff.1 given
  exact gives_of_convert? standard answer

end Rule

/-! ## Pointers, as the rules see them -/

namespace Provider

variable {provider : Provider} {shape : Shape} {type target : HostType}

/-- A type with a basic shape, or that of a record, is no pointer. -/
theorem pointerTarget?_eq_none
    (seen : provider.declarations.IsShapeOf shape type)
    (values : shape.kind = .basic ∨ shape.kind = .record) :
    provider.pointerTarget? type = none := by
  have told : shape.kind ≠ .other := by
    rintro nothing
    simp [nothing] at values
  rw [Option.eq_none_iff_forall_ne_some]
  intro target found
  rw [pointerTarget?_eq_some_iff] at found
  rcases Declarations.kind_underlying_of_isShapeOf seen told with same | unstructured
  · rw [found] at same
    simp [← same, HostType.kind] at values
  · rw [found] at unstructured
    cases unstructured

/-- What the shape of a pointer leads to is the shape of its target. -/
theorem isShapeOf_pointerTarget
    {element : Shape}
    (seen : provider.declarations.IsShapeOf shape type)
    (found : provider.pointerTarget? type = some target)
    (leads : shape.element? = some element) :
    provider.declarations.IsShapeOf element target := by
  rw [pointerTarget?_eq_some_iff] at found
  have structured : (provider.declarations.underlying type).kind ≠ .other := by
    rw [found]
    nofun
  rcases Declarations.layer_underlying seen structured with nothing | layer
  · cases shape <;> cases nothing
    cases leads
  · rw [found] at layer
    cases layer with
    | pointer inner =>
        cases leads
        exact inner

/-- The source is a pointer, the target is none, and what the pointer leads to becomes the target:
because it is the same, or because both are basic and it converts. -/
def Follows
    (provider : Provider) (source target : RecordField) : Prop :=
  ∃ pointee, provider.pointerTarget? source.type = some pointee ∧
    provider.pointerTarget? target.type = none ∧
      (provider.alike pointee target.type = true ∨
        provider.convertible pointee target.type = true ∧
          source.shape.elementIsBasic = true ∧ target.shape.isBasic = true)

/-- The target is a pointer, the source is none and becomes what the pointer leads to: because it is
the same, or because both are basic and it converts. -/
def Makes
    (provider : Provider) (source target : RecordField) : Prop :=
  ∃ pointee, provider.pointerTarget? source.type = none ∧
    provider.pointerTarget? target.type = some pointee ∧
      (provider.alike source.type pointee = true ∨
        provider.convertible source.type pointee = true ∧
          source.shape.isBasic = true ∧ target.shape.elementIsBasic = true)

/-- One type is taken for the other, or the target of a pointer for the other type. -/
def Likens
    (provider : Provider) (source target : HostType) : Prop :=
  provider.alike source target = true ∨
    (∃ pointee, provider.pointerTarget? source = some pointee ∧
      provider.pointerTarget? target = none ∧ provider.alike pointee target = true) ∨
    ∃ pointee, provider.pointerTarget? source = none ∧
      provider.pointerTarget? target = some pointee ∧ provider.alike source pointee = true

end Provider

/-! ## Shapes that rules ask for -/

namespace Shape

variable {source target shape : Shape} {a b : QualifiedName} {strategy : Strategy}

theorem kind_of_isBasic
    (basic : shape.isBasic = true) :
    shape.kind = .basic := by
  obtain ⟨kind, found⟩ := Option.isSome_iff_exists.1 basic
  exact kind_eq_basic_of_basic? found

theorem kind_of_isString
    (text : shape.isString = true) :
    shape.kind = .basic :=
  kind_eq_basic_of_basic? (beq_iff_eq.1 text)

theorem isBasic_eq_false
    (kind : shape.kind ≠ .basic) :
    shape.isBasic = false := by
  rw [← Bool.not_eq_true]
  intro basic
  exact kind (kind_of_isBasic basic)

theorem isString_eq_false
    (kind : shape.kind ≠ .basic) :
    shape.isString = false := by
  rw [← Bool.not_eq_true]
  intro text
  exact kind (kind_of_isString text)

theorem elementIsRecord_eq_false
    (basic : shape.elementIsBasic = true) :
    shape.elementIsRecord = false := by
  rw [elementIsBasic, Option.any_eq_true] at basic
  obtain ⟨element, leads, basic⟩ := basic
  simp [elementIsRecord, leads, kind_of_isBasic basic]

theorem kind_of_isTime
    (time : shape.isTime = true) :
    shape.kind = .record :=
  kind_eq_record_of_recordRef? (beq_iff_eq.1 time)

/-- A shape is that of a nullable record, and the other one is that of its payload. -/
def Boxes
    (box payload : Shape) : Prop :=
  ∃ nullable, Nullable.ofShape? box = some nullable ∧ nullable.payload.accepts payload = true

/-- The payload of a nullable record is basic or a point in time, which is no nullable record. -/
theorem Boxes.payload_cases
    (boxes : source.Boxes target) :
    target.kind = .basic ∨ target.isTime = true := by
  obtain ⟨nullable, found, accepted⟩ := boxes
  obtain ⟨_, _, listed⟩ := Option.bind_eq_some_iff.1 found
  have member := List.mem_of_find?_eq_some listed
  simp only [Nullable.all, List.mem_cons, List.not_mem_nil, or_false] at member
  rcases member with rfl | rfl | rfl | rfl | rfl | rfl | rfl | rfl
  case inr.inr.inr.inr.inr.inr.inr => exact .inr accepted
  all_goals exact .inl (kind_eq_basic_of_basic? (beq_iff_eq.1 accepted))

theorem Boxes.kind_box
    (boxes : source.Boxes target) :
    source.kind = .record := by
  obtain ⟨nullable, found, _⟩ := boxes
  obtain ⟨_, named, _⟩ := Option.bind_eq_some_iff.1 found
  exact kind_eq_record_of_recordRef? named

theorem Boxes.kind_payload
    (boxes : source.Boxes target) :
    target.kind = .basic ∨ target.kind = .record :=
  boxes.payload_cases.imp_right kind_of_isTime

theorem not_boxes_of_isTime
    (time : source.isTime = true) :
    ¬ source.Boxes target := by
  rintro ⟨nullable, found, _⟩
  rw [Nullable.ofShape?, beq_iff_eq.1 time] at found
  cases found

theorem not_boxes_of_kind
    (kind : source.kind ≠ .record) :
    ¬ source.Boxes target :=
  fun boxes => kind boxes.kind_box

/-- A payload is no nullable record. -/
theorem Boxes.asymm
    (boxes : source.Boxes target) :
    ¬ target.Boxes source := by
  rcases boxes.payload_cases with basic | time
  · exact not_boxes_of_kind (by rw [basic]; nofun)
  · exact not_boxes_of_isTime time

/-- Two shapes are of records, single or in slices, themselves or behind a pointer each.  The
strategy is the one by which the first record is left to its converter to the second. -/
inductive Delegable : Shape → Shape → QualifiedName → QualifiedName → Strategy → Prop
  | single
      {source target : Shape} {a b : QualifiedName} {isPointer isPointer' : Bool}
      (from_record : source.recordOrPointer? = some (a, isPointer))
      (to_record : target.recordOrPointer? = some (b, isPointer')) :
      Delegable source target a b
        (if isPointer || isPointer' then .nestedStructPointerConvert else .nestedStructConvert)
  | slices
      {source target : Shape} {a b : QualifiedName} {isPointer isPointer' : Bool}
      (from_slice : source.sliceOfRecords? = some (a, isPointer))
      (to_slice : target.sliceOfRecords? = some (b, isPointer')) :
      Delegable source target a b .nestedSliceConvert

theorem Delegable.swap
    (delegable : source.Delegable target a b strategy) :
    target.Delegable source b a strategy := by
  cases delegable with
  | single from_record to_record =>
      rw [Bool.or_comm]
      exact .single to_record from_record
  | slices from_slice to_slice => exact .slices to_slice from_slice

theorem Delegable.delegates
    (delegable : source.Delegable target a b strategy) :
    strategy.delegates = true := by
  cases delegable with
  | slices => rfl
  | single => split <;> rfl

theorem Delegable.source_refers
    (delegable : source.Delegable target a b strategy) :
    source.nestedRecord? = some a := by
  cases delegable with
  | single from_record => exact nestedRecord?_of_recordOrPointer? from_record
  | slices from_slice => exact nestedRecord?_of_sliceOfRecords? from_slice

theorem Delegable.target_refers
    (delegable : source.Delegable target a b strategy) :
    target.nestedRecord? = some b :=
  delegable.swap.source_refers

/-- Two shapes refer to one pair of records at most. -/
theorem Delegable.unique
    {a' b' : QualifiedName} {strategy' : Strategy}
    (delegable : source.Delegable target a b strategy)
    (delegable' : source.Delegable target a' b' strategy') :
    a = a' ∧ b = b' :=
  ⟨Option.some.inj (delegable.source_refers.symm.trans delegable'.source_refers),
    Option.some.inj (delegable.target_refers.symm.trans delegable'.target_refers)⟩

theorem Delegable.source_not_basic
    (delegable : source.Delegable target a b strategy) :
    source.kind ≠ .basic := by
  have refers := delegable.source_refers
  cases source <;> first | cases refers | nofun

theorem recordOrPointer?_eq_none_of_slice
    {found : QualifiedName × Bool}
    (slice : shape.sliceOfRecords? = some found) :
    shape.recordOrPointer? = none := by
  cases shape <;> first | rfl | cases slice

end Shape

/-! ## The rules by what they ask for -/

namespace Rule

variable {provider : Provider} {records : List RecordPair} {pairs : PairSet} {pair : FieldPair}
variable {strategy : Strategy}

theorem sameType_declines_iff :
    sameType.strategy? provider pairs pair = none ↔
      provider.alike pair.source.type pair.target.type = false := by
  simp [strategy?, conversion?, sameType]

/-- Only basic shapes are cast at once. -/
theorem basicCast_declines
    (composite : pair.source.shape.kind ≠ .basic ∨ pair.target.shape.kind ≠ .basic) :
    basicCast.strategy? provider pairs pair = none := by
  rcases composite with kind | kind
  · simp [strategy?, conversion?, basicCast, Shape.isBasic_eq_false kind]
  · simp [strategy?, conversion?, basicCast, Shape.isBasic_eq_false kind]

/-- A rule that gives no more than two strategies passes exactly if it gives neither. -/
theorem declines_iff_of_two
    {rule : Rule} {first second : Strategy}
    (only : ∀ strategy, rule.strategy? provider pairs pair = some strategy →
      strategy = first ∨ strategy = second) :
    rule.strategy? provider pairs pair = none ↔
      ¬ rule.strategy? provider pairs pair = some first ∧
        ¬ rule.strategy? provider pairs pair = some second := by
  cases given : rule.strategy? provider pairs pair with
  | none => simp
  | some strategy =>
      rcases only strategy given with rfl | rfl
      · simp
      · simp

theorem exists_unwrap?_iff
    {pointee : HostType} :
    (∃ text, unwrap? provider pair pointee = some (.pointerUnwrap, text)) ↔
      provider.alike pointee pair.target.type = true ∨
        provider.convertible pointee pair.target.type = true ∧
          pair.source.shape.elementIsBasic = true ∧ pair.target.shape.isBasic = true := by
  constructor
  · rintro ⟨text, given⟩
    obtain ⟨_, ⟨alike, _⟩ | ⟨_, _, converts, _⟩⟩ := unwrap?_eq_some_iff.1 given
    · exact .inl alike
    · exact .inr converts
  · intro follows
    cases alike : provider.alike pointee pair.target.type with
    | true => exact ⟨_, unwrap?_eq_some_iff.2 ⟨rfl, .inl ⟨alike, rfl⟩⟩⟩
    | false =>
        have converts := follows.resolve_left (by rw [alike]; nofun)
        have no_record := Shape.elementIsRecord_eq_false converts.2.1
        exact ⟨_, unwrap?_eq_some_iff.2 ⟨rfl, .inr ⟨alike, no_record, converts, rfl⟩⟩⟩

theorem exists_wrap?_iff
    {pointee : HostType} :
    (∃ text, wrap? provider pair pointee = some (.pointerWrap, text)) ↔
      provider.alike pair.source.type pointee = true ∨
        provider.convertible pair.source.type pointee = true ∧
          pair.source.shape.isBasic = true ∧ pair.target.shape.elementIsBasic = true := by
  constructor
  · rintro ⟨text, given⟩
    obtain ⟨_, ⟨alike, _⟩ | ⟨_, _, converts, _⟩⟩ := wrap?_eq_some_iff.1 given
    · exact .inl alike
    · exact .inr converts
  · intro makes
    cases alike : provider.alike pair.source.type pointee with
    | true => exact ⟨_, wrap?_eq_some_iff.2 ⟨rfl, .inl ⟨alike, rfl⟩⟩⟩
    | false =>
        have converts := makes.resolve_left (by rw [alike]; nofun)
        have no_record := Shape.elementIsRecord_eq_false converts.2.2
        exact ⟨_, wrap?_eq_some_iff.2 ⟨rfl, .inr ⟨alike, no_record, converts, rfl⟩⟩⟩

theorem pointer_gives_unwrap_iff :
    pointer.strategy? provider pairs pair = some .pointerUnwrap ↔
      provider.Follows pair.source pair.target := by
  rw [strategy?_eq_some_iff]
  constructor
  · rintro ⟨text, answer⟩
    rcases pointer_eq_some_iff.1 answer with ⟨pointee, leads, plain, given⟩ | ⟨_, _, _, given⟩
    · exact ⟨pointee, leads, plain, exists_unwrap?_iff.1 ⟨text, given⟩⟩
    · cases (wrap?_eq_some_iff.1 given).1
  · rintro ⟨pointee, leads, plain, follows⟩
    obtain ⟨text, given⟩ := exists_unwrap?_iff.2 follows
    exact ⟨text, pointer_eq_some_iff.2 (.inl ⟨pointee, leads, plain, given⟩)⟩

theorem pointer_gives_wrap_iff :
    pointer.strategy? provider pairs pair = some .pointerWrap ↔
      provider.Makes pair.source pair.target := by
  rw [strategy?_eq_some_iff]
  constructor
  · rintro ⟨text, answer⟩
    rcases pointer_eq_some_iff.1 answer with ⟨_, _, _, given⟩ | ⟨pointee, plain, leads, given⟩
    · cases (unwrap?_eq_some_iff.1 given).1
    · exact ⟨pointee, plain, leads, exists_wrap?_iff.1 ⟨text, given⟩⟩
  · rintro ⟨pointee, plain, leads, makes⟩
    obtain ⟨text, given⟩ := exists_wrap?_iff.2 makes
    exact ⟨text, pointer_eq_some_iff.2 (.inr ⟨pointee, plain, leads, given⟩)⟩

theorem pointer_declines_iff :
    pointer.strategy? provider pairs pair = none ↔
      ¬ provider.Follows pair.source pair.target ∧ ¬ provider.Makes pair.source pair.target := by
  have only : ∀ strategy, pointer.strategy? provider pairs pair = some strategy →
      strategy = .pointerUnwrap ∨ strategy = .pointerWrap := by
    intro strategy given
    obtain ⟨text, answer⟩ := strategy?_eq_some_iff.1 given
    rcases pointer_eq_some_iff.1 answer with ⟨_, _, _, followed⟩ | ⟨_, _, _, made⟩
    · exact .inl (unwrap?_eq_some_iff.1 followed).1
    · exact .inr (wrap?_eq_some_iff.1 made).1
  rw [declines_iff_of_two only, pointer_gives_unwrap_iff, pointer_gives_wrap_iff]

theorem nullable_gives_payload_iff :
    nullable.strategy? provider pairs pair = some .nullableToValue ↔
      pair.source.shape.Boxes pair.target.shape := by
  rw [strategy?_eq_some_iff]
  constructor
  · rintro ⟨text, answer⟩
    rcases nullable_eq_some_iff.1 answer with taken | ⟨_, put⟩
    · obtain ⟨nullable, box, accepted, _⟩ := payloadOf?_eq_some_iff.1 taken
      exact ⟨nullable, box, accepted⟩
    · obtain ⟨_, _, _, other, _⟩ := nullableOf?_eq_some_iff.1 put
      cases other
  · rintro ⟨nullable, box, accepted⟩
    exact ⟨_, nullable_eq_some_iff.2 (.inl (payloadOf?_eq_some_iff.2
      ⟨nullable, box, accepted, rfl, rfl⟩))⟩

theorem payloadOf?_eq_none_of_not_boxes
    (open_ : ¬ pair.source.shape.Boxes pair.target.shape) :
    payloadOf? pair = none := by
  rw [Option.eq_none_iff_forall_ne_some]
  rintro ⟨strategy, text⟩ taken
  obtain ⟨nullable, box, accepted, _⟩ := payloadOf?_eq_some_iff.1 taken
  exact open_ ⟨nullable, box, accepted⟩

theorem nullable_gives_nullable_iff :
    nullable.strategy? provider pairs pair = some .valueToNullable ↔
      pair.target.shape.Boxes pair.source.shape := by
  rw [strategy?_eq_some_iff]
  constructor
  · rintro ⟨text, answer⟩
    rcases nullable_eq_some_iff.1 answer with taken | ⟨_, put⟩
    · obtain ⟨_, _, _, other, _⟩ := payloadOf?_eq_some_iff.1 taken
      cases other
    · obtain ⟨nullable, box, accepted, _⟩ := nullableOf?_eq_some_iff.1 put
      exact ⟨nullable, box, accepted⟩
  · intro boxes
    have open_ := payloadOf?_eq_none_of_not_boxes boxes.asymm
    obtain ⟨nullable, box, accepted⟩ := boxes
    exact ⟨_, nullable_eq_some_iff.2 (.inr ⟨open_, nullableOf?_eq_some_iff.2
      ⟨nullable, box, accepted, rfl, rfl⟩⟩)⟩

theorem nullable_declines_iff :
    nullable.strategy? provider pairs pair = none ↔
      ¬ pair.source.shape.Boxes pair.target.shape ∧
        ¬ pair.target.shape.Boxes pair.source.shape := by
  have only : ∀ strategy, nullable.strategy? provider pairs pair = some strategy →
      strategy = .nullableToValue ∨ strategy = .valueToNullable := by
    intro strategy given
    obtain ⟨text, answer⟩ := strategy?_eq_some_iff.1 given
    rcases nullable_eq_some_iff.1 answer with taken | ⟨_, put⟩
    · obtain ⟨_, _, _, payload, _⟩ := payloadOf?_eq_some_iff.1 taken
      exact .inl payload
    · obtain ⟨_, _, _, nullable, _⟩ := nullableOf?_eq_some_iff.1 put
      exact .inr nullable
  rw [declines_iff_of_two only, nullable_gives_payload_iff, nullable_gives_nullable_iff]

/-- Neither a time nor a text is a nullable record. -/
theorem nullable_declines_of_time
    (time : pair.source.shape.isTime = true ∧ pair.target.shape.isString = true ∨
      pair.source.shape.isString = true ∧ pair.target.shape.isTime = true) :
    nullable.strategy? provider pairs pair = none := by
  have not_boxes_of_isString {text other : Shape} (string : text.isString = true) :
      ¬ text.Boxes other :=
    Shape.not_boxes_of_kind (by rw [Shape.kind_of_isString string]; nofun)
  rw [nullable_declines_iff]
  rcases time with ⟨time, text⟩ | ⟨text, time⟩
  · exact ⟨Shape.not_boxes_of_isTime time, not_boxes_of_isString text⟩
  · exact ⟨not_boxes_of_isString text, Shape.not_boxes_of_isTime time⟩

theorem timeString_gives_text_iff :
    timeString.strategy? provider pairs pair = some .timeToString ↔
      pair.source.shape.isTime = true ∧ pair.target.shape.isString = true := by
  rw [strategy?_eq_some_iff]
  constructor
  · rintro ⟨text, answer⟩
    rcases timeString_eq_some_iff.1 answer with ⟨shapes, _⟩ | ⟨_, _, other, _⟩
    · exact shapes
    · cases other
  · intro shapes
    exact ⟨_, timeString_eq_some_iff.2 (.inl ⟨shapes, rfl, rfl⟩)⟩

theorem timeString_gives_time_iff :
    timeString.strategy? provider pairs pair = some .stringToTime ↔
      pair.source.shape.isString = true ∧ pair.target.shape.isTime = true := by
  rw [strategy?_eq_some_iff]
  constructor
  · rintro ⟨text, answer⟩
    rcases timeString_eq_some_iff.1 answer with ⟨_, other, _⟩ | ⟨_, shapes, _⟩
    · cases other
    · exact shapes
  · intro shapes
    have no_time : ¬ (pair.source.shape.isTime = true ∧ pair.target.shape.isString = true) := by
      rintro ⟨time, _⟩
      have basic := Shape.kind_of_isString shapes.1
      rw [Shape.kind_of_isTime time] at basic
      cases basic
    exact ⟨_, timeString_eq_some_iff.2 (.inr ⟨no_time, shapes, rfl, rfl⟩)⟩

/-- Times are read and written only where one side is text. -/
theorem timeString_declines
    (from_composite : pair.source.shape.kind ≠ .basic)
    (to_composite : pair.target.shape.kind ≠ .basic) :
    timeString.strategy? provider pairs pair = none := by
  simp [strategy?, conversion?, timeString, Shape.isString_eq_false from_composite,
    Shape.isString_eq_false to_composite]

theorem nestedStruct_gives_iff :
    nestedStruct.strategy? provider (.ofPairs records) pair = some strategy ↔
      ∃ a b, pair.source.shape.Delegable pair.target.shape a b strategy ∧
        ∃ known ∈ records, known.keys = (a, b) := by
  rw [strategy?_eq_some_iff]
  constructor
  · rintro ⟨text, answer⟩
    obtain ⟨_, offered, _, ⟨⟨a, _⟩, ⟨b, _⟩, from_record, to_record, delegated⟩ |
      ⟨_, ⟨a, _⟩, ⟨b, _⟩, from_slice, to_slice, delegated⟩⟩ := nestedStruct_eq_some_iff.1 answer
    · cases offered
      obtain ⟨contained, rfl, _⟩ := delegateRecord?_eq_some_iff.1 delegated
      exact ⟨a, b, .single from_record to_record, (PairSet.contains_ofPairs _ _ _).1 contained⟩
    · cases offered
      obtain ⟨contained, rfl, _⟩ := delegateSlice?_eq_some_iff.1 delegated
      exact ⟨a, b, .slices from_slice to_slice, (PairSet.contains_ofPairs _ _ _).1 contained⟩
  · rintro ⟨a, b, delegable, paired⟩
    have contained := (PairSet.contains_ofPairs records a b).2 paired
    have filled : (PairSet.ofPairs records).isEmpty = false := by
      obtain ⟨known, member, _⟩ := paired
      rw [PairSet.isEmpty_ofPairs, List.isEmpty_eq_false_iff]
      exact List.ne_nil_of_mem member
    cases delegable with
    | single from_record to_record =>
        exact ⟨_, nestedStruct_eq_some_iff.2 ⟨_, rfl, filled, .inl ⟨_, _, from_record, to_record,
          delegateRecord?_eq_some_iff.2 ⟨contained, rfl, rfl⟩⟩⟩⟩
    | slices from_slice to_slice =>
        exact ⟨_, nestedStruct_eq_some_iff.2 ⟨_, rfl, filled,
          .inr ⟨.inl (Shape.recordOrPointer?_eq_none_of_slice from_slice), _, _, from_slice,
            to_slice, delegateSlice?_eq_some_iff.2 ⟨contained, rfl, rfl⟩⟩⟩⟩

end Rule
end RecordConversion
