import RecordConversion.Catalog.Basic
import RecordConversion.Proofs.Declarations.Compatibility
import RecordConversion.Proofs.Declarations.Shapes
import RecordConversion.Proofs.Resolver
import RecordConversion.Proofs.Rule.Delegation

/-!
# Pointers to different records

A pointer to a record is not to become a pointer to another record, nor to be followed to one,
unless there is a converter between the two.  For single values all rules pass.  For slices of
pointers one does not: the rule for slices asks whether an element converts, and pointers to records
of one layout do.

* `Resolver.recordPointers_skipped_iff`: the pairs of two records in which pointers occur are all
  skipped exactly if the records are spelled apart and have different layouts.
-/

namespace RecordConversion

/-- Two types of which at least one is a pointer to one of two given types, and the other is the
other type or a pointer to it. -/
inductive PointerForm (a b : HostType) : HostType → HostType → Prop
  | pointers : PointerForm a b (.pointer a) (.pointer b)
  | followed : PointerForm a b (.pointer a) b
  | made : PointerForm a b a (.pointer b)

/-- The same for single values and for slices. -/
inductive RecordPointerForm (a b : HostType) : HostType → HostType → Prop
  | single
      {source target : HostType}
      (form : PointerForm a b source target) :
      RecordPointerForm a b source target
  | slices
      {source target : HostType}
      (form : PointerForm a b source target) :
      RecordPointerForm a b (.slice source) (.slice target)

/-- No two types of a pointer form have one spelling. -/
def SpelledApart (a b : HostType) : Prop :=
  ∀ source target, PointerForm a b source target → source.text ≠ target.text

/-! ## Relations between the types of a form -/

namespace Declarations

variable {table : Declarations} {a b source target : HostType} {body body' : List Field}

theorem assignable_pointerForm
    (record : table.recordBody? a = some body) (record' : table.recordBody? b = some body')
    (different : table.identical a b = false)
    (form : PointerForm a b source target) :
    table.assignable source target = false := by
  cases form with
  | pointers => exact assignable_pointers different
  | followed => exact assignable_pointer_record record'
  | made => exact assignable_record_pointer record

theorem assignable_recordPointerForm
    (record : table.recordBody? a = some body) (record' : table.recordBody? b = some body')
    (different : table.identical a b = false)
    (form : RecordPointerForm a b source target) :
    table.assignable source target = false := by
  cases form with
  | single form => exact assignable_pointerForm record record' different form
  | @slices source target form =>
      have unlike : table.identical source target = false :=
        identical_eq_false_of_assignable (assignable_pointerForm record record' different form)
      apply assignable_eq_false
      · rw [identical_slice, unlike]
      · simp
      · rw [underlying_slice, underlying_slice, sameExpansion_slice]
        exact (identical_eq_false_iff.1 unlike).2

/-- Only pointers to records of one layout convert. -/
theorem convertible_pointerForm
    (record : table.recordBody? a = some body) (record' : table.recordBody? b = some body')
    (different : table.identical a b = false)
    (layouts : table.sameExpansion (table.underlying a) (table.underlying b) = false)
    (form : PointerForm a b source target) :
    table.convertible source target = false := by
  cases form with
  | pointers => rw [convertible_pointers different, layouts]
  | followed => exact convertible_pointer_record record'
  | made => exact convertible_record_pointer record

end Declarations

/-! ## Shapes of the types of a form -/

namespace Shape

theorem basic?_eq_none
    {shape : Shape} (kind : shape.kind ≠ .basic) :
    shape.basic? = none := by
  cases shape <;> first | rfl | exact absurd rfl kind

theorem nestedRecord?_eq_recordRef?
    {shape : Shape} (kind : shape.kind = .record ∨ shape.kind = .other) :
    shape.nestedRecord? = shape.recordRef? := by
  cases shape <;> first | rfl | simp [Shape.kind] at kind

end Shape

/-- Where one of two shapes is no record and the other is not basic, the one is not the payload of
the other. -/
theorem Nullable.accepts_eq_false
    {box shape : Shape} {nullable : Nullable}
    (found : Nullable.ofShape? box = some nullable)
    (not_basic : shape.basic? = none) (not_both : box.kind ≠ .record ∨ shape.kind ≠ .record) :
    nullable.payload.accepts shape = false := by
  obtain ⟨ref, named, _⟩ := Option.bind_eq_some_iff.1 found
  rw [← Bool.not_eq_true]
  intro accepted
  cases payload : nullable.payload with
  | basic kind spelling =>
      rw [payload, Payload.accepts, not_basic] at accepted
      cases accepted
  | record inner =>
      rw [payload] at accepted
      rcases not_both with no_record | no_record
      · exact no_record (Shape.kind_eq_record_of_recordRef? named)
      · exact no_record (Shape.kind_eq_record_of_recordRef? (beq_iff_eq.1 accepted))

/-- The last rule casts a shape that is not basic only if it is a record. -/
theorem Rule.kind_eq_record_of_castsAsLastResort
    {shape : Shape}
    (casts : castsAsLastResort shape = true) (not_basic : shape.basic? = none) :
    shape.kind = .record := by
  cases shape with
  | record => rfl
  | basic => cases not_basic
  | _ => cases casts

namespace Declarations

/-- What the shapes of the types of a form have in common: neither is basic, they are not both
records, and they refer to the two records of the form. -/
structure AmongRecords
    (table : Declarations) (a b : HostType) (source target : Shape) : Prop where
  source_not_basic : source.basic? = none
  target_not_basic : target.basic? = none
  not_both : source.kind ≠ .record ∨ target.kind ≠ .record
  source_refers : source.nestedRecord? = (table.shapeOf a).recordRef?
  target_refers : target.nestedRecord? = (table.shapeOf b).recordRef?

variable {table : Declarations} {a b source target : HostType} {body body' : List Field}

theorem basic?_shapeOf_of_recordBody?
    (record : table.recordBody? a = some body) :
    (table.shapeOf a).basic? = none := by
  apply Shape.basic?_eq_none
  rcases kind_shapeOf_of_recordBody? record with kind | kind
  · rw [kind]
    nofun
  · rw [kind]
    nofun

theorem elementIsBasic_shapeOf_pointer
    (record : table.recordBody? a = some body) :
    (table.shapeOf (.pointer a)).elementIsBasic = false := by
  simp [Shape.elementIsBasic, shapeOf_pointer, Shape.element?, Shape.isBasic,
    basic?_shapeOf_of_recordBody? record]

theorem nestedRecord?_shapeOf_of_recordBody?
    (record : table.recordBody? a = some body) :
    (table.shapeOf a).nestedRecord? = (table.shapeOf a).recordRef? :=
  Shape.nestedRecord?_eq_recordRef? (kind_shapeOf_of_recordBody? record)

theorem amongRecords_of_recordPointerForm
    (record : table.recordBody? a = some body) (record' : table.recordBody? b = some body')
    (form : RecordPointerForm a b source target) :
    table.AmongRecords a b (table.shapeOf source) (table.shapeOf target) := by
  have from_basic := basic?_shapeOf_of_recordBody? record
  have to_basic := basic?_shapeOf_of_recordBody? record'
  have from_refers := nestedRecord?_shapeOf_of_recordBody? record
  have to_refers := nestedRecord?_shapeOf_of_recordBody? record'
  cases form with
  | single form =>
      cases form with
      | pointers => exact ⟨rfl, rfl, .inl nofun, from_refers, to_refers⟩
      | followed => exact ⟨rfl, to_basic, .inl nofun, from_refers, to_refers⟩
      | made => exact ⟨from_basic, rfl, .inr nofun, from_refers, to_refers⟩
  | slices form =>
      cases form with
      | pointers => exact ⟨rfl, rfl, .inl nofun, from_refers, to_refers⟩
      | followed => exact ⟨rfl, rfl, .inl nofun, from_refers, to_refers⟩
      | made => exact ⟨rfl, rfl, .inl nofun, from_refers, to_refers⟩

end Declarations

/-! ## What the rules see of the types of a form -/

namespace Provider

variable {provider : Provider} {type : HostType} {body : List Field}

@[simp]
theorem pointerTarget?_pointer :
    provider.pointerTarget? (.pointer type) = some type := by
  simp [pointerTarget?]

@[simp]
theorem pointerTarget?_slice :
    provider.pointerTarget? (.slice type) = none := by
  simp [pointerTarget?]

theorem pointerTarget?_of_recordBody?
    (record : provider.declarations.recordBody? type = some body) :
    provider.pointerTarget? type = none := by
  simp [pointerTarget?, Declarations.underlying_of_recordBody? record]

@[simp]
theorem sliceElement?_pointer :
    provider.sliceElement? (.pointer type) = none := by
  simp [sliceElement?]

@[simp]
theorem sliceElement?_slice :
    provider.sliceElement? (.slice type) = some type := by
  simp [sliceElement?]

end Provider

/-! ## The rules on the types of a form -/

namespace Rule

section Forms

variable {catalog : Catalog} {nested? : Option PairSet} {pair : FieldPair}
variable {strategy : Strategy} {text : String}
variable {a b : HostType} {body body' : List Field}

/-- Of the rules, only those that ask neither for a basic shape nor for two records may convert
records and pointers to records into each other. -/
theorem rule_cases_of_amongRecords
    {rule : Rule} (standard : rule ∈ Rule.standard)
    {context : RuleContext}
    (among : catalog.table.AmongRecords a b pair.source.shape pair.target.shape)
    (given : rule.convert? context pair = some (strategy, text)) :
    rule = sameType ∨ rule = pointer ∨ rule = nestedStruct ∨ rule = sliceConvert ∨
      rule = Rule.assignable := by
  have source_not_string : pair.source.shape.isString = false := by
    simp [Shape.isString, among.source_not_basic]
  have target_not_string : pair.target.shape.isString = false := by
    simp [Shape.isString, among.target_not_basic]
  cases gives_of_convert? standard given with
  | basicCast =>
      obtain ⟨⟨basic, _⟩, _⟩ := basicCast_eq_some_iff.1 given
      simp [Shape.isBasic, among.source_not_basic] at basic
  | payload | nullable =>
      rcases nullable_eq_some_iff.1 given with taken | ⟨_, put⟩
      · obtain ⟨nullable, box, accepted, _⟩ := payloadOf?_eq_some_iff.1 taken
        rw [Nullable.accepts_eq_false box among.target_not_basic among.not_both] at accepted
        cases accepted
      · obtain ⟨nullable, box, accepted, _⟩ := nullableOf?_eq_some_iff.1 put
        rw [Nullable.accepts_eq_false box among.source_not_basic among.not_both.symm] at accepted
        cases accepted
  | timeText | textTime =>
      rcases timeString_eq_some_iff.1 given with ⟨⟨_, string⟩, _⟩ | ⟨_, ⟨string, _⟩, _⟩
      · cases target_not_string.symm.trans string
      · cases source_not_string.symm.trans string
  | stringer =>
      obtain ⟨⟨string, _⟩, _⟩ := stringer_eq_some_iff.1 given
      cases target_not_string.symm.trans string
  | convertible =>
      obtain ⟨⟨from_cast, to_cast, _⟩, _⟩ := convertible_eq_some_iff.1 given
      have from_record := kind_eq_record_of_castsAsLastResort from_cast among.source_not_basic
      have to_record := kind_eq_record_of_castsAsLastResort to_cast among.target_not_basic
      exact absurd to_record (among.not_both.elim (absurd from_record) id)
  | _ => simp

section Catalog

variable (record : catalog.table.recordBody? a = some body)
variable (record' : catalog.table.recordBody? b = some body')
variable (different : catalog.table.identical a b = false)
include record record' different

theorem alike_eq_false_of_form
    {source target : HostType}
    (apart : SpelledApart a b) (form : RecordPointerForm a b source target) :
    catalog.provider.alike source target = false := by
  have unlike : catalog.provider.identical source target = false :=
    Declarations.identical_eq_false_of_assignable
      (Declarations.assignable_recordPointerForm record record' different form)
  rw [Provider.alike, unlike, Bool.false_or, beq_eq_false_iff_ne]
  cases form with
  | single form => exact apart _ _ form
  | slices form =>
      intro same
      rw [HostType.text, HostType.text, String.append_right_inj] at same
      exact apart _ _ form same

/-- Between records that are spelled apart no pointer is followed or made. -/
theorem pointer_eq_none_of_form
    {source target : HostType}
    (apart : SpelledApart a b)
    (classified : pair.Classified catalog.table)
    (form : RecordPointerForm a b source target)
    (from_type : pair.source.type = source) (to_type : pair.target.type = target) :
    pointer.convert? ⟨catalog.provider, nested?⟩ pair = none := by
  have unlike : catalog.provider.alike a b = false := by
    have identity : catalog.provider.identical a b = false := different
    rw [Provider.alike, identity, Bool.false_or, beq_eq_false_iff_ne]
    intro same
    exact apart _ _ .pointers (by rw [HostType.text, HostType.text, same])
  have from_record : catalog.provider.pointerTarget? a = none :=
    Provider.pointerTarget?_of_recordBody? record
  have to_record : catalog.provider.pointerTarget? b = none :=
    Provider.pointerTarget?_of_recordBody? record'
  cases form with
  | slices form => simp [pointer, from_type, to_type]
  | single form =>
      cases form with
      | pointers => simp [pointer, from_type, to_type]
      | followed =>
          have not_basic : pair.source.shape.elementIsBasic = false := by
            rw [classified.source, from_type]
            exact Declarations.elementIsBasic_shapeOf_pointer record
          simp [pointer, from_type, to_type, to_record, unwrap?, unlike, not_basic]
      | made =>
          have not_basic : pair.target.shape.elementIsBasic = false := by
            rw [classified.target, to_type]
            exact Declarations.elementIsBasic_shapeOf_pointer record'
          simp [pointer, from_type, to_type, from_record, wrap?, unlike, not_basic]

/-- Slices of pointers to records are not converted element by element if the records are spelled
apart and have different layouts. -/
theorem sliceConvert_eq_none_of_form
    {source target : HostType}
    (apart : SpelledApart a b)
    (layouts :
      catalog.table.sameExpansion (catalog.table.underlying a) (catalog.table.underlying b) = false)
    (form : RecordPointerForm a b source target)
    (from_type : pair.source.type = source) (to_type : pair.target.type = target) :
    sliceConvert.convert? ⟨catalog.provider, nested?⟩ pair = none := by
  cases form with
  | single form =>
      cases form with
      | pointers => simp [sliceConvert, from_type]
      | followed => simp [sliceConvert, from_type]
      | made => simp [sliceConvert, to_type]
  | @slices source target form =>
      have unlike : catalog.provider.alike source target = false :=
        alike_eq_false_of_form record record' different apart (.single form)
      have unconvertible : catalog.provider.convertible source target = false :=
        Declarations.convertible_pointerForm record record' different layouts form
      simp [sliceConvert, from_type, to_type, unlike, unconvertible]

/-- Between two records without a converter, which are spelled apart and have different layouts, no
rule converts where a pointer occurs. -/
theorem conversion?_eq_none_of_form
    {records : List RecordPair} {rule : Rule} (standard : rule ∈ Rule.standard)
    (unpaired : ∀ known ∈ records,
      ¬ (catalog.table.resolve a = .named known.source.key ∧
        catalog.table.resolve b = .named known.target.key))
    (apart : SpelledApart a b)
    (layouts :
      catalog.table.sameExpansion (catalog.table.underlying a) (catalog.table.underlying b) = false)
    (classified : pair.Classified catalog.table)
    (form : RecordPointerForm a b pair.source.type pair.target.type) :
    rule.conversion? catalog.provider (.ofPairs records) pair = none := by
  have among :=
    classified.source ▸ classified.target ▸
      Declarations.amongRecords_of_recordPointerForm record record' form
  rw [Option.eq_none_iff_forall_ne_some]
  intro conversion given
  obtain ⟨⟨strategy, text⟩, answer, shape⟩ := Option.map_eq_some_iff.1 given
  rcases rule_cases_of_amongRecords standard among answer with rfl | rfl | rfl | rfl | rfl
  · have alike := (sameType_eq_some_iff.1 answer).1
    cases (alike_eq_false_of_form record record' different apart form).symm.trans alike
  · cases
      (pointer_eq_none_of_form record record' different apart classified form rfl rfl).symm.trans
        answer
  · obtain ⟨pairs, source, target, offered, contained, from_record, to_record, _⟩ :=
      exists_call_of_nestedStruct answer
    cases offered
    obtain ⟨known, member, keys⟩ := (PairSet.contains_ofPairs _ _ _).1 contained
    cases keys
    rw [among.source_refers] at from_record
    rw [among.target_refers] at to_record
    exact unpaired known member
      ⟨Declarations.resolve_of_recordRef? record from_record,
        Declarations.resolve_of_recordRef? record' to_record⟩
  · cases (sliceConvert_eq_none_of_form record record' different apart layouts form rfl
      rfl).symm.trans answer
  · have assigned := (assignable_eq_some_iff.1 answer).1
    have unassignable :=
      Declarations.assignable_recordPointerForm record record' different form
    cases unassignable.symm.trans assigned

end Catalog

end Forms
end Rule

namespace Resolver

/-- A pair is skipped exactly if no standard rule converts it. -/
theorem isSkip_resolveField_iff
    {resolver : Resolver} (rules : resolver.rules = Rule.standard)
    {provider : Provider} {pair : FieldPair} :
    (resolver.resolveField provider pair).value.isSkip = true ↔
      ∀ rule ∈ Rule.standard, rule.conversion? provider resolver.pairs pair = none := by
  rw [FieldConversion.isSkip, beq_iff_eq]
  constructor
  · intro skipped
    cases decided : firstRule? provider resolver.pairs pair resolver.rules with
    | none => exact rules ▸ firstRule?_eq_none_iff.1 decided
    | some answer =>
        obtain ⟨rule, conversion⟩ := answer
        obtain ⟨before, after, shape, given, _⟩ := firstRule?_eq_some_iff.1 decided
        obtain ⟨⟨strategy, text⟩, converted, same⟩ := Option.map_eq_some_iff.1 given
        have standard : rule ∈ Rule.standard := by simp [← rules, shape]
        have value : (resolver.resolveField provider pair).value.strategy = strategy := by
          rw [resolveField, decided, ← same]
        exact absurd (value.symm.trans skipped) (Rule.gives_of_convert? standard converted).ne_skip
  · intro declined
    have undecided : firstRule? provider resolver.pairs pair resolver.rules = none :=
      firstRule?_eq_none_iff.2 (rules ▸ declined)
    simp [resolveField, undecided, Logged.quiet, FieldConversion.skipped]

/-- Between two different records without a converter, everything in which a pointer to one of them
occurs is skipped, single or in slices, exactly if the records are spelled apart and have different
layouts. -/
theorem recordPointers_skipped_iff
    (catalog : Catalog) (records : List RecordPair) {a b : QualifiedName} {body body' : List Field}
    (record : catalog.table.recordBody? (.named a) = some body)
    (record' : catalog.table.recordBody? (.named b) = some body')
    (different : catalog.provider.identical (.named a) (.named b) = false)
    (unpaired : ∀ known ∈ records,
      ¬ (catalog.table.resolve (.named a) = .named known.source.key ∧
        catalog.table.resolve (.named b) = .named known.target.key)) :
    (∀ fields : List FieldPair,
        (∀ pair ∈ fields, pair.Classified catalog.table ∧
          RecordPointerForm (.named a) (.named b) pair.source.type pair.target.type) →
        ∀ conversion ∈ (standard.resolve catalog.provider fields records).1.value,
          conversion.isSkip = true) ↔
      SpelledApart (.named a) (.named b) ∧
        catalog.table.sameExpansion (catalog.table.underlying (.named a))
          (catalog.table.underlying (.named b)) = false := by
  constructor
  · intro skipped
    have declined {source target : HostType}
        (form : RecordPointerForm (.named a) (.named b) source target) :
        ∀ rule ∈ Rule.standard,
          rule.conversion? catalog.provider (.ofPairs records)
            (catalog.provider.pairOf "" source target) = none := by
      have alone := skipped [catalog.provider.pairOf "" source target]
      simp only [resolve_value, List.map_cons, List.map_nil, List.mem_singleton, forall_eq] at alone
      exact (isSkip_resolveField_iff rfl).1 (alone ⟨catalog.provider.classified_pairOf _ _ _, form⟩)
    constructor
    · intro source target form same
      have passed := declined (.single form) Rule.sameType (by simp [Rule.standard])
      simp [Rule.conversion?, Rule.sameType, Provider.alike, Provider.pairOf, Provider.fieldOf,
        same] at passed
    · have passed := declined (.slices .pointers) Rule.sliceConvert (by simp [Rule.standard])
      rw [← Bool.not_eq_true]
      intro one_layout
      have convertible :
          catalog.provider.convertible (.pointer (.named a)) (.pointer (.named b)) = true :=
        (Declarations.convertible_pointers different).trans one_layout
      obtain ⟨strategy, text, given⟩ :
          ∃ strategy text,
            Rule.sliceConvert.convert? ⟨catalog.provider, none⟩
              (catalog.provider.pairOf "" (.slice (.pointer (.named a)))
                (.slice (.pointer (.named b)))) = some (strategy, text) :=
        Rule.exists_sliceConvert Provider.sliceElement?_slice Provider.sliceElement?_slice
          ⟨rfl, rfl⟩ ⟨rfl, rfl⟩ convertible
      cases (Option.map_eq_none_iff.1 passed).symm.trans given
  · rintro ⟨apart, layouts⟩ fields formed conversion member
    rw [resolve_value] at member
    obtain ⟨pair, listed, rfl⟩ := List.mem_map.1 member
    obtain ⟨classified, form⟩ := formed pair listed
    apply (isSkip_resolveField_iff rfl).2
    intro rule standard
    exact Rule.conversion?_eq_none_of_form record record' different standard unpaired apart layouts
      classified form

/-- Two records with one member each, of a given type in the second one. -/
def sheets (type : HostType) : Catalog :=
  (Catalog.builtin.extend ⟨"m", "m", none⟩
    (Keyed.ofList
      [("A", ⟨⟨"m", "A"⟩, .defined (.record [⟨"X", .primitive .int, false, true⟩]), []⟩)])).extend
    ⟨"d", "d", none⟩
    (Keyed.ofList
      [("B", ⟨⟨"d", "B"⟩, .defined (.record [⟨"X", type, false, true⟩]), []⟩)])

/-- Pointers to a record of a number are skipped where the other record holds a text. -/
theorem recordPointers_skipped_sheets :
    (sheets (.primitive .string)).provider.identical (.named ⟨"m", "A"⟩) (.named ⟨"d", "B"⟩) =
      false ∧
    ∀ fields : List FieldPair,
      (∀ pair ∈ fields, pair.Classified (sheets (.primitive .string)).table ∧
        RecordPointerForm (.named ⟨"m", "A"⟩) (.named ⟨"d", "B"⟩) pair.source.type
          pair.target.type) →
      ∀ conversion ∈
          (standard.resolve (sheets (.primitive .string)).provider fields []).1.value,
        conversion.isSkip = true := by
  have different :
      (sheets (.primitive .string)).provider.identical (.named ⟨"m", "A"⟩) (.named ⟨"d", "B"⟩) =
        false := rfl
  have apart : SpelledApart (.named ⟨"m", "A"⟩) (.named ⟨"d", "B"⟩) := by
    intro source target form
    cases form <;> decide
  exact ⟨different,
    (recordPointers_skipped_iff (sheets (.primitive .string)) [] rfl rfl different (by simp)).2
      ⟨apart, rfl⟩⟩

/-- Where both records hold a number, single pointers are skipped as well, but slices of pointers
are cast element by element. -/
theorem recordPointers_converted_one_layout :
    (sheets (.primitive .int)).provider.identical (.named ⟨"m", "A"⟩) (.named ⟨"d", "B"⟩) = false ∧
    (standard.resolve (sheets (.primitive .int)).provider
        [(sheets (.primitive .int)).provider.pairOf "m" (.pointer (.named ⟨"m", "A"⟩))
            (.pointer (.named ⟨"d", "B"⟩)),
          (sheets (.primitive .int)).provider.pairOf "m" (.slice (.pointer (.named ⟨"m", "A"⟩)))
            (.slice (.pointer (.named ⟨"d", "B"⟩)))] []).1.value.map
        (fun conversion => (conversion.strategy, conversion.expression)) =
      [(.skip, ""),
        (.sliceElementConvert,
          "if src.F != nil \x7b\ndst.F = make([]*d.B, len(src.F))\nfor i := range src.F \x7b\n" ++
            "dst.F[i] = *d.B(src.F[i])\n\x7d\n\x7d")] := by
  constructor
  · rfl
  · rfl

end Resolver
end RecordConversion
