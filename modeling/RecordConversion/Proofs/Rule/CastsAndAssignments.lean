import RecordConversion.Catalog.Validation
import RecordConversion.Proofs.Catalog.WrittenTypes
import RecordConversion.Proofs.Declarations.Symmetry
import RecordConversion.Proofs.Reading
import RecordConversion.Proofs.Rule.Decisions

/-!
# Casts and plain assignments

The last rule casts between basic types and records in any mixture that converts.  When it is asked,
the rules before it have passed.  A basic type and a record never convert, and two basic types have
been cast before, so only records are left: two different ones of one layout, without a converter.

A plain assignment is between types that may be assigned, or that are spelled alike.  Types that are
written in namespaces with ordinary paths and spelled alike are one type.  In other namespaces they
need not be: a name in a namespace `*m` is spelled like a pointer to that name in `m`.

* `Declarations.convertible_values_cases`: which values convert without being assigned.
* `Resolver.casts_and_assignments`: the casts and plain assignments of the standard rules.
-/

namespace RecordConversion

/-! ## Conversions of values -/

namespace Shape

variable {shape : Shape} {ref : QualifiedName}

theorem kind_ne_other_of_value
    (value : shape.kind = .basic ∨ shape.kind = .record) :
    shape.kind ≠ .other := by
  rcases value with kind | kind
  · rw [kind]
    nofun
  · rw [kind]
    nofun

theorem isBasic_of_kind
    (basic : shape.kind = .basic) :
    shape.isBasic = true := by
  cases shape <;> first | rfl | cases basic

theorem recordOrPointer?_of_recordRef?
    (named : shape.recordRef? = some ref) :
    shape.recordOrPointer? = some (ref, false) := by
  cases shape with
  | record home name display => exact Option.map_eq_some_iff.2 ⟨ref, named, rfl⟩
  | _ => cases named

end Shape

namespace Declarations

variable {table : Declarations} {source target type expanded : HostType} {shape shape' : Shape}

/-- A type that resolves to its own text is no more than that text. -/
theorem underlying_of_too_long
    (too_long : table.resolve type = .other type.text) :
    table.underlying type = .other type.text ∧
      table.expand? (table.underlying type) = some (.other type.text) := by
  have underlying : table.underlying type = .other type.text :=
    underlying_of_resolve_not_named too_long (by simp)
  refine ⟨underlying, ?_⟩
  rw [underlying, expand?_of_plain (.inr (by rw [resolve_other]; rfl)), resolve_other]

section Values

variable (seen : table.IsShapeOf shape source)
variable (value : shape.kind = .basic ∨ shape.kind = .record)
include seen value

/-- A type with the shape of a value is no pointer. -/
theorem pointerTargets?_of_value
    (target : HostType) :
    table.pointerTargets? source target = none := by
  refine pointerTargets?_eq_none (.inl fun pointer => ?_)
  rcases kind_underlying_or_too_long seen (Shape.kind_ne_other_of_value value) with
    known | too_long
  · have unnamed : ∀ ref, table.resolve source ≠ .named ref := by
      rintro ref named
      rw [named] at pointer
      cases pointer
    rw [underlying_of_resolve_not_named rfl unnamed, pointer] at known
    simp [← known] at value
  · rw [too_long] at pointer
    cases pointer

/-- A value whose structure converts to another one is basic. -/
theorem kind_eq_basic_of_value
    (found : table.expand? (table.underlying source) = some expanded)
    (kind : expanded.kind = .basic ∨ expanded.kind = .slice) :
    shape.kind = .basic := by
  rw [kind_of_expand? found, resolve_underlying] at kind
  rcases kind_underlying_or_too_long seen (Shape.kind_ne_other_of_value value) with
    known | too_long
  · refine value.resolve_right fun record => ?_
    simp [known, record] at kind
  · simp [(underlying_of_too_long too_long).1, HostType.kind] at kind

variable (seen' : table.IsShapeOf shape' target)
variable (value' : shape'.kind = .basic ∨ shape'.kind = .record)
include seen' value'

/-- Values of one structure that are spelled apart have shapes of one kind, that of the structure.
A chain of aliases that is too long ends in a text, which has no structure but its own. -/
theorem kinds_of_sameExpansion_values
    (apart : source.text ≠ target.text)
    (structures : table.sameExpansion (table.underlying source) (table.underlying target) = true) :
    (table.underlying source).kind = shape.kind ∧ (table.underlying target).kind = shape'.kind ∧
      shape.kind = shape'.kind := by
  have told := Shape.kind_ne_other_of_value value
  have told' := Shape.kind_ne_other_of_value value'
  have kinds : (table.underlying source).kind = (table.underlying target).kind := by
    simpa only [resolve_underlying] using kind_eq_of_sameExpansion structures
  rcases kind_underlying_or_too_long seen told with known | too_long <;>
    rcases kind_underlying_or_too_long seen' told' with known' | too_long'
  · exact ⟨known, known', by rw [← known, kinds, known']⟩
  · rw [known, (underlying_of_too_long too_long').1] at kinds
    exact absurd kinds told
  · rw [known', (underlying_of_too_long too_long).1] at kinds
    exact absurd kinds.symm told'
  · obtain ⟨expanded, from_source, from_target⟩ := sameExpansion_iff.1 structures
    rw [(underlying_of_too_long too_long).2] at from_source
    rw [(underlying_of_too_long too_long').2, ← from_source, Option.some.injEq,
      HostType.other.injEq] at from_target
    exact absurd from_target.symm apart

/-- Values that are spelled apart convert without being assigned only if both are basic, or if both
are records of one layout. -/
theorem convertible_values_cases
    (apart : source.text ≠ target.text)
    (unassignable : table.assignable source target = false)
    (converts : table.convertible source target = true) :
    shape.kind = .basic ∧ shape'.kind = .basic ∨
      shape.kind = .record ∧ shape'.kind = .record ∧
        ∃ body body', table.recordBody? source = some body ∧
          table.recordBody? target = some body' ∧
            table.sameExpansion (.record body) (.record body') = true := by
  rcases convertible_iff.1 converts with assigned | structures | ⟨a, b, pointers, _⟩ |
    ⟨_, a, b, from_source, from_target, shapes⟩
  · rw [unassignable] at assigned
    cases assigned
  · obtain ⟨known, known', same⟩ :=
      kinds_of_sameExpansion_values seen value seen' value' apart structures
    rcases value with basic | record
    · exact .inl ⟨basic, same ▸ basic⟩
    · have record' : shape'.kind = .record := same ▸ record
      obtain ⟨body, found⟩ := exists_recordBody?_of_kind (known.trans record)
      obtain ⟨body', found'⟩ := exists_recordBody?_of_kind (known'.trans record')
      rw [underlying_of_recordBody? found, underlying_of_recordBody? found'] at structures
      exact .inr ⟨record, record', body, body', found, found', structures⟩
  · cases (pointerTargets?_of_value seen value target).symm.trans pointers
  · obtain ⟨from_kind, to_kind⟩ :
        (a.kind = .basic ∨ a.kind = .slice) ∧ (b.kind = .basic ∨ b.kind = .slice) := by
      rcases kinds_of_convertibleShapes shapes with ⟨basic, other⟩ | ⟨slice, basic⟩
      · exact ⟨.inl basic, other⟩
      · exact ⟨.inr slice, .inl basic⟩
    exact .inl ⟨kind_eq_basic_of_value seen value from_source from_kind,
      kind_eq_basic_of_value seen' value' from_target to_kind⟩

end Values

end Declarations

/-! ## What a conversion does -/

/-- A field whose type is a record under a name, which its shape shows. -/
structure RecordField.IsRecord
    (field : RecordField) (table : Declarations) (ref : QualifiedName) (body : List Field) :
    Prop where
  shape : field.shape.recordRef? = some ref
  meaning : table.resolve field.type = .named ref
  members : table.recordBody? field.type = some body

namespace FieldConversion

/-- The source is stored as it is. -/
def IsPlain (conversion : FieldConversion) : Prop :=
  conversion.strategy = .directAssign ∧
    conversion.expression =
      "dst." ++ conversion.target.accessPath ++ " = src." ++ conversion.source.accessPath

/-- The two fields are of different records that have one layout and no converter. -/
def BetweenRecords
    (conversion : FieldConversion) (table : Declarations) (records : List RecordPair) : Prop :=
  ∃ a b body body', conversion.source.IsRecord table a body ∧
    conversion.target.IsRecord table b body' ∧ a ≠ b ∧
      table.sameExpansion (.record body) (.record body') = true ∧
        ∀ known ∈ records, known.keys ≠ (a, b)

end FieldConversion

/-! ## The rules that cast -/

namespace Rule

variable {provider : Provider} {pairs : PairSet} {pair : FieldPair}

theorem assignable_declines_iff :
    assignable.strategy? provider pairs pair = none ↔
      provider.assignable pair.source.type pair.target.type = false := by
  simp [strategy?, conversion?, assignable]

theorem castsAsLastResort_iff
    {shape : Shape} :
    castsAsLastResort shape = true ↔ shape.kind = .basic ∨ shape.kind = .record := by
  simp [castsAsLastResort]

end Rule

namespace Provider

variable {provider : Provider} {records : List RecordPair} {pair : FieldPair}

/-- A cast is made by the rule for basic types, or as the last resort, when all other rules pass. -/
theorem strategy_eq_basicCast_cases
    (cast : provider.strategy records pair = .basicCast) :
    Rule.basicCast.strategy? provider (.ofPairs records) pair = some .basicCast ∨
      Rule.convertible.strategy? provider (.ofPairs records) pair = some .basicCast ∧
        ∀ other ∈ Rule.standard.dropLast,
          other.strategy? provider (.ofPairs records) pair = none := by
  have order : Rule.standard = Rule.standard.dropLast ++ [Rule.convertible] := rfl
  rw [strategy_eq_findSome?, order, List.findSome?_append] at cast
  cases earlier : Rule.standard.dropLast.findSome? fun rule =>
      rule.strategy? provider (.ofPairs records) pair with
  | some strategy =>
      rw [earlier] at cast
      obtain rfl : strategy = .basicCast := cast
      obtain ⟨rule, listed, given⟩ := List.exists_of_findSome?_eq_some earlier
      cases Rule.gives_of_strategy? (List.dropLast_subset _ listed) given with
      | basicCast => exact .inl given
      | convertible =>
          have named : Rule.convertible.name ∈ Rule.standard.dropLast.map Rule.name :=
            List.mem_map_of_mem listed
          exact absurd named (by decide)
  | none =>
      rw [earlier] at cast
      have passed := List.findSome?_eq_none_iff.1 earlier
      cases last : Rule.convertible.strategy? provider (.ofPairs records) pair with
      | none => simp [last] at cast
      | some strategy =>
          simp only [List.findSome?_cons, last, Option.none_or, Option.getD_some] at cast
          exact .inr ⟨congrArg some cast, passed⟩

end Provider

namespace Catalog

variable {config : CatalogConfig} {catalog : Catalog} {records : List RecordPair} {pair : FieldPair}
variable {home home' : String}

/-- What is cast as the last resort without being basic are two records. -/
theorem records_of_passed
    (built : ofConfig config = .ok catalog)
    (classified : pair.Classified catalog.table)
    (written : pair.source.type.WrittenIn home) (written' : pair.target.type.WrittenIn home')
    (record : pair.source.shape.kind = .record) (record' : pair.target.shape.kind = .record)
    {body body' : List Field}
    (found : catalog.table.recordBody? pair.source.type = some body)
    (found' : catalog.table.recordBody? pair.target.type = some body')
    (unlike : catalog.provider.alike pair.source.type pair.target.type = false)
    (passed : Rule.nestedStruct.strategy? catalog.provider (.ofPairs records) pair = none) :
    ∃ a b, pair.source.IsRecord catalog.table a body ∧
      pair.target.IsRecord catalog.table b body' ∧ a ≠ b ∧
        ∀ known ∈ records, known.keys ≠ (a, b) := by
  rw [classified.source] at record
  rw [classified.target] at record'
  obtain ⟨a, named⟩ := exists_recordRef?_of_written built written record
  obtain ⟨b, named'⟩ := exists_recordRef?_of_written built written' record'
  have meaning : catalog.table.resolve pair.source.type = .named a :=
    Declarations.resolve_of_recordRef? found named
  have meaning' : catalog.table.resolve pair.target.type = .named b :=
    Declarations.resolve_of_recordRef? found' named'
  rw [← classified.source] at named
  rw [← classified.target] at named'
  refine ⟨a, b, ⟨named, meaning, found⟩, ⟨named', meaning', found'⟩, ?_, ?_⟩
  · rintro rfl
    have identical : catalog.table.identical pair.source.type pair.target.type = true := by
      rw [Declarations.identical_iff_of_isNamed, meaning, meaning']
      · exact Declarations.isNamed_iff.2 (.inl ⟨a, meaning⟩)
      · exact Declarations.isNamed_iff.2 (.inl ⟨a, meaning'⟩)
    have alike : catalog.provider.alike pair.source.type pair.target.type = true :=
      Bool.or_eq_true_iff.2 (.inl identical)
    rw [unlike] at alike
    cases alike
  · intro known listed keys
    have delegable : pair.source.shape.Delegable pair.target.shape a b .nestedStructConvert :=
      .single (Shape.recordOrPointer?_of_recordRef? named)
        (Shape.recordOrPointer?_of_recordRef? named')
    have given : Rule.nestedStruct.strategy? catalog.provider (.ofPairs records) pair =
        some .nestedStructConvert :=
      Rule.nestedStruct_gives_iff.2 ⟨a, b, delegable, known, listed, keys⟩
    rw [passed] at given
    cases given

/-- A cast is between types that convert, and between basic types or records. -/
theorem casts_of_strategy
    (built : ofConfig config = .ok catalog)
    (classified : pair.Classified catalog.table)
    (written : pair.source.type.WrittenIn home) (written' : pair.target.type.WrittenIn home')
    (cast : catalog.provider.strategy records pair = .basicCast) :
    catalog.provider.convertible pair.source.type pair.target.type = true ∧
      (pair.source.shape.isBasic = true ∧ pair.target.shape.isBasic = true ∨
        ∃ a b body body', pair.source.IsRecord catalog.table a body ∧
          pair.target.IsRecord catalog.table b body' ∧ a ≠ b ∧
            catalog.table.sameExpansion (.record body) (.record body') = true ∧
              ∀ known ∈ records, known.keys ≠ (a, b)) := by
  rcases Provider.strategy_eq_basicCast_cases cast with early | ⟨last, passed⟩
  · obtain ⟨_, given⟩ := Rule.strategy?_eq_some_iff.1 early
    obtain ⟨⟨basic, basic', _, converts⟩, _⟩ := Rule.basicCast_eq_some_iff.1 given
    exact ⟨converts, .inl ⟨basic, basic'⟩⟩
  · obtain ⟨_, given⟩ := Rule.strategy?_eq_some_iff.1 last
    obtain ⟨⟨value, value', converts⟩, _⟩ := Rule.convertible_eq_some_iff.1 given
    have unlike := Rule.sameType_declines_iff.1 (passed Rule.sameType (by simp [Rule.standard]))
    have unassignable :=
      Rule.assignable_declines_iff.1 (passed Rule.assignable (by simp [Rule.standard]))
    have apart : pair.source.type.text ≠ pair.target.type.text := by
      simpa [Provider.alike] using (Bool.or_eq_false_iff.1 unlike).2
    refine ⟨converts, ?_⟩
    rcases Declarations.convertible_values_cases classified.isShapeOf_source
        (Rule.castsAsLastResort_iff.1 value) classified.isShapeOf_target
        (Rule.castsAsLastResort_iff.1 value') apart unassignable converts with
      ⟨basic, basic'⟩ | ⟨record, record', body, body', found, found', layout⟩
    · exact .inl ⟨Shape.isBasic_of_kind basic, Shape.isBasic_of_kind basic'⟩
    · obtain ⟨a, b, is_record, is_record', different, unpaired⟩ :=
        records_of_passed built classified written written' record record' found found' unlike
          (passed Rule.nestedStruct (by simp [Rule.standard]))
      exact .inr ⟨a, b, body, body', is_record, is_record', different, layout, unpaired⟩

end Catalog

/-! ## Plain assignments -/

/-- A plain assignment is made for types that are taken for each other or may be assigned. -/
theorem Rule.alike_or_assignable_of_plain
    {rule : Rule} (listed : rule ∈ Rule.standard)
    {provider : Provider} {pairs : PairSet} {pair : FieldPair} {conversion : FieldConversion}
    (given : rule.conversion? provider pairs pair = some conversion) (plain : conversion.IsPlain) :
    provider.alike pair.source.type pair.target.type = true ∨
      provider.assignable pair.source.type pair.target.type = true := by
  obtain ⟨⟨strategy, text⟩, answer, rfl⟩ := Option.map_eq_some_iff.1 given
  obtain ⟨rfl, statement⟩ : strategy = .directAssign ∧
      text = "dst." ++ pair.target.accessPath ++ " = src." ++ pair.source.accessPath := plain
  cases gives_of_convert? listed answer with
  | sameType => exact .inl (sameType_eq_some_iff.1 answer).1
  | assignable => exact .inr (assignable_eq_some_iff.1 answer).1
  | slice =>
      obtain ⟨_, _, _, _, _, _, ⟨_, _, loop⟩ | ⟨_, _, other, _⟩⟩ :=
        sliceConvert_eq_some_iff.1 answer
      · rw [← pair.assignment_eq, loop] at statement
        exact absurd statement (pair.sliceLoop_ne_assignment _ _ _ _ _)
      · cases other

namespace Resolver

variable {config : CatalogConfig} {catalog : Catalog} {pair : FieldPair}

/-- Types that may not be assigned get a plain assignment exactly if they are spelled alike. -/
theorem isPlain_iff_of_unassignable
    (unassignable : catalog.provider.assignable pair.source.type pair.target.type = false)
    (records : List RecordPair) :
    ((standard.rebuild records).resolveField catalog.provider pair).value.IsPlain ↔
      pair.source.type.text = pair.target.type.text := by
  constructor
  · intro plain
    obtain ⟨rule, listed, given⟩ := exists_rule_of_resolveField (by rw [plain.1]; nofun)
    rcases Rule.alike_or_assignable_of_plain listed given plain with alike | assigned
    · have different : catalog.table.identical pair.source.type pair.target.type = false :=
        Declarations.identical_eq_false_of_assignable unassignable
      rcases Bool.or_eq_true_iff.1 alike with identical | spelled
      · cases different.symm.trans identical
      · exact beq_iff_eq.1 spelled
    · cases unassignable.symm.trans assigned
  · intro same
    have alike : catalog.provider.alike pair.source.type pair.target.type = true :=
      Bool.or_eq_true_iff.2 (.inr (beq_iff_eq.2 same))
    have resolved := resolveField_of_alike alike (.ofPairs records)
    rw [pair.assignment_eq] at resolved
    have assigned : ((standard.rebuild records).resolveField catalog.provider pair).value = _ :=
      resolved
    rw [assigned]
    exact ⟨rfl, rfl⟩

/-- The casts and plain assignments of the standard rules, between fields whose types are written
and whose shapes are those of their types.  A cast is between types that convert, and these are
basic, or different records of one layout that have no converter.  Types that may not be assigned
are assigned exactly if they are spelled alike, which they are not if they are written in namespaces
with ordinary paths. -/
theorem casts_and_assignments
    (built : Catalog.ofConfig config = .ok catalog)
    {fields : List FieldPair} {records : List RecordPair}
    (classified : ∀ pair ∈ fields, pair.Classified catalog.table)
    (written : ∀ pair ∈ fields,
      ∃ home home', pair.source.type.WrittenIn home ∧ pair.target.type.WrittenIn home')
    {conversion : FieldConversion}
    (member : conversion ∈ (standard.resolve catalog.provider fields records).1.value) :
    (conversion.strategy = .basicCast →
      catalog.provider.convertible conversion.source.type conversion.target.type = true ∧
        (conversion.source.shape.isBasic = true ∧ conversion.target.shape.isBasic = true ∨
          conversion.BetweenRecords catalog.table records)) ∧
    (catalog.provider.assignable conversion.source.type conversion.target.type = false →
      (conversion.IsPlain ↔ conversion.source.type.text = conversion.target.type.text)) ∧
    ∀ home home', HostType.OrdinaryPath home → HostType.OrdinaryPath home' →
      conversion.source.type.WrittenIn home → conversion.target.type.WrittenIn home' →
        conversion.IsPlain →
          catalog.provider.assignable conversion.source.type conversion.target.type = true := by
  obtain ⟨listed, resolved⟩ := mem_resolve_iff.1 member
  obtain ⟨home, home', from_written, to_written⟩ := written _ listed
  have strategy : conversion.strategy = catalog.provider.strategy records conversion.pair :=
    congrArg FieldConversion.strategy resolved.symm
  have plain_iff
      (unassignable :
        catalog.provider.assignable conversion.source.type conversion.target.type = false) :
      conversion.IsPlain ↔ conversion.source.type.text = conversion.target.type.text := by
    have alone := @isPlain_iff_of_unassignable catalog conversion.pair unassignable records
    rwa [resolved] at alone
  refine ⟨fun cast => Catalog.casts_of_strategy built (classified _ listed) from_written to_written
    (strategy.symm.trans cast), plain_iff, ?_⟩
  rintro elsewhere elsewhere' ordinary ordinary' ⟨_, parsed⟩ ⟨_, parsed'⟩ plain
  rw [← Bool.not_eq_false]
  intro unassignable
  have same : conversion.source.type = conversion.target.type :=
    (HostType.readBack_of_ofExpression ordinary parsed).eq_of_text_eq
      (HostType.readBack_of_ofExpression ordinary' parsed')
      ((plain_iff unassignable).1 plain)
  have different := Declarations.identical_eq_false_of_assignable unassignable
  exact (Declarations.identical_eq_false_iff.1 different).1 same

/-- Records of one layout that have one name in two namespaces. -/
def namesakes (path path' : String) : CatalogConfig :=
  let space (path : String) : String × NamespaceConfig :=
    (path, ⟨none, none, Keyed.ofList
      [("A", ⟨some [⟨some "X", "int", false, none⟩], none, none, []⟩)]⟩)
  ⟨none, Keyed.ofList [space path, space path']⟩

/-- A record and a slice of it in `m`, to become the record of `d` and a slice of the same
record. -/
def namesakePairs (catalog : Catalog) : List FieldPair :=
  [catalog.provider.pairOf "m" (.named ⟨"m", "A"⟩) (.named ⟨"d", "A"⟩),
    catalog.provider.pairOf "m" (.slice (.named ⟨"m", "A"⟩)) (.slice (.named ⟨"m", "A"⟩))]

/-- The record is cast to its namesake, which has its layout, and the slice is assigned to its
like. -/
theorem casts_and_assignments_namesakes :
    ∃ catalog, Catalog.ofConfig (namesakes "m" "d") = .ok catalog ∧
      (standard.resolve catalog.provider (namesakePairs catalog) []).1.value.map
          (fun conversion => (conversion.strategy, conversion.expression)) =
        [(.basicCast, "dst.F = (d.A)(src.F)"), (.directAssign, "dst.F = src.F")] ∧
      ∀ conversion ∈ (standard.resolve catalog.provider (namesakePairs catalog) []).1.value,
        (conversion.strategy = .basicCast → conversion.BetweenRecords catalog.table []) ∧
          (conversion.IsPlain →
            catalog.provider.assignable conversion.source.type conversion.target.type = true) := by
  have in_m : HostType.OrdinaryPath "m" := ⟨⟨by decide, by decide⟩, by decide, by decide, by decide⟩
  have read : HostType.ofExpression "A" "m" = .ok (.named ⟨"m", "A"⟩) := by decide +kernel
  have read' : HostType.ofExpression "d.A" "m" = .ok (.named ⟨"d", "A"⟩) := by decide +kernel
  have reads : HostType.ofExpression "[]A" "m" = .ok (.slice (.named ⟨"m", "A"⟩)) := by
    decide +kernel
  have computed :
      (Catalog.ofConfig (namesakes "m" "d")).toOption.any (fun catalog =>
        (standard.resolve catalog.provider (namesakePairs catalog) []).1.value.map
            (fun conversion => (conversion.strategy, conversion.expression)) =
          [(.basicCast, "dst.F = (d.A)(src.F)"), (.directAssign, "dst.F = src.F")] ∧
        (namesakePairs catalog).all (fun pair => !pair.source.shape.isBasic)) = true := by
    decide +kernel
  obtain ⟨catalog, built, found⟩ := exists_ok_of_any computed
  obtain ⟨resolved, shapes⟩ := of_decide_eq_true found
  have unbasic : ∀ pair ∈ namesakePairs catalog, pair.source.shape.isBasic = false := by
    simpa using shapes
  have classified : ∀ pair ∈ namesakePairs catalog, pair.Classified catalog.table := by
    simpa [namesakePairs] using ⟨catalog.provider.classified_pairOf "m" _ _,
      catalog.provider.classified_pairOf "m" _ _⟩
  have written : ∀ pair ∈ namesakePairs catalog,
      pair.source.type.WrittenIn "m" ∧ pair.target.type.WrittenIn "m" := by
    simpa [namesakePairs] using ⟨⟨⟨_, read⟩, ⟨_, read'⟩⟩, ⟨_, reads⟩, ⟨_, reads⟩⟩
  refine ⟨catalog, built, resolved, fun conversion member => ?_⟩
  obtain ⟨casts, -, plain⟩ := casts_and_assignments built classified
    (fun pair listed => ⟨"m", "m", written pair listed⟩) member
  have listed := (mem_resolve_iff.1 member).1
  obtain ⟨from_m, to_m⟩ := written _ listed
  refine ⟨fun cast => (casts cast).2.resolve_left fun basic => ?_,
    plain "m" "m" in_m in_m from_m to_m⟩
  cases (unbasic _ listed).symm.trans basic.1

/-- Where the one namespace is called like a pointer into the other, the record of the one is
assigned to a pointer to its namesake, since both types are spelled `*m.A`. -/
theorem assigned_to_pointer_to_namesake :
    (namesakes "*m" "m").validate = [] ∧
    HostType.ofExpression "A" "*m" = .ok (.named ⟨"*m", "A"⟩) ∧
    HostType.ofExpression "*m.A" "*m" = .ok (.pointer (.named ⟨"m", "A"⟩)) ∧
    ∃ catalog, Catalog.ofConfig (namesakes "*m" "m") = .ok catalog ∧
      ∃ conversion ∈
          (standard.resolve catalog.provider
            [catalog.provider.pairOf "*m" (.named ⟨"*m", "A"⟩) (.pointer (.named ⟨"m", "A"⟩))]
            []).1.value,
        conversion.IsPlain ∧
          catalog.provider.assignable conversion.source.type conversion.target.type = false := by
  have computed :
      (Catalog.ofConfig (namesakes "*m" "m")).toOption.any (fun catalog =>
        (standard.resolve catalog.provider
            [catalog.provider.pairOf "*m" (.named ⟨"*m", "A"⟩) (.pointer (.named ⟨"m", "A"⟩))]
            []).1.value.any fun conversion =>
          conversion.strategy = .directAssign ∧
            conversion.expression =
              "dst." ++ conversion.target.accessPath ++ " = src." ++
                conversion.source.accessPath ∧
            catalog.provider.assignable conversion.source.type conversion.target.type = false) =
          true := by
    decide +kernel
  refine ⟨by decide +kernel, by decide +kernel, by decide +kernel, ?_⟩
  obtain ⟨catalog, built, found⟩ := exists_ok_of_any computed
  obtain ⟨conversion, member, answer⟩ := List.any_eq_true.1 found
  obtain ⟨strategy, statement, unassignable⟩ := of_decide_eq_true answer
  exact ⟨catalog, built, conversion, member, ⟨strategy, statement⟩, unassignable⟩

end Resolver

end RecordConversion
