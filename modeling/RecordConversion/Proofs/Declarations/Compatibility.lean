import RecordConversion.Declarations.Compatibility
import RecordConversion.Proofs.Declarations.Resolution

/-!
# Relations between types by their outermost parts

Two types expand alike only if they resolve to types of one kind, and pointers or slices expand
alike exactly if what they lead to does.  So a pointer is identical to no record, and from a pointer
to a record there is neither an assignment nor a conversion; between pointers to two records there
is a conversion exactly if the records have one layout.

* `assignable_iff_resolve_eq`: between a named type and a type that stands for a named type, both
  with structure, only identical types may be assigned.
* `convertible_pointers`: between pointers to different types there is a conversion exactly if these
  have one underlying type.
* `convertible_pointer_record`, `convertible_record_pointer`: there is none between a pointer and a
  record.
-/

namespace RecordConversion
namespace Declarations

variable {table : Declarations}

/-! ## Expanding alike -/

theorem sameExpansion_iff
    {a b : HostType} :
    table.sameExpansion a b = true ↔
      ∃ expanded, table.expand? a = some expanded ∧ table.expand? b = some expanded := by
  rw [sameExpansion]
  cases from_a : table.expand? a with
  | none => simp
  | some expanded =>
      cases from_b : table.expand? b with
      | none => simp
      | some other => simp [@eq_comm _ other]

theorem kind_eq_of_sameExpansion
    {a b : HostType}
    (same : table.sameExpansion a b = true) :
    (table.resolve a).kind = (table.resolve b).kind := by
  obtain ⟨expanded, from_a, from_b⟩ := sameExpansion_iff.1 same
  rw [← kind_of_expand? from_a, ← kind_of_expand? from_b]

theorem sameExpansion_eq_false_of_kind
    {a b : HostType}
    (differ : (table.resolve a).kind ≠ (table.resolve b).kind) :
    table.sameExpansion a b = false := by
  cases same : table.sameExpansion a b with
  | false => rfl
  | true => exact absurd (kind_eq_of_sameExpansion same) differ

theorem sameExpansion_pointer
    (a b : HostType) :
    table.sameExpansion (.pointer a) (.pointer b) = table.sameExpansion a b := by
  rw [Bool.eq_iff_iff, sameExpansion_iff, sameExpansion_iff, expand?_pointer, expand?_pointer]
  constructor
  · rintro ⟨_, from_a, from_b⟩
    obtain ⟨target, found, rfl⟩ := Option.map_eq_some_iff.1 from_a
    obtain ⟨other, found', same⟩ := Option.map_eq_some_iff.1 from_b
    exact ⟨target, found, HostType.pointer.inj same ▸ found'⟩
  · rintro ⟨target, found, found'⟩
    exact ⟨.pointer target, by rw [found]; rfl, by rw [found']; rfl⟩

theorem sameExpansion_slice
    (a b : HostType) :
    table.sameExpansion (.slice a) (.slice b) = table.sameExpansion a b := by
  rw [Bool.eq_iff_iff, sameExpansion_iff, sameExpansion_iff, expand?_slice, expand?_slice]
  constructor
  · rintro ⟨_, from_a, from_b⟩
    obtain ⟨element, found, rfl⟩ := Option.map_eq_some_iff.1 from_a
    obtain ⟨other, found', same⟩ := Option.map_eq_some_iff.1 from_b
    exact ⟨element, found, HostType.slice.inj same ▸ found'⟩
  · rintro ⟨element, found, found'⟩
    exact ⟨.slice element, by rw [found]; rfl, by rw [found']; rfl⟩

/-! ## Identity -/

theorem identical_iff
    {a b : HostType} :
    table.identical a b = true ↔ a = b ∨ table.sameExpansion a b = true := by
  simp [identical]

theorem identical_eq_false_iff
    {a b : HostType} :
    table.identical a b = false ↔ a ≠ b ∧ table.sameExpansion a b = false := by
  simp [identical]

theorem identical_eq_false_of_kind
    {a b : HostType}
    (differ : (table.resolve a).kind ≠ (table.resolve b).kind) :
    table.identical a b = false := by
  rw [identical_eq_false_iff]
  constructor
  · rintro rfl
    exact differ rfl
  · exact sameExpansion_eq_false_of_kind differ

theorem identical_pointer
    (a b : HostType) :
    table.identical (.pointer a) (.pointer b) = table.identical a b := by
  rw [Bool.eq_iff_iff, identical_iff, identical_iff, sameExpansion_pointer, HostType.pointer.injEq]

theorem identical_slice
    (a b : HostType) :
    table.identical (.slice a) (.slice b) = table.identical a b := by
  rw [Bool.eq_iff_iff, identical_iff, identical_iff, sameExpansion_slice, HostType.slice.injEq]

/-! ## Assignment -/

theorem assignable_iff
    {source target : HostType} :
    table.assignable source target = true ↔
      table.identical source target = true ∨ table.underlying target = .interface ∨
        (table.isNamed source && table.isNamed target) = false ∧
          table.sameExpansion (table.underlying source) (table.underlying target) = true := by
  rw [assignable]
  split
  · next same => simp [same]
  · next different =>
      split
      · next open_ => simp [beq_iff_eq.1 open_]
      · next closed =>
          have closed' : table.underlying target ≠ .interface := by simpa using closed
          split
          · next both => simp [different, closed', both]
          · next one => simp [different, closed', one]

theorem assignable_eq_false
    {source target : HostType}
    (different : table.identical source target = false)
    (closed : table.underlying target ≠ .interface)
    (unlike : table.sameExpansion (table.underlying source) (table.underlying target) = false) :
    table.assignable source target = false := by
  rw [← Bool.not_eq_true, assignable_iff]
  rintro (same | open_ | ⟨_, alike⟩)
  · rw [different] at same
    cases same
  · exact closed open_
  · rw [unlike] at alike
    cases alike

theorem identical_eq_false_of_assignable
    {source target : HostType}
    (unassignable : table.assignable source target = false) :
    table.identical source target = false := by
  rw [← Bool.not_eq_true] at unassignable ⊢
  intro same
  exact unassignable (assignable_iff.2 (.inl same))

/-- The structure of a value: a basic type or a record. -/
def HasValues
    (table : Declarations) (type : HostType) : Prop :=
  (table.underlying type).kind = .basic ∨ (table.underlying type).kind = .record

theorem HasValues.ne_interface
    {type : HostType} (values : table.HasValues type) :
    table.underlying type ≠ .interface := by
  intro open_
  rw [HasValues, open_] at values
  rcases values with basic | record
  · cases basic
  · cases record

theorem isNamed_iff
    {type : HostType} :
    table.isNamed type = true ↔
      (∃ ref, table.resolve type = .named ref) ∨ ∃ kind, table.resolve type = .primitive kind := by
  rw [isNamed]
  cases table.resolve type <;> simp

theorem isNamed_of_no_alias
    {ref : QualifiedName}
    (no_alias : table.aliasTarget? (.named ref) = none) :
    table.isNamed (.named ref) = true :=
  isNamed_iff.2 (.inl ⟨ref, resolve_of_no_alias no_alias⟩)

theorem expand?_of_isNamed
    {type : HostType} (named : table.isNamed type = true) :
    table.expand? type = some (table.resolve type) := by
  apply expand?_of_plain
  rcases isNamed_iff.1 named with ⟨ref, resolved⟩ | ⟨kind, resolved⟩
  · rw [resolved]
    exact .inr rfl
  · rw [resolved]
    exact .inl rfl

/-- Named types are identical exactly if they resolve alike. -/
theorem identical_iff_of_isNamed
    {a b : HostType}
    (named : table.isNamed a = true) (named' : table.isNamed b = true) :
    table.identical a b = true ↔ table.resolve a = table.resolve b := by
  rw [identical_iff, sameExpansion_iff, expand?_of_isNamed named, expand?_of_isNamed named']
  constructor
  · rintro (rfl | ⟨_, from_a, from_b⟩)
    · rfl
    · exact Option.some.inj (from_a.trans from_b.symm)
  · intro same
    exact .inr ⟨table.resolve b, by rw [same], rfl⟩

/-- Names that are no aliases stand for different types. -/
theorem identical_iff_of_no_alias
    {ref ref' : QualifiedName}
    (own : table.aliasTarget? (.named ref) = none)
    (own' : table.aliasTarget? (.named ref') = none) :
    table.identical (.named ref) (.named ref') = true ↔ ref = ref' := by
  rw [identical_iff_of_isNamed (isNamed_of_no_alias own) (isNamed_of_no_alias own'),
    resolve_of_no_alias own, resolve_of_no_alias own', HostType.named.injEq]

theorem isNamed_resolve
    (type : HostType) :
    table.isNamed (table.resolve type) = table.isNamed type := by
  rw [isNamed, isNamed, resolve_resolve]

/-- A named type with values is never assigned to or from a type whose chain of aliases is too long,
for that one is only a text. -/
theorem not_assignable_of_too_long
    {known type : HostType}
    (named : table.isNamed known = true) (values : table.HasValues known)
    (too_long : table.resolve type = .other type.text) :
    table.resolve known ≠ table.resolve type ∧
      table.assignable known type = false ∧ table.assignable type known = false := by
  have underlying : table.underlying type = .other type.text :=
    underlying_of_resolve_not_named too_long (by simp)
  have expanded : table.expand? type = some (.other type.text) := by
    have plain : (table.resolve type).kind = .other := by rw [too_long]; rfl
    rw [expand?_of_plain (.inr plain), too_long]
  have unlike : table.resolve known ≠ .other type.text := by
    intro same
    rcases isNamed_iff.1 named with ⟨ref, resolved⟩ | ⟨kind, resolved⟩
    · cases resolved.symm.trans same
    · cases resolved.symm.trans same
  have different : known ≠ type := by
    rintro rfl
    exact unlike too_long
  have structures :
      (table.resolve (table.underlying known)).kind ≠
        (table.resolve (table.underlying type)).kind := by
    rw [underlying, resolve_other]
    rcases values with basic | record
    · rw [resolve_of_structured (by rw [basic]; nofun), basic]
      nofun
    · rw [resolve_of_structured (by rw [record]; nofun), record]
      nofun
  refine ⟨by rw [too_long]; exact unlike, ?_, ?_⟩
  · apply assignable_eq_false
    · rw [identical_eq_false_iff, sameExpansion, expand?_of_isNamed named, expanded]
      exact ⟨different, beq_eq_false_iff_ne.2 unlike⟩
    · rw [underlying]
      nofun
    · exact sameExpansion_eq_false_of_kind structures
  · apply assignable_eq_false
    · rw [identical_eq_false_iff, sameExpansion, expand?_of_isNamed named, expanded]
      exact ⟨different.symm, beq_eq_false_iff_ne.2 unlike.symm⟩
    · exact values.ne_interface
    · exact sameExpansion_eq_false_of_kind structures.symm

/-- Only identical types may be assigned where both sides have values, one is a named type and the
other stands for one.  In particular a type declared over another one is assigned in neither
direction. -/
theorem assignable_iff_resolve_eq
    {known type meaning : HostType}
    (known_named : table.isNamed known = true) (known_values : table.HasValues known)
    (stands : table.StandsFor type meaning)
    (named : table.isNamed meaning = true) (values : table.HasValues meaning) :
    (table.assignable known type = true ↔ table.resolve known = table.resolve type) ∧
      (table.assignable type known = true ↔ table.resolve type = table.resolve known) := by
  rcases stands.resolve_eq_or with resolved | too_long
  · have type_named : table.isNamed type = true := by
      rw [← isNamed_resolve, resolved, named]
    have same : table.underlying type = table.underlying meaning := by
      apply underlying_eq_of_resolve resolved
      rcases values with basic | record
      · simp [basic]
      · simp [record]
    have type_closed : table.underlying type ≠ .interface := same ▸ values.ne_interface
    rw [assignable_iff, assignable_iff, identical_iff_of_isNamed known_named type_named,
      identical_iff_of_isNamed type_named known_named]
    simp [type_closed, known_values.ne_interface, known_named, type_named]
  · obtain ⟨unlike, not_to, not_from⟩ :=
      not_assignable_of_too_long known_named known_values too_long
    simp [not_to, not_from, unlike, unlike.symm]

/-! ## Pointers and records -/

theorem assignable_pointers
    {a b : HostType}
    (different : table.identical a b = false) :
    table.assignable (.pointer a) (.pointer b) = false := by
  apply assignable_eq_false
  · rw [identical_pointer, different]
  · simp
  · rw [underlying_pointer, underlying_pointer, sameExpansion_pointer]
    exact (identical_eq_false_iff.1 different).2

/-- Between pointers to different types there is a conversion exactly if these have one underlying
type. -/
theorem convertible_pointers
    {a b : HostType}
    (different : table.identical a b = false) :
    table.convertible (.pointer a) (.pointer b) =
      table.sameExpansion (table.underlying a) (table.underlying b) := by
  have unlike := (identical_eq_false_iff.1 different).2
  simp [convertible, assignable_pointers different, sameExpansion_pointer, unlike, pointerTargets?]

/-- Conversions that change the structure are between basic types, or between one and a slice. -/
theorem kinds_of_convertibleShapes
    {a b : HostType} (converts : table.convertibleShapes a b = true) :
    a.kind = .basic ∧ (b.kind = .basic ∨ b.kind = .slice) ∨ a.kind = .slice ∧ b.kind = .basic := by
  unfold convertibleShapes at converts
  split at converts
  · exact .inl ⟨rfl, .inl rfl⟩
  · exact .inl ⟨rfl, .inr rfl⟩
  · exact .inr ⟨rfl, rfl⟩
  · cases converts

theorem convertibleShapes_eq_false
    {a b : HostType}
    (composite : a.kind ≠ .basic) (composite' : b.kind ≠ .basic) :
    table.convertibleShapes a b = false := by
  rw [← Bool.not_eq_true]
  intro converts
  rcases kinds_of_convertibleShapes converts with ⟨basic, _⟩ | ⟨_, basic⟩
  · exact composite basic
  · exact composite' basic

/-- Between types of different structure, neither of them basic, there is no conversion. -/
theorem convertible_eq_false
    {source target : HostType}
    (unassignable : table.assignable source target = false)
    (structures : (table.resolve (table.underlying source)).kind ≠
      (table.resolve (table.underlying target)).kind)
    (composite : (table.resolve (table.underlying source)).kind ≠ .basic)
    (composite' : (table.resolve (table.underlying target)).kind ≠ .basic)
    (no_pointers : table.pointerTargets? source target = none) :
    table.convertible source target = false := by
  simp only [convertible, unassignable, sameExpansion_eq_false_of_kind structures, no_pointers,
    Bool.false_eq_true, if_false]
  split
  · next a b from_source from_target =>
      apply convertibleShapes_eq_false
      · rw [kind_of_expand? from_source]
        exact composite
      · rw [kind_of_expand? from_target]
        exact composite'
  · rfl

theorem pointerTargets?_eq_none
    {a b : HostType}
    (no_pointer : (table.resolve a).kind ≠ .pointer ∨ (table.resolve b).kind ≠ .pointer) :
    table.pointerTargets? a b = none := by
  unfold pointerTargets?
  split
  · next resolved resolved' =>
      rw [resolved, resolved'] at no_pointer
      exact absurd rfl (no_pointer.elim id id)
  · rfl

section Records

variable {a b : HostType} {body : List Field}

theorem assignable_pointer_record
    (record : table.recordBody? b = some body) :
    table.assignable (.pointer a) b = false := by
  apply assignable_eq_false
  · apply identical_eq_false_of_kind
    rw [resolve_pointer]
    exact (kind_resolve_ne_pointer record).symm
  · simp [underlying_of_recordBody? record]
  · apply sameExpansion_eq_false_of_kind
    simp [underlying_of_recordBody? record, HostType.kind]

theorem assignable_record_pointer
    (record : table.recordBody? a = some body) :
    table.assignable a (.pointer b) = false := by
  apply assignable_eq_false
  · apply identical_eq_false_of_kind
    rw [resolve_pointer]
    exact kind_resolve_ne_pointer record
  · simp
  · apply sameExpansion_eq_false_of_kind
    simp [underlying_of_recordBody? record, HostType.kind]

theorem convertible_pointer_record
    (record : table.recordBody? b = some body) :
    table.convertible (.pointer a) b = false := by
  apply convertible_eq_false (assignable_pointer_record record)
  · simp [underlying_of_recordBody? record, HostType.kind]
  · simp [HostType.kind]
  · simp [underlying_of_recordBody? record, HostType.kind]
  · exact pointerTargets?_eq_none (.inr (kind_resolve_ne_pointer record))

theorem convertible_record_pointer
    (record : table.recordBody? a = some body) :
    table.convertible a (.pointer b) = false := by
  apply convertible_eq_false (assignable_record_pointer record)
  · simp [underlying_of_recordBody? record, HostType.kind]
  · simp [underlying_of_recordBody? record, HostType.kind]
  · simp [HostType.kind]
  · exact pointerTargets?_eq_none (.inl (kind_resolve_ne_pointer record))

end Records

end Declarations
end RecordConversion
