import RecordConversion.Declarations.Basic
import RecordConversion.Shape

/-!
# What a type stands for

A chain of aliases leads from a type to its meaning, which is no alias: `Declarations.StandsFor`.
Resolution answers the meaning, or a text if the chain is too long, so of a meaning that is known
only the second case is left to fear (`StandsFor.resolve_eq_or`).

The underlying type and the expansion of a type start from what it resolves to, and an expansion
keeps the kind of that (`kind_of_expand?`).
-/

namespace RecordConversion

/-- The kind of a type by its outermost part; names have none of their own. -/
def HostType.kind : HostType → ShapeKind
  | .primitive _ => .basic
  | .pointer _ => .pointer
  | .slice _ => .slice
  | .map _ _ => .map
  | .interface => .interface
  | .record _ => .record
  | .named _ | .other _ => .other

namespace Declarations

/-- A chain of aliases leads from a type to another one that is no alias. -/
inductive StandsFor
    (table : Declarations) : HostType → HostType → Prop
  | itself
      {type : HostType}
      (no_alias : table.aliasTarget? type = none) :
      StandsFor table type type
  | through
      {type target meaning : HostType}
      (step : table.aliasTarget? type = some target)
      (further : StandsFor table target meaning) :
      StandsFor table type meaning

variable {table : Declarations}

/-! ## Meanings -/

theorem StandsFor.no_alias
    {type meaning : HostType}
    (stands : table.StandsFor type meaning) :
    table.aliasTarget? meaning = none := by
  induction stands with
  | itself no_alias => exact no_alias
  | through _ _ ih => exact ih

theorem StandsFor.unique
    {type meaning other : HostType}
    (stands : table.StandsFor type meaning)
    (stands' : table.StandsFor type other) :
    meaning = other := by
  induction stands with
  | itself no_alias =>
      cases stands' with
      | itself => rfl
      | through step _ => cases no_alias.symm.trans step
  | through step _ ih =>
      cases stands' with
      | itself no_alias => cases no_alias.symm.trans step
      | through step' further' =>
          have same := Option.some.inj (step.symm.trans step')
          exact ih (same ▸ further')

theorem standsFor_of_resolveWithin
    (steps : Nat) {type meaning : HostType}
    (found : table.resolveWithin steps type = some meaning) :
    table.StandsFor type meaning := by
  induction steps generalizing type with
  | zero => cases found
  | succ steps ih =>
      cases step : table.aliasTarget? type with
      | none =>
          simp only [resolveWithin, step, Option.some.injEq] at found
          exact found ▸ .itself step
      | some target =>
          simp only [resolveWithin, step] at found
          exact .through step (ih found)

/-- A type resolves to its meaning, or to a text if its chain of aliases is too long. -/
theorem StandsFor.resolve_eq_or
    {type meaning : HostType}
    (stands : table.StandsFor type meaning) :
    table.resolve type = meaning ∨ table.resolve type = .other type.text := by
  cases found : table.resolveWithin expansionLimit type with
  | none => simp [resolve, found]
  | some other =>
      have same := stands.unique (standsFor_of_resolveWithin _ found)
      simp [resolve, found, same]

theorem aliasTarget?_eq_none_of_not_named
    {type : HostType}
    (unnamed : ∀ ref, type ≠ .named ref) :
    table.aliasTarget? type = none := by
  cases type with
  | named ref => exact absurd rfl (unnamed ref)
  | _ => rfl

theorem resolve_of_no_alias
    {type : HostType}
    (no_alias : table.aliasTarget? type = none) :
    table.resolve type = type := by
  simp [resolve, expansionLimit, resolveWithin, no_alias]

theorem resolve_of_structured
    {type : HostType} (structured : type.kind ≠ .other) :
    table.resolve type = type := by
  apply resolve_of_no_alias
  apply aliasTarget?_eq_none_of_not_named
  rintro ref rfl
  exact structured rfl

/-- What a type resolves to is no alias. -/
theorem aliasTarget?_resolve
    (type : HostType) :
    table.aliasTarget? (table.resolve type) = none := by
  cases found : table.resolveWithin expansionLimit type with
  | none =>
      have text : table.resolve type = .other type.text := by simp [resolve, found]
      rw [text]
      rfl
  | some meaning =>
      have resolved : table.resolve type = meaning := by simp [resolve, found]
      rw [resolved]
      exact (standsFor_of_resolveWithin _ found).no_alias

@[simp]
theorem resolve_resolve
    (type : HostType) :
    table.resolve (table.resolve type) = table.resolve type :=
  resolve_of_no_alias (aliasTarget?_resolve type)

@[simp]
theorem resolve_primitive
    (kind : Primitive) :
    table.resolve (.primitive kind) = .primitive kind :=
  resolve_of_no_alias rfl

@[simp]
theorem resolve_pointer
    (target : HostType) :
    table.resolve (.pointer target) = .pointer target :=
  resolve_of_no_alias rfl

@[simp]
theorem resolve_slice
    (element : HostType) :
    table.resolve (.slice element) = .slice element :=
  resolve_of_no_alias rfl

@[simp]
theorem resolve_record
    (body : List Field) :
    table.resolve (.record body) = .record body :=
  resolve_of_no_alias rfl

@[simp]
theorem resolve_other
    (spelling : String) :
    table.resolve (.other spelling) = .other spelling :=
  resolve_of_no_alias rfl

/-! ## Underlying types -/

/-- A type that is no name is its own underlying type. -/
theorem underlying_of_resolve_not_named
    {type meaning : HostType}
    (resolved : table.resolve type = meaning)
    (unnamed : ∀ ref, meaning ≠ .named ref) :
    table.underlying type = meaning := by
  have no_definition : table.definitionOf? meaning = none := by
    cases meaning with
    | named ref => exact absurd rfl (unnamed ref)
    | _ => rfl
  simp [underlying, resolved, expansionLimit, underlyingWithin, no_definition]

theorem underlying_of_not_named
    {type : HostType}
    (unnamed : ∀ ref, type ≠ .named ref) :
    table.underlying type = type :=
  underlying_of_resolve_not_named
    (resolve_of_no_alias (aliasTarget?_eq_none_of_not_named unnamed)) unnamed

@[simp]
theorem underlying_primitive
    (kind : Primitive) :
    table.underlying (.primitive kind) = .primitive kind :=
  underlying_of_not_named (by simp)

@[simp]
theorem underlying_pointer
    (target : HostType) :
    table.underlying (.pointer target) = .pointer target :=
  underlying_of_not_named (by simp)

@[simp]
theorem underlying_slice
    (element : HostType) :
    table.underlying (.slice element) = .slice element :=
  underlying_of_not_named (by simp)

/-- A type has the underlying type of what it resolves to, unless neither has any structure. -/
theorem underlying_eq_or
    (type : HostType) :
    table.underlying type = table.underlying (table.resolve type) ∨
      (table.underlying type).kind = .other ∧
        (table.underlying (table.resolve type)).kind = .other := by
  cases found : table.underlyingWithin expansionLimit (table.resolve type) with
  | none => simp [underlying, found, HostType.kind]
  | some body => simp [underlying, found]

/-- A type has the structure, if any, of what it resolves to. -/
theorem underlying_eq_of_resolve
    {type meaning : HostType}
    (resolved : table.resolve type = meaning)
    (structured : (table.underlying meaning).kind ≠ .other) :
    table.underlying type = table.underlying meaning := by
  rcases table.underlying_eq_or type with same | ⟨_, unstructured⟩
  · rw [same, resolved]
  · rw [resolved] at unstructured
    exact absurd unstructured structured

theorem underlying_of_recordBody?
    {type : HostType} {body : List Field}
    (found : table.recordBody? type = some body) :
    table.underlying type = .record body := by
  rw [recordBody?] at found
  split at found
  · next shape =>
      cases found
      exact shape
  · cases found

/-- A type that is declared as a record has the members that are declared for it. -/
theorem recordBody?_of_lookup
    {ref : QualifiedName} {declaration : Declaration} {body : List Field}
    (found : table.lookup ref = some declaration)
    (defined : declaration.definition = .defined (.record body)) :
    table.recordBody? (.named ref) = some body := by
  obtain ⟨name, definition, methods⟩ := declaration
  obtain rfl : definition = .defined (.record body) := defined
  have no_alias : table.aliasTarget? (.named ref) = none := by simp [aliasTarget?, found]
  have definition : table.definitionOf? (.named ref) = some (.record body) := by
    simp [definitionOf?, found, Definition.type]
  have bottom : table.definitionOf? (.record body) = none := rfl
  simp [recordBody?, underlying, resolve_of_no_alias no_alias, expansionLimit, underlyingWithin,
    definition, bottom]

/-- A type with the structure of a record has its members. -/
theorem exists_recordBody?_of_kind
    {type : HostType}
    (record : (table.underlying type).kind = .record) :
    ∃ body, table.recordBody? type = some body := by
  cases shown : table.underlying type with
  | record body => exact ⟨body, by rw [recordBody?, shown]⟩
  | _ =>
      rw [shown] at record
      cases record

/-- A record type resolves to a name or to a record body, so to no pointer. -/
theorem kind_resolve_ne_pointer
    {type : HostType} {body : List Field}
    (found : table.recordBody? type = some body) :
    (table.resolve type).kind ≠ .pointer := by
  have record := underlying_of_recordBody? found
  by_cases named : ∃ ref, table.resolve type = .named ref
  · obtain ⟨ref, resolved⟩ := named
    rw [resolved]
    nofun
  · rw [underlying_of_resolve_not_named rfl fun ref resolved => named ⟨ref, resolved⟩] at record
    rw [record]
    nofun

/-! ## Expansions -/

/-- The expansion of a type has the kind of what the type resolves to. -/
theorem kind_of_expand?
    {type expanded : HostType}
    (found : table.expand? type = some expanded) :
    expanded.kind = (table.resolve type).kind := by
  rw [expand?, expansionDepth, expandWithin] at found
  split at found
  · next target resolved =>
      obtain ⟨_, _, rfl⟩ := Option.map_eq_some_iff.1 found
      rw [resolved]
      rfl
  · next element resolved =>
      obtain ⟨_, _, rfl⟩ := Option.map_eq_some_iff.1 found
      rw [resolved]
      rfl
  · next key value resolved =>
      split at found
      · cases found
      · obtain ⟨_, _, rfl⟩ := Option.map_eq_some_iff.1 found
        rw [resolved]
        rfl
  · next body resolved =>
      obtain ⟨_, _, rfl⟩ := Option.map_eq_some_iff.1 found
      rw [resolved]
      rfl
  · exact congrArg HostType.kind (Option.some.inj found).symm

/-- A type without parts is its own expansion once it is resolved. -/
theorem expand?_of_plain
    {type : HostType}
    (plain : (table.resolve type).kind = .basic ∨ (table.resolve type).kind = .other) :
    table.expand? type = some (table.resolve type) := by
  rw [expand?, expansionDepth, expandWithin]
  cases resolved : table.resolve type <;> simp_all [HostType.kind]

theorem expand?_pointer
    (target : HostType) :
    table.expand? (.pointer target) = (table.expand? target).map .pointer := by
  have depth : table.expansionDepth (.pointer target) = table.expansionDepth target + 1 := by
    simp only [expansionDepth, HostType.size]
    omega
  rw [expand?, depth, expandWithin]
  simp [expand?]

theorem expand?_slice
    (element : HostType) :
    table.expand? (.slice element) = (table.expand? element).map .slice := by
  have depth : table.expansionDepth (.slice element) = table.expansionDepth element + 1 := by
    simp only [expansionDepth, HostType.size]
    omega
  rw [expand?, depth, expandWithin]
  simp [expand?]

end Declarations
end RecordConversion
