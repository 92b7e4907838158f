import RecordConversion.Proofs.Declarations.Compatibility

/-!
# Relations between types, turned round

Identity does not depend on the order of the two types.  Assignment does only where the target is an
interface, and conversion moreover only from integers to text: an integer converts to the text of a
character, and no text converts to an integer.

* `Declarations.convertible_back`: every other conversion has one back.
-/

namespace RecordConversion
namespace Declarations

variable {table : Declarations} {source target type : HostType}

theorem sameExpansion_comm
    (a b : HostType) :
    table.sameExpansion a b = table.sameExpansion b a := by
  rw [Bool.eq_iff_iff, sameExpansion_iff, sameExpansion_iff]
  simp only [and_comm]

theorem identical_comm
    (a b : HostType) :
    table.identical a b = table.identical b a := by
  rw [Bool.eq_iff_iff, identical_iff, identical_iff, eq_comm, sameExpansion_comm]

/-- What may be assigned to a type that is no interface may be assigned from it. -/
theorem assignable_back
    (closed : table.underlying target ≠ .interface)
    (assigned : table.assignable source target = true) :
    table.assignable target source = true := by
  rw [assignable_iff] at assigned ⊢
  rcases assigned with same | open_ | ⟨unnamed, structures⟩
  · exact .inl (by rw [identical_comm, same])
  · exact absurd open_ closed
  · exact .inr (.inr ⟨by rw [Bool.and_comm, unnamed], by rw [sameExpansion_comm, structures]⟩)

/-! ## Underlying types stand for themselves -/

theorem definitionOf?_of_underlyingWithin
    (steps : Nat) {body : HostType}
    (found : table.underlyingWithin steps type = some body) :
    table.definitionOf? body = none := by
  induction steps generalizing type with
  | zero => cases found
  | succ steps ih =>
      cases step : table.definitionOf? type with
      | none =>
          simp only [underlyingWithin, step, Option.some.injEq] at found
          exact found ▸ step
      | some next =>
          simp only [underlyingWithin, step] at found
          exact ih found

theorem aliasTarget?_of_definitionOf?
    (undeclared : table.definitionOf? type = none) :
    table.aliasTarget? type = none := by
  cases type with
  | named ref =>
      rw [definitionOf?, Option.map_eq_none_iff] at undeclared
      simp [aliasTarget?, undeclared]
  | _ => rfl

/-- An underlying type is no declared name. -/
theorem definitionOf?_underlying
    (type : HostType) :
    table.definitionOf? (table.underlying type) = none := by
  cases found : table.underlyingWithin expansionLimit (table.resolve type) with
  | none => simp [underlying, found, definitionOf?]
  | some body =>
      have shown : table.underlying type = body := by simp [underlying, found]
      rw [shown]
      exact definitionOf?_of_underlyingWithin _ found

/-- An underlying type is no alias. -/
theorem resolve_underlying
    (type : HostType) :
    table.resolve (table.underlying type) = table.underlying type :=
  resolve_of_no_alias (aliasTarget?_of_definitionOf? (definitionOf?_underlying type))

theorem underlying_of_definitionOf?
    (undeclared : table.definitionOf? type = none) :
    table.underlying type = type := by
  have resolved := resolve_of_no_alias (aliasTarget?_of_definitionOf? undeclared)
  simp [underlying, resolved, expansionLimit, underlyingWithin, undeclared]

/-- An underlying type is its own underlying type. -/
theorem underlying_underlying
    (type : HostType) :
    table.underlying (table.underlying type) = table.underlying type :=
  underlying_of_definitionOf? (definitionOf?_underlying type)

theorem underlying_eq_of_expand?
    {kind : Primitive}
    (found : table.expand? (table.underlying type) = some (.primitive kind)) :
    table.underlying type = .primitive kind := by
  have basic : (table.resolve (table.underlying type)).kind = .basic :=
    (kind_of_expand? found).symm
  have plain := (expand?_of_plain (.inl basic)).symm.trans found
  rw [resolve_underlying] at plain
  exact Option.some.inj plain

/-! ## Conversion -/

/-- The first type is that of an integer and the second that of a text, under whatever names. -/
def IntegerToText
    (table : Declarations) (source target : HostType) : Prop :=
  ∃ kind : Primitive, kind.isInteger = true ∧
    table.underlying source = .primitive kind ∧ table.underlying target = .primitive .string

theorem convertible_iff :
    table.convertible source target = true ↔
      table.assignable source target = true ∨
        table.sameExpansion (table.underlying source) (table.underlying target) = true ∨
        (∃ a b, table.pointerTargets? source target = some (a, b) ∧
          table.sameExpansion (table.underlying a) (table.underlying b) = true) ∨
        table.pointerTargets? source target = none ∧
          ∃ a b, table.expand? (table.underlying source) = some a ∧
            table.expand? (table.underlying target) = some b ∧
              table.convertibleShapes a b = true := by
  cases assigned : table.assignable source target with
  | true => simp [convertible, assigned]
  | false =>
      cases structures :
          table.sameExpansion (table.underlying source) (table.underlying target) with
      | true => simp [convertible, assigned, structures]
      | false =>
          cases pointers : table.pointerTargets? source target with
          | some targets =>
              obtain ⟨a, b⟩ := targets
              simp [convertible, assigned, structures, pointers, and_assoc]
          | none =>
              cases from_source : table.expand? (table.underlying source) with
              | none => simp [convertible, assigned, structures, pointers, from_source]
              | some a =>
                  cases from_target : table.expand? (table.underlying target) <;>
                    simp [convertible, assigned, structures, pointers, from_source, from_target]

theorem pointerTargets?_swap
    (a b : HostType) :
    table.pointerTargets? b a = (table.pointerTargets? a b).map Prod.swap := by
  rw [pointerTargets?, pointerTargets?]
  cases table.resolve a <;> cases table.resolve b <;> rfl

/-- Conversions between underlying types can be turned round, except from integers to text. -/
theorem convertibleShapes_back
    {a b : HostType}
    (converts : table.convertibleShapes a b = true) :
    table.convertibleShapes b a = true ∨
      ∃ kind : Primitive, kind.isInteger = true ∧ a = .primitive kind ∧ b = .primitive .string := by
  unfold convertibleShapes at converts
  split at converts
  · next kind kind' =>
      simp only [Bool.or_eq_true, Bool.and_eq_true, beq_iff_eq] at converts
      rcases converts with (⟨integer, rfl⟩ | ⟨numeric, numeric'⟩) | ⟨complex, complex'⟩
      · exact .inr ⟨kind, integer, rfl, rfl⟩
      · exact .inl (by simp [convertibleShapes, numeric, numeric'])
      · exact .inl (by simp [convertibleShapes, complex, complex'])
  · exact .inl (by simpa [convertibleShapes] using converts)
  · exact .inl (by simpa [convertibleShapes] using converts)
  · cases converts

/-- To a type that is no interface every conversion has one back, except from integers to text. -/
theorem convertible_back
    (closed : table.underlying target ≠ .interface)
    (converts : table.convertible source target = true) :
    table.convertible target source = true ∨ table.IntegerToText source target := by
  rw [convertible_iff] at converts ⊢
  rcases converts with assigned | structures | ⟨a, b, pointers, structures⟩ |
    ⟨no_pointers, a, b, from_source, from_target, shapes⟩
  · exact .inl (.inl (assignable_back closed assigned))
  · exact .inl (.inr (.inl (by rw [sameExpansion_comm, structures])))
  · refine .inl (.inr (.inr (.inl ⟨b, a, ?_, by rw [sameExpansion_comm, structures]⟩)))
    rw [pointerTargets?_swap, pointers]
    rfl
  · rcases convertibleShapes_back shapes with back | ⟨kind, integer, rfl, rfl⟩
    · refine .inl (.inr (.inr (.inr ⟨?_, b, a, from_target, from_source, back⟩)))
      rw [pointerTargets?_swap, no_pointers]
      rfl
    · exact .inr ⟨kind, integer, underlying_eq_of_expand? from_source,
        underlying_eq_of_expand? from_target⟩

end Declarations
end RecordConversion
