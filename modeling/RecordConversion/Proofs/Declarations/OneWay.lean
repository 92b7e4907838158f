import RecordConversion.Proofs.Declarations.Congruence
import RecordConversion.Proofs.Declarations.ShapeAgreement

/-!
# Conversions without a way back

By symmetry only two kinds of conversions can lack one back: those into an interface, and those from
integers to text.  They do lack it.  On the way back the underlying type is an interface or a text,
so it has no parts, and from such a type a conversion leads to the same type, into an interface, or
between basic types and slices.

This holds whatever the chains of names behind the types are, for a chain that is given up leaves a
text behind, and never an interface or a basic type.

* `Declarations.convertible_oneWay_iff`: which conversions have none back.
-/

namespace RecordConversion
namespace Declarations

variable {table : Declarations} {a b source target : HostType}

/-! ## Underlying types without parts -/

/-- The underlying type is an interface or a basic type. -/
def BottomsPlain (table : Declarations) (type : HostType) : Prop :=
  (table.underlying type).kind = .basic ∨ (table.underlying type).kind = .interface

theorem BottomsPlain.kind_ne_other
    (plain : table.BottomsPlain a) :
    (table.underlying a).kind ≠ .other := by
  rcases plain with basic | open_
  · rw [basic]
    nofun
  · rw [open_]
    nofun

/-- A type that expands like one over a type without parts is over the same type. -/
theorem BottomsPlain.underlying_eq
    (plain : table.BottomsPlain a)
    (same : table.sameExpansion a b = true) :
    table.underlying b = table.underlying a := by
  rcases resolve_cases_of_sameExpansion same with ⟨ref, resolved, resolved'⟩ | ⟨shown, shown'⟩
  · rcases table.underlying_eq_or a with through | ⟨unstructured, -⟩
    · have structured := plain.kind_ne_other
      rw [through, resolved] at structured ⊢
      exact underlying_eq_of_resolve resolved' structured
    · exact absurd unstructured plain.kind_ne_other
  · rw [BottomsPlain, shown] at plain
    rw [shown, shown']
    rcases plain with basic | open_
    · exact (resolve_eq_of_sameExpansion same (.inl basic)).symm
    · have open_' := (kind_eq_of_sameExpansion same).symm.trans open_
      rw [HostType.kind_eq_interface_iff] at open_ open_'
      rw [open_, open_']

theorem BottomsPlain.underlying_eq_of_structures
    (plain : table.BottomsPlain a)
    (same : table.sameExpansion (table.underlying a) (table.underlying b) = true) :
    table.underlying b = table.underlying a := by
  have plain' : table.BottomsPlain (table.underlying a) := by
    rw [BottomsPlain, underlying_underlying]
    exact plain
  simpa only [underlying_underlying] using plain'.underlying_eq same

theorem BottomsPlain.pointerTargets?_eq_none
    (plain : table.BottomsPlain a) :
    table.pointerTargets? a b = none := by
  apply Declarations.pointerTargets?_eq_none (.inl fun pointer => ?_)
  obtain ⟨target, resolved⟩ := HostType.kind_eq_pointer_iff.1 pointer
  rw [BottomsPlain, underlying_of_resolve_not_named resolved (by simp)] at plain
  rcases plain with basic | open_
  · cases basic
  · cases open_

/-- From a type over one without parts a conversion leads to a type over the same one, into an
interface, or to another structure. -/
theorem BottomsPlain.convertible_cases
    (plain : table.BottomsPlain source)
    (converts : table.convertible source target = true) :
    table.underlying target = table.underlying source ∨ table.underlying target = .interface ∨
      ∃ shape shape', table.expand? (table.underlying source) = some shape ∧
        table.expand? (table.underlying target) = some shape' ∧
          table.convertibleShapes shape shape' = true := by
  rw [convertible_iff, assignable_iff, identical_iff] at converts
  rcases converts with ((rfl | same) | open_ | ⟨-, structures⟩) | structures |
    ⟨_, _, pointers, -⟩ | ⟨-, shapes⟩
  · exact .inl rfl
  · exact .inl (plain.underlying_eq same)
  · exact .inr (.inl open_)
  · exact .inl (plain.underlying_eq_of_structures structures)
  · exact .inl (plain.underlying_eq_of_structures structures)
  · cases plain.pointerTargets?_eq_none.symm.trans pointers
  · exact .inr (.inr shapes)

/-! ## No way back -/

/-- No conversion leads out of an interface. -/
theorem not_convertible_from_interface
    (open_ : table.underlying source = .interface)
    (closed : table.underlying target ≠ .interface) :
    table.convertible source target = false := by
  rw [← Bool.not_eq_true]
  intro converts
  have plain : table.BottomsPlain source := .inr (by rw [open_]; rfl)
  rcases plain.convertible_cases converts with same | open_' |
    ⟨shape, shape', found, -, shapes⟩
  · exact closed (same.trans open_)
  · exact closed open_'
  · have kind : shape.kind = .interface := by
      rw [kind_of_expand? found, open_]
      rfl
    rcases kinds_of_convertibleShapes shapes with ⟨basic, -⟩ | ⟨slice, -⟩
    · cases kind.symm.trans basic
    · cases kind.symm.trans slice

theorem expand?_primitive
    (kind : Primitive) :
    table.expand? (.primitive kind) = some (.primitive kind) := by
  rw [expand?_of_plain (.inl (by rw [resolve_primitive]; rfl)), resolve_primitive]

/-- Integers convert to text, and no text to an integer. -/
theorem IntegerToText.oneWay
    (integers : table.IntegerToText source target) :
    table.convertible source target = true ∧ table.convertible target source = false := by
  obtain ⟨kind, integer, from_source, from_target⟩ := integers
  have plain : table.BottomsPlain source := .inl (by rw [from_source]; rfl)
  have plain' : table.BottomsPlain target := .inl (by rw [from_target]; rfl)
  have shapes : table.convertibleShapes (.primitive kind) (.primitive .string) = true := by
    simp [convertibleShapes, integer]
  have no_shapes : table.convertibleShapes (.primitive .string) (.primitive kind) = false := by
    simp [convertibleShapes, Primitive.isInteger, Primitive.isNumeric, Primitive.isFloat,
      Primitive.isComplex]
  constructor
  · rw [convertible_iff, from_source, from_target]
    exact .inr (.inr (.inr ⟨plain.pointerTargets?_eq_none, _, _, expand?_primitive kind,
      expand?_primitive .string, shapes⟩))
  · rw [← Bool.not_eq_true]
    intro converts
    rcases plain'.convertible_cases converts with
      same | open_ | ⟨shape, shape', found, found', back⟩
    · rw [from_source, from_target, HostType.primitive.injEq] at same
      rw [same] at integer
      cases integer
    · rw [from_source] at open_
      cases open_
    · rw [from_target, expand?_primitive, Option.some.injEq] at found
      rw [from_source, expand?_primitive, Option.some.injEq] at found'
      rw [← found, ← found', no_shapes] at back
      cases back

/-- A conversion has none back exactly if it leads into an interface from a type that is none, or
from integers to text.  Where neither type is an interface, assignment goes both ways or neither. -/
theorem convertible_oneWay_iff
    (a b : HostType) :
    (table.convertible a b = true ∧ table.convertible b a = false ↔
      table.underlying b = .interface ∧ table.underlying a ≠ .interface ∨
        table.IntegerToText a b) ∧
    (table.underlying a ≠ .interface → table.underlying b ≠ .interface →
      table.assignable a b = table.assignable b a) := by
  refine ⟨⟨?_, ?_⟩, fun closed closed' => ?_⟩
  · rintro ⟨converts, no_way_back⟩
    by_cases open_ : table.underlying b = .interface
    · refine .inl ⟨open_, fun open_' => ?_⟩
      have assigned : table.assignable b a = true := assignable_iff.2 (.inr (.inl open_'))
      have back : table.convertible b a = true := convertible_iff.2 (.inl assigned)
      rw [no_way_back] at back
      cases back
    · rcases convertible_back open_ converts with back | integers
      · rw [no_way_back] at back
        cases back
      · exact .inr integers
  · rintro (⟨open_, closed⟩ | integers)
    · have assigned : table.assignable a b = true := assignable_iff.2 (.inr (.inl open_))
      exact ⟨convertible_iff.2 (.inl assigned), not_convertible_from_interface open_ closed⟩
    · exact integers.oneWay
  · rw [Bool.eq_iff_iff]
    exact ⟨assignable_back closed', assignable_back closed⟩

/-- Fares in cents, labels, a type for anything, and lists of fares under a name of their own. -/
def fares : Declarations where
  entries :=
    [(⟨"m", "Fare"⟩, ⟨⟨"m", "Fare"⟩, .defined (.primitive .int64), []⟩),
      (⟨"m", "Label"⟩, ⟨⟨"m", "Label"⟩, .defined (.primitive .string), []⟩),
      (⟨"m", "Any"⟩, ⟨⟨"m", "Any"⟩, .defined .interface, []⟩),
      (⟨"m", "Fares"⟩, ⟨⟨"m", "Fares"⟩, .defined (.slice (.named ⟨"m", "Fare"⟩)), []⟩)]

theorem convertible_oneWay_iff_fares :
    (fares.convertible (.named ⟨"m", "Fare"⟩) (.named ⟨"m", "Label"⟩) = true ∧
      fares.convertible (.named ⟨"m", "Label"⟩) (.named ⟨"m", "Fare"⟩) = false) ∧
    (fares.convertible (.named ⟨"m", "Fare"⟩) (.named ⟨"m", "Any"⟩) = true ∧
      fares.convertible (.named ⟨"m", "Any"⟩) (.named ⟨"m", "Fare"⟩) = false) ∧
    fares.assignable (.named ⟨"m", "Fares"⟩) (.slice (.named ⟨"m", "Fare"⟩)) = true ∧
      fares.assignable (.slice (.named ⟨"m", "Fare"⟩)) (.named ⟨"m", "Fares"⟩) = true := by
  have numbers : fares.underlying (.named ⟨"m", "Fare"⟩) = .primitive .int64 := by decide
  have texts : fares.underlying (.named ⟨"m", "Label"⟩) = .primitive .string := by decide
  have anything : fares.underlying (.named ⟨"m", "Any"⟩) = .interface := by decide
  have stored :
      fares.assignable (.named ⟨"m", "Fares"⟩) (.slice (.named ⟨"m", "Fare"⟩)) = true := by
    decide +kernel
  have both_ways :
      fares.assignable (.named ⟨"m", "Fares"⟩) (.slice (.named ⟨"m", "Fare"⟩)) =
        fares.assignable (.slice (.named ⟨"m", "Fare"⟩)) (.named ⟨"m", "Fares"⟩) :=
    (convertible_oneWay_iff _ _).2 (by decide) (by decide)
  exact ⟨(convertible_oneWay_iff _ _).1.2 (.inr ⟨.int64, rfl, numbers, texts⟩),
    (convertible_oneWay_iff _ _).1.2 (.inl ⟨anything, by rw [numbers]; nofun⟩), stored,
    both_ways ▸ stored⟩

end Declarations
end RecordConversion
