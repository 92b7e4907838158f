import RecordConversion.Proofs.Declarations.Compatibility
import RecordConversion.Proofs.Declarations.Shapes

/-!
# The record that a type leads to

Through aliases, pointers and slices a type leads to at most one record, and that is the one which
its shape names.  So types that lead to different records are not one type.  If they have one
expansion nevertheless, then it holds the text of a type, for chains of aliases that are too long
become texts, and two types that lead to the two records are spelled alike.

* `Declarations.leadsTo_of_nestedRecord?`: a type leads to the record that its shape names.
* `Declarations.spelledAlike_of_identical`: identical types that lead to different records.
-/

namespace RecordConversion

/-- What a pointer or a slice leads to. -/
def HostType.inner? : HostType → Option HostType
  | .pointer target => some target
  | .slice element => some element
  | _ => none

namespace Declarations

/-- A type leads to a record through any aliases, pointers and slices. -/
inductive LeadsTo
    (table : Declarations) : HostType → QualifiedName → Prop
  | itself
      {type : HostType} {ref : QualifiedName}
      (stands : table.StandsFor type (.named ref))
      (record : (table.underlying (.named ref)).kind = .record) :
      LeadsTo table type ref
  | through
      {type meaning target : HostType} {ref : QualifiedName}
      (stands : table.StandsFor type meaning)
      (inside : (table.underlying meaning).inner? = some target)
      (further : LeadsTo table target ref) :
      LeadsTo table type ref

/-- Some type that leads to the one record and some type that leads to the other have one
spelling. -/
def SpelledAlike
    (table : Declarations) (a b : QualifiedName) : Prop :=
  ∃ x y, table.LeadsTo x a ∧ table.LeadsTo y b ∧ x.text = y.text

variable {table : Declarations} {type source target : HostType} {ref a b : QualifiedName}

/-- A type leads to the record that its shape names. -/
theorem leadsTo_of_nestedRecord?
    {shape : Shape}
    (seen : table.IsShapeOf shape type) (names : shape.nestedRecord? = some ref) :
    table.LeadsTo type ref := by
  induction shape generalizing type with
  | basic | map | interface | other => cases names
  | record home name display =>
      rcases layer_of_isShapeOf seen with nothing | ⟨meaning, stands, layer, own⟩
      · cases nothing
      · obtain rfl := own ref names
        exact .itself stands layer.kind_eq.symm
  | pointer element home display ih =>
      rcases layer_of_isShapeOf seen with nothing | ⟨meaning, stands, layer, _⟩
      · cases nothing
      · generalize shown : table.underlying meaning = underlying at layer
        cases layer with
        | pointer inner => exact .through stands (by rw [shown]; rfl) (ih inner names)
  | slice element home display ih =>
      rcases layer_of_isShapeOf seen with nothing | ⟨meaning, stands, layer, _⟩
      · cases nothing
      · generalize shown : table.underlying meaning = underlying at layer
        cases layer with
        | slice inner => exact .through stands (by rw [shown]; rfl) (ih inner names)

/-! ## One record -/

theorem inner?_eq_none
    (plain : type.kind = .record ∨ type.kind = .other) :
    type.inner? = none := by
  rcases plain with kind | kind <;> cases type <;> first | rfl | cases kind

/-- What a type with an inner type leads to, the inner type leads to. -/
theorem LeadsTo.inner
    (leads : table.LeadsTo type ref) (inside : (table.underlying type).inner? = some target) :
    table.LeadsTo target ref := by
  have seen {meaning : HostType} (stands : table.StandsFor type meaning) :
      (table.underlying meaning).inner? = some target := by
    rcases stands.underlying_eq_or with same | unstructured
    · rw [← same, inside]
    · cases (inner?_eq_none (.inr unstructured)).symm.trans inside
  cases leads with
  | itself stands record => cases (inner?_eq_none (.inl record)).symm.trans (seen stands)
  | through stands inside' further =>
      cases (seen stands).symm.trans inside'
      exact further

theorem LeadsTo.unique
    (leads : table.LeadsTo type a) (leads' : table.LeadsTo type b) :
    a = b := by
  induction leads with
  | itself stands record =>
      cases leads' with
      | itself stands' _ => exact HostType.named.inj (stands.unique stands')
      | through stands' inside _ =>
          rw [← stands.unique stands', inner?_eq_none (.inl record)] at inside
          cases inside
  | through stands inside _ ih =>
      cases leads' with
      | itself stands' record =>
          rw [stands.unique stands', inner?_eq_none (.inl record)] at inside
          cases inside
      | through stands' inside' further' =>
          rw [← stands.unique stands', inside] at inside'
          cases inside'
          exact ih further'

/-- Two types that stand for one meaning lead to one record. -/
theorem LeadsTo.unique_of_standsFor
    {meaning : HostType}
    (leads : table.LeadsTo source a) (leads' : table.LeadsTo target b)
    (stands : table.StandsFor source meaning) (stands' : table.StandsFor target meaning) :
    a = b := by
  have to_meaning {type : HostType} {ref : QualifiedName}
      (leads : table.LeadsTo type ref) (stands : table.StandsFor type meaning) :
      table.LeadsTo meaning ref := by
    have own : table.StandsFor meaning meaning := .itself stands.no_alias
    cases leads with
    | itself known record =>
        obtain rfl := stands.unique known
        exact .itself own record
    | through known inside further =>
        obtain rfl := stands.unique known
        exact .through own inside further
  exact (to_meaning leads stands).unique (to_meaning leads' stands')

/-! ## Expansions -/

/-- The expansion of a type that leads to a record is its text if its chain of aliases is too long,
or else a name that it stands for, or around the expansion of a type that leads to the record. -/
theorem expansion_cases
    {depth : Nat} {expanded : HostType}
    (leads : table.LeadsTo type ref)
    (found : table.expandWithin (depth + 1) type = some expanded) :
    expanded = .other type.text ∨
      (∃ name, expanded = .named name ∧ table.StandsFor type (.named name)) ∨
      ∃ target inner, expanded.inner? = some inner ∧ table.LeadsTo target ref ∧
        table.expandWithin depth target = some inner := by
  have stands_cases {meaning : HostType} (stands : table.StandsFor type meaning) :
      table.resolve type = meaning ∨ expanded = .other type.text := by
    rcases stands.resolve_eq_or with resolved | too_long
    · exact .inl resolved
    · simp only [expandWithin, too_long, Option.some.injEq] at found
      exact .inr found.symm
  cases leads with
  | itself stands _ =>
      rcases stands_cases stands with resolved | text
      · simp only [expandWithin, resolved, Option.some.injEq] at found
        exact .inr (.inl ⟨ref, found.symm, stands⟩)
      · exact .inl text
  | @through _ meaning target _ stands inside further =>
      rcases stands_cases stands with resolved | text
      · cases meaning with
        | named name =>
            simp only [expandWithin, resolved, Option.some.injEq] at found
            exact .inr (.inl ⟨name, found.symm, stands⟩)
        | pointer pointee =>
            rw [underlying_pointer] at inside
            cases inside
            simp only [expandWithin, resolved, Option.map_eq_some_iff] at found
            obtain ⟨inner, found, rfl⟩ := found
            exact .inr (.inr ⟨target, inner, rfl, further, found⟩)
        | slice element =>
            rw [underlying_slice] at inside
            cases inside
            simp only [expandWithin, resolved, Option.map_eq_some_iff] at found
            obtain ⟨inner, found, rfl⟩ := found
            exact .inr (.inr ⟨target, inner, rfl, further, found⟩)
        | _ =>
            rw [underlying_of_not_named (by simp)] at inside
            cases inside
      · exact .inl text

/-- Types with one expansion lead to one record, or some types that lead to the records are spelled
alike.  The induction is on the depth of one expansion; the other has the same outermost part, at
whatever depth. -/
theorem eq_or_spelledAlike_of_expandWithin
    {depth depth' : Nat} {expanded : HostType}
    (leads : table.LeadsTo source a) (leads' : table.LeadsTo target b)
    (from_source : table.expandWithin depth source = some expanded)
    (from_target : table.expandWithin depth' target = some expanded) :
    a = b ∨ table.SpelledAlike a b := by
  induction depth generalizing depth' source target expanded with
  | zero => cases from_source
  | succ depth ih =>
      cases depth' with
      | zero => cases from_target
      | succ depth' =>
          rcases expansion_cases leads from_source with
            rfl | ⟨name, rfl, stands⟩ | ⟨inner, part, shown, further, found⟩
          · rcases expansion_cases leads' from_target with text | ⟨_, other, _⟩ | ⟨_, _, other, _⟩
            · exact .inr ⟨source, target, leads, leads', HostType.other.inj text⟩
            · cases other
            · cases other
          · rcases expansion_cases leads' from_target with
              other | ⟨name', same, stands'⟩ | ⟨_, _, other, _⟩
            · cases other
            · cases same
              exact .inl (leads.unique_of_standsFor leads' stands stands')
            · cases other
          · rcases expansion_cases leads' from_target with
              rfl | ⟨_, rfl, _⟩ | ⟨inner', part', shown', further', found'⟩
            · cases shown
            · cases shown
            · cases shown.symm.trans shown'
              exact ih further further' found found'

/-- Identical types that lead to different records are spelled alike, or some types inside them
are. -/
theorem spelledAlike_of_identical
    (leads : table.LeadsTo source a) (leads' : table.LeadsTo target b) (different : a ≠ b)
    (identical : table.identical source target = true) :
    table.SpelledAlike a b := by
  rcases identical_iff.1 identical with rfl | same
  · exact absurd (leads.unique leads') different
  · obtain ⟨_, from_source, from_target⟩ := sameExpansion_iff.1 same
    exact (eq_or_spelledAlike_of_expandWithin leads leads' from_source from_target).resolve_left
      different

end Declarations
end RecordConversion
