import RecordConversion.Catalog.Basic
import RecordConversion.Proofs.Rule.Conditions

/-!
# What casts of parts name

Slices are cast element by element, and a pointer to a cast value is made by way of a temporary.
Both casts are to a part of the target type.  The rules find that part through names, but take its
name from the spelling of the target type, without the lead that a slice or a pointer is written
with.  A type that is written out has its part named; a type under a name has no such lead, and
names itself.

* `Wrapping`: slices and pointers, with their leads.
* `Rule.part_casts`: what the casts of both rules name, and when this is the part.
-/

namespace RecordConversion

/-! ## Wrappings -/

/-- The ways in which a type is put around the part that a cast is to. -/
inductive Wrapping where
  | slice
  | pointer

namespace Wrapping

/-- The type around a part. -/
def around : Wrapping → HostType → HostType
  | slice, part => .slice part
  | pointer, part => .pointer part

/-- What is written before the part. -/
def lead : Wrapping → String
  | slice => "[]"
  | pointer => "*"

variable {wrapping : Wrapping} {provider : Provider} {inside : String} {type part : HostType}

theorem spell_around :
    provider.spell inside (wrapping.around part) = wrapping.lead ++ provider.spell inside part := by
  cases wrapping <;> simp [around, lead, Provider.spell, spellWith]

/-- A type whose structure is a wrapping is written out, or goes by a name. -/
theorem written_or_named
    {table : Declarations}
    (wrapped : table.underlying type = wrapping.around part) :
    type = wrapping.around part ∨ ∃ ref, type = .named ref := by
  cases type with
  | named ref => exact .inr ⟨ref, rfl⟩
  | _ => exact .inl (by rwa [Declarations.underlying_of_not_named (by nofun)] at wrapped)

end Wrapping

/-- A lead is taken off where it is, and nowhere else. -/
theorem withoutLead_eq_iff
    {lead text part : String} :
    withoutLead lead text = part ↔
      text = lead ++ part ∨ ¬ lead.toList <+: text.toList ∧ text = part := by
  simp only [withoutLead, List.isPrefixOf_iff_prefix]
  split
  · next begins =>
      obtain ⟨rest, shape⟩ := begins
      have whole : text = lead ++ String.ofList rest := by
        rw [← String.toList_inj, String.toList_append, String.toList_ofList, shape]
      have kept : (lead.toList ++ rest).drop lead.length = rest :=
        List.drop_left' String.length_toList
      subst whole
      simp [kept]
  · next other =>
      constructor
      · exact fun same => .inr ⟨other, same⟩
      · rintro (rfl | ⟨_, same⟩)
        · exact absurd (by simp) other
        · exact same

/-- What a cast to the part of a type names, if it takes the lead off the spelling of the type. -/
structure Wrapping.CastNames
    (wrapping : Wrapping) (provider : Provider) (inside : String) (type part : HostType)
    (applied : String) : Prop where
  /-- A type that is written out has its part named; all others go by a name. -/
  form : type = wrapping.around part ∧ applied = provider.spell inside part ∨
    ∃ ref, type = .named ref
  /-- The part is named exactly if the type is spelled like the wrapping or like the part. -/
  names_part_iff : applied = provider.spell inside part ↔
    provider.spell inside type = provider.spell inside (wrapping.around part) ∨
      ¬ wrapping.lead.toList <+: (provider.spell inside type).toList ∧
        provider.spell inside type = provider.spell inside part
  /-- A type that is spelled without the lead names itself. -/
  names_itself : ¬ wrapping.lead.toList <+: (provider.spell inside type).toList →
    applied = provider.spell inside type

theorem Wrapping.castNames_of_underlying
    {wrapping : Wrapping} {provider : Provider} {type part : HostType}
    (wrapped : provider.declarations.underlying type = wrapping.around part) (inside : String) :
    wrapping.CastNames provider inside type part
      (withoutLead wrapping.lead (provider.spell inside type)) := by
  have named_iff := @withoutLead_eq_iff wrapping.lead (provider.spell inside type)
  refine ⟨(written_or_named wrapped).imp_left fun written => ⟨written, ?_⟩, ?_, fun unled => ?_⟩
  · rw [named_iff, written, spell_around]
    exact .inl rfl
  · rw [named_iff, spell_around]
  · rw [named_iff]
    exact .inr ⟨unled, rfl⟩

/-! ## Statements that cast a part -/

namespace FieldPair

variable {pair : FieldPair} {applied other text : String}

/-- A statement casts the elements of the source one by one. -/
def CastsElements
    (pair : FieldPair) (applied text : String) : Prop :=
  text = sliceLoop pair.value pair.place pair.target.typeText
    (assignment (pair.place ++ "[i]") (applied ++ "(" ++ (pair.value ++ "[i]") ++ ")"))

/-- A statement casts the source to a temporary and takes its address. -/
def CastsTemporary
    (pair : FieldPair) (applied text : String) : Prop :=
  text = "\x7b\nv := " ++ applied ++ "(" ++ pair.value ++ ")\n" ++
    assignment pair.place "&v" ++ "\n\x7d"

theorem CastsElements.unique
    (casts : pair.CastsElements applied text) (casts' : pair.CastsElements other text) :
    applied = other := by
  have same := congrArg String.toList (casts.symm.trans casts')
  simpa [sliceLoop, guarded, assignment, String.toList_inj] using same

theorem CastsTemporary.unique
    (casts : pair.CastsTemporary applied text) (casts' : pair.CastsTemporary other text) :
    applied = other := by
  have same := congrArg String.toList (casts.symm.trans casts')
  simpa [String.toList_inj] using same

theorem not_castsTemporary_assignment
    (value : String) :
    ¬ pair.CastsTemporary applied (assignment pair.place value) := by
  intro casts
  have first := congrArg (fun text => text.toList.head?) casts
  simp [assignment, place] at first

end FieldPair

/-! ## The rules that cast a part -/

namespace Rule

variable {provider : Provider} {inside : String} {nested? : Option PairSet} {pair : FieldPair}

/-- The casts of elements and of temporaries, in a target type that is spelled for a namespace.  The
part is an element or a target that is found through names.  It is named if the type is written out;
a type under a name that is spelled without a lead is named itself in the place of its part. -/
theorem part_casts
    (spelled : pair.target.typeText = provider.spell inside pair.target.type) :
    (∀ text, sliceConvert.convert? ⟨provider, nested?⟩ pair = some (.sliceElementConvert, text) →
      ∃ element, provider.sliceElement? pair.target.type = some element ∧
        (∃ applied, pair.CastsElements applied text) ∧
        ∀ applied, pair.CastsElements applied text →
          Wrapping.slice.CastNames provider inside pair.target.type element applied) ∧
    ∀ text, pointer.convert? ⟨provider, nested?⟩ pair = some (.pointerWrap, text) →
      ∃ pointee, provider.pointerTarget? pair.target.type = some pointee ∧
        (text = assignment pair.place ("&" ++ pair.value) ∨
          ∃ applied, pair.CastsTemporary applied text) ∧
        ∀ applied, pair.CastsTemporary applied text →
          Wrapping.pointer.CastNames provider inside pair.target.type pointee applied := by
  constructor
  · intro text answer
    obtain ⟨_, element, _, to_slice, _, _, ⟨_, plain, _⟩ | ⟨_, _, _, statement⟩⟩ :=
      sliceConvert_eq_some_iff.1 answer
    · cases plain
    have casts : pair.CastsElements (withoutLead "[]" pair.target.typeText) text := statement
    refine ⟨element, to_slice, ⟨_, casts⟩, fun applied casts' => ?_⟩
    rw [casts'.unique casts, spelled]
    exact Wrapping.castNames_of_underlying (Provider.sliceElement?_eq_some_iff.1 to_slice) inside
  · intro text answer
    rcases pointer_eq_some_iff.1 answer with ⟨_, _, _, unwrapped⟩ | ⟨pointee, _, to_pointer, made⟩
    · cases (unwrap?_eq_some_iff.1 unwrapped).1
    refine ⟨pointee, to_pointer, ?_⟩
    obtain ⟨_, ⟨_, rfl⟩ | ⟨_, _, _, statement⟩⟩ := wrap?_eq_some_iff.1 made
    · exact ⟨.inl rfl, fun _ casts => absurd casts (FieldPair.not_castsTemporary_assignment _)⟩
    · have casts : pair.CastsTemporary (withoutLead "*" pair.target.typeText) text := statement
      refine ⟨.inr ⟨_, casts⟩, fun applied casts' => ?_⟩
      rw [casts'.unique casts, spelled]
      exact Wrapping.castNames_of_underlying (Provider.pointerTarget?_eq_some_iff.1 to_pointer)
        inside

/-- Slices of and pointers to numbers of 64 bits, each with a name and an alias. -/
def counters : Provider :=
  let declare (name : String) (definition : Definition) : String × Declaration :=
    (name, ⟨⟨"d", name⟩, definition, []⟩)
  (Catalog.builtin.extend ⟨"d", "d", none⟩
    (Keyed.ofList
      [declare "IDs" (.defined (.slice (.primitive .int64))),
        declare "IDList" (.alias (.slice (.primitive .int64))),
        declare "Ref" (.defined (.pointer (.primitive .int64))),
        declare "RefAlias" (.alias (.pointer (.primitive .int64)))])).provider

/-- A slice of numbers in `m`, and a field that it is converted to. -/
def sliceTo (type : HostType) : FieldPair :=
  counters.pairOf "m" (.slice (.primitive .int)) type

/-- A number in `m`, and a field that it is converted to. -/
def numberTo (type : HostType) : FieldPair :=
  counters.pairOf "m" (.primitive .int) type

/-- Where the slice and the pointer are written out, the numbers are cast to their type. -/
theorem part_casts_counters :
    (∃ text,
      sliceConvert.convert? ⟨counters, none⟩ (sliceTo (.slice (.primitive .int64))) =
        some (.sliceElementConvert, text) ∧
      ∀ applied, (sliceTo (.slice (.primitive .int64))).CastsElements applied text →
        applied = "int64") ∧
    ∃ text,
      pointer.convert? ⟨counters, none⟩ (numberTo (.pointer (.primitive .int64))) =
        some (.pointerWrap, text) ∧
      ∀ applied, (numberTo (.pointer (.primitive .int64))).CastsTemporary applied text →
        applied = "int64" := by
  constructor
  · obtain ⟨text, answer⟩ :
        ∃ text,
          sliceConvert.convert? ⟨counters, none⟩ (sliceTo (.slice (.primitive .int64))) =
            some (.sliceElementConvert, text) :=
      ⟨_, rfl⟩
    obtain ⟨element, to_slice, -, names⟩ := (part_casts rfl).1 text answer
    obtain rfl : .primitive .int64 = element := Option.some.inj to_slice
    refine ⟨text, answer, fun applied casts => ?_⟩
    rw [(names applied casts).names_part_iff.2 (.inl rfl)]
    rfl
  · obtain ⟨text, answer⟩ :
        ∃ text,
          pointer.convert? ⟨counters, none⟩ (numberTo (.pointer (.primitive .int64))) =
            some (.pointerWrap, text) :=
      ⟨_, rfl⟩
    obtain ⟨pointee, to_pointer, -, names⟩ := (part_casts rfl).2 text answer
    obtain rfl : .primitive .int64 = pointee := Option.some.inj to_pointer
    refine ⟨text, answer, fun applied casts => ?_⟩
    rw [(names applied casts).names_part_iff.2 (.inl rfl)]
    rfl

/-- Under a name, defined or an alias, the numbers are cast to the slice or to the pointer
itself. -/
theorem parts_cast_to_whole_counters :
    (∀ name ∈ ["IDs", "IDList"],
      counters.sliceElement? (.named ⟨"d", name⟩) = some (.primitive .int64) ∧
      ∃ text,
        sliceConvert.convert? ⟨counters, none⟩ (sliceTo (.named ⟨"d", name⟩)) =
          some (.sliceElementConvert, text) ∧
        (sliceTo (.named ⟨"d", name⟩)).CastsElements ("d." ++ name) text ∧
        ¬ (sliceTo (.named ⟨"d", name⟩)).CastsElements "int64" text) ∧
    ∀ name ∈ ["Ref", "RefAlias"],
      counters.pointerTarget? (.named ⟨"d", name⟩) = some (.primitive .int64) ∧
      ∃ text,
        pointer.convert? ⟨counters, none⟩ (numberTo (.named ⟨"d", name⟩)) =
          some (.pointerWrap, text) ∧
        (numberTo (.named ⟨"d", name⟩)).CastsTemporary ("d." ++ name) text ∧
        ¬ (numberTo (.named ⟨"d", name⟩)).CastsTemporary "int64" text := by
  simp only [List.forall_mem_cons, List.not_mem_nil, false_imp_iff, implies_true, and_true]
  refine ⟨⟨⟨rfl, _, rfl, rfl, ?_⟩, ⟨rfl, _, rfl, rfl, ?_⟩⟩,
    ⟨rfl, _, rfl, rfl, ?_⟩, ⟨rfl, _, rfl, rfl, ?_⟩⟩
  · exact fun casts => absurd (casts.unique rfl) (by decide)
  · exact fun casts => absurd (casts.unique rfl) (by decide)
  · exact fun casts => absurd (casts.unique rfl) (by decide)
  · exact fun casts => absurd (casts.unique rfl) (by decide)

end Rule
end RecordConversion
