import RecordConversion.Proofs.Declarations.ChainLengths
import RecordConversion.Proofs.Declarations.Classification
import RecordConversion.Proofs.Declarations.Shapes
import RecordConversion.Proofs.Declarations.Symmetry

/-!
# Shapes and underlying types side by side

A shape is found by going through the declarations down to a depth, with the names that are being
expanded kept in mind, an underlying type by following names for a number of steps.  Where a short
chain of aliases leads from a type to its meaning, neither guard stops the shape on the way: the
aliases of a chain are all different, since each has its own distance to the end, and they do not
reach the limit.  So the shape of the type is seen at its meaning, and tells what the underlying
type is.

* `Declarations.exists_shapeAt_of_chain`: a shape is seen through a chain of aliases.
* `Declarations.tells_shapeOf`: shapes agree with underlying types behind short chains.
-/

namespace RecordConversion

/-- A shape tells the underlying type of a type: its outermost part, the basic type that it is, and
the name of the record that it is. -/
structure Shape.Tells
    (shape : Shape) (table : Declarations) (type : HostType) : Prop where
  basic : ∀ kind, shape.basic? = some kind ↔ table.underlying type = .primitive kind
  record : shape.kind = .record ↔ ∃ body, table.underlying type = .record body
  pointer : shape.kind = .pointer ↔ ∃ target, table.underlying type = .pointer target
  slice : shape.kind = .slice ↔ ∃ element, table.underlying type = .slice element
  map : shape.kind = .map ↔ ∃ key value, table.underlying type = .map key value
  interface : shape.kind = .interface ↔ table.underlying type = .interface
  other : shape.kind = .other ↔
    (table.underlying type).IsText ∨
      ∃ ref, table.underlying type = .named ref ∧ table.lookup ref = none
  recordRef : ∀ ref, shape.recordRef? = some ref ↔
    (∃ body, table.underlying type = .record body) ∧
      table.resolve type = .named ref ∧ ref.path ≠ "" ∧ ref.name ≠ ""

namespace HostType

variable {type : HostType}

theorem kind_eq_record_iff :
    type.kind = .record ↔ ∃ body, type = .record body := by
  cases type <;> simp [kind]

theorem kind_eq_pointer_iff :
    type.kind = .pointer ↔ ∃ target, type = .pointer target := by
  cases type <;> simp [kind]

theorem kind_eq_slice_iff :
    type.kind = .slice ↔ ∃ element, type = .slice element := by
  cases type <;> simp [kind]

theorem kind_eq_map_iff :
    type.kind = .map ↔ ∃ key value, type = .map key value := by
  cases type <;> simp [kind]

theorem kind_eq_interface_iff :
    type.kind = .interface ↔ type = .interface := by
  cases type <;> simp [kind]

end HostType

namespace Declarations

variable {table : Declarations}

/-! ## Along a chain -/

/-- The length of a chain of aliases depends on its beginning only. -/
theorem StandsForIn.length_unique
    {hops others : Nat} {type meaning meaning' : HostType}
    (chain : table.StandsForIn hops type meaning)
    (chain' : table.StandsForIn others type meaning') :
    hops = others := by
  induction chain generalizing others with
  | itself no_alias =>
      cases chain' with
      | itself => rfl
      | through step _ => cases no_alias.symm.trans step
  | through step _ ih =>
      cases chain' with
      | itself no_alias => cases no_alias.symm.trans step
      | through step' further' =>
          obtain rfl := Option.some.inj (step.symm.trans step')
          rw [ih further']

/-- Each of the names stands for something by a chain of more aliases than given. -/
def LongerThan
    (table : Declarations) (hops : Nat) (path : List QualifiedName) : Prop :=
  ∀ ref ∈ path, ∃ more meaning, hops < more ∧ table.StandsForIn more (.named ref) meaning

/-- A name is not among those with longer chains. -/
theorem LongerThan.fresh
    {hops : Nat} {path : List QualifiedName} {ref : QualifiedName} {meaning : HostType}
    (longer : table.LongerThan hops path)
    (chain : table.StandsForIn hops (.named ref) meaning) :
    ref ∉ path := by
  intro again
  obtain ⟨more, _, beyond, chain'⟩ := longer ref again
  exact absurd (chain.length_unique chain') (Nat.ne_of_lt beyond)

/-- The shape of a type is that of its meaning, if the aliases between the two stay within the limit
and none of them is being expanded.  An alias that joins those being expanded has a longer chain
than what is left. -/
theorem exists_shapeAt_of_chain
    {hops : Nat} {type meaning : HostType}
    (chain : table.StandsForIn hops type meaning)
    {depth : Nat} (within : depth + hops ≤ expansionLimit + 1)
    {path : List QualifiedName} (longer : table.LongerThan hops path) :
    ∃ passed, table.LongerThan 0 passed ∧
      table.shapeAt depth path type = table.shapeAt (depth + hops) passed meaning := by
  induction chain generalizing depth path with
  | itself _ => exact ⟨path, longer, rfl⟩
  | @through hops type target meaning step further ih =>
      obtain ⟨ref, name, methods, rfl, found⟩ := exists_lookup_of_aliasTarget? step
      have fresh := longer.fresh (.through step further)
      have shorter : table.LongerThan hops (ref :: path) := by
        rw [LongerThan, List.forall_mem_cons]
        refine ⟨⟨hops + 1, meaning, Nat.lt_succ_self hops, .through step further⟩, ?_⟩
        intro other here
        obtain ⟨more, end_, beyond, chain'⟩ := longer other here
        exact ⟨more, end_, Nat.lt_of_succ_lt beyond, chain'⟩
      have deeper : depth + 1 + hops ≤ expansionLimit + 1 := by omega
      obtain ⟨passed, longest, same⟩ := ih deeper shorter
      refine ⟨passed, longest, ?_⟩
      rw [shapeAt_alias (by omega) found fresh, same, Nat.add_right_comm, Nat.add_assoc]

/-! ## At the end of a chain -/

theorem kind_ofDefined
    (ref : QualifiedName) (shapeOf : HostType → Shape) (type : HostType) :
    (Shape.ofDefined ref shapeOf type).kind = type.kind := by
  cases type <;> rfl

/-- The shape of a meaning has the kind of its underlying type, if none of the names that are being
expanded is the meaning. -/
theorem kind_shapeAt_of_no_alias
    {meaning : HostType} (no_alias : table.aliasTarget? meaning = none)
    {depth : Nat} (shallow : depth ≤ expansionLimit)
    {path : List QualifiedName} (longer : table.LongerThan 0 path) :
    (table.shapeAt depth path meaning).kind = (table.underlying meaning).kind := by
  by_cases named : ∃ ref, meaning = .named ref
  · obtain ⟨ref, rfl⟩ := named
    cases found : table.lookup ref with
    | none =>
        rw [underlying_of_lookup_eq_none found, shapeAt_undeclared shallow found]
        rfl
    | some declaration =>
        obtain ⟨name, definition, methods⟩ := declaration
        rcases definition with target | body
        · simp [aliasTarget?, found] at no_alias
        · have expands : table.Expands depth path ref :=
            ⟨shallow, longer.fresh (.itself no_alias), name, body, methods, found⟩
          rw [expands.shapeAt_eq, kind_ofDefined]
  · rw [underlying_of_not_named fun ref same => named ⟨ref, same⟩, shapeAt_eq shallow]
    cases meaning with
    | named ref => exact absurd ⟨ref, rfl⟩ named
    | _ => rfl

/-- The shape of a type has the kind of what is under its meaning, if no more aliases than the limit
lead there. -/
theorem StandsForIn.kind_shapeOf_eq_meaning
    {hops : Nat} {type meaning : HostType}
    (chain : table.StandsForIn hops type meaning) (within : hops ≤ expansionLimit) :
    (table.shapeOf type).kind = (table.underlying meaning).kind := by
  have reached : 0 + hops ≤ expansionLimit + 1 := by omega
  have none_open : table.LongerThan hops [] := nofun
  obtain ⟨passed, longer, seen⟩ := exists_shapeAt_of_chain chain reached none_open
  have shape : table.shapeOf type = table.shapeAt hops passed meaning := by
    rw [← Nat.zero_add hops, ← seen]
    rfl
  rw [shape, kind_shapeAt_of_no_alias chain.standsFor.no_alias within longer]

/-- Behind a short chain of aliases the shape of a type has the kind of its underlying type. -/
theorem StandsForSoon.kind_shapeOf
    {type meaning : HostType} (soon : table.StandsForSoon type meaning) :
    (table.shapeOf type).kind = (table.underlying type).kind := by
  obtain ⟨hops, fewer, chain⟩ := id soon
  rw [chain.kind_shapeOf_eq_meaning (Nat.le_of_lt fewer)]
  rcases table.underlying_eq_or type with same | ⟨unstructured, unstructured'⟩
  · rw [same, soon.resolve_eq]
  · rw [unstructured, ← unstructured', soon.resolve_eq]

theorem Layer.basic?_eq
    {shape : Shape} {kind : Primitive} (layer : table.Layer shape (.primitive kind)) :
    shape.basic? = some kind := by
  cases layer
  rfl

/-- Behind a short chain of aliases a shape has the outermost part of the underlying type. -/
theorem StandsForSoon.layer
    {type meaning : HostType} (soon : table.StandsForSoon type meaning)
    (structured : (table.underlying type).kind ≠ .other) :
    table.Layer (table.shapeOf type) (table.underlying type) :=
  (layer_underlying (isShapeOf_shapeOf type) structured).resolve_left
    (by rwa [soon.kind_shapeOf])

/-- An underlying type without structure is a text or a name without a declaration. -/
theorem kind_underlying_eq_other_iff
    {type : HostType} :
    (table.underlying type).kind = .other ↔
      (table.underlying type).IsText ∨
        ∃ ref, table.underlying type = .named ref ∧ table.lookup ref = none := by
  have undeclared := table.definitionOf?_underlying type
  cases shown : table.underlying type with
  | named ref =>
      rw [shown, definitionOf?, Option.map_eq_none_iff] at undeclared
      simp [HostType.kind, undeclared]
  | other spelling => simp [HostType.kind, HostType.IsText]
  | _ => simp [HostType.kind, HostType.IsText]

/-- The shape of a type names its meaning, if this has a path and is a record under a name. -/
theorem StandsForSoon.recordRef?_shapeOf_iff
    {type meaning : HostType} (soon : table.StandsForSoon type meaning) {ref : QualifiedName} :
    (table.shapeOf type).recordRef? = some ref ↔
      (∃ body, table.underlying type = .record body) ∧
        table.resolve type = .named ref ∧ ref.path ≠ "" ∧ ref.name ≠ "" := by
  have seen := table.isShapeOf_shapeOf type
  constructor
  · intro shown
    have record := Shape.kind_eq_record_of_recordRef? shown
    have told : (table.shapeOf type).kind ≠ .other := by
      rw [record]
      nofun
    obtain ⟨_, stands, _, names⟩ := (layer_of_isShapeOf seen).resolve_left told
    obtain rfl := names ref shown
    refine ⟨?_, ?_, ?_⟩
    · exact HostType.kind_eq_record_iff.1 (soon.kind_shapeOf.symm.trans record)
    · rw [soon.resolve_eq, soon.standsFor.unique stands]
    · cases shape : table.shapeOf type with
      | record home name display =>
          rw [shape] at shown
          obtain ⟨present, rfl⟩ := Shape.recordRef?_eq_some_iff.1 shown
          exact present
      | _ =>
          rw [shape] at record
          cases record
  · rintro ⟨record, resolved, present⟩
    have kind := soon.kind_shapeOf.trans (HostType.kind_eq_record_iff.2 record)
    obtain ⟨_, stands, shown⟩ := exists_record_of_isShapeOf seen kind
    obtain rfl := soon.standsFor.unique stands
    rw [soon.resolve_eq] at resolved
    subst resolved
    rcases shown with ⟨_, body⟩ | ⟨_, same, shape⟩
    · cases body
    · cases same
      rw [shape]
      exact Shape.recordRef?_eq_some_iff.2 ⟨present, rfl⟩

/-- Behind a short chain of aliases the shape of a type tells its underlying type. -/
theorem tells_shapeOf
    {type : HostType} (soon : ∃ meaning, table.StandsForSoon type meaning) :
    (table.shapeOf type).Tells table type := by
  obtain ⟨meaning, soon⟩ := soon
  have kind := soon.kind_shapeOf
  exact {
    basic := by
      intro primitive
      constructor
      · intro shown
        have basic := kind.symm.trans (Shape.kind_eq_basic_of_basic? shown)
        exact (soon.layer (by rw [basic]; nofun)).eq_primitive shown
      · intro shown
        have layer := soon.layer (by rw [shown]; nofun)
        rw [shown] at layer
        exact layer.basic?_eq
    record := by rw [kind, HostType.kind_eq_record_iff]
    pointer := by rw [kind, HostType.kind_eq_pointer_iff]
    slice := by rw [kind, HostType.kind_eq_slice_iff]
    map := by rw [kind, HostType.kind_eq_map_iff]
    interface := by rw [kind, HostType.kind_eq_interface_iff]
    other := by rw [kind, kind_underlying_eq_other_iff]
    recordRef := fun _ => soon.recordRef?_shapeOf_iff }

/-- A card, which is declared over another record, and an alias of an alias of it. -/
def cardAliases : Declarations :=
  let entry (name : String) (definition : Definition) : QualifiedName × Declaration :=
    (⟨"d", name⟩, ⟨⟨"d", name⟩, definition, []⟩)
  ⟨[entry "Front" (.alias (.named ⟨"d", "Side"⟩)), entry "Side" (.alias (.named ⟨"d", "Card"⟩)),
    entry "Card" (.defined (.named ⟨"d", "Sheet"⟩)),
    entry "Sheet" (.defined (.record [⟨"ID", .primitive .int, false, true⟩]))]⟩

theorem tells_shapeOf_front :
    (∃ meaning, cardAliases.StandsForSoon (.named ⟨"d", "Front"⟩) meaning) ∧
      (cardAliases.shapeOf (.named ⟨"d", "Front"⟩)).kind = .record ∧
      (cardAliases.shapeOf (.named ⟨"d", "Front"⟩)).recordRef? = some ⟨"d", "Card"⟩ := by
  have soon : cardAliases.StandsForSoon (.named ⟨"d", "Front"⟩) (.named ⟨"d", "Card"⟩) :=
    standsForSoon_iff.2 (by decide)
  have body : cardAliases.underlying (.named ⟨"d", "Front"⟩) =
      .record [⟨"ID", .primitive .int, false, true⟩] := by
    decide
  have tells := tells_shapeOf ⟨_, soon⟩
  refine ⟨⟨_, soon⟩, tells.record.2 ⟨_, body⟩, ?_⟩
  exact (tells.recordRef ⟨"d", "Card"⟩).2 ⟨⟨_, body⟩, soon.resolve_eq, by decide, by decide⟩

end Declarations
end RecordConversion
