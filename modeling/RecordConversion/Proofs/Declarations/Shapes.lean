import RecordConversion.Pairing
import RecordConversion.Proofs.Declarations.Names
import RecordConversion.Proofs.Declarations.Resolution
import RecordConversion.Provider

/-!
# What the shape of a type tells about it

The conversion rules look at shapes, the relations between types at the types themselves.  The two
views meet in the meaning of a type: unless a shape tells nothing, it has the kind of the underlying
type of that meaning, a basic shape has its basic type, and the record that a shape names is the
meaning itself.  Below its outermost part a shape is made of the shapes of the types inside that
part: `Declarations.Layer`.

Fields are taken to carry the shapes of their types: `FieldPair.Classified`.

* `Declarations.layer_of_isShapeOf`: the outermost layer of every shape.
-/

namespace RecordConversion

/-- A shape agrees with what a type means. -/
structure Shape.Describes
    (shape : Shape) (table : Declarations) (meaning : HostType) : Prop where
  kind : shape.kind = (table.underlying meaning).kind
  basic : ∀ kind, shape.basic? = some kind → table.underlying meaning = .primitive kind
  record : ∀ ref, shape.recordRef? = some ref → meaning = .named ref

namespace Shape

theorem recordRef?_eq_some_iff
    {home name display : String} {ref : QualifiedName} :
    (Shape.record home name display).recordRef? = some ref ↔
      (home ≠ "" ∧ name ≠ "") ∧ ref = ⟨home, name⟩ := by
  simp only [recordRef?, Option.ite_none_left_eq_some, Bool.or_eq_true, String.isEmpty_iff, not_or,
    Option.some.injEq, @eq_comm _ _ ref, ne_eq]

theorem kind_eq_basic_of_basic?
    {shape : Shape} {kind : Primitive}
    (basic : shape.basic? = some kind) :
    shape.kind = .basic := by
  cases shape <;> first | rfl | cases basic

theorem kind_eq_record_of_recordRef?
    {shape : Shape} {ref : QualifiedName}
    (named : shape.recordRef? = some ref) :
    shape.kind = .record := by
  cases shape <;> first | rfl | cases named

end Shape

namespace Declarations

variable {table : Declarations}

/-! ## Shapes layer by layer -/

/-- A shape is that of a type, as it is seen inside the expansion of some names. -/
def IsShapeOf
    (table : Declarations) (shape : Shape) (type : HostType) : Prop :=
  ∃ room path, table.shapeWithin room path type = shape

theorem isShapeOf_shapeOf
    (type : HostType) :
    table.IsShapeOf (table.shapeOf type) type :=
  ⟨_, _, rfl⟩

/-- A shape and a type have the same outermost part, and what is inside the shape are the shapes of
what is inside the type. -/
inductive Layer
    (table : Declarations) : Shape → HostType → Prop
  | basic
      (kind : Primitive) (home display : String) :
      Layer table (.basic kind home display) (.primitive kind)
  | pointer
      {element : Shape} {target : HostType} (inner : table.IsShapeOf element target)
      (home display : String) :
      Layer table (.pointer element home display) (.pointer target)
  | slice
      {element : Shape} {target : HostType} (inner : table.IsShapeOf element target)
      (home display : String) :
      Layer table (.slice element home display) (.slice target)
  | map
      {key element : Shape} {keyType target : HostType}
      (index : table.IsShapeOf key keyType) (inner : table.IsShapeOf element target)
      (home display : String) :
      Layer table (.map key element home display) (.map keyType target)
  | record
      (body : List Field) (home name display : String) :
      Layer table (.record home name display) (.record body)
  | interface
      (home display : String) :
      Layer table (.interface home display) .interface

theorem Layer.kind_eq
    {shape : Shape} {type : HostType}
    (layer : table.Layer shape type) :
    shape.kind = type.kind := by
  cases layer <;> rfl

theorem Layer.eq_primitive
    {shape : Shape} {type : HostType} {kind : Primitive}
    (layer : table.Layer shape type) (basic : shape.basic? = some kind) :
    type = .primitive kind := by
  cases layer <;> cases basic
  rfl

/-- The shape of a defined name has the outermost part of its underlying type, and names no record
but itself, unless it tells nothing. -/
theorem layer_ofDefined
    (ref : QualifiedName) (room : Nat) (path : List QualifiedName) (type : HostType) :
    (Shape.ofDefined ref (table.shapeWithin room path) type).kind = .other ∨
      table.Layer (Shape.ofDefined ref (table.shapeWithin room path) type) type ∧
        ∀ other, (Shape.ofDefined ref (table.shapeWithin room path) type).recordRef? = some other →
          other = ref := by
  cases type with
  | named _ | other _ => exact .inl rfl
  | primitive kind => exact .inr ⟨.basic kind _ _, nofun⟩
  | pointer target => exact .inr ⟨.pointer ⟨room, path, rfl⟩ _ _, nofun⟩
  | slice element => exact .inr ⟨.slice ⟨room, path, rfl⟩ _ _, nofun⟩
  | map key element => exact .inr ⟨.map ⟨room, path, rfl⟩ ⟨room, path, rfl⟩ _ _, nofun⟩
  | interface => exact .inr ⟨.interface _ _, nofun⟩
  | record body =>
      exact .inr ⟨.record body _ _ _, fun _ named => (Shape.recordRef?_eq_some_iff.1 named).2⟩

/-- Unless a shape tells nothing, it is that of the meaning of its type.  The room is spent on names
only, and behind an alias the target is seen. -/
theorem exists_meaning_of_isShapeOf
    {shape : Shape} {type : HostType}
    (seen : table.IsShapeOf shape type) :
    shape.kind = .other ∨
      ∃ meaning, table.StandsFor type meaning ∧ table.IsShapeOf shape meaning := by
  obtain ⟨room, path, rfl⟩ := seen
  induction room generalizing path type with
  | zero => exact .inl rfl
  | succ room ih =>
      cases step : table.aliasTarget? type with
      | none => exact .inr ⟨type, .itself step, room + 1, path, rfl⟩
      | some target =>
          obtain ⟨ref, name, methods, rfl, found⟩ := exists_lookup_of_aliasTarget? step
          by_cases again : path.contains ref = true
          · simp only [shapeWithin, Shape.ofType, found, again, if_true]
            exact .inl rfl
          · simp only [shapeWithin, Shape.ofType, found, again, Bool.false_eq_true, if_false]
            rcases @ih target (ref :: path) with nothing | ⟨meaning, stands, seen⟩
            · exact .inl nothing
            · exact .inr ⟨meaning, .through step stands, seen⟩

/-- The shape of a name that is no alias is that of a defined name, unless it tells nothing. -/
theorem eq_ofDefined_of_isShapeOf
    {shape : Shape} {ref : QualifiedName}
    (no_alias : table.aliasTarget? (.named ref) = none)
    (seen : table.IsShapeOf shape (.named ref)) :
    shape.kind = .other ∨ ∃ room path,
      shape =
        Shape.ofDefined ref (table.shapeWithin room path) (table.underlying (.named ref)) := by
  obtain ⟨room, path, rfl⟩ := seen
  cases room with
  | zero => exact .inl rfl
  | succ room =>
      cases found : table.lookup ref with
      | none =>
          simp only [shapeWithin, Shape.ofType, found]
          exact .inl rfl
      | some declaration =>
          obtain ⟨name, definition, methods⟩ := declaration
          rcases definition with target | body
          · simp [aliasTarget?, found] at no_alias
          · by_cases again : path.contains ref = true
            · simp only [shapeWithin, Shape.ofType, found, again, if_true]
              exact .inl rfl
            · simp only [shapeWithin, Shape.ofType, found, again, Bool.false_eq_true, if_false]
              exact .inr ⟨room, ref :: path, rfl⟩

/-- Unless the shape of a meaning tells nothing, it has the outermost part of its underlying type,
and the record that it names is the meaning itself. -/
theorem layer_of_no_alias
    {shape : Shape} {meaning : HostType}
    (no_alias : table.aliasTarget? meaning = none)
    (seen : table.IsShapeOf shape meaning) :
    shape.kind = .other ∨
      table.Layer shape (table.underlying meaning) ∧
        ∀ ref, shape.recordRef? = some ref → meaning = .named ref := by
  by_cases named : ∃ ref, meaning = .named ref
  · obtain ⟨ref, rfl⟩ := named
    rcases eq_ofDefined_of_isShapeOf no_alias seen with nothing | ⟨room, path, rfl⟩
    · exact .inl nothing
    · exact (layer_ofDefined ref room path _).imp_right fun ⟨layer, own⟩ =>
        ⟨layer, fun other same => by rw [own other same]⟩
  · obtain ⟨room, path, rfl⟩ := seen
    rw [underlying_of_not_named fun ref same => named ⟨ref, same⟩]
    cases room with
    | zero => exact .inl rfl
    | succ room =>
        cases meaning with
        | named ref => exact absurd ⟨ref, rfl⟩ named
        | other spelling => exact .inl rfl
        | primitive kind => exact .inr ⟨.basic kind _ _, nofun⟩
        | interface => exact .inr ⟨.interface _ _, nofun⟩
        | pointer target => exact .inr ⟨.pointer ⟨room + 1, path, rfl⟩ _ _, nofun⟩
        | slice element => exact .inr ⟨.slice ⟨room + 1, path, rfl⟩ _ _, nofun⟩
        | map key element =>
            exact .inr ⟨.map ⟨room + 1, path, rfl⟩ ⟨room + 1, path, rfl⟩ _ _, nofun⟩
        | record body =>
            exact .inr ⟨.record body _ _ _, fun ref same =>
              absurd rfl (Shape.recordRef?_eq_some_iff.1 same).1.1⟩

/-- Unless a shape tells nothing, it has the outermost part of the meaning of its type, and the
record that it names is that meaning. -/
theorem layer_of_isShapeOf
    {shape : Shape} {type : HostType}
    (seen : table.IsShapeOf shape type) :
    shape.kind = .other ∨
      ∃ meaning, table.StandsFor type meaning ∧ table.Layer shape (table.underlying meaning) ∧
        ∀ ref, shape.recordRef? = some ref → meaning = .named ref := by
  rcases exists_meaning_of_isShapeOf seen with nothing | ⟨meaning, stands, seen⟩
  · exact .inl nothing
  · rcases layer_of_no_alias stands.no_alias seen with nothing | layer
    · exact .inl nothing
    · exact .inr ⟨meaning, stands, layer⟩

/-- The shape of a record is that of a defined name, with its path and name, or of a record body. -/
theorem exists_record_of_isShapeOf
    {shape : Shape} {type : HostType}
    (seen : table.IsShapeOf shape type) (record : shape.kind = .record) :
    ∃ meaning, table.StandsFor type meaning ∧
      ((∃ body, meaning = .record body) ∨
        ∃ ref, meaning = .named ref ∧ shape = .record ref.path ref.name ref.text) := by
  have told : shape.kind ≠ .other := by
    rw [record]
    nofun
  obtain ⟨meaning, stands, seen⟩ := (exists_meaning_of_isShapeOf seen).resolve_left told
  have layer := ((layer_of_no_alias stands.no_alias seen).resolve_left told).1
  refine ⟨meaning, stands, ?_⟩
  by_cases named : ∃ ref, meaning = .named ref
  · obtain ⟨ref, rfl⟩ := named
    obtain ⟨room, path, rfl⟩ :=
      (eq_ofDefined_of_isShapeOf stands.no_alias seen).resolve_left told
    refine .inr ⟨ref, rfl, ?_⟩
    cases body : table.underlying (.named ref) <;> first | rfl | (rw [body] at record; cases record)
  · rw [underlying_of_not_named fun ref same => named ⟨ref, same⟩] at layer
    cases layer <;> first | exact .inl ⟨_, rfl⟩ | cases record

/-- A type has the underlying type of its meaning, or one that tells nothing if its chain of aliases
is too long. -/
theorem StandsFor.underlying_eq_or
    {type meaning : HostType}
    (stands : table.StandsFor type meaning) :
    table.underlying type = table.underlying meaning ∨ (table.underlying type).kind = .other := by
  rcases stands.resolve_eq_or with resolved | too_long
  · rcases table.underlying_eq_or type with same | ⟨unstructured, _⟩
    · exact .inl (by rw [same, resolved])
    · exact .inr unstructured
  · refine .inr ?_
    rw [underlying_of_resolve_not_named too_long (by simp)]
    rfl

/-- An underlying type with a structure shows in the shape, if the shape tells anything. -/
theorem layer_underlying
    {shape : Shape} {type : HostType}
    (seen : table.IsShapeOf shape type) (structured : (table.underlying type).kind ≠ .other) :
    shape.kind = .other ∨ table.Layer shape (table.underlying type) := by
  rcases layer_of_isShapeOf seen with nothing | ⟨meaning, stands, layer, _⟩
  · exact .inl nothing
  · rcases stands.underlying_eq_or with same | unstructured
    · exact .inr (same ▸ layer)
    · exact absurd unstructured structured

/-- The kind of the underlying type is that of the shape, unless the shape tells nothing or the
chain of aliases of the type is too long. -/
theorem kind_underlying_or_too_long
    {shape : Shape} {type : HostType}
    (seen : table.IsShapeOf shape type) (told : shape.kind ≠ .other) :
    (table.underlying type).kind = shape.kind ∨ table.resolve type = .other type.text := by
  obtain ⟨meaning, stands, layer, _⟩ := (layer_of_isShapeOf seen).resolve_left told
  rcases stands.resolve_eq_or with resolved | too_long
  · have structured : (table.underlying meaning).kind ≠ .other := layer.kind_eq ▸ told
    exact .inl (by rw [underlying_eq_of_resolve resolved structured, layer.kind_eq])
  · exact .inr too_long

theorem kind_underlying_of_isShapeOf
    {shape : Shape} {type : HostType}
    (seen : table.IsShapeOf shape type) (told : shape.kind ≠ .other) :
    (table.underlying type).kind = shape.kind ∨ (table.underlying type).kind = .other := by
  refine (kind_underlying_or_too_long seen told).imp_right fun too_long => ?_
  rw [underlying_of_resolve_not_named too_long (by simp)]
  rfl

/-! ## Shapes and meanings -/

/-- Unless a shape tells nothing, it agrees with the meaning of the type. -/
theorem describes_shapeOf
    (type : HostType) :
    (table.shapeOf type).kind = .other ∨
      ∃ meaning, table.StandsFor type meaning ∧ (table.shapeOf type).Describes table meaning := by
  rcases layer_of_isShapeOf (table.isShapeOf_shapeOf type) with
    nothing | ⟨meaning, stands, layer, names⟩
  · exact .inl nothing
  · exact .inr ⟨meaning, stands, layer.kind_eq, fun _ basic => layer.eq_primitive basic, names⟩

theorem shapeOf_pointer
    (target : HostType) :
    table.shapeOf (.pointer target) =
      .pointer (table.shapeOf target) "" ("*" ++ (table.shapeOf target).display) :=
  rfl

/-! ## What follows for the rules -/

/-- A type of a basic shape stands for a type over a basic one. -/
theorem exists_meaning_of_basic?
    {type : HostType} {kind : Primitive}
    (basic : (table.shapeOf type).basic? = some kind) :
    ∃ meaning, table.StandsFor type meaning ∧ table.underlying meaning = .primitive kind := by
  rcases table.describes_shapeOf type with nothing | ⟨meaning, stands, agrees⟩
  · rw [Shape.kind_eq_basic_of_basic? basic] at nothing
    cases nothing
  · exact ⟨meaning, stands, agrees.basic kind basic⟩

/-- A type whose shape names a record stands for that name. -/
theorem standsFor_of_recordRef?
    {type : HostType} {ref : QualifiedName}
    (named : (table.shapeOf type).recordRef? = some ref) :
    table.StandsFor type (.named ref) ∧ (table.underlying (.named ref)).kind = .record := by
  have record := Shape.kind_eq_record_of_recordRef? named
  rcases table.describes_shapeOf type with nothing | ⟨meaning, stands, agrees⟩
  · rw [record] at nothing
    cases nothing
  · obtain rfl := agrees.record ref named
    exact ⟨stands, agrees.kind ▸ record⟩

/-- A record resolves to what it stands for: its chain of aliases is not too long. -/
theorem StandsFor.resolve_eq_of_recordBody?
    {type meaning : HostType} {body : List Field}
    (stands : table.StandsFor type meaning) (found : table.recordBody? type = some body) :
    table.resolve type = meaning := by
  rcases stands.resolve_eq_or with resolved | too_long
  · exact resolved
  · have record := underlying_of_recordBody? found
    rw [underlying_of_resolve_not_named too_long (by simp)] at record
    cases record

/-- A record has the shape of a record, if its shape tells anything. -/
theorem kind_shapeOf_of_recordBody?
    {type : HostType} {body : List Field}
    (found : table.recordBody? type = some body) :
    (table.shapeOf type).kind = .record ∨ (table.shapeOf type).kind = .other := by
  rcases table.describes_shapeOf type with nothing | ⟨meaning, stands, agrees⟩
  · exact .inr nothing
  · have record := underlying_of_recordBody? found
    have resolved := stands.resolve_eq_of_recordBody? found
    rcases table.underlying_eq_or type with same | ⟨unstructured, _⟩
    · rw [resolved, record] at same
      exact .inl (by rw [agrees.kind, ← same]; rfl)
    · rw [record] at unstructured
      cases unstructured

/-- A record resolves to the name that its shape has. -/
theorem resolve_of_recordRef?
    {type : HostType} {ref : QualifiedName} {body : List Field}
    (found : table.recordBody? type = some body)
    (named : (table.shapeOf type).recordRef? = some ref) :
    table.resolve type = .named ref :=
  (standsFor_of_recordRef? named).1.resolve_eq_of_recordBody? found

end Declarations

/-! ## Fields with their shapes -/

/-- Both fields of a pair have the shapes of their types. -/
structure FieldPair.Classified
    (pair : FieldPair) (table : Declarations) : Prop where
  source : pair.source.shape = table.shapeOf pair.source.type
  target : pair.target.shape = table.shapeOf pair.target.type

namespace FieldPair.Classified

variable {table : Declarations} {pair : FieldPair}

theorem isShapeOf_source
    (classified : pair.Classified table) :
    table.IsShapeOf pair.source.shape pair.source.type :=
  classified.source ▸ table.isShapeOf_shapeOf _

theorem isShapeOf_target
    (classified : pair.Classified table) :
    table.IsShapeOf pair.target.shape pair.target.type :=
  classified.target ▸ table.isShapeOf_shapeOf _

end FieldPair.Classified

namespace Provider

/-- A field of a type, as it stands in a record of a namespace. -/
def fieldOf
    (provider : Provider) (inside name : String) (type : HostType) : RecordField :=
  ⟨name, name, provider.spell inside type, provider.declarations.shapeOf type, type, true, ""⟩

/-- A pair of fields of two types. -/
def pairOf
    (provider : Provider) (inside : String) (source target : HostType) : FieldPair :=
  ⟨provider.fieldOf inside "F" source, provider.fieldOf inside "F" target⟩

theorem classified_pairOf
    (provider : Provider) (inside : String) (source target : HostType) :
    (provider.pairOf inside source target).Classified provider.declarations :=
  ⟨rfl, rfl⟩

end Provider
end RecordConversion
