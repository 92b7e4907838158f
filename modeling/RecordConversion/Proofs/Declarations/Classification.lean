import RecordConversion.Proofs.Declarations.Names
import RecordConversion.Shape

/-!
# Classification that ends

A type is classified by going down through its parts and through the declarations of its names.
`Declarations.Classifies` gives the rules for this, without a bound on the number of steps: at a
depth, inside the expansion of some names, a type has a shape if its parts have theirs.  A part of a
type stays at the depth and is smaller.  What stands behind a name may be of any size, but lies one
level deeper, and below the limit nothing is expanded.  So the remaining depth and then the size of
the type decrease together, and every type has exactly one shape.

The shape is well formed at each of its nodes: what it carries is that of its kind, and a record
goes either by a declared name or by none.

* `Declarations.classifies_iff`: the rules give every type the shape that is computed.
* `Declarations.classification_wellFormed`: and this shape is well formed.
-/

namespace RecordConversion

namespace Shape

/-- A shape and the shapes inside it. -/
def nodes : Shape → List Shape
  | .pointer element home display => .pointer element home display :: element.nodes
  | .slice element home display => .slice element home display :: element.nodes
  | .map key element home display => .map key element home display :: (key.nodes ++ element.nodes)
  | .basic kind home display => [.basic kind home display]
  | .record home name display => [.record home name display]
  | .interface home display => [.interface home display]
  | .other home display => [.other home display]

/-- A node carries what belongs to its kind and nothing else, and a record has both a namespace and
a name or neither. -/
structure WellFormed (node : Shape) : Prop where
  element : node.element?.isSome = true ↔
    node.kind = .pointer ∨ node.kind = .slice ∨ node.kind = .map
  key : node.key?.isSome = true ↔ node.kind = .map
  basic : node.basic?.isSome = true ↔ node.kind = .basic
  recordName : node.recordName ≠ "" → node.kind = .record
  identified : node.kind = .record → (node.home = "" ↔ node.recordName = "")

/-- A node is well formed unless it is a record of which only one of namespace and name is known. -/
theorem wellFormed_of_identified
    {node : Shape} (identified : node.kind = .record → (node.home = "" ↔ node.recordName = "")) :
    node.WellFormed := by
  cases node <;>
    exact ⟨by simp [element?, kind], by simp [key?, kind], by simp [basic?, kind],
      by simp [Shape.recordName, kind], identified⟩

end Shape

namespace Declarations

/-! ## Rules -/

/-- A name that is declared as a type of its own is expanded at a depth: the limit is not passed,
and the name is not being expanded. -/
structure Expands
    (table : Declarations) (depth : Nat) (path : List QualifiedName) (ref : QualifiedName) :
    Prop where
  shallow : depth ≤ expansionLimit
  fresh : ref ∉ path
  defined : ∃ name body methods, table.lookup ref = some ⟨name, .defined body, methods⟩

/-- At a depth, while some names are being expanded, a type has a shape. -/
inductive Classifies
    (table : Declarations) : Nat → List QualifiedName → HostType → Shape → Prop
  | tooDeep
      {depth : Nat} {path : List QualifiedName}
      (type : HostType) (deep : expansionLimit < depth) :
      Classifies table depth path type (.other "" type.text)
  | basic
      {depth : Nat} {path : List QualifiedName}
      (kind : Primitive) (shallow : depth ≤ expansionLimit) :
      Classifies table depth path (.primitive kind) (.basic kind "" kind.name)
  | pointer
      {depth : Nat} {path : List QualifiedName} {target : HostType} {element : Shape}
      (shallow : depth ≤ expansionLimit)
      (inner : Classifies table depth path target element) :
      Classifies table depth path (.pointer target) (.pointer element "" ("*" ++ element.display))
  | slice
      {depth : Nat} {path : List QualifiedName} {target : HostType} {element : Shape}
      (shallow : depth ≤ expansionLimit)
      (inner : Classifies table depth path target element) :
      Classifies table depth path (.slice target) (.slice element "" ("[]" ++ element.display))
  | map
      {depth : Nat} {path : List QualifiedName} {keyType target : HostType} {key element : Shape}
      (shallow : depth ≤ expansionLimit)
      (index : Classifies table depth path keyType key)
      (inner : Classifies table depth path target element) :
      Classifies table depth path (.map keyType target)
        (.map key element "" ("map[" ++ key.display ++ "]" ++ element.display))
  | record
      {depth : Nat} {path : List QualifiedName}
      (body : List Field) (shallow : depth ≤ expansionLimit) :
      Classifies table depth path (.record body) (.record "" "" (HostType.record body).text)
  | interface
      {depth : Nat} {path : List QualifiedName} (shallow : depth ≤ expansionLimit) :
      Classifies table depth path .interface (.interface "" "interface")
  | other
      {depth : Nat} {path : List QualifiedName}
      (spelling : String) (shallow : depth ≤ expansionLimit) :
      Classifies table depth path (.other spelling) (.other "" spelling)
  | undeclared
      {depth : Nat} {path : List QualifiedName} {ref : QualifiedName}
      (shallow : depth ≤ expansionLimit) (missing : table.lookup ref = none) :
      Classifies table depth path (.named ref) (.other "" ref.text)
  | again
      {depth : Nat} {path : List QualifiedName} {ref : QualifiedName} {declaration : Declaration}
      (shallow : depth ≤ expansionLimit) (found : table.lookup ref = some declaration)
      (repeated : ref ∈ path) :
      Classifies table depth path (.named ref) (.other "" ref.text)
  | aliased
      {depth : Nat} {path : List QualifiedName} {ref name : QualifiedName} {target : HostType}
      {methods : List Method} {shape : Shape}
      (shallow : depth ≤ expansionLimit)
      (found : table.lookup ref = some ⟨name, .alias target, methods⟩) (fresh : ref ∉ path)
      (behind : Classifies table (depth + 1) (ref :: path) target shape) :
      Classifies table depth path (.named ref) shape
  | definedBasic
      {depth : Nat} {path : List QualifiedName} {ref : QualifiedName} {kind : Primitive}
      (expands : table.Expands depth path ref)
      (form : table.underlying (.named ref) = .primitive kind) :
      Classifies table depth path (.named ref) (.basic kind ref.path ref.text)
  | definedPointer
      {depth : Nat} {path : List QualifiedName} {ref : QualifiedName} {target : HostType}
      {element : Shape}
      (expands : table.Expands depth path ref)
      (form : table.underlying (.named ref) = .pointer target)
      (inner : Classifies table (depth + 1) (ref :: path) target element) :
      Classifies table depth path (.named ref) (.pointer element ref.path ref.text)
  | definedSlice
      {depth : Nat} {path : List QualifiedName} {ref : QualifiedName} {target : HostType}
      {element : Shape}
      (expands : table.Expands depth path ref)
      (form : table.underlying (.named ref) = .slice target)
      (inner : Classifies table (depth + 1) (ref :: path) target element) :
      Classifies table depth path (.named ref) (.slice element ref.path ref.text)
  | definedMap
      {depth : Nat} {path : List QualifiedName} {ref : QualifiedName} {keyType target : HostType}
      {key element : Shape}
      (expands : table.Expands depth path ref)
      (form : table.underlying (.named ref) = .map keyType target)
      (index : Classifies table (depth + 1) (ref :: path) keyType key)
      (inner : Classifies table (depth + 1) (ref :: path) target element) :
      Classifies table depth path (.named ref) (.map key element ref.path ref.text)
  | definedRecord
      {depth : Nat} {path : List QualifiedName} {ref : QualifiedName} {body : List Field}
      (expands : table.Expands depth path ref)
      (form : table.underlying (.named ref) = .record body) :
      Classifies table depth path (.named ref) (.record ref.path ref.name ref.text)
  | definedInterface
      {depth : Nat} {path : List QualifiedName} {ref : QualifiedName}
      (expands : table.Expands depth path ref)
      (form : table.underlying (.named ref) = .interface) :
      Classifies table depth path (.named ref) (.interface ref.path ref.text)
  | definedOther
      {depth : Nat} {path : List QualifiedName} {ref : QualifiedName}
      (expands : table.Expands depth path ref)
      (unstructured : (∃ other, table.underlying (.named ref) = .named other) ∨
        ∃ spelling, table.underlying (.named ref) = .other spelling) :
      Classifies table depth path (.named ref) (.other ref.path ref.text)

/-! ## The shape at a depth -/

/-- The shape of a type at a depth, while some names are being expanded. -/
def shapeAt
    (table : Declarations) (depth : Nat) (path : List QualifiedName) (type : HostType) : Shape :=
  table.shapeWithin (expansionLimit + 1 - depth) path type

variable {table : Declarations} {depth : Nat} {path : List QualifiedName}

theorem shapeAt_of_deep
    (deep : expansionLimit < depth) (type : HostType) :
    table.shapeAt depth path type = .other "" type.text := by
  rw [shapeAt, Nat.sub_eq_zero_of_le deep]
  rfl

/-- The shape of a name at a depth, while some names are being expanded. -/
def shapeOfName
    (table : Declarations) (depth : Nat) (path : List QualifiedName) (ref : QualifiedName) :
    Shape :=
  match table.lookup ref with
  | none => .other "" ref.text
  | some declaration =>
    if path.contains ref then .other "" ref.text
    else
      match declaration.definition with
      | .alias target => table.shapeAt (depth + 1) (ref :: path) target
      | .defined _ =>
        Shape.ofDefined ref (table.shapeAt (depth + 1) (ref :: path))
          (table.underlying (.named ref))

/-- Above the limit the parts of a type are at the same depth, and a name leads one level deeper. -/
theorem shapeAt_eq
    (shallow : depth ≤ expansionLimit) (type : HostType) :
    table.shapeAt depth path type = Shape.ofType (table.shapeOfName depth path) type := by
  rw [shapeAt, Nat.sub_add_comm shallow, ← Nat.add_sub_add_right expansionLimit 1 depth]
  rfl

theorem shapeAt_pointer
    (shallow : depth ≤ expansionLimit) (target : HostType) :
    table.shapeAt depth path (.pointer target) =
      .pointer (table.shapeAt depth path target) ""
        ("*" ++ (table.shapeAt depth path target).display) := by
  rw [shapeAt_eq shallow target]
  exact shapeAt_eq shallow _

theorem shapeAt_slice
    (shallow : depth ≤ expansionLimit) (target : HostType) :
    table.shapeAt depth path (.slice target) =
      .slice (table.shapeAt depth path target) ""
        ("[]" ++ (table.shapeAt depth path target).display) := by
  rw [shapeAt_eq shallow target]
  exact shapeAt_eq shallow _

theorem shapeAt_map
    (shallow : depth ≤ expansionLimit) (keyType target : HostType) :
    table.shapeAt depth path (.map keyType target) =
      .map (table.shapeAt depth path keyType) (table.shapeAt depth path target) ""
        ("map[" ++ (table.shapeAt depth path keyType).display ++ "]" ++
          (table.shapeAt depth path target).display) := by
  rw [shapeAt_eq shallow keyType, shapeAt_eq shallow target]
  exact shapeAt_eq shallow _

theorem shapeAt_undeclared
    {ref : QualifiedName}
    (shallow : depth ≤ expansionLimit) (missing : table.lookup ref = none) :
    table.shapeAt depth path (.named ref) = .other "" ref.text := by
  rw [shapeAt_eq shallow, Shape.ofType, shapeOfName, missing]

theorem shapeAt_again
    {ref : QualifiedName} {declaration : Declaration}
    (shallow : depth ≤ expansionLimit) (found : table.lookup ref = some declaration)
    (repeated : ref ∈ path) :
    table.shapeAt depth path (.named ref) = .other "" ref.text := by
  simp [shapeAt_eq shallow, Shape.ofType, shapeOfName, found, repeated]

theorem shapeAt_alias
    {ref name : QualifiedName} {target : HostType} {methods : List Method}
    (shallow : depth ≤ expansionLimit)
    (found : table.lookup ref = some ⟨name, .alias target, methods⟩) (fresh : ref ∉ path) :
    table.shapeAt depth path (.named ref) = table.shapeAt (depth + 1) (ref :: path) target := by
  simp [shapeAt_eq shallow, Shape.ofType, shapeOfName, found, fresh]

theorem Expands.shapeAt_eq
    {ref : QualifiedName} (expands : table.Expands depth path ref) :
    table.shapeAt depth path (.named ref) =
      Shape.ofDefined ref (table.shapeAt (depth + 1) (ref :: path))
        (table.underlying (.named ref)) := by
  obtain ⟨shallow, fresh, name, body, methods, found⟩ := expands
  simp [Declarations.shapeAt_eq shallow, Shape.ofType, shapeOfName, found, fresh]

/-! ## Every type has one shape -/

/-- The rules give no other shape than the one that is computed. -/
theorem Classifies.eq_shapeAt
    {type : HostType} {shape : Shape} (run : table.Classifies depth path type shape) :
    shape = table.shapeAt depth path type := by
  induction run with
  | tooDeep type deep => rw [shapeAt_of_deep deep]
  | basic kind shallow => rw [shapeAt_eq shallow, Shape.ofType]
  | pointer shallow _ ih => rw [shapeAt_pointer shallow, ← ih]
  | slice shallow _ ih => rw [shapeAt_slice shallow, ← ih]
  | map shallow _ _ ih_key ih => rw [shapeAt_map shallow, ← ih_key, ← ih]
  | record body shallow => rw [shapeAt_eq shallow, Shape.ofType]
  | interface shallow => rw [shapeAt_eq shallow, Shape.ofType]
  | other spelling shallow => rw [shapeAt_eq shallow, Shape.ofType]
  | undeclared shallow missing => rw [shapeAt_undeclared shallow missing]
  | again shallow found repeated => rw [shapeAt_again shallow found repeated]
  | aliased shallow found fresh _ ih => rw [shapeAt_alias shallow found fresh, ih]
  | definedBasic expands form => rw [expands.shapeAt_eq, form, Shape.ofDefined]
  | definedPointer expands form _ ih => rw [expands.shapeAt_eq, form, Shape.ofDefined, ← ih]
  | definedSlice expands form _ ih => rw [expands.shapeAt_eq, form, Shape.ofDefined, ← ih]
  | definedMap expands form _ _ ih_key ih =>
      rw [expands.shapeAt_eq, form, Shape.ofDefined, ← ih_key, ← ih]
  | definedRecord expands form => rw [expands.shapeAt_eq, form, Shape.ofDefined]
  | definedInterface expands form => rw [expands.shapeAt_eq, form, Shape.ofDefined]
  | definedOther expands unstructured =>
      rcases unstructured with ⟨other, form⟩ | ⟨spelling, form⟩ <;>
        rw [expands.shapeAt_eq, form, Shape.ofDefined]

/-- The rules come to an end at every type: a part is smaller, and what stands behind a name is one
level deeper. -/
theorem classifies_shapeAt
    (depth : Nat) (path : List QualifiedName) (type : HostType) :
    table.Classifies depth path type (table.shapeAt depth path type) := by
  rcases Nat.lt_or_ge expansionLimit depth with deep | shallow
  · rw [shapeAt_of_deep deep]
    exact .tooDeep type deep
  · match type with
    | .primitive kind =>
        rw [shapeAt_eq shallow, Shape.ofType]
        exact .basic kind shallow
    | .pointer target =>
        rw [shapeAt_pointer shallow]
        exact .pointer shallow (classifies_shapeAt depth path target)
    | .slice element =>
        rw [shapeAt_slice shallow]
        exact .slice shallow (classifies_shapeAt depth path element)
    | .map key element =>
        rw [shapeAt_map shallow]
        exact .map shallow (classifies_shapeAt depth path key)
          (classifies_shapeAt depth path element)
    | .interface =>
        rw [shapeAt_eq shallow, Shape.ofType]
        exact .interface shallow
    | .record body =>
        rw [shapeAt_eq shallow, Shape.ofType]
        exact .record body shallow
    | .other spelling =>
        rw [shapeAt_eq shallow, Shape.ofType]
        exact .other spelling shallow
    | .named ref =>
        have deeper : expansionLimit + 1 - (depth + 1) < expansionLimit + 1 - depth := by omega
        cases found : table.lookup ref with
        | none =>
            rw [shapeAt_undeclared shallow found]
            exact .undeclared shallow found
        | some declaration =>
            obtain ⟨name, definition, methods⟩ := declaration
            by_cases repeated : ref ∈ path
            · rw [shapeAt_again shallow found repeated]
              exact .again shallow found repeated
            · rcases definition with target | body
              · rw [shapeAt_alias shallow found repeated]
                exact .aliased shallow found repeated
                  (classifies_shapeAt (depth + 1) (ref :: path) target)
              · have expands : table.Expands depth path ref :=
                  ⟨shallow, repeated, name, body, methods, found⟩
                rw [expands.shapeAt_eq]
                cases form : table.underlying (.named ref) with
                | primitive kind => exact .definedBasic expands form
                | pointer target =>
                    exact .definedPointer expands form
                      (classifies_shapeAt (depth + 1) (ref :: path) target)
                | slice element =>
                    exact .definedSlice expands form
                      (classifies_shapeAt (depth + 1) (ref :: path) element)
                | map key element =>
                    exact .definedMap expands form
                      (classifies_shapeAt (depth + 1) (ref :: path) key)
                      (classifies_shapeAt (depth + 1) (ref :: path) element)
                | record body => exact .definedRecord expands form
                | interface => exact .definedInterface expands form
                | named other => exact .definedOther expands (.inl ⟨other, form⟩)
                | other spelling => exact .definedOther expands (.inr ⟨spelling, form⟩)
termination_by (expansionLimit + 1 - depth, type.size)
decreasing_by
  all_goals first
    | exact Prod.Lex.left _ _ deeper
    | exact Prod.Lex.right _ (by simp only [HostType.size]; omega)

/-- The rules give a type exactly the shape that is computed. -/
theorem classifies_iff
    {type : HostType} {shape : Shape} :
    table.Classifies depth path type shape ↔ shape = table.shapeAt depth path type := by
  constructor
  · exact Classifies.eq_shapeAt
  · rintro rfl
    exact classifies_shapeAt depth path type

/-! ## Records in a shape -/

/-- A node that is a record has neither namespace nor name, or those of a declared name. -/
def NamesRecord (table : Declarations) (node : Shape) : Prop :=
  node.kind = .record →
    (node.home = "" ∧ node.recordName = "") ∨
      ∃ ref declaration, table.lookup ref = some declaration ∧
        node.home = ref.path ∧ node.recordName = ref.name

/-- Every record inside a shape is a record body or goes by a declared name. -/
theorem Classifies.namesRecord
    {type : HostType} {shape : Shape} (run : table.Classifies depth path type shape) :
    ∀ node ∈ shape.nodes, table.NamesRecord node := by
  induction run with
  | basic | interface | other | tooDeep | undeclared | again | definedBasic | definedInterface
  | definedOther =>
      rw [Shape.nodes, List.forall_mem_singleton]
      nofun
  | record =>
      rw [Shape.nodes, List.forall_mem_singleton]
      exact fun _ => .inl ⟨rfl, rfl⟩
  | @definedRecord _ _ ref _ expands _ =>
      obtain ⟨name, body, methods, found⟩ := expands.defined
      rw [Shape.nodes, List.forall_mem_singleton]
      exact fun _ => .inr ⟨ref, _, found, rfl, rfl⟩
  | aliased _ _ _ _ ih => exact ih
  | pointer _ _ ih | slice _ _ ih | definedPointer _ _ _ ih | definedSlice _ _ _ ih =>
      rw [Shape.nodes, List.forall_mem_cons]
      exact ⟨nofun, ih⟩
  | map _ _ _ ih_key ih | definedMap _ _ _ _ ih_key ih =>
      rw [Shape.nodes, List.forall_mem_cons, List.forall_mem_append]
      exact ⟨nofun, ih_key, ih⟩

/-- Classification ends at every type, with one shape, which is well formed at each node if no name
without a path or a name proper is declared. -/
theorem classification_wellFormed
    (named : ∀ ref declaration, table.lookup ref = some declaration →
      ref.path ≠ "" ∧ ref.name ≠ "")
    (type : HostType) :
    (∀ shape, table.Classifies 0 [] type shape ↔ shape = table.shapeOf type) ∧
      ∀ node ∈ (table.shapeOf type).nodes, node.WellFormed := by
  refine ⟨fun shape => classifies_iff, fun node here => ?_⟩
  apply Shape.wellFormed_of_identified
  intro record
  rcases (classifies_shapeAt 0 [] type).namesRecord node here record with
    ⟨home, name⟩ | ⟨ref, declaration, found, home, name⟩
  · simp [home, name]
  · obtain ⟨path, proper⟩ := named ref declaration found
    simp [home, name, path, proper]

/-- Two maps that mention each other and themselves, one of them with records. -/
def mutualMaps : Declarations :=
  let entry (name : String) (body : HostType) : QualifiedName × Declaration :=
    (⟨"m", name⟩, ⟨⟨"m", name⟩, .defined body, []⟩)
  ⟨[entry "A" (.map (.named ⟨"m", "B"⟩) (.pointer (.named ⟨"m", "A"⟩))),
    entry "B" (.map (.named ⟨"m", "A"⟩) (.named ⟨"m", "Card"⟩)), entry "Card" (.record [])]⟩

/-- The shape of the first of the two maps. -/
def mutualMapsShape : Shape :=
  .map (.map (.other "" "m.A") (.record "m" "Card" "m.Card") "m" "m.B")
    (.pointer (.other "" "m.A") "" "*m.A") "m" "m.A"

theorem classification_wellFormed_mutualMaps :
    (∀ ref declaration, mutualMaps.lookup ref = some declaration →
      ref.path ≠ "" ∧ ref.name ≠ "") ∧
    mutualMaps.Classifies 0 [] (.named ⟨"m", "A"⟩) mutualMapsShape ∧
    ∀ node ∈ mutualMapsShape.nodes, node.WellFormed := by
  have named : ∀ ref declaration, mutualMaps.lookup ref = some declaration →
      ref.path ≠ "" ∧ ref.name ≠ "" := by
    have all_named : ∀ ref ∈ mutualMaps.names, ref.path ≠ "" ∧ ref.name ≠ "" := by decide
    exact fun ref declaration found => all_named ref (mem_names_of_lookup found)
  have shape : mutualMapsShape = mutualMaps.shapeOf (.named ⟨"m", "A"⟩) := by decide
  obtain ⟨ends, wellFormed⟩ := classification_wellFormed named (.named ⟨"m", "A"⟩)
  exact ⟨named, (ends _).2 shape, shape ▸ wellFormed⟩

end Declarations
end RecordConversion
