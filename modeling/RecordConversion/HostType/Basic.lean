import RecordConversion.HostType.Primitive

/-!
# Types of the host language

A host type is a basic type, a reference to a declared name, or put together from other types.  What
a name stands for is not part of the type: it is looked up in the declarations.  Arrays, channels,
functions and literal record bodies that only appear as text are kept as text.

`HostType.text` is the spelling with full namespace paths; equality is decidable.
-/

namespace RecordConversion

/-- A name in a namespace, which is given by its path. -/
structure QualifiedName where
  path : String
  name : String
  deriving DecidableEq, Repr, Inhabited

namespace QualifiedName

/-- The path and the name with a dot between them; a name without a path stands alone. -/
def text (ref : QualifiedName) : String :=
  if ref.path.isEmpty then ref.name else ref.path ++ "." ++ ref.name

/-- The path and the name with a dot between them, whatever they are. -/
def key (ref : QualifiedName) : String :=
  ref.path ++ "." ++ ref.name

end QualifiedName

/-- One member of a record body, over the types of its members. -/
structure Member (Ty : Type) where
  name : String
  type : Ty
  /-- An anonymous member, whose own fields are promoted into the record. -/
  embedded : Bool
  /-- The member can be used outside its namespace. -/
  visible : Bool
  deriving DecidableEq, Repr, Inhabited

/-- A type as the host language spells it. -/
inductive HostType where
  | primitive (kind : Primitive)
  | named (ref : QualifiedName)
  | pointer (target : HostType)
  | slice (element : HostType)
  | map (key value : HostType)
  | interface
  | record (body : List (Member HostType))
  | other (text : String)
  deriving Repr, Inhabited

/-- A member of a record body. -/
abbrev Field := Member HostType

namespace HostType

/-! ## Spelling -/

mutual

/-- The spelling of a type with full namespace paths. -/
def text : HostType → String
  | .primitive kind => kind.name
  | .named ref => ref.text
  | .pointer target => "*" ++ target.text
  | .slice element => "[]" ++ element.text
  | .map key value => "map[" ++ key.text ++ "]" ++ value.text
  | .interface => "interface\x7b\x7d"
  | .record body => "struct\x7b" ++ "; ".intercalate (memberTexts body) ++ "\x7d"
  | .other spelling => spelling

/-- The spellings of the members of a body; an embedded member shows its type alone. -/
def memberTexts : List Field → List String
  | [] => []
  | ⟨name, type, embedded, _⟩ :: rest =>
    (if embedded then type.text else name ++ " " ++ type.text) :: memberTexts rest

end

/-! ## Size -/

mutual

/-- The number of nodes of a type. -/
def size : HostType → Nat
  | .pointer target => target.size + 1
  | .slice element => element.size + 1
  | .map key value => key.size + value.size + 1
  | .record body => memberSizes body + 1
  | _ => 1

/-- The number of nodes of the types of members. -/
def memberSizes : List Field → Nat
  | [] => 0
  | ⟨_, type, _, _⟩ :: rest => type.size + memberSizes rest

end

/-! ## Equality -/

mutual

/-- Equality of types, as a test. -/
def same : HostType → HostType → Bool
  | .primitive a, .primitive b => a == b
  | .named a, .named b => a == b
  | .pointer a, .pointer b => same a b
  | .slice a, .slice b => same a b
  | .map k v, .map k' v' => same k k' && same v v'
  | .interface, .interface => true
  | .record a, .record b => sameMembers a b
  | .other a, .other b => a == b
  | _, _ => false

/-- Equality of record bodies, as a test. -/
def sameMembers : List Field → List Field → Bool
  | [], [] => true
  | ⟨n, t, e, v⟩ :: rest, ⟨n', t', e', v'⟩ :: rest' =>
    n == n' && same t t' && e == e' && v == v' && sameMembers rest rest'
  | _, _ => false

end

mutual

theorem eq_of_same :
    ∀ a b : HostType, same a b = true → a = b := by
  intro a b h
  cases a <;> cases b <;> simp only [same, Bool.and_eq_true, beq_iff_eq, Bool.false_eq_true] at h
  case primitive.primitive => rw [h]
  case named.named => rw [h]
  case pointer.pointer a b => rw [eq_of_same a b h]
  case slice.slice a b => rw [eq_of_same a b h]
  case map.map k v k' v' => rw [eq_of_same k k' h.1, eq_of_same v v' h.2]
  case interface.interface => rfl
  case record.record a b => rw [eq_of_sameMembers a b h]
  case other.other => rw [h]

theorem eq_of_sameMembers :
    ∀ a b : List Field, sameMembers a b = true → a = b
  | [], [], _ => rfl
  | [], _ :: _, h => by simp [sameMembers] at h
  | _ :: _, [], h => by simp [sameMembers] at h
  | ⟨n, t, e, v⟩ :: rest, ⟨n', t', e', v'⟩ :: rest', h => by
      simp only [sameMembers, Bool.and_eq_true, beq_iff_eq] at h
      obtain ⟨⟨⟨⟨hn, ht⟩, he⟩, hv⟩, hr⟩ := h
      rw [hn, eq_of_same t t' ht, he, hv, eq_of_sameMembers rest rest' hr]

end

mutual

theorem same_self :
    ∀ a : HostType, same a a = true
  | .primitive _ => by simp [same]
  | .named _ => by simp [same]
  | .pointer target => by simp [same, same_self target]
  | .slice element => by simp [same, same_self element]
  | .map key value => by simp [same, same_self key, same_self value]
  | .interface => by simp [same]
  | .record body => by simp [same, sameMembers_self body]
  | .other _ => by simp [same]

theorem sameMembers_self :
    ∀ a : List Field, sameMembers a a = true
  | [] => by simp [sameMembers]
  | ⟨_, type, _, _⟩ :: rest => by simp [sameMembers, same_self type, sameMembers_self rest]

end

/-- The test decides equality. -/
theorem same_iff
    {a b : HostType} :
    same a b = true ↔ a = b :=
  ⟨eq_of_same a b, fun h => h ▸ same_self a⟩

instance : DecidableEq HostType := fun a b =>
  if h : same a b = true then isTrue (same_iff.1 h)
  else isFalse fun e => h (same_iff.2 e)

end HostType
end RecordConversion
