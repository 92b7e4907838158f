import RecordConversion.HostType.Basic

/-!
# Parts of types

The types inside a type, itself included: one for each of its nodes.  A part of a part is a part.
The children of a type are the parts that it is directly put together from.
-/

namespace RecordConversion
namespace HostType

mutual

/-- A type and the types inside it. -/
def parts : HostType → List HostType
  | .pointer target => .pointer target :: target.parts
  | .slice element => .slice element :: element.parts
  | .map key value => .map key value :: (key.parts ++ value.parts)
  | .record body => .record body :: memberParts body
  | .primitive kind => [.primitive kind]
  | .named ref => [.named ref]
  | .interface => [.interface]
  | .other spelling => [.other spelling]

/-- The types of members and the types inside them. -/
def memberParts : List Field → List HostType
  | [] => []
  | ⟨_, type, _, _⟩ :: rest => type.parts ++ memberParts rest

end

@[simp]
theorem self_mem_parts
    (type : HostType) :
    type ∈ type.parts := by
  cases type <;> simp [parts]

mutual

/-- A type has as many parts as nodes. -/
theorem length_parts :
    ∀ type : HostType, type.parts.length = type.size
  | .pointer target => by simp [parts, size, length_parts target]
  | .slice element => by simp [parts, size, length_parts element]
  | .map key value => by simp [parts, size, length_parts key, length_parts value]
  | .record body => by simp [parts, size, length_memberParts body]
  | .primitive _ => rfl
  | .named _ => rfl
  | .interface => rfl
  | .other _ => rfl

theorem length_memberParts :
    ∀ body : List Field, (memberParts body).length = memberSizes body
  | [] => rfl
  | ⟨_, type, _, _⟩ :: rest => by
      simp [memberParts, memberSizes, length_parts type, length_memberParts rest]

end

mutual

/-- The parts of a part are parts. -/
theorem mem_parts_trans
    {inner middle : HostType} (deep : inner ∈ middle.parts) :
    ∀ outer : HostType, middle ∈ outer.parts → inner ∈ outer.parts
  | .pointer target, h => by
      simp only [parts, List.mem_cons] at h ⊢
      rcases h with rfl | h
      · simpa [parts] using deep
      · exact .inr (mem_parts_trans deep target h)
  | .slice element, h => by
      simp only [parts, List.mem_cons] at h ⊢
      rcases h with rfl | h
      · simpa [parts] using deep
      · exact .inr (mem_parts_trans deep element h)
  | .map key value, h => by
      simp only [parts, List.mem_cons, List.mem_append] at h ⊢
      rcases h with rfl | h | h
      · simpa [parts] using deep
      · exact .inr (.inl (mem_parts_trans deep key h))
      · exact .inr (.inr (mem_parts_trans deep value h))
  | .record body, h => by
      simp only [parts, List.mem_cons] at h ⊢
      rcases h with rfl | h
      · simpa [parts] using deep
      · exact .inr (mem_memberParts_trans deep body h)
  | .primitive _, h => by
      simp only [parts, List.mem_singleton] at h
      exact h ▸ deep
  | .named _, h => by
      simp only [parts, List.mem_singleton] at h
      exact h ▸ deep
  | .interface, h => by
      simp only [parts, List.mem_singleton] at h
      exact h ▸ deep
  | .other _, h => by
      simp only [parts, List.mem_singleton] at h
      exact h ▸ deep

theorem mem_memberParts_trans
    {inner middle : HostType} (deep : inner ∈ middle.parts) :
    ∀ body : List Field, middle ∈ memberParts body → inner ∈ memberParts body
  | [], h => by simp [memberParts] at h
  | ⟨_, type, _, _⟩ :: rest, h => by
      simp only [memberParts, List.mem_append] at h ⊢
      rcases h with h | h
      · exact .inl (mem_parts_trans deep type h)
      · exact .inr (mem_memberParts_trans deep rest h)

end

/-! ## Children -/

/-- The types that a type is directly put together from. -/
def children : HostType → List HostType
  | .pointer target => [target]
  | .slice element => [element]
  | .map key value => [key, value]
  | .record body => body.map (·.type)
  | .primitive _ | .named _ | .interface | .other _ => []

theorem size_le_memberSizes
    {body : List Field} {member : Field}
    (here : member ∈ body) :
    member.type.size ≤ memberSizes body := by
  induction body with
  | nil => cases here
  | cons first rest ih =>
      rw [memberSizes]
      rcases List.mem_cons.1 here with rfl | later
      · exact Nat.le_add_right _ _
      · exact Nat.le_trans (ih later) (Nat.le_add_left _ _)

theorem mem_memberParts
    {body : List Field} {member : Field}
    (here : member ∈ body) :
    member.type ∈ memberParts body := by
  induction body with
  | nil => cases here
  | cons first rest ih =>
      rw [memberParts, List.mem_append]
      rcases List.mem_cons.1 here with rfl | later
      · exact .inl (self_mem_parts _)
      · exact .inr (ih later)

theorem size_lt_of_mem_children
    {type child : HostType}
    (member : child ∈ type.children) :
    child.size < type.size := by
  cases type <;> simp only [children, List.mem_cons, List.not_mem_nil, or_false] at member
  case pointer => simp [size, member]
  case slice => simp [size, member]
  case map =>
    rcases member with rfl | rfl <;> simp only [size] <;> omega
  case record body =>
    obtain ⟨field, here, rfl⟩ := List.mem_map.1 member
    exact Nat.lt_succ_of_le (size_le_memberSizes here)

theorem mem_parts_of_mem_children
    {type child : HostType}
    (member : child ∈ type.children) :
    child ∈ type.parts := by
  cases type <;> simp only [children, List.mem_cons, List.not_mem_nil, or_false] at member
  case pointer => simp [parts, member]
  case slice => simp [parts, member]
  case map =>
    rcases member with rfl | rfl <;> simp [parts]
  case record body =>
    obtain ⟨field, here, rfl⟩ := List.mem_map.1 member
    exact List.mem_cons_of_mem _ (mem_memberParts here)

end HostType
end RecordConversion
