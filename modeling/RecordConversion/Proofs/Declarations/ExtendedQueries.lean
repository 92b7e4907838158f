import RecordConversion.Proofs.Declarations.Extension
import RecordConversion.Shape

/-!
# Relations and shapes in an extended table

The relations between covered types are put together from their meanings, underlying types and
expansions, the search for a text of a type goes from a covered type to covered types, and so does
the shape of a type.  Hence declarations that are added to a closed table change none of them.

* `Declarations.Grows.convertible_eq`: relations between types.
* `Declarations.Grows.supportsStringer_eq`: types with a text of their own.
* `Declarations.Grows.shapeOf_eq`: shapes.
-/

namespace RecordConversion

/-- The shape of a type depends on the shapes of the names in it. -/
theorem Shape.ofType_congr
    {shapes shapes' : QualifiedName → Shape} (type : HostType)
    (same : ∀ ref ∈ type.names, shapes ref = shapes' ref) :
    Shape.ofType shapes type = Shape.ofType shapes' type := by
  fun_induction Shape.ofType shapes type with
  | case1 | case5 | case6 | case7 => rfl
  | case2 target element ih => simp only [ofType, ← ih same, element]
  | case3 type element ih => simp only [ofType, ← ih same, element]
  | case4 keyType type key element ih_key ih_element =>
      simp only [HostType.names, List.mem_append] at same
      simp only [ofType, ← ih_key fun ref here => same ref (.inl here),
        ← ih_element fun ref here => same ref (.inr here), key, element]
  | case8 ref => exact same ref (List.mem_singleton_self ref)

namespace Declarations

variable {table larger : Declarations} {type a b : HostType}

/-! ## What a closed table gives -/

section Closed

variable (closed : table.Closed)
include closed

theorem Closed.covers_pointerTargets?
    {a' b' : HostType} (covered : table.Covers a) (covered' : table.Covers b)
    (found : table.pointerTargets? a b = some (a', b')) :
    table.Covers a' ∧ table.Covers b' := by
  have meaning := closed.covers_resolve covered
  have meaning' := closed.covers_resolve covered'
  rw [pointerTargets?] at found
  split at found
  · next resolved resolved' =>
      cases found
      rw [resolved] at meaning
      rw [resolved'] at meaning'
      exact ⟨meaning, meaning'⟩
  · cases found

theorem Closed.covers_embeddedBase
    (covered : table.Covers type) :
    table.Covers (table.embeddedBase type) := by
  have meaning := closed.covers_resolve covered
  rw [embeddedBase]
  split
  · next target resolved =>
      rw [resolved] at meaning
      exact closed.covers_resolve (covers_pointer.1 meaning)
  · exact meaning

/-- A covered type adds covered types to the next tier. -/
theorem Closed.covers_visitTier
    {tier : Tier} (covered : table.Covers type) (next : ∀ base ∈ tier.next, table.Covers base) :
    ∀ base ∈ (table.visitTier tier type).next, table.Covers base := by
  cases type with
  | named ref =>
      simp only [visitTier]
      split
      · exact next
      · split
        · exact next
        · split
          · split <;> exact next
          · split
            · exact next
            · next body found =>
                intro base member
                rcases List.mem_append.1 member with earlier | added
                · exact next base earlier
                · obtain ⟨outer, kept, rfl⟩ := List.mem_map.1 added
                  exact closed.covers_embeddedBase
                    (closed.covers_recordBody? covered found outer (List.mem_of_mem_filter kept))
  | _ => exact next

theorem Closed.covers_foldl_visitTier
    {level : List HostType} {tier : Tier}
    (covered : ∀ type ∈ level, table.Covers type) (next : ∀ base ∈ tier.next, table.Covers base) :
    ∀ base ∈ (level.foldl table.visitTier tier).next, table.Covers base := by
  induction level generalizing tier with
  | nil => exact next
  | cons first rest ih =>
      rw [List.forall_mem_cons] at covered
      exact ih covered.2 (closed.covers_visitTier covered.1 next)

end Closed

section Grows

variable (grows : table.Grows larger)
include grows

/-! ## Relations -/

section Relations

variable (covered : table.Covers a) (covered' : table.Covers b)
include covered covered'

theorem Grows.sameExpansion_eq :
    larger.sameExpansion a b = table.sameExpansion a b := by
  rw [sameExpansion, sameExpansion, grows.expand?_eq covered, grows.expand?_eq covered']

theorem Grows.sameExpansion_underlying_eq :
    larger.sameExpansion (larger.underlying a) (larger.underlying b) =
      table.sameExpansion (table.underlying a) (table.underlying b) := by
  rw [grows.underlying_eq covered, grows.underlying_eq covered',
    grows.sameExpansion_eq (grows.closed.covers_underlying covered)
      (grows.closed.covers_underlying covered')]

theorem Grows.identical_eq :
    larger.identical a b = table.identical a b := by
  rw [identical, identical, grows.sameExpansion_eq covered covered']

omit covered' in
theorem Grows.isNamed_eq :
    larger.isNamed a = table.isNamed a := by
  rw [isNamed, isNamed, grows.resolve_eq covered]

theorem Grows.assignable_eq :
    larger.assignable a b = table.assignable a b := by
  rw [assignable, assignable, grows.identical_eq covered covered', grows.isNamed_eq covered,
    grows.isNamed_eq covered', grows.sameExpansion_underlying_eq covered covered',
    grows.underlying_eq covered']

omit covered' in
theorem Grows.isCharacter_eq :
    larger.isCharacter a = table.isCharacter a := by
  rw [isCharacter, isCharacter, grows.underlying_eq covered]

theorem Grows.convertibleShapes_eq :
    larger.convertibleShapes a b = table.convertibleShapes a b := by
  cases a <;> cases b <;> try rfl
  case primitive.slice kind element =>
    cases kind <;> first | rfl | exact grows.isCharacter_eq (covers_slice.1 covered')
  case slice.primitive element kind =>
    cases kind <;> first | rfl | exact grows.isCharacter_eq (covers_slice.1 covered)

theorem Grows.pointerTargets?_eq :
    larger.pointerTargets? a b = table.pointerTargets? a b := by
  rw [pointerTargets?, pointerTargets?, grows.resolve_eq covered, grows.resolve_eq covered']

theorem Grows.convertible_eq :
    larger.convertible a b = table.convertible a b := by
  have below := grows.closed.covers_underlying covered
  have below' := grows.closed.covers_underlying covered'
  rw [convertible, convertible, grows.assignable_eq covered covered',
    grows.sameExpansion_underlying_eq covered covered', grows.pointerTargets?_eq covered covered',
    grows.underlying_eq covered, grows.underlying_eq covered', grows.expand?_eq below,
    grows.expand?_eq below']
  cases targets : table.pointerTargets? a b with
  | some pair =>
      obtain ⟨inner, inner'⟩ := grows.closed.covers_pointerTargets? covered covered' targets
      simp only [grows.sameExpansion_underlying_eq inner inner']
  | none =>
      cases found : table.expand? (table.underlying a) with
      | none => rfl
      | some expanded =>
          cases found' : table.expand? (table.underlying b) with
          | none => rfl
          | some expanded' =>
              have parts := grows.closed.covers_expandWithin _ below found
              have parts' := grows.closed.covers_expandWithin _ below' found'
              simp only [grows.convertibleShapes_eq parts parts']

end Relations

/-! ## Types with a text of their own -/

theorem Grows.embeddedBase_eq
    (covered : table.Covers type) :
    larger.embeddedBase type = table.embeddedBase type := by
  have meaning := grows.closed.covers_resolve covered
  rw [embeddedBase, embeddedBase, grows.resolve_eq covered]
  split
  · next target resolved =>
      rw [resolved] at meaning
      exact grows.resolve_eq (covers_pointer.1 meaning)
  · rfl

theorem Grows.visitTier_eq
    (tier : Tier) (covered : table.Covers type) :
    larger.visitTier tier type = table.visitTier tier type := by
  cases type with
  | named ref =>
      simp only [visitTier, grows.lookup_eq covered, grows.recordBody?_eq covered]
      cases found : table.recordBody? (.named ref) with
      | none => rfl
      | some body =>
          have members := grows.closed.covers_recordBody? covered found
          have bases :
              (body.filter (·.embedded)).map (fun member => larger.embeddedBase member.type) =
                (body.filter (·.embedded)).map (fun member => table.embeddedBase member.type) :=
            List.map_congr_left fun member kept =>
              grows.embeddedBase_eq (members member (List.mem_of_mem_filter kept))
          simp only [bases]
  | _ => rfl

theorem Grows.foldl_visitTier_eq
    {level : List HostType} (tier : Tier) (covered : ∀ type ∈ level, table.Covers type) :
    level.foldl larger.visitTier tier = level.foldl table.visitTier tier := by
  induction level generalizing tier with
  | nil => rw [List.foldl_nil, List.foldl_nil]
  | cons first rest ih =>
      rw [List.forall_mem_cons] at covered
      rw [List.foldl_cons, List.foldl_cons, grows.visitTier_eq tier covered.1, ih _ covered.2]

theorem Grows.stringerFrom_eq
    (depth : Nat) (seen : List QualifiedName) {level : List HostType} (colliding : Nat)
    (covered : ∀ type ∈ level, table.Covers type) :
    larger.stringerFrom depth seen level colliding =
      table.stringerFrom depth seen level colliding := by
  induction depth generalizing seen level colliding with
  | zero => rfl
  | succ depth ih =>
      rw [stringerFrom, stringerFrom, grows.foldl_visitTier_eq _ covered]
      have next :
          ∀ base ∈ (level.foldl table.visitTier ⟨seen, 0, 0, 0, []⟩).next, table.Covers base :=
        grows.closed.covers_foldl_visitTier covered nofun
      simp only [ih _ _ next]

theorem Grows.supportsStringer_eq
    (covered : table.Covers type) :
    larger.supportsStringer type = table.supportsStringer type := by
  have base := grows.closed.covers_embeddedBase covered
  rw [supportsStringer, supportsStringer, grows.embeddedBase_eq covered]
  split
  · next ref found =>
      refine grows.stringerFrom_eq _ _ _ fun first member => ?_
      obtain rfl := List.mem_singleton.1 member
      exact found ▸ base
  · rfl

/-! ## Shapes -/

omit grows in
/-- The shape of a defined name depends on those of covered types only. -/
theorem ofDefined_congr
    {shapes shapes' : HostType → Shape} (ref : QualifiedName)
    (same : ∀ part, table.Covers part → shapes part = shapes' part)
    (covered : table.Covers type) :
    Shape.ofDefined ref shapes type = Shape.ofDefined ref shapes' type := by
  cases type with
  | pointer target => simp only [Shape.ofDefined, same _ (covers_pointer.1 covered)]
  | slice element => simp only [Shape.ofDefined, same _ (covers_slice.1 covered)]
  | map key element =>
      obtain ⟨index, value⟩ := covers_map.1 covered
      simp only [Shape.ofDefined, same _ index, same _ value]
  | _ => rfl

theorem Grows.shapeWithin_eq
    (room : Nat) (path : List QualifiedName) (covered : table.Covers type) :
    larger.shapeWithin room path type = table.shapeWithin room path type := by
  induction room generalizing path type with
  | zero => rfl
  | succ room ih =>
      rw [shapeWithin, shapeWithin]
      refine Shape.ofType_congr type fun ref named => ?_
      obtain ⟨declaration, found⟩ := covered ref named
      have declared := covers_named.2 ⟨declaration, found⟩
      have definition := grows.closed ref declaration found
      rw [grows.lookup_eq declared, found, grows.underlying_eq declared]
      simp only
      split
      · rfl
      · split
        · next target aliased =>
            rw [aliased] at definition
            exact ih _ definition
        · exact ofDefined_congr ref (fun part => ih _) (grows.closed.covers_underlying declared)

/-- Shapes look only at what is declared. -/
theorem Grows.shapeOf_eq
    (covered : table.Covers type) :
    larger.shapeOf type = table.shapeOf type :=
  grows.shapeWithin_eq _ _ covered

end Grows

end Declarations
end RecordConversion
