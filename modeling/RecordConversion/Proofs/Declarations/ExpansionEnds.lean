import RecordConversion.Proofs.Declarations.Promotion
import RecordConversion.Proofs.Declarations.SelfMentions

/-!
# Expansions that end

The expansion of a type goes down to a depth that is computed from the type and the table.  Each
step takes a child of what a part resolves to, and the parts are finitely many, so the depth is
never what stops it: an expansion that would end at all ends in time.

* `Declarations.isSome_expand?_iff_ends`: the expansion yields a type exactly if the recursion ends.
-/

namespace RecordConversion
namespace Declarations

open HostType (Inside)

variable {table : Declarations}

theorem isSome_mapM
    {α β : Type} (f : α → Option β) (items : List α) :
    (items.mapM f).isSome = true ↔ ∀ item ∈ items, (f item).isSome = true := by
  induction items with
  | nil => simp
  | cons first rest ih =>
      rw [List.mapM_cons, List.forall_mem_cons, ← ih]
      cases f first <;> cases rest.mapM f <;> simp

/-- An expansion reaches a depth if those of the pieces reach one less. -/
theorem isSome_expandWithin_succ
    (depth : Nat) (type : HostType) :
    (table.expandWithin (depth + 1) type).isSome = true ↔
      ∀ next, table.Descends Inside type next → (table.expandWithin depth next).isSome = true := by
  simp only [Descends, Inside]
  rw [expandWithin]
  cases table.resolve type with
  | pointer target => simp [HostType.children]
  | slice element => simp [HostType.children]
  | map key value => cases found : table.expandWithin depth key <;> simp [HostType.children, found]
  | record body => simp [HostType.children, isSome_mapM]
  | _ => simp [HostType.children]

/-- A deeper expansion yields a type if a less deep one does. -/
theorem isSome_expandWithin_mono
    (depth : Nat) (type : HostType)
    (found : (table.expandWithin depth type).isSome = true) :
    (table.expandWithin (depth + 1) type).isSome = true := by
  induction depth generalizing type with
  | zero => cases found
  | succ depth ih =>
      rw [isSome_expandWithin_succ] at found ⊢
      exact fun next down => ih next (found next down)

theorem ends_of_isSome_expandWithin
    (depth : Nat) (type : HostType)
    (found : (table.expandWithin depth type).isSome = true) :
    table.Ends Inside type := by
  induction depth generalizing type with
  | zero => cases found
  | succ depth ih =>
      rw [isSome_expandWithin_succ] at found
      exact Acc.intro type fun next down => ih next (found next down)

/-- One depth serves all of finitely many expansions. -/
theorem exists_common_depth
    (types : List HostType)
    (each : ∀ type ∈ types, ∃ depth, (table.expandWithin depth type).isSome = true) :
    ∃ depth, ∀ type ∈ types, (table.expandWithin depth type).isSome = true := by
  induction types with
  | nil => exact ⟨0, by simp⟩
  | cons first rest ih =>
      rw [List.forall_mem_cons] at each
      obtain ⟨deep, first_found⟩ := each.1
      obtain ⟨depth, rest_found⟩ := ih each.2
      refine ⟨max deep depth, List.forall_mem_cons.2 ⟨?_, fun type member => ?_⟩⟩
      · exact holds_of_le isSome_expandWithin_mono (le_max_left _ _) first_found
      · exact holds_of_le isSome_expandWithin_mono (le_max_right _ _) (rest_found type member)

theorem Ends.exists_depth
    {type : HostType}
    (ends : table.Ends Inside type) :
    ∃ depth, (table.expandWithin depth type).isSome = true := by
  induction ends with
  | intro type _ ih =>
      obtain ⟨depth, found⟩ := exists_common_depth (table.resolve type).children ih
      exact ⟨depth + 1, (isSome_expandWithin_succ depth type).2 found⟩

/-- The expansion yields a type exactly if the recursion ends.  An expansion that is late for a part
is late for one of its pieces, so no depth is skipped. -/
theorem isSome_expand?_iff_ends
    (type : HostType) :
    (table.expand? type).isSome = true ↔ table.Ends Inside type := by
  constructor
  · exact ends_of_isSome_expandWithin _ type
  · intro ends
    obtain ⟨depth, found⟩ := ends.exists_depth
    rw [expand?, expansionDepth_eq]
    apply isSome_expandWithin_mono
    refine holds_after_length_rounds
      (fun depth type => (table.expandWithin depth type).isSome)
      isSome_expandWithin_mono ?_ (by simp [parts]) found
    intro depth item member now before
    by_contra none_late
    rw [isSome_expandWithin_succ] at now
    refine Bool.eq_false_iff.1 before ((isSome_expandWithin_succ depth item).2 fun next down => ?_)
    by_contra late
    exact none_late
      ⟨next, mem_parts_of_mem_children_resolve member down, now next down, Bool.eq_false_iff.2 late⟩

end Declarations
end RecordConversion
