import Mathlib.Algebra.GroupWithZero.Nat
import Mathlib.Data.List.Nodup
import RecordConversion.Declarations.Stringer
import RecordConversion.Proofs.Declarations.Names

/-!
# The search for a text, tier by tier

The search for a method `String` looks at a type once, at the first depth where it meets it.  Here
the depths are those of all paths through embedded members (`Declarations.reachedAt`), and what the
search finds is said in terms of them: `Declarations.TextRestsOn`.

A tier adds up what its new types offer (`Declarations.foldl_visitTier`).  That the types seen so
far are those of the lesser depths, without a method, is kept from tier to tier
(`Declarations.Searched.next`).

* `Declarations.supportsStringer_iff`: a type has a text exactly if one type decides at some depth.
-/

namespace RecordConversion
namespace Declarations

section Defs

variable (table : Declarations)

/-- The members of the record that a name stands for; none if it stands for something else. -/
def membersOf (ref : QualifiedName) : List Field :=
  (table.recordBody? (.named ref)).getD []

/-- The types of the embedded members of a record, without aliases and at most one pointer. -/
def embeddedTypes (ref : QualifiedName) : List HostType :=
  ((table.membersOf ref).filter (·.embedded)).map fun member => table.embeddedBase member.type

/-- The names that the embedded members of a record lead to, one for each member. -/
def embeddedNames (ref : QualifiedName) : List QualifiedName :=
  (table.embeddedTypes ref).filterMap fun type =>
    match type with
    | .named inner => some inner
    | _ => none

/-- The names at the ends of the paths of a length through embedded members, one for each path. -/
def reachedAt (root : QualifiedName) : Nat → List QualifiedName
  | 0 => [root]
  | depth + 1 => (reachedAt root depth).flatMap table.embeddedNames

/-- The methods `String` that are declared on a name. -/
def textMethods (ref : QualifiedName) : List Method :=
  ((table.lookup ref).elim [] (·.methods)).filter (·.name == "String")

/-- The members `String` of a record that are not embedded. -/
def plainTextFields (ref : QualifiedName) : List Field :=
  (table.membersOf ref).filter fun member => !member.embedded && member.name == "String"

/-- The first method `String` of a name gives a text. -/
def fits (ref : QualifiedName) : Bool :=
  (table.textMethods ref).head?.any Method.isStringer

/-- The first method `String` of a name does something else. -/
def misfits (ref : QualifiedName) : Bool :=
  (table.textMethods ref).head?.any fun method => !method.isStringer

/-- One type decides at a depth: its first method `String` gives a text, no other type of the depth
has a method of that name, and no type of a lesser depth has a method or a field of it. -/
structure TextRestsOn
    (root : QualifiedName) (depth : Nat) (owner : QualifiedName) : Prop where
  no_method : ∀ closer < depth, ∀ ref ∈ table.reachedAt root closer, table.textMethods ref = []
  no_field : ∀ closer < depth, ∀ ref ∈ table.reachedAt root closer, table.plainTextFields ref = []
  reached : owner ∈ table.reachedAt root depth
  fits : table.fits owner = true
  sole : ∀ other ∈ table.reachedAt root depth, table.textMethods other ≠ [] → other = owner

/-- Whatever is reached at all is reached within as many steps as the search takes. -/
def Shallow (root : QualifiedName) : Prop :=
  ∀ depth, ∀ ref ∈ table.reachedAt root depth,
    ∃ closer < expansionLimit, ref ∈ table.reachedAt root closer

end Defs

variable {table : Declarations} {root ref : QualifiedName}

theorem reachedAt_eq_nil_of_le
    {depth deeper : Nat} (order : depth ≤ deeper)
    (ended : table.reachedAt root depth = []) :
    table.reachedAt root deeper = [] := by
  induction order with
  | refl => exact ended
  | step _ ih => rw [reachedAt, ih, List.flatMap_nil]

/-- Embedding that ends within the steps of the search is shallow. -/
theorem shallow_of_reachedAt_eq_nil
    {depth : Nat} (near : depth ≤ expansionLimit)
    (ended : table.reachedAt root depth = []) :
    table.Shallow root := by
  intro deeper ref reached
  refine ⟨deeper, ?_, reached⟩
  rcases Nat.lt_or_ge deeper depth with before | after
  · omega
  · rw [reachedAt_eq_nil_of_le after ended] at reached
    cases reached

theorem fits_iff :
    table.fits ref = true ↔
      ∃ method, (table.textMethods ref).head? = some method ∧ method.isStringer = true := by
  cases first : (table.textMethods ref).head? with
  | none => simp [fits, first]
  | some method => simp [fits, first]

theorem fits_or_misfits
    (ref : QualifiedName) :
    table.textMethods ref = [] ∨ table.fits ref = true ∨ table.misfits ref = true := by
  cases methods : table.textMethods ref with
  | nil => exact .inl rfl
  | cons method rest =>
      cases stringer : method.isStringer with
      | true => exact .inr (.inl (by simp [fits, methods, stringer]))
      | false => exact .inr (.inr (by simp [misfits, methods, stringer]))

theorem textMethods_ne_nil_of_fits
    (fit : table.fits ref = true) :
    table.textMethods ref ≠ [] := by
  intro silent
  simp [fits, silent] at fit

theorem textMethods_ne_nil_of_misfits
    (unfit : table.misfits ref = true) :
    table.textMethods ref ≠ [] := by
  intro silent
  simp [misfits, silent] at unfit

theorem not_misfits_of_fits
    (fit : table.fits ref = true) :
    table.misfits ref = false := by
  obtain ⟨method, first, stringer⟩ := fits_iff.1 fit
  simp [misfits, first, stringer]

theorem mem_embeddedNames_iff
    {inner : QualifiedName} :
    inner ∈ table.embeddedNames ref ↔ .named inner ∈ table.embeddedTypes ref := by
  rw [embeddedNames, List.mem_filterMap]
  constructor
  · rintro ⟨type, member, named⟩
    split at named
    · cases named
      exact member
    · cases named
  · intro member
    exact ⟨_, member, rfl⟩

/-! ## One tier -/

/-- What a type without a method of the name adds to its tier: the types that it embeds. -/
def typesBehind (table : Declarations) (ref : QualifiedName) : List HostType :=
  if table.textMethods ref = [] then table.embeddedTypes ref else []

/-- What a type without a method of the name adds to its tier: its fields of the name. -/
def fieldsBehind (table : Declarations) (ref : QualifiedName) : Nat :=
  if table.textMethods ref = [] then (table.plainTextFields ref).length else 0

/-- The names in a list of types that have not been seen before, each once. -/
def freshNames : List QualifiedName → List HostType → List QualifiedName
  | _, [] => []
  | seen, type :: rest =>
    match type with
    | .named ref =>
      if seen.contains ref then freshNames seen rest else ref :: freshNames (ref :: seen) rest
    | _ => freshNames seen rest

theorem mem_freshNames_iff
    {seen : List QualifiedName} {level : List HostType} :
    ref ∈ freshNames seen level ↔ .named ref ∈ level ∧ ref ∉ seen := by
  induction level generalizing seen with
  | nil => simp [freshNames]
  | cons type rest ih =>
      cases type with
      | named head =>
          by_cases old : head ∈ seen
          · have passed : freshNames seen (.named head :: rest) = freshNames seen rest := by
              simp [freshNames, old]
            rw [passed, ih]
            constructor
            · rintro ⟨member, fresh⟩
              exact ⟨List.mem_cons_of_mem _ member, fresh⟩
            · rintro ⟨member, fresh⟩
              rcases List.mem_cons.1 member with same | member
              · cases same
                exact absurd old fresh
              · exact ⟨member, fresh⟩
          · have taken :
                freshNames seen (.named head :: rest) =
                  head :: freshNames (head :: seen) rest := by
              simp [freshNames, old]
            rw [taken, List.mem_cons, ih]
            by_cases same : ref = head
            · simp [same, old]
            · simp [same]
      | _ => simp [freshNames, ih]

theorem nodup_freshNames
    (seen : List QualifiedName) (level : List HostType) :
    (freshNames seen level).Nodup := by
  induction level generalizing seen with
  | nil => exact List.nodup_nil
  | cons type rest ih =>
      cases type with
      | named head =>
          by_cases old : head ∈ seen
          · simpa [freshNames, old] using ih seen
          · have later := ih (head :: seen)
            simp [freshNames, old, mem_freshNames_iff, later]
      | _ => exact ih seen

theorem visitTier_seen
    {tier : Tier} (old : ref ∈ tier.seen) :
    table.visitTier tier (.named ref) = tier := by
  simp [visitTier, old]

theorem visitTier_fresh
    {tier : Tier} (fresh : ref ∉ tier.seen) :
    table.visitTier tier (.named ref) =
      ⟨ref :: tier.seen, tier.fitting + (table.fits ref).toNat,
        tier.unfitting + (table.misfits ref).toNat, tier.fields + table.fieldsBehind ref,
        tier.next ++ table.typesBehind ref⟩ := by
  simp only [visitTier, List.contains_eq_mem, fresh, decide_false, Bool.false_eq_true, if_false]
  cases found : table.lookup ref with
  | none =>
      have no_methods : table.textMethods ref = [] := by simp [textMethods, found]
      have no_members : table.membersOf ref = [] := by
        simp [membersOf, recordBody?, underlying_of_lookup_eq_none found]
      simp [fits, misfits, typesBehind, fieldsBehind, no_methods, embeddedTypes, plainTextFields,
        no_members]
  | some declaration =>
      have first : (table.textMethods ref).head? =
          declaration.methods.find? (·.name == "String") := by
        simp [textMethods, found, List.head?_filter]
      cases own : declaration.methods.find? (·.name == "String") with
      | some method =>
          have methods : table.textMethods ref ≠ [] := by
            intro silent
            simp [silent, own] at first
          rw [own] at first
          cases stringer : method.isStringer with
          | true => simp [own, fits, misfits, typesBehind, fieldsBehind, first, stringer, methods]
          | false => simp [own, fits, misfits, typesBehind, fieldsBehind, first, stringer, methods]
      | none =>
          have no_methods : table.textMethods ref = [] := by
            rw [own] at first
            exact List.head?_eq_none_iff.1 first
          cases body : table.recordBody? (.named ref) with
          | none =>
              simp [own, fits, misfits, typesBehind, fieldsBehind, no_methods, embeddedTypes,
                plainTextFields, membersOf, body]
          | some members =>
              simp [own, fits, misfits, typesBehind, fieldsBehind, no_methods, embeddedTypes,
                plainTextFields, membersOf, body]

/-- A tier adds up what its new names offer. -/
theorem foldl_visitTier
    (level : List HostType) (tier : Tier) :
    level.foldl table.visitTier tier =
      ⟨(freshNames tier.seen level).reverse ++ tier.seen,
        tier.fitting + (freshNames tier.seen level).countP table.fits,
        tier.unfitting + (freshNames tier.seen level).countP table.misfits,
        tier.fields + ((freshNames tier.seen level).map table.fieldsBehind).sum,
        tier.next ++ (freshNames tier.seen level).flatMap table.typesBehind⟩ := by
  induction level generalizing tier with
  | nil => simp [freshNames]
  | cons type rest ih =>
      rw [List.foldl_cons, ih]
      cases type with
      | named ref =>
          by_cases old : ref ∈ tier.seen
          · simp [visitTier_seen old, freshNames, old]
          · have once (holds : Bool) : (if holds = true then 1 else 0) = holds.toNat := by
              cases holds <;> rfl
            simp [visitTier_fresh old, freshNames, old, List.countP_cons, once,
              Nat.add_assoc, Nat.add_comm, Nat.add_left_comm]
      | _ => rfl

theorem countP_fits_misfits_eq_zero_iff
    {names : List QualifiedName} :
    names.countP table.fits + names.countP table.misfits = 0 ↔
      ∀ ref ∈ names, table.textMethods ref = [] := by
  rw [Nat.add_eq_zero_iff, List.countP_eq_zero, List.countP_eq_zero]
  constructor
  · rintro ⟨unfit, not_misfit⟩ ref member
    rcases table.fits_or_misfits ref with silent | fit | misfit
    · exact silent
    · exact absurd fit (unfit ref member)
    · exact absurd misfit (not_misfit ref member)
  · intro silent
    constructor
    · intro ref member fit
      exact textMethods_ne_nil_of_fits fit (silent ref member)
    · intro ref member misfit
      exact textMethods_ne_nil_of_misfits misfit (silent ref member)

/-- Among distinct names one fits and none misfits exactly if one that fits is the only name with a
method. -/
theorem countP_fits_eq_one_iff
    {names : List QualifiedName} (distinct : names.Nodup) :
    names.countP table.fits = 1 ∧ names.countP table.misfits = 0 ↔
      ∃ owner ∈ names, table.fits owner = true ∧
        ∀ other ∈ names, table.textMethods other ≠ [] → other = owner := by
  constructor
  · rintro ⟨one, no_misfit⟩
    rw [List.countP_eq_length_filter, List.length_eq_one_iff] at one
    obtain ⟨owner, single⟩ := one
    have fitting : ∀ ref, ref ∈ names ∧ table.fits ref = true ↔ ref = owner := by
      intro ref
      rw [← List.mem_filter, single, List.mem_singleton]
    obtain ⟨member, fit⟩ := (fitting owner).2 rfl
    refine ⟨owner, member, fit, ?_⟩
    intro other other_member method
    rcases table.fits_or_misfits other with no_method | other_fits | misfit
    · exact absurd no_method method
    · exact (fitting other).1 ⟨other_member, other_fits⟩
    · exact absurd misfit (List.countP_eq_zero.1 no_misfit other other_member)
  · rintro ⟨owner, member, fit, sole⟩
    constructor
    · have same : ∀ other ∈ names, table.fits other = true ↔ (other == owner) = true := by
        intro other other_member
        rw [beq_iff_eq]
        constructor
        · intro other_fits
          exact sole other other_member (textMethods_ne_nil_of_fits other_fits)
        · rintro rfl
          exact fit
      rw [List.countP_congr same]
      exact List.count_eq_one_of_mem distinct member
    · rw [List.countP_eq_zero]
      intro other other_member misfit
      obtain rfl := sole other other_member (textMethods_ne_nil_of_misfits misfit)
      rw [not_misfits_of_fits fit] at misfit
      cases misfit

/-! ## From tier to tier -/

/-- The search stands before a depth: it has seen the types of the lesser depths and none of them
has a method, and every type of the depth is on its list or has been seen. -/
structure Searched
    (table : Declarations) (root : QualifiedName) (depth : Nat)
    (seen : List QualifiedName) (level : List HostType) (colliding : Nat) : Prop where
  seen_iff : ∀ ref, ref ∈ seen ↔ ∃ closer < depth, ref ∈ table.reachedAt root closer
  sound : ∀ ref, .named ref ∈ level → ref ∈ table.reachedAt root depth
  complete : ∀ ref ∈ table.reachedAt root depth, .named ref ∈ level ∨ ref ∈ seen
  no_method : ∀ ref ∈ seen, table.textMethods ref = []
  colliding_iff : colliding = 0 ↔ ∀ ref ∈ seen, table.plainTextFields ref = []

theorem searched_root
    (root : QualifiedName) :
    table.Searched root 0 [] [.named root] 0 where
  seen_iff ref := by simp
  sound ref member := by simpa [reachedAt] using member
  complete ref member := .inl (by simpa [reachedAt] using member)
  no_method ref member := nomatch member
  colliding_iff := by simp

namespace Searched

variable {depth colliding : Nat} {seen : List QualifiedName} {level : List HostType}
variable (searched : table.Searched root depth seen level colliding)
include searched

theorem mem_freshNames_iff_reached :
    ref ∈ freshNames seen level ↔ ref ∈ table.reachedAt root depth ∧ ref ∉ seen := by
  rw [mem_freshNames_iff]
  constructor
  · rintro ⟨listed, fresh⟩
    exact ⟨searched.sound ref listed, fresh⟩
  · rintro ⟨reached, fresh⟩
    exact ⟨(searched.complete ref reached).resolve_right fresh, fresh⟩

/-- After a tier the types of its depth have been seen as well. -/
theorem seen_next_iff :
    ref ∈ (freshNames seen level).reverse ++ seen ↔
      ∃ closer < depth + 1, ref ∈ table.reachedAt root closer := by
  rw [List.mem_append, List.mem_reverse, searched.mem_freshNames_iff_reached]
  constructor
  · rintro (⟨reached, _⟩ | old)
    · exact ⟨depth, by omega, reached⟩
    · obtain ⟨closer, before, reached⟩ := (searched.seen_iff ref).1 old
      exact ⟨closer, by omega, reached⟩
  · rintro ⟨closer, before, reached⟩
    by_cases old : ref ∈ seen
    · exact .inr old
    · by_cases here : closer = depth
      · exact .inl ⟨here ▸ reached, old⟩
      · exact absurd ((searched.seen_iff ref).2 ⟨closer, by omega, reached⟩) old

/-- A tier that offers nothing leads to the next one.  What a type seen before embeds has been
reached one step after it. -/
theorem next
    (settled : colliding = 0)
    (silent : ∀ ref ∈ freshNames seen level, table.textMethods ref = []) :
    table.Searched root (depth + 1) ((freshNames seen level).reverse ++ seen)
      ((freshNames seen level).flatMap table.typesBehind)
      ((freshNames seen level).map table.fieldsBehind).sum where
  seen_iff ref := searched.seen_next_iff
  sound inner listed := by
    obtain ⟨ref, fresh, behind⟩ := List.mem_flatMap.1 listed
    rw [typesBehind, if_pos (silent ref fresh)] at behind
    have reached := (searched.mem_freshNames_iff_reached.1 fresh).1
    exact List.mem_flatMap.2 ⟨ref, reached, mem_embeddedNames_iff.2 behind⟩
  complete inner reached := by
    obtain ⟨ref, above, behind⟩ := List.mem_flatMap.1 reached
    by_cases old : ref ∈ seen
    · obtain ⟨closer, before, earlier⟩ := (searched.seen_iff ref).1 old
      have inner_earlier : inner ∈ table.reachedAt root (closer + 1) :=
        List.mem_flatMap.2 ⟨ref, earlier, behind⟩
      exact .inr (searched.seen_next_iff.2 ⟨closer + 1, by omega, inner_earlier⟩)
    · have fresh := searched.mem_freshNames_iff_reached.2 ⟨above, old⟩
      refine .inl (List.mem_flatMap.2 ⟨ref, fresh, ?_⟩)
      rw [typesBehind, if_pos (silent ref fresh)]
      exact mem_embeddedNames_iff.1 behind
  no_method ref member := by
    rcases List.mem_append.1 member with fresh | old
    · exact silent ref (List.mem_reverse.1 fresh)
    · exact searched.no_method ref old
  colliding_iff := by
    have counts : ∀ ref ∈ freshNames seen level,
        table.fieldsBehind ref = 0 ↔ table.plainTextFields ref = [] := by
      intro ref fresh
      rw [fieldsBehind, if_pos (silent ref fresh), List.length_eq_zero_iff]
    rw [List.sum_eq_zero_iff_forall_eq_nat, List.forall_mem_map]
    constructor
    · intro no_fields ref member
      rcases List.mem_append.1 member with fresh | old
      · have fresh := List.mem_reverse.1 fresh
        exact (counts ref fresh).1 (no_fields ref fresh)
      · exact searched.colliding_iff.1 settled ref old
    · intro no_fields ref fresh
      exact (counts ref fresh).2 (no_fields ref (by simp [fresh]))

/-- Which type decides at the depth of a tier. -/
theorem textRestsOn_iff
    {owner : QualifiedName} :
    table.TextRestsOn root depth owner ↔
      colliding = 0 ∧ owner ∈ freshNames seen level ∧ table.fits owner = true ∧
        ∀ other ∈ freshNames seen level, table.textMethods other ≠ [] → other = owner := by
  constructor
  · intro rests
    have settled : colliding = 0 := by
      apply searched.colliding_iff.2
      intro ref old
      obtain ⟨closer, before, reached⟩ := (searched.seen_iff ref).1 old
      exact rests.no_field closer before ref reached
    have fresh : owner ∉ seen := by
      intro old
      exact textMethods_ne_nil_of_fits rests.fits (searched.no_method owner old)
    refine ⟨settled, searched.mem_freshNames_iff_reached.2 ⟨rests.reached, fresh⟩, rests.fits, ?_⟩
    intro other member
    exact rests.sole other (searched.mem_freshNames_iff_reached.1 member).1
  · rintro ⟨settled, fresh, fit, sole⟩
    constructor
    · intro closer before ref reached
      exact searched.no_method ref ((searched.seen_iff ref).2 ⟨closer, before, reached⟩)
    · intro closer before ref reached
      exact searched.colliding_iff.1 settled ref
        ((searched.seen_iff ref).2 ⟨closer, before, reached⟩)
    · exact (searched.mem_freshNames_iff_reached.1 fresh).1
    · exact fit
    · intro other reached method
      have other_fresh : other ∉ seen := by
        intro old
        exact method (searched.no_method other old)
      exact sole other (searched.mem_freshNames_iff_reached.2 ⟨reached, other_fresh⟩) method

/-- Where a type of a greater depth decides, the tier offers nothing. -/
theorem nothing_of_later
    {later : Nat} {owner : QualifiedName}
    (rests : table.TextRestsOn root later owner) (further : depth < later) :
    colliding = 0 ∧ ∀ ref ∈ freshNames seen level, table.textMethods ref = [] := by
  constructor
  · apply searched.colliding_iff.2
    intro ref old
    obtain ⟨closer, before, reached⟩ := (searched.seen_iff ref).1 old
    exact rests.no_field closer (by omega) ref reached
  · intro ref fresh
    exact rests.no_method depth further ref (searched.mem_freshNames_iff_reached.1 fresh).1

end Searched

/-- An empty tier without fields offers nothing. -/
theorem stringerFrom_nil
    (fuel : Nat) (seen : List QualifiedName) :
    table.stringerFrom fuel seen [] 0 = false := by
  cases fuel with
  | zero => rfl
  | succ fuel => simp [stringerFrom]

/-- Stopping at an empty tier is going on from it. -/
theorem if_empty_next
    (fuel : Nat) (seen : List QualifiedName) (next : List HostType) (fields : Nat) :
    (if (next.isEmpty && fields == 0) = true then false
      else table.stringerFrom fuel seen next fields) =
        table.stringerFrom fuel seen next fields := by
  split
  · next empty =>
      rw [Bool.and_eq_true, List.isEmpty_iff, beq_iff_eq] at empty
      rw [empty.1, empty.2, stringerFrom_nil]
  · rfl

/-- From a tier on the search succeeds exactly if a type decides at one of the depths it visits.  A
tier that offers anything decides; one that offers nothing hands over to the next, and `Searched`
carries what the tiers before have found. -/
theorem Searched.stringerFrom_iff
    (fuel : Nat) {depth colliding : Nat} {seen : List QualifiedName} {level : List HostType}
    (searched : table.Searched root depth seen level colliding) :
    table.stringerFrom fuel seen level colliding = true ↔
      ∃ later owner, (depth ≤ later ∧ later < depth + fuel) ∧
        table.TextRestsOn root later owner := by
  induction fuel generalizing depth seen level colliding with
  | zero =>
      constructor
      · intro found
        cases found
      · rintro ⟨later, _, ⟨_, _⟩, _⟩
        omega
  | succ fuel ih =>
      have distinct := nodup_freshNames seen level
      rw [stringerFrom]
      simp only [foldl_visitTier, Nat.zero_add, List.nil_append]
      by_cases quiet :
          (freshNames seen level).countP table.fits + (freshNames seen level).countP table.misfits +
            colliding = 0
      · obtain ⟨no_methods, settled⟩ := Nat.add_eq_zero_iff.1 quiet
        have silent := countP_fits_misfits_eq_zero_iff.1 no_methods
        have further := ih (searched.next settled silent)
        have passed : ∀ owner, ¬ table.TextRestsOn root depth owner := by
          intro owner rests
          obtain ⟨_, fresh, fit, _⟩ := searched.textRestsOn_iff.1 rests
          exact textMethods_ne_nil_of_fits fit (silent owner fresh)
        rw [if_neg (by omega), if_empty_next, further]
        constructor
        · rintro ⟨later, owner, ⟨after, before⟩, rests⟩
          exact ⟨later, owner, ⟨by omega, by omega⟩, rests⟩
        · rintro ⟨later, owner, ⟨after, before⟩, rests⟩
          have beyond : later ≠ depth := by
            rintro rfl
            exact passed owner rests
          exact ⟨later, owner, ⟨by omega, by omega⟩, rests⟩
      · rw [if_pos (by omega)]
        simp only [Bool.and_eq_true, beq_iff_eq]
        constructor
        · rintro ⟨one, settled⟩
          obtain ⟨owner, fresh, fit, sole⟩ := (countP_fits_eq_one_iff distinct).1 one
          refine ⟨depth, owner, ⟨Nat.le_refl _, by omega⟩, ?_⟩
          exact searched.textRestsOn_iff.2 ⟨settled, fresh, fit, sole⟩
        · rintro ⟨later, owner, ⟨from_here, _⟩, rests⟩
          by_cases here : later = depth
          · subst here
            obtain ⟨settled, fresh, fit, sole⟩ := searched.textRestsOn_iff.1 rests
            exact ⟨(countP_fits_eq_one_iff distinct).2 ⟨owner, fresh, fit, sole⟩, settled⟩
          · obtain ⟨settled, silent⟩ := searched.nothing_of_later rests (by omega)
            exact absurd (countP_fits_misfits_eq_zero_iff.2 silent) (by omega)

/-- Where everything is reached soon enough, a type has a text exactly if one type decides. -/
theorem supportsStringer_iff
    {type : HostType}
    (base : table.embeddedBase type = .named root) (shallow : table.Shallow root) :
    table.supportsStringer type = true ↔ ∃ depth owner, table.TextRestsOn root depth owner := by
  rw [supportsStringer, base]
  simp only
  rw [(searched_root root).stringerFrom_iff expansionLimit]
  constructor
  · rintro ⟨depth, owner, _, rests⟩
    exact ⟨depth, owner, rests⟩
  · rintro ⟨depth, owner, rests⟩
    refine ⟨depth, owner, ⟨Nat.zero_le _, ?_⟩, rests⟩
    obtain ⟨closer, near, reached⟩ := shallow depth owner rests.reached
    rcases Nat.lt_or_ge closer depth with before | after
    · exact absurd (rests.no_method closer before owner reached)
        (textMethods_ne_nil_of_fits rests.fits)
    · omega

end Declarations
end RecordConversion
