import RecordConversion.Declarations.Stringer
import RecordConversion.Proofs.Declarations.ExpansionEnds
import RecordConversion.Proofs.Declarations.Symmetry

/-!
# Relations between types do not see aliases

The relations between two types look at them in three ways: some resolve the top of a type, some go
down to its underlying type, and some expand it at every depth.  Types that expand alike resolve to
types with the same outermost part, over parts that expand alike again; and where every chain of
names ends, they have underlying types that expand alike.  So every relation answers for both types
the same.

* `expand?_resolve`: a type expands like what it resolves to.
* `sameExpansion_underlying`: underlying types of types that expand alike expand alike.
* `queries_congr`: no relation tells identical types apart.
-/

namespace RecordConversion
namespace Declarations

open HostType (Inside)

/-- Every type expands, and every chain of names ends in time. -/
structure Settled (table : Declarations) : Prop where
  expands : ∀ type, (table.expand? type).isSome = true
  bottoms : ∀ type, (table.underlyingWithin expansionLimit (table.resolve type)).isSome = true

variable {table : Declarations}

/-! ## One expansion at every depth -/

theorem mapM_eq_some_of_imp
    {α β : Type} {f g : α → Option β} {items : List α} {results : List β}
    (keeps : ∀ item result, f item = some result → g item = some result)
    (found : items.mapM f = some results) :
    items.mapM g = some results := by
  induction items generalizing results with
  | nil => exact found
  | cons first rest ih =>
      rw [List.mapM_cons] at found ⊢
      obtain ⟨value, head, found⟩ := Option.bind_eq_some_iff.1 found
      obtain ⟨values, tail, found⟩ := Option.bind_eq_some_iff.1 found
      rw [keeps first value head, Option.bind_eq_bind, Option.bind_some, ih tail]
      exact found

/-- A deeper expansion yields what a less deep one yields. -/
theorem expandWithin_succ
    (depth : Nat) {type expanded : HostType}
    (found : table.expandWithin depth type = some expanded) :
    table.expandWithin (depth + 1) type = some expanded := by
  induction depth generalizing type expanded with
  | zero => cases found
  | succ depth ih =>
      rw [expandWithin] at found ⊢
      cases resolved : table.resolve type with
      | pointer target =>
          simp only [resolved, Option.map_eq_some_iff] at found ⊢
          obtain ⟨inner, found, same⟩ := found
          exact ⟨inner, ih found, same⟩
      | slice element =>
          simp only [resolved, Option.map_eq_some_iff] at found ⊢
          obtain ⟨inner, found, same⟩ := found
          exact ⟨inner, ih found, same⟩
      | map key value =>
          cases first : table.expandWithin depth key with
          | none => simp [resolved, first] at found
          | some keyType =>
              simp only [resolved, first, ih first, Option.map_eq_some_iff] at found ⊢
              obtain ⟨inner, found, same⟩ := found
              exact ⟨inner, ih found, same⟩
      | record body =>
          simp only [resolved, Option.map_eq_some_iff] at found ⊢
          obtain ⟨members, found, same⟩ := found
          refine ⟨members, mapM_eq_some_of_imp (fun member result reads => ?_) found, same⟩
          obtain ⟨inner, reads, same⟩ := Option.map_eq_some_iff.1 reads
          exact Option.map_eq_some_iff.2 ⟨inner, ih reads, same⟩
      | _ => simpa only [resolved] using found

theorem expandWithin_of_le
    {depth deeper : Nat} (order : depth ≤ deeper) {type expanded : HostType}
    (found : table.expandWithin depth type = some expanded) :
    table.expandWithin deeper type = some expanded := by
  induction order with
  | refl => exact found
  | step _ ih => exact expandWithin_succ _ ih

/-- All depths that are enough yield one expansion. -/
theorem expandWithin_unique
    {depth depth' : Nat} {type expanded other : HostType}
    (found : table.expandWithin depth type = some expanded)
    (found' : table.expandWithin depth' type = some other) :
    expanded = other := by
  rcases Nat.le_total depth depth' with order | order
  · exact Option.some.inj ((expandWithin_of_le order found).symm.trans found')
  · exact Option.some.inj (found.symm.trans (expandWithin_of_le order found'))

theorem expandWithin_resolve
    (depth : Nat) (type : HostType) :
    table.expandWithin depth (table.resolve type) = table.expandWithin depth type := by
  cases depth with
  | zero => rfl
  | succ depth => rw [expandWithin, expandWithin, resolve_resolve]

/-- An expansion that is found at some depth is the expansion. -/
theorem expand?_eq_some_iff
    {type expanded : HostType} :
    table.expand? type = some expanded ↔
      ∃ depth, table.expandWithin depth type = some expanded := by
  constructor
  · exact fun found => ⟨_, found⟩
  · rintro ⟨depth, found⟩
    have ends := ends_of_isSome_expandWithin depth type (Option.isSome_of_eq_some found)
    obtain ⟨other, found'⟩ := Option.isSome_iff_exists.1 ((isSome_expand?_iff_ends type).2 ends)
    rw [found', expandWithin_unique found' found]

/-- Two types expand alike, each in its table, if they do so at every depth, though the tables may
give different depths to look to. -/
theorem expand?_eq_of_expandWithin
    {other : Declarations} {a b : HostType}
    (same : ∀ depth, table.expandWithin depth a = other.expandWithin depth b) :
    table.expand? a = other.expand? b := by
  ext expanded
  rw [expand?_eq_some_iff, expand?_eq_some_iff]
  simp only [same]

/-- A type expands like what it resolves to. -/
@[simp]
theorem expand?_resolve
    (type : HostType) :
    table.expand? (table.resolve type) = table.expand? type :=
  expand?_eq_of_expandWithin fun depth => expandWithin_resolve depth type

/-- A map type expands if its key and its element do, and to the map type of their expansions. -/
theorem expand?_map
    (key element : HostType) :
    table.expand? (.map key element) =
      (table.expand? key).bind fun key => (table.expand? element).map (.map key) := by
  have structured : table.resolve (.map key element) = .map key element :=
    resolve_of_structured (by simp [HostType.kind])
  ext expanded
  simp only [expand?_eq_some_iff, Option.bind_eq_some_iff, Option.map_eq_some_iff]
  constructor
  · rintro ⟨depth, found⟩
    cases depth with
    | zero => cases found
    | succ depth =>
        rw [expandWithin, structured] at found
        cases first : table.expandWithin depth key with
        | none => simp [first] at found
        | some keyType =>
            simp only [first, Option.map_eq_some_iff] at found
            obtain ⟨inner, found, rfl⟩ := found
            exact ⟨keyType, ⟨depth, first⟩, inner, ⟨depth, found⟩, rfl⟩
  · rintro ⟨keyType, ⟨depth, first⟩, inner, ⟨depth', found⟩, rfl⟩
    refine ⟨max depth depth' + 1, ?_⟩
    rw [expandWithin, structured]
    simp [expandWithin_of_le (le_max_left _ _) first, expandWithin_of_le (le_max_right _ _) found]

/-! ## Types that expand alike -/

variable {a a' b b' type : HostType}

theorem expand?_eq_of_sameExpansion
    (same : table.sameExpansion a b = true) :
    table.expand? a = table.expand? b := by
  obtain ⟨expanded, from_a, from_b⟩ := sameExpansion_iff.1 same
  exact from_a.trans from_b.symm

theorem sameExpansion_congr
    (same : table.sameExpansion a a' = true)
    (same' : table.sameExpansion b b' = true) :
    table.sameExpansion a b = table.sameExpansion a' b' := by
  rw [sameExpansion, sameExpansion, expand?_eq_of_sameExpansion same,
    expand?_eq_of_sameExpansion same']

theorem sameExpansion_map
    (key element key' element' : HostType) :
    table.sameExpansion (.map key element) (.map key' element') = true ↔
      table.sameExpansion key key' = true ∧ table.sameExpansion element element' = true := by
  simp only [sameExpansion_iff, expand?_map, Option.bind_eq_some_iff, Option.map_eq_some_iff]
  constructor
  · rintro ⟨_, ⟨index, found, value, found', rfl⟩, other, found_other, value', found'', same⟩
    obtain ⟨rfl, rfl⟩ := HostType.map.inj same
    exact ⟨⟨other, found, found_other⟩, value', found', found''⟩
  · rintro ⟨⟨index, found, found_other⟩, value, found', found''⟩
    exact ⟨_, ⟨index, found, value, found', rfl⟩, index, found_other, value, found'', rfl⟩

theorem sameExpansion_resolve
    (same : table.sameExpansion a b = true) :
    table.sameExpansion (table.resolve a) (table.resolve b) = true := by
  rw [sameExpansion_iff] at same ⊢
  simpa only [expand?_resolve] using same

/-- A type that expands like a type without parts resolves to the same type. -/
theorem resolve_eq_of_sameExpansion
    (same : table.sameExpansion a b = true)
    (plain : (table.resolve a).kind = .basic ∨ (table.resolve a).kind = .other) :
    table.resolve a = table.resolve b := by
  have plain' : (table.resolve b).kind = .basic ∨ (table.resolve b).kind = .other := by
    rwa [← kind_eq_of_sameExpansion same]
  have expanded := expand?_eq_of_sameExpansion same
  rw [expand?_of_plain plain, expand?_of_plain plain'] at expanded
  exact Option.some.inj expanded

theorem resolve_eq_named_of_sameExpansion
    {ref : QualifiedName}
    (same : table.sameExpansion a b = true)
    (resolved : table.resolve a = .named ref) :
    table.resolve b = .named ref := by
  rw [← resolve_eq_of_sameExpansion same (by rw [resolved]; exact .inr rfl), resolved]

theorem isNamed_of_sameExpansion
    (same : table.sameExpansion a b = true)
    (named : table.isNamed a = true) :
    table.isNamed b = true := by
  have plain : (table.resolve a).kind = .basic ∨ (table.resolve a).kind = .other := by
    rcases isNamed_iff.1 named with ⟨ref, resolved⟩ | ⟨kind, resolved⟩
    · exact .inr (by rw [resolved]; rfl)
    · exact .inl (by rw [resolved]; rfl)
  rw [← isNamed_resolve, ← resolve_eq_of_sameExpansion same plain, isNamed_resolve]
  exact named

theorem isNamed_congr
    (same : table.sameExpansion a b = true) :
    table.isNamed a = table.isNamed b := by
  rw [Bool.eq_iff_iff]
  exact ⟨isNamed_of_sameExpansion same,
    isNamed_of_sameExpansion (by rwa [sameExpansion_comm])⟩

theorem resolve_eq_pointer_of_sameExpansion
    {target : HostType}
    (same : table.sameExpansion a b = true)
    (resolved : table.resolve a = .pointer target) :
    ∃ target', table.resolve b = .pointer target' ∧ table.sameExpansion target target' = true := by
  have kinds := kind_eq_of_sameExpansion same
  have alike := sameExpansion_resolve same
  rw [resolved] at kinds alike
  cases resolved' : table.resolve b <;> rw [resolved'] at kinds alike <;> try cases kinds
  rw [sameExpansion_pointer] at alike
  exact ⟨_, rfl, alike⟩

/-- The targets of pointers that expand alike expand alike. -/
theorem pointerTargets?_of_sameExpansion
    {target target' : HostType}
    (same : table.sameExpansion a a' = true)
    (same' : table.sameExpansion b b' = true)
    (pointers : table.pointerTargets? a b = some (target, target')) :
    ∃ other other', table.pointerTargets? a' b' = some (other, other') ∧
      table.sameExpansion target other = true ∧ table.sameExpansion target' other' = true := by
  rw [pointerTargets?] at pointers
  split at pointers
  · next resolved resolved' =>
      cases pointers
      obtain ⟨other, shape, alike⟩ := resolve_eq_pointer_of_sameExpansion same resolved
      obtain ⟨other', shape', alike'⟩ := resolve_eq_pointer_of_sameExpansion same' resolved'
      exact ⟨other, other', by rw [pointerTargets?, shape, shape'], alike, alike'⟩
  · cases pointers

theorem pointerTargets?_eq_none_of_sameExpansion
    (same : table.sameExpansion a a' = true)
    (same' : table.sameExpansion b b' = true)
    (no_pointers : table.pointerTargets? a b = none) :
    table.pointerTargets? a' b' = none := by
  rw [Option.eq_none_iff_forall_ne_some]
  rintro ⟨target, target'⟩ pointers
  obtain ⟨other, other', pointers', -⟩ :=
    pointerTargets?_of_sameExpansion (by rwa [sameExpansion_comm]) (by rwa [sameExpansion_comm])
      pointers
  cases no_pointers.symm.trans pointers'

/-! ## Underlying types of types that expand alike -/

/-- Types that expand alike resolve to one name, or are their own structure once they are
resolved. -/
theorem resolve_cases_of_sameExpansion
    (same : table.sameExpansion a b = true) :
    (∃ ref, table.resolve a = .named ref ∧ table.resolve b = .named ref) ∨
      table.underlying a = table.resolve a ∧ table.underlying b = table.resolve b := by
  by_cases named : ∃ ref, table.resolve a = .named ref
  · obtain ⟨ref, resolved⟩ := named
    exact .inl ⟨ref, resolved, resolve_eq_named_of_sameExpansion same resolved⟩
  · have unnamed : ∀ ref, table.resolve a ≠ .named ref := fun ref resolved => named ⟨ref, resolved⟩
    have unnamed' : ∀ ref, table.resolve b ≠ .named ref := fun ref resolved =>
      unnamed ref (resolve_eq_named_of_sameExpansion (by rwa [sameExpansion_comm]) resolved)
    exact .inr ⟨underlying_of_resolve_not_named rfl unnamed,
      underlying_of_resolve_not_named rfl unnamed'⟩

theorem underlying_eq_of_resolve_eq
    (same : table.resolve a = table.resolve b)
    (bottoms : (table.underlyingWithin expansionLimit (table.resolve a)).isSome = true) :
    table.underlying a = table.underlying b := by
  obtain ⟨bottom, found⟩ := Option.isSome_iff_exists.1 bottoms
  have found' := found
  rw [same] at found'
  simp [underlying, found, found']

/-- Types that expand alike have underlying types that expand alike, provided that the chain of
names behind them ends in time and that its end expands. -/
theorem sameExpansion_underlying_of_bottom
    (same : table.sameExpansion a b = true)
    (bottoms : (table.underlyingWithin expansionLimit (table.resolve a)).isSome = true)
    (expands : (table.expand? (table.underlying a)).isSome = true) :
    table.sameExpansion (table.underlying a) (table.underlying b) = true := by
  rcases resolve_cases_of_sameExpansion same with ⟨ref, resolved, resolved'⟩ | ⟨shown, shown'⟩
  · rw [← underlying_eq_of_resolve_eq (resolved.trans resolved'.symm) bottoms]
    obtain ⟨expanded, found⟩ := Option.isSome_iff_exists.1 expands
    exact sameExpansion_iff.2 ⟨expanded, found, found⟩
  · rw [shown, shown']
    exact sameExpansion_resolve same

/-! ## Where all names are settled -/

namespace Settled

variable (settled : table.Settled)
include settled

theorem sameExpansion_self
    (type : HostType) :
    table.sameExpansion type type = true := by
  obtain ⟨expanded, found⟩ := Option.isSome_iff_exists.1 (settled.expands type)
  exact sameExpansion_iff.2 ⟨expanded, found, found⟩

theorem identical_eq
    (a b : HostType) :
    table.identical a b = table.sameExpansion a b := by
  rw [Bool.eq_iff_iff, identical_iff]
  constructor
  · rintro (rfl | same)
    · exact settled.sameExpansion_self a
    · exact same
  · exact .inr

/-- Types that expand alike have underlying types that expand alike. -/
theorem sameExpansion_underlying
    (same : table.sameExpansion a b = true) :
    table.sameExpansion (table.underlying a) (table.underlying b) = true :=
  sameExpansion_underlying_of_bottom same (settled.bottoms a) (settled.expands _)

theorem underlying_eq_interface
    (same : table.sameExpansion a b = true)
    (open_ : table.underlying a = .interface) :
    table.underlying b = .interface := by
  have kinds := kind_eq_of_sameExpansion (settled.sameExpansion_underlying same)
  rw [resolve_underlying, resolve_underlying, open_] at kinds
  cases shown : table.underlying b <;> rw [shown] at kinds <;> first | rfl | cases kinds

/-! ## Assignment and conversion -/

theorem assignable_of_sameExpansion
    (same : table.sameExpansion a a' = true)
    (same' : table.sameExpansion b b' = true)
    (assigned : table.assignable a b = true) :
    table.assignable a' b' = true := by
  rw [assignable_iff, settled.identical_eq] at assigned ⊢
  rcases assigned with alike | open_ | ⟨unnamed, structures⟩
  · exact .inl (by rw [← sameExpansion_congr same same', alike])
  · exact .inr (.inl (settled.underlying_eq_interface same' open_))
  · refine .inr (.inr ⟨by rw [← isNamed_congr same, ← isNamed_congr same', unnamed], ?_⟩)
    rw [← sameExpansion_congr (settled.sameExpansion_underlying same)
      (settled.sameExpansion_underlying same'), structures]

theorem convertible_of_sameExpansion
    (same : table.sameExpansion a a' = true)
    (same' : table.sameExpansion b b' = true)
    (converts : table.convertible a b = true) :
    table.convertible a' b' = true := by
  have bottoms := settled.sameExpansion_underlying same
  have bottoms' := settled.sameExpansion_underlying same'
  rw [convertible_iff] at converts ⊢
  rcases converts with assigned | structures | ⟨target, target', pointers, structures⟩ |
    ⟨no_pointers, x, y, from_a, from_b, shapes⟩
  · exact .inl (settled.assignable_of_sameExpansion same same' assigned)
  · exact .inr (.inl (by rw [← sameExpansion_congr bottoms bottoms', structures]))
  · obtain ⟨other, other', pointers', alike, alike'⟩ :=
      pointerTargets?_of_sameExpansion same same' pointers
    refine .inr (.inr (.inl ⟨other, other', pointers', ?_⟩))
    rw [← sameExpansion_congr (settled.sameExpansion_underlying alike)
      (settled.sameExpansion_underlying alike'), structures]
  · refine .inr (.inr (.inr ⟨?_, x, y, ?_, ?_, shapes⟩))
    · exact pointerTargets?_eq_none_of_sameExpansion same same' no_pointers
    · rw [← expand?_eq_of_sameExpansion bottoms, from_a]
    · rw [← expand?_eq_of_sameExpansion bottoms', from_b]

/-- Both relations answer alike for types that expand alike, on either side. -/
theorem relations_congr
    (same : table.sameExpansion a a' = true)
    (same' : table.sameExpansion b b' = true) :
    table.assignable a b = table.assignable a' b' ∧
      table.convertible a b = table.convertible a' b' := by
  have back : table.sameExpansion a' a = true := by rwa [sameExpansion_comm]
  have back' : table.sameExpansion b' b = true := by rwa [sameExpansion_comm]
  constructor
  · rw [Bool.eq_iff_iff]
    exact ⟨settled.assignable_of_sameExpansion same same',
      settled.assignable_of_sameExpansion back back'⟩
  · rw [Bool.eq_iff_iff]
    exact ⟨settled.convertible_of_sameExpansion same same',
      settled.convertible_of_sameExpansion back back'⟩

end Settled

/-! ## Types with a text of their own -/

theorem embeddedBase_eq_named_of_sameExpansion
    {ref : QualifiedName}
    (same : table.sameExpansion a b = true)
    (base : table.embeddedBase a = .named ref) :
    table.embeddedBase b = .named ref := by
  rw [embeddedBase] at base ⊢
  split at base
  · next target resolved =>
      obtain ⟨target', resolved', alike⟩ := resolve_eq_pointer_of_sameExpansion same resolved
      rw [resolved']
      exact resolve_eq_named_of_sameExpansion alike base
  · rw [resolve_eq_named_of_sameExpansion same base]

theorem supportsStringer_of_sameExpansion
    (same : table.sameExpansion a b = true)
    (supports : table.supportsStringer a = true) :
    table.supportsStringer b = true := by
  rw [supportsStringer] at supports ⊢
  split at supports
  · next ref base =>
      rw [embeddedBase_eq_named_of_sameExpansion same base]
      exact supports
  · cases supports

/-- No relation between types tells identical types apart, and both have a text or neither. -/
theorem queries_congr
    (settled : table.Settled)
    (same : table.identical a b = true) :
    (∀ other, table.assignable a other = table.assignable b other ∧
      table.assignable other a = table.assignable other b ∧
      table.convertible a other = table.convertible b other ∧
      table.convertible other a = table.convertible other b) ∧
      table.supportsStringer a = table.supportsStringer b := by
  rw [settled.identical_eq] at same
  constructor
  · intro other
    have itself := settled.sameExpansion_self other
    obtain ⟨assigned_from, converts_from⟩ := settled.relations_congr same itself
    obtain ⟨assigned_to, converts_to⟩ := settled.relations_congr itself same
    exact ⟨assigned_from, assigned_to, converts_from, converts_to⟩
  · rw [Bool.eq_iff_iff]
    exact ⟨supportsStringer_of_sameExpansion same,
      supportsStringer_of_sameExpansion (by rwa [sameExpansion_comm])⟩

/-! ## Declared names are enough -/

theorem exists_name_of_definitionOf?
    {type body : HostType}
    (step : table.definitionOf? type = some body) :
    ∃ ref, type = .named ref ∧ ref ∈ table.names := by
  cases type with
  | named ref =>
      obtain ⟨declaration, found, -⟩ := Option.map_eq_some_iff.1 step
      exact ⟨ref, rfl, mem_names_of_lookup found⟩
  | _ => cases step

/-- A table is settled if its aliases end and the declared names expand and lead to an underlying
type in time. -/
theorem settled_of_names
    (chains : table.ChainsEnd)
    (expands : ∀ ref ∈ table.names, (table.expand? (.named ref)).isSome = true)
    (bottoms : ∀ ref ∈ table.names,
      (table.underlyingWithin expansionLimit (table.resolve (.named ref))).isSome = true) :
    table.Settled where
  expands := by
    simp only [isSome_expand?_iff_ends] at expands ⊢
    have fresh : table.NoSelfMention Inside :=
      (chains.noSelfMention_iff_names_end fun _ _ inside => inside).2 expands
    exact (chains.noSelfMention_iff_ends fun _ _ inside => inside).1 fresh
  bottoms := by
    intro type
    cases step : table.definitionOf? (table.resolve type) with
    | none => simp [expansionLimit, underlyingWithin, step]
    | some body =>
        obtain ⟨ref, resolved, declared⟩ := exists_name_of_definitionOf? step
        rw [← resolve_resolve, resolved]
        exact bottoms ref declared

/-- Amounts of money under two names, lists of them, and batches of such lists. -/
def prices : Declarations where
  entries :=
    [(⟨"m", "Money"⟩, ⟨⟨"m", "Money"⟩, .defined (.primitive .int64),
        [⟨"String", [], [.primitive .string], false⟩]⟩),
      (⟨"m", "Price"⟩, ⟨⟨"m", "Price"⟩, .alias (.named ⟨"m", "Money"⟩), []⟩),
      (⟨"m", "Prices"⟩, ⟨⟨"m", "Prices"⟩, .alias (.slice (.named ⟨"m", "Price"⟩)), []⟩),
      (⟨"m", "Batch"⟩, ⟨⟨"m", "Batch"⟩,
        .defined (.map (.named ⟨"m", "Price"⟩) (.pointer (.named ⟨"m", "Prices"⟩))), []⟩)]

theorem settled_prices :
    prices.Settled := by
  apply settled_of_names
  · exact chainsEnd_of_names (by decide +kernel)
  · decide +kernel
  · decide +kernel

/-- A map between the two names for amounts and lists of them. -/
def priceMap : HostType :=
  .map (.named ⟨"m", "Price"⟩) (.pointer (.named ⟨"m", "Prices"⟩))

/-- The same map without aliases. -/
def moneyMap : HostType :=
  .map (.named ⟨"m", "Money"⟩) (.pointer (.slice (.named ⟨"m", "Money"⟩)))

/-- A batch may be stored as the map with the aliases, so also as the one without. -/
theorem queries_congr_prices :
    prices.Settled ∧ prices.identical priceMap moneyMap = true ∧ priceMap ≠ moneyMap ∧
      prices.assignable (.named ⟨"m", "Batch"⟩) priceMap = true ∧
      prices.assignable (.named ⟨"m", "Batch"⟩) moneyMap = true := by
  have same : prices.identical priceMap moneyMap = true := by decide +kernel
  have stored : prices.assignable (.named ⟨"m", "Batch"⟩) priceMap = true := by decide +kernel
  refine ⟨settled_prices, same, by decide, stored, ?_⟩
  obtain ⟨-, assigned_to, -⟩ := (queries_congr settled_prices same).1 (.named ⟨"m", "Batch"⟩)
  rw [← assigned_to, stored]

end Declarations
end RecordConversion
