import RecordConversion.Proofs.Declarations.Extension

/-!
# Nothing is left to resolve

An expansion has no alias at any depth, and a type without aliases is its own expansion.  An
underlying type is no declared name, and a type that is none is its own underlying type.  So neither
reading finds anything to do in what it has given.

A type and its expansion are over types that expand alike, if the chain of names behind the type
ends in time.  A chain that is given up leaves the text of the type that was asked for, and that is
another one for the expansion.

* `Declarations.expand?_of_aliasFree`: types without aliases are their own expansions.
* `Declarations.resolves_completely`: what holds of every type in a table where expansions end.
-/

namespace RecordConversion
namespace Declarations

variable {table : Declarations} {type expanded : HostType}

/-- No name in a type, at any depth, is that of an alias. -/
def AliasFree (table : Declarations) (type : HostType) : Prop :=
  ∀ ref ∈ type.names, table.aliasTarget? (.named ref) = none

/-- A type is without aliases if it is none itself and its children are without. -/
theorem aliasFree_iff :
    table.AliasFree type ↔
      table.aliasTarget? type = none ∧ ∀ child ∈ type.children, table.AliasFree child := by
  cases type with
  | named ref => simp [AliasFree, HostType.names, HostType.children]
  | record body =>
      simp only [AliasFree, HostType.names, HostType.mem_memberNames_iff, HostType.children,
        List.forall_mem_map, aliasTarget?, true_and]
      constructor
      · intro free member here ref named
        exact free ref ⟨member, here, named⟩
      · rintro free ref ⟨member, here, named⟩
        exact free member here ref named
  | map key element =>
      simp [AliasFree, HostType.names, HostType.children, aliasTarget?, or_imp, forall_and]
  | _ => simp [AliasFree, HostType.names, HostType.children, aliasTarget?]

/-! ## Expansions -/

/-- An expansion is no alias, and its children are expansions that are less deep. -/
theorem children_of_expandWithin
    {depth : Nat}
    (found : table.expandWithin (depth + 1) type = some expanded) :
    table.aliasTarget? expanded = none ∧
      ∀ child ∈ expanded.children, ∃ part, table.expandWithin depth part = some child := by
  rw [expandWithin] at found
  cases resolved : table.resolve type with
  | pointer target =>
      simp only [resolved, Option.map_eq_some_iff] at found
      obtain ⟨inner, found, rfl⟩ := found
      exact ⟨rfl, by simpa [HostType.children] using ⟨target, found⟩⟩
  | slice element =>
      simp only [resolved, Option.map_eq_some_iff] at found
      obtain ⟨inner, found, rfl⟩ := found
      exact ⟨rfl, by simpa [HostType.children] using ⟨element, found⟩⟩
  | map key value =>
      cases first : table.expandWithin depth key with
      | none => simp [resolved, first] at found
      | some keyType =>
          simp only [resolved, first, Option.map_eq_some_iff] at found
          obtain ⟨inner, found, rfl⟩ := found
          exact ⟨rfl, by simpa [HostType.children] using ⟨⟨key, first⟩, value, found⟩⟩
  | record body =>
      simp only [resolved, Option.map_eq_some_iff] at found
      obtain ⟨members, found, rfl⟩ := found
      refine ⟨rfl, List.forall_mem_map.2 fun member listed => ?_⟩
      obtain ⟨origin, -, read⟩ := exists_of_mem_mapM_some found listed
      obtain ⟨inner, found, rfl⟩ := Option.map_eq_some_iff.1 read
      exact ⟨origin.type, found⟩
  | _ =>
      simp only [resolved, Option.some.injEq] at found
      subst found
      exact ⟨resolved ▸ aliasTarget?_resolve type, by simp [HostType.children]⟩

theorem aliasFree_of_expandWithin
    (depth : Nat)
    (found : table.expandWithin depth type = some expanded) :
    table.AliasFree expanded := by
  induction depth generalizing type expanded with
  | zero => cases found
  | succ depth ih =>
      obtain ⟨no_alias, children⟩ := children_of_expandWithin found
      refine aliasFree_iff.2 ⟨no_alias, fun child here => ?_⟩
      obtain ⟨part, found⟩ := children child here
      exact ih found

/-- A traversal that leaves every item as it is leaves the list as it is. -/
theorem mapM_eq_some_self
    {α : Type} {f : α → Option α} {items : List α}
    (kept : ∀ item ∈ items, f item = some item) :
    items.mapM f = some items := by
  rw [mapM_congr_of_mem kept]
  exact (List.mapM_pure (f := id)).trans (by simp)

theorem expandWithin_of_aliasFree
    (depth : Nat)
    (free : table.AliasFree type) (enough : type.size ≤ depth) :
    table.expandWithin depth type = some type := by
  induction depth generalizing type with
  | zero => cases type <;> simp [HostType.size] at enough
  | succ depth ih =>
      rw [aliasFree_iff] at free
      have inside : ∀ child ∈ type.children, table.expandWithin depth child = some child := by
        intro child here
        have smaller := HostType.size_lt_of_mem_children here
        exact ih (free.2 child here) (by omega)
      rw [expandWithin, resolve_of_no_alias free.1]
      cases type with
      | pointer target => simp [inside target (by simp [HostType.children])]
      | slice element => simp [inside element (by simp [HostType.children])]
      | map key value =>
          simp [inside key (by simp [HostType.children]),
            inside value (by simp [HostType.children])]
      | record body =>
          rw [HostType.children, List.forall_mem_map] at inside
          refine congrArg (Option.map HostType.record) (mapM_eq_some_self fun member here => ?_)
          rw [inside member here]
          rfl
      | _ => rfl

/-- A type without aliases is its own expansion. -/
theorem expand?_of_aliasFree
    (free : table.AliasFree type) :
    table.expand? type = some type :=
  expand?_eq_some_iff.2 ⟨type.size, expandWithin_of_aliasFree _ free (Nat.le_refl _)⟩

theorem expand?_expanded
    (found : table.expand? type = some expanded) :
    table.expand? expanded = some expanded :=
  expand?_of_aliasFree (aliasFree_of_expandWithin _ found)

/-! ## The whole -/

/-- Where all expansions end, the expansion of a type names no alias and is its own expansion; the
underlying type is no declared name and is its own underlying type; and if the chain of names behind
the type ends in time, its expansion is over a type that expands like the underlying type. -/
theorem resolves_completely
    (ends : ∀ type, (table.expand? type).isSome = true)
    (type : HostType) :
    ∃ expanded, table.expand? type = some expanded ∧
      (∀ ref ∈ expanded.names, ∀ declaration, table.lookup ref = some declaration →
        declaration.isAlias = false) ∧
      table.expand? expanded = some expanded ∧
      (∀ ref, table.underlying type = .named ref → table.lookup ref = none) ∧
      table.underlying (table.underlying type) = table.underlying type ∧
      ((table.underlyingWithin expansionLimit (table.resolve type)).isSome = true →
        table.sameExpansion (table.underlying expanded) (table.underlying type) = true) := by
  obtain ⟨expanded, found⟩ := Option.isSome_iff_exists.1 (ends type)
  have itself := expand?_expanded found
  refine ⟨expanded, found, ?_, itself, ?_, underlying_underlying type, fun bottoms => ?_⟩
  · intro ref named ⟨_, definition, _⟩ declared
    have no_alias := aliasFree_of_expandWithin _ found ref named
    rcases definition with target | body
    · simp [aliasTarget?, declared] at no_alias
    · rfl
  · intro ref shown
    have undeclared : table.definitionOf? (table.underlying type) = none :=
      definitionOf?_underlying type
    rw [shown, definitionOf?, Option.map_eq_none_iff] at undeclared
    exact undeclared
  · rw [sameExpansion_comm]
    have same : table.sameExpansion type expanded = true :=
      sameExpansion_iff.2 ⟨expanded, found, itself⟩
    exact sameExpansion_underlying_of_bottom same bottoms (ends _)

/-- A map with an alias in its key and one behind a pointer, and a type at the end of two names. -/
theorem resolves_completely_prices :
    (prices.expand? priceMap = some moneyMap ∧
      ∀ ref ∈ moneyMap.names, ∀ declaration, prices.lookup ref = some declaration →
        declaration.isAlias = false) ∧
    prices.expand? (.named ⟨"m", "Price"⟩) = some (.named ⟨"m", "Money"⟩) ∧
      prices.underlying (.named ⟨"m", "Price"⟩) = .primitive .int64 ∧
      prices.sameExpansion (prices.underlying (.named ⟨"m", "Money"⟩))
        (prices.underlying (.named ⟨"m", "Price"⟩)) = true := by
  have from_map : prices.expand? priceMap = some moneyMap := by decide +kernel
  have from_price : prices.expand? (.named ⟨"m", "Price"⟩) = some (.named ⟨"m", "Money"⟩) := by
    decide +kernel
  obtain ⟨expanded, found, free, -⟩ := resolves_completely settled_prices.expands priceMap
  obtain ⟨expanded', found', -, -, -, -, alike⟩ :=
    resolves_completely settled_prices.expands (.named ⟨"m", "Price"⟩)
  obtain rfl := Option.some.inj (from_map.symm.trans found)
  obtain rfl := Option.some.inj (from_price.symm.trans found')
  exact ⟨⟨from_map, free⟩, from_price, by decide +kernel, alike (settled_prices.bottoms _)⟩

end Declarations
end RecordConversion
