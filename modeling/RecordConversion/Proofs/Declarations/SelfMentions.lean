import Mathlib.Order.WellFoundedSet
import RecordConversion.Proofs.Declarations.Names
import RecordConversion.Proofs.Declarations.Resolution
import RecordConversion.Proofs.HostType.Parts

/-!
# Recursions over what types stand for

Several readings of a type resolve it and go on with pieces of the meaning, for which they resolve
again.  Which pieces these are is a parameter: all children of the meaning (`Inside`) for the
expansion, the target of a pointer (`Behind`) for the search of an embedded record, and none at all
(`Nowhere`) for resolution itself.

If every type stands for what it resolves to, such a recursion ends for every type exactly if no
alias mentions itself through pieces of that kind:

* `Declarations.ChainsEnd.noSelfMention_iff_ends`.
-/

namespace RecordConversion

namespace HostType

/-! ## Kinds of pieces -/

/-- The second type is a child of the first. -/
def Inside (type child : HostType) : Prop :=
  child ∈ type.children

/-- The first type is a pointer to the second. -/
def Behind (type target : HostType) : Prop :=
  type = .pointer target

/-- No type is a piece of another. -/
def Nowhere (_ _ : HostType) : Prop :=
  False

theorem Behind.inside
    {type target : HostType}
    (behind : Behind type target) :
    Inside type target := by
  rw [behind]
  exact List.mem_singleton_self target

end HostType

namespace Declarations

open HostType (Inside Behind Nowhere)
open Relation (ReflTransGen TransGen)

section Pieces

variable (table : Declarations) (piece : HostType → HostType → Prop)

/-- The recursion goes on from a type with a piece of what it resolves to. -/
def Descends (type next : HostType) : Prop :=
  piece (table.resolve type) next

/-- However the recursion goes on from a type, it ends. -/
def Ends (type : HostType) : Prop :=
  Acc (fun next type => table.Descends piece type next) type

/-- A name is a piece of pieces of the target of an alias, or the target itself. -/
def Mentions (ref other : QualifiedName) : Prop :=
  ∃ target, table.aliasTarget? (.named ref) = some target ∧
    ReflTransGen piece target (.named other)

/-- However mentions lead on from a name, they end. -/
def MentionsEnd (ref : QualifiedName) : Prop :=
  Acc (fun other ref => table.Mentions piece ref other) ref

/-- No alias leads back to itself. -/
def NoSelfMention : Prop :=
  ∀ ref, ¬ TransGen (table.Mentions piece) ref ref

/-- Every type stands for what it resolves to: no chain of aliases is endless or too long. -/
def ChainsEnd : Prop :=
  ∀ type, table.StandsFor type (table.resolve type)

end Pieces

variable {table : Declarations} {piece : HostType → HostType → Prop}

theorem ChainsEnd.resolve_eq
    (chains : table.ChainsEnd) {type target : HostType}
    (step : table.aliasTarget? type = some target) :
    table.resolve type = table.resolve target :=
  (chains type).unique (.through step (chains target))

/-- A type stands for what it resolves to, unless resolution has given up. -/
theorem standsFor_resolve
    {type : HostType}
    (resolved : table.resolve type ≠ .other type.text) :
    table.StandsFor type (table.resolve type) := by
  cases found : table.resolveWithin expansionLimit type with
  | none =>
      have gave_up : table.resolve type = .other type.text := by simp [resolve, found]
      exact absurd gave_up resolved
  | some meaning =>
      have same : table.resolve type = meaning := by simp [resolve, found]
      exact same ▸ standsFor_of_resolveWithin expansionLimit found

/-- It is enough to look at the aliases. -/
theorem chainsEnd_of_aliases
    (aliases : ∀ ref target, table.aliasTarget? (.named ref) = some target →
      ∀ spelling, table.resolve (.named ref) ≠ .other spelling) :
    table.ChainsEnd := by
  intro type
  cases step : table.aliasTarget? type with
  | none =>
      rw [resolve_of_no_alias step]
      exact .itself step
  | some target =>
      obtain ⟨ref, _, rfl, -⟩ := exists_alias_of_aliasTarget? step
      exact standsFor_resolve (aliases ref target step _)

theorem chainsEnd_of_names
    (names : ∀ ref ∈ table.names, (table.resolveWithin expansionLimit (.named ref)).isSome = true) :
    table.ChainsEnd := by
  intro type
  cases step : table.aliasTarget? type with
  | none =>
      rw [resolve_of_no_alias step]
      exact .itself step
  | some target =>
      obtain ⟨ref, _, rfl, entry, -⟩ := exists_alias_of_aliasTarget? step
      obtain ⟨meaning, found⟩ := Option.isSome_iff_exists.1 (names ref (List.mem_map_of_mem entry))
      have resolved : table.resolve (.named ref) = meaning := by simp [resolve, found]
      exact resolved ▸ standsFor_of_resolveWithin expansionLimit found

/-! ## From names to types and back -/

section Children

variable (inside : ∀ type child, piece type child → Inside type child)

include inside

/-- A name has no pieces, so nothing but itself is reached from it. -/
theorem eq_of_reached_of_named
    {ref : QualifiedName} {type : HostType}
    (reached : ReflTransGen piece (.named ref) type) :
    type = .named ref := by
  rcases reached.cases_head with same | ⟨next, first, -⟩
  · exact same.symm
  · cases inside _ _ first

/-- A type whose names all end ends itself. -/
theorem ends_of_named
    (type : HostType)
    (names : ∀ ref, ReflTransGen piece type (.named ref) → table.Ends piece (.named ref)) :
    table.Ends piece type := by
  by_cases named : ∃ ref, type = .named ref
  · obtain ⟨ref, rfl⟩ := named
    exact names ref .refl
  · have resolved : table.resolve type = type :=
      resolve_of_no_alias
        (aliasTarget?_eq_none_of_not_named fun ref same => named ⟨ref, same⟩)
    refine Acc.intro type fun next down => ?_
    rw [Descends, resolved] at down
    have := HostType.size_lt_of_mem_children (inside _ _ down)
    exact ends_of_named next fun ref reached => names ref (.head down reached)
termination_by type.size

theorem MentionsEnd.ends
    (chains : table.ChainsEnd) {ref : QualifiedName}
    (mentions : table.MentionsEnd piece ref) :
    table.Ends piece (.named ref) := by
  induction mentions with
  | intro ref _ ih =>
      cases step : table.aliasTarget? (.named ref) with
      | none =>
          refine Acc.intro _ fun next down => ?_
          rw [Descends, resolve_of_no_alias step] at down
          cases inside _ _ down
      | some target =>
          have target_ends : table.Ends piece target :=
            ends_of_named inside target fun other reached => ih other ⟨target, step, reached⟩
          refine Acc.intro _ fun next down => ?_
          rw [Descends, chains.resolve_eq step] at down
          exact target_ends.inv down

/-- The way back along a chain of aliases: if mentions end from the names inside the meaning of a
type, they end from the names inside the type. -/
theorem StandsFor.mentionsEnd
    {type meaning : HostType}
    (stands : table.StandsFor type meaning)
    (settled : ∀ next, piece meaning next → ∀ ref, ReflTransGen piece next (.named ref) →
      table.MentionsEnd piece ref)
    {ref : QualifiedName}
    (reached : ReflTransGen piece type (.named ref)) :
    table.MentionsEnd piece ref := by
  induction stands generalizing ref with
  | itself no_alias =>
      rcases reached.cases_head with same | ⟨next, down, rest⟩
      · refine Acc.intro ref fun other mention => ?_
        obtain ⟨target, step, -⟩ := mention
        rw [← same, no_alias] at step
        cases step
      · exact settled next down ref rest
  | through step _ ih =>
      obtain ⟨name, _, rfl, -⟩ := exists_alias_of_aliasTarget? step
      have same := eq_of_reached_of_named inside reached
      refine Acc.intro ref fun other mention => ?_
      obtain ⟨target, step', reached'⟩ := mention
      rw [same, step] at step'
      cases step'
      exact ih settled reached'

theorem Ends.mentionsEnd
    (chains : table.ChainsEnd) {type : HostType}
    (ends : table.Ends piece type) {ref : QualifiedName}
    (reached : ReflTransGen piece type (.named ref)) :
    table.MentionsEnd piece ref := by
  induction ends generalizing ref with
  | intro type _ ih =>
      exact (chains type).mentionsEnd inside (fun next down ref => ih next down) reached

end Children

/-! ## Cycles -/

/-- What mentions another name is declared. -/
theorem Mentions.mem_names
    {ref other : QualifiedName}
    (mention : table.Mentions piece ref other) :
    ref ∈ table.names := by
  obtain ⟨target, step, -⟩ := mention
  obtain ⟨_, _, same, entry, -⟩ := exists_alias_of_aliasTarget? step
  cases same
  exact List.mem_map_of_mem entry

theorem mentionsEnd_of_not_mem_names
    {ref : QualifiedName}
    (undeclared : ref ∉ table.names) :
    table.MentionsEnd piece ref :=
  Acc.intro ref fun _ mention => absurd mention.mem_names undeclared

/-- Names are finitely many, so mentions that never come back end. -/
theorem noSelfMention_iff_mentionsEnd :
    table.NoSelfMention piece ↔ ∀ ref, table.MentionsEnd piece ref := by
  constructor
  · intro fresh ref
    by_cases declared : ref ∈ table.names
    · let Leads (other ref : QualifiedName) : Prop := TransGen (table.Mentions piece) ref other
      have : IsStrictOrder QualifiedName Leads :=
        { irrefl := fresh, trans := fun _ _ _ first second => second.trans first }
      have wellFounded : {ref | ref ∈ table.names}.WellFoundedOn Leads :=
        (List.finite_toSet table.names).wellFoundedOn
      refine wellFounded.induction declared fun ref _ ih => Acc.intro ref fun other mention => ?_
      by_cases declared' : other ∈ table.names
      · exact ih other declared' (.single mention)
      · exact mentionsEnd_of_not_mem_names declared'
    · exact mentionsEnd_of_not_mem_names declared
  · intro mentions ref cycle
    induction mentions ref with
    | intro ref _ ih =>
        obtain ⟨other, mention, back⟩ := TransGen.head'_iff.1 cycle
        exact ih other mention (.tail' back mention)

/-- A recursion ends for every type exactly if no alias leads back to itself. -/
theorem ChainsEnd.noSelfMention_iff_ends
    (chains : table.ChainsEnd)
    (inside : ∀ type child, piece type child → Inside type child) :
    table.NoSelfMention piece ↔ ∀ type, table.Ends piece type := by
  rw [noSelfMention_iff_mentionsEnd]
  constructor
  · intro mentions type
    exact ends_of_named inside type fun ref _ => (mentions ref).ends inside chains
  · intro ends ref
    exact (ends (.named ref)).mentionsEnd inside chains .refl

/-- It is enough that it ends for the declared names. -/
theorem ChainsEnd.noSelfMention_iff_names_end
    (chains : table.ChainsEnd)
    (inside : ∀ type child, piece type child → Inside type child) :
    table.NoSelfMention piece ↔ ∀ ref ∈ table.names, table.Ends piece (.named ref) := by
  rw [noSelfMention_iff_mentionsEnd]
  constructor
  · intro mentions ref _
    exact (mentions ref).ends inside chains
  · intro ends ref
    by_cases declared : ref ∈ table.names
    · exact (ends ref declared).mentionsEnd inside chains .refl
    · exact mentionsEnd_of_not_mem_names declared

/-- Where chains end, no alias leads back to itself by a chain alone. -/
theorem ChainsEnd.noSelfMention_nowhere
    (chains : table.ChainsEnd) :
    table.NoSelfMention Nowhere := by
  rw [chains.noSelfMention_iff_ends (by rintro _ _ ⟨⟩)]
  exact fun type => Acc.intro type (by rintro _ ⟨⟩)

/-- What ends with all pieces ends with some of them. -/
theorem Ends.of_inside
    (inside : ∀ type child, piece type child → Inside type child) {type : HostType}
    (ends : table.Ends Inside type) :
    table.Ends piece type := by
  induction ends with
  | intro type _ ih => exact Acc.intro type fun next down => ih next (inside _ _ down)

end Declarations
end RecordConversion
