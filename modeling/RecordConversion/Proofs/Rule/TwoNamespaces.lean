import RecordConversion.Catalog.Basic
import RecordConversion.Proofs.Declarations.Congruence
import RecordConversion.Proofs.Declarations.Shapes
import RecordConversion.Proofs.HostType.Namespaces
import RecordConversion.Proofs.Rule.Answers
import RecordConversion.Resolver

/-!
# Fields of one type expression in two namespaces

The types that an expression has in two namespaces are taken for one type exactly if every name that
belongs to the namespaces is one type in both of them.  Such names are one type where aliases lead
them to one declaration, and different types otherwise.

What is kept as text has no such names.  An array, a channel or a function is therefore taken for
the same type in all namespaces, whatever the names in it are in each of them.

* `HostType.Twins.sameExpansion_iff`: name by name, along the types.
* `Provider.alike_in_two_namespaces`: when values of the two types are assigned as they are.
-/

namespace RecordConversion

/-! ## Along the types -/

namespace HostType.Twins

variable {a b : String} {names : List String} {type type' : HostType} {table : Declarations}

/-- Without a name of the namespaces the types are one. -/
theorem eq_of_nil
    (twins : Twins a b [] type type') :
    type = type' := by
  generalize empty : ([] : List String) = names at twins
  induction twins with
  | same type => rfl
  | name name => cases empty
  | pointer _ ih => rw [ih empty]
  | slice _ ih => rw [ih empty]
  | map _ _ ih ih' =>
      obtain ⟨first, rest⟩ := List.append_eq_nil_iff.1 empty.symm
      rw [ih first.symm, ih' rest.symm]

/-- The types expand alike if every name does, provided that they expand at all. -/
theorem sameExpansion_iff
    (twins : Twins a b names type type') :
    table.sameExpansion type type' = true ↔
      (table.expand? type).isSome = true ∧
        ∀ name ∈ names, table.sameExpansion (.named ⟨a, name⟩) (.named ⟨b, name⟩) = true := by
  induction twins with
  | same type =>
      rw [Declarations.sameExpansion_iff, Option.isSome_iff_exists]
      simp
  | name name =>
      rw [List.forall_mem_singleton, iff_and_self, Declarations.sameExpansion_iff]
      rintro ⟨expanded, found, _⟩
      exact Option.isSome_of_eq_some found
  | pointer _ ih =>
      rw [Declarations.sameExpansion_pointer, Declarations.expand?_pointer, Option.isSome_map, ih]
  | slice _ ih =>
      rw [Declarations.sameExpansion_slice, Declarations.expand?_slice, Option.isSome_map, ih]
  | @map names others key _ element _ _ _ ih ih' =>
      have expands :
          (table.expand? (.map key element)).isSome = true ↔
            (table.expand? key).isSome = true ∧ (table.expand? element).isSome = true := by
        rw [Declarations.expand?_map]
        cases table.expand? key <;> simp
      rw [Declarations.sameExpansion_map, expands, ih, ih', List.forall_mem_append]
      exact and_and_and_comm

/-- Names in two namespaces are identical only if aliases make them one type. -/
theorem identical_iff
    (twins : Twins a b names type type') (different : a ≠ b) (named : names ≠ []) :
    table.identical type type' = true ↔
      (table.expand? type).isSome = true ∧
        ∀ name ∈ names, table.identical (.named ⟨a, name⟩) (.named ⟨b, name⟩) = true := by
  have unlike : type ≠ type' := fun same =>
    named (twins.eq_nil_of_text different (congrArg text same))
  simp only [Declarations.identical_iff, unlike, false_or, twins.sameExpansion_iff,
    HostType.named.injEq, QualifiedName.mk.injEq, different, false_and]

end HostType.Twins

/-! ## Two fields of one expression -/

namespace Provider

open HostType

variable {provider : Provider} {a b expression : String} {type type' : HostType}

theorem alike_iff_of_twins
    {names : List String}
    (follows : provider.identical = provider.declarations.identical)
    (different : a ≠ b) (twins : Twins a b names type type') :
    provider.alike type type' = true ↔
      ∀ name ∈ names, (provider.declarations.expand? type).isSome = true ∧
        provider.identical (.named ⟨a, name⟩) (.named ⟨b, name⟩) = true := by
  rw [alike, follows, Bool.or_eq_true, beq_iff_eq]
  cases names with
  | nil => simp [twins.eq_of_nil]
  | cons first rest =>
      have named : first :: rest ≠ [] := by simp
      have texts : type.text ≠ type'.text := fun same =>
        named (twins.eq_nil_of_text different same)
      rw [or_iff_left texts, twins.identical_iff different named]
      constructor
      · rintro ⟨expands, same⟩ name member
        exact ⟨expands, same name member⟩
      · intro same
        obtain ⟨expands, _⟩ := same first List.mem_cons_self
        exact ⟨expands, fun name member => (same name member).2⟩

/-- The types of an expression in two namespaces are taken for one exactly if every name that
belongs to the namespaces is one type in both, provided that the type ends where there are such
names.  A name is one type in both only through an alias, and where one of the names is not, no
field of the one type is assigned to a field of the other. -/
theorem alike_in_two_namespaces
    (follows : provider.identical = provider.declarations.identical)
    (different : a ≠ b)
    (reads : ofExpression expression a = .ok type)
    (reads' : ofExpression expression b = .ok type') :
    (provider.alike type type' = true ↔
      ∀ name, Mentions (Text.strip expression.toList) name →
        (provider.declarations.expand? type).isSome = true ∧
          provider.identical (.named ⟨a, name⟩) (.named ⟨b, name⟩) = true) ∧
    ∀ name, Mentions (Text.strip expression.toList) name →
      (provider.declarations.aliasTarget? (.named ⟨a, name⟩) = none →
        provider.declarations.aliasTarget? (.named ⟨b, name⟩) = none →
          provider.identical (.named ⟨a, name⟩) (.named ⟨b, name⟩) = false) ∧
      (provider.identical (.named ⟨a, name⟩) (.named ⟨b, name⟩) = false →
        ∀ (nested? : Option PairSet) (pair : FieldPair),
          pair.source.type = type → pair.target.type = type' →
            Rule.sameType.convert? ⟨provider, nested?⟩ pair = none) := by
  obtain ⟨names, twins, mentions_iff⟩ :=
    exists_twins_of_read (ofExpression_eq_ok_iff.1 reads) (ofExpression_eq_ok_iff.1 reads')
  have alike_iff := alike_iff_of_twins follows different twins
  simp only [mentions_iff]
  refine ⟨alike_iff, fun name member => ⟨?_, ?_⟩⟩
  · intro own own'
    rw [follows, Bool.eq_false_iff, Ne, Declarations.identical_iff_of_no_alias own own']
    simp [different]
  · intro apart nested? pair from_a to_b
    rw [Option.eq_none_iff_forall_ne_some]
    rintro ⟨strategy, text⟩ answer
    obtain ⟨alike, -⟩ := Rule.sameType_eq_some_iff.1 answer
    rw [from_a, to_b] at alike
    rw [(alike_iff.1 alike name member).2] at apart
    cases apart

/-- A namespace with a type of its own over strings, by the name of `Status`. -/
def withStatus (catalog : Catalog) (path : String) : Catalog :=
  catalog.extend ⟨path, path, none⟩
    (Keyed.ofList [("Status", ⟨⟨path, "Status"⟩, .defined (.primitive .string), []⟩)])

/-- Two namespaces, each with a `Status` of its own. -/
def statuses : Provider :=
  (withStatus (withStatus .builtin "m") "d").provider

/-- Maps to pointers to `Status` are not assigned from one namespace to the other. -/
theorem alike_in_two_namespaces_statuses :
    statuses.identical = statuses.declarations.identical ∧
      ∃ source target,
        ofExpression "map[[4]Status]*Status" "m" = .ok source ∧
        ofExpression "map[[4]Status]*Status" "d" = .ok target ∧
        statuses.identical (.named ⟨"m", "Status"⟩) (.named ⟨"d", "Status"⟩) = false ∧
        statuses.alike source target = false ∧
        Rule.sameType.convert? ⟨statuses, none⟩ (statuses.pairOf "m" source target) = none := by
  let mapIn (path : String) : HostType :=
    .map (.other "[4]Status") (.pointer (.named ⟨path, "Status"⟩))
  have reads : ofExpression "map[[4]Status]*Status" "m" = .ok (mapIn "m") := by decide +kernel
  have reads' : ofExpression "map[[4]Status]*Status" "d" = .ok (mapIn "d") := by decide +kernel
  have mentions : Mentions (Text.strip "map[[4]Status]*Status".toList) "Status" := by
    have cut :
        splitAtClose 0 "[4]Status]*Status".toList =
          some ("[4]Status".toList, "*Status".toList) := by
      decide
    have target : Mentions "Status".toList (String.ofList "Status".toList) :=
      .itself (by decide +kernel) (by decide +kernel)
    exact .value cut (.pointer target)
  have follows : statuses.identical = statuses.declarations.identical := rfl
  obtain ⟨alike_iff, declines⟩ :=
    alike_in_two_namespaces follows (by decide) reads reads'
  have apart := (declines "Status" mentions).1 (by decide +kernel) (by decide +kernel)
  refine ⟨follows, mapIn "m", mapIn "d", reads, reads', apart, ?_, ?_⟩
  · rw [Bool.eq_false_iff]
    intro alike
    rw [(alike_iff.1 alike "Status" mentions).2] at apart
    cases apart
  · exact (declines "Status" mentions).2 apart none _ rfl rfl

/-- Arrays, channels and maps of arrays of `Status` are assigned from one namespace to the other,
though the two types of this name are different. -/
theorem assigned_in_two_namespaces_statuses :
    statuses.identical (.named ⟨"m", "Status"⟩) (.named ⟨"d", "Status"⟩) = false ∧
      ∀ expression ∈ ["[4]Status", "chan Status", "map[string][2]Status"],
        ∃ type,
          ofExpression expression "m" = .ok type ∧
          ofExpression expression "d" = .ok type ∧
          (Resolver.standard.resolve statuses [statuses.pairOf "m" type type] []).1.value.map
              (fun conversion => (conversion.strategy, conversion.expression)) =
            [(.directAssign, "dst.F = src.F")] := by
  refine ⟨by decide +kernel, ?_⟩
  simp only [List.forall_mem_cons, List.not_mem_nil, false_imp_iff, implies_true, and_true]
  refine ⟨⟨.other "[4]Status", ?_⟩, ⟨.other "chan Status", ?_⟩,
    ⟨.map (.primitive .string) (.other "[2]Status"), ?_⟩⟩
  · decide +kernel
  · decide +kernel
  · decide +kernel

end Provider
end RecordConversion
