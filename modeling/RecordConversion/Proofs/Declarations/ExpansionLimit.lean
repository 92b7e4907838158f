import RecordConversion.Proofs.Declarations.ShapeAgreement

/-!
# How far a chain of aliases is followed

Resolution and classification both follow a chain of aliases up to the same limit, but they count
different things.  Resolution counts the types that it looks at, and the end of the chain is one of
them.  Classification counts the aliases behind it, and gives up only when these are more than the
limit.  So a chain with exactly as many aliases as the limit is given up by the one and followed to
its end by the other, and at every other length both do the same: `renamedCard` has a chain of each
length.

* `StandsForIn.resolve_eq_named_iff`, `StandsForIn.isSome_recordBody?_iff`: how far resolution goes.
* `StandsForIn.kind_shapeOf_eq_record_iff`: how far classification goes.
* `Declarations.record_agreement_iff`: the one length at which a shape is that of a record and the
  type does not resolve to it.
-/

namespace RecordConversion
namespace Declarations

variable {table : Declarations} {hops : Nat} {type meaning : HostType} {ref : QualifiedName}
  {body : List Field}

/-! ## Resolution -/

/-- Of a chain with as many aliases as the limit, resolution leaves the text of its first type.  The
length of a chain is fixed by its beginning, so there is no shorter one. -/
theorem StandsForIn.resolve_of_limit_le
    (chain : table.StandsForIn hops type meaning) (many : expansionLimit ≤ hops) :
    table.resolve type = .other type.text := by
  rcases table.standsForSoon_resolve_or type with ⟨others, fewer, chain'⟩ | ⟨-, text⟩
  · rw [← chain.length_unique chain'] at fewer
    exact absurd fewer (Nat.not_lt_of_le many)
  · exact text

/-- A name at the end of a chain is found if the aliases before it are fewer than the limit. -/
theorem StandsForIn.resolve_eq_named_iff
    (chain : table.StandsForIn hops type (.named ref)) :
    table.resolve type = .named ref ↔ hops < expansionLimit := by
  constructor
  · intro resolved
    refine Nat.lt_of_not_le fun many => ?_
    rw [chain.resolve_of_limit_le many] at resolved
    cases resolved
  · intro fewer
    exact StandsForSoon.resolve_eq ⟨hops, fewer, chain⟩

/-- The members of a record at the end of a chain are found if the aliases before it are fewer than
the limit. -/
theorem StandsForIn.isSome_recordBody?_iff
    (chain : table.StandsForIn hops type (.named ref))
    (record : table.recordBody? (.named ref) = some body) :
    (table.recordBody? type).isSome = true ↔ hops < expansionLimit := by
  constructor
  · intro members
    refine Nat.lt_of_not_le fun many => ?_
    obtain ⟨found, shown⟩ := Option.isSome_iff_exists.1 members
    have bottom : table.underlying type = .other type.text :=
      underlying_of_resolve_not_named (chain.resolve_of_limit_le many) (by simp)
    cases bottom.symm.trans (underlying_of_recordBody? shown)
  · intro fewer
    have resolved := chain.resolve_eq_named_iff.2 fewer
    have under : (table.underlying (.named ref)).kind = .record := by
      rw [underlying_of_recordBody? record]
      rfl
    have structured : (table.underlying (.named ref)).kind ≠ .other := by
      rw [under]
      nofun
    rw [← underlying_eq_of_resolve resolved structured] at under
    exact Option.isSome_iff_exists.2 (exists_recordBody?_of_kind under)

/-! ## Classification -/

/-- Nothing is seen behind a chain that leads below the limit; each of its aliases is one level. -/
theorem StandsForIn.kind_shapeAt_of_limit_lt
    (chain : table.StandsForIn hops type meaning)
    {depth : Nat} (below : expansionLimit < depth + hops) (path : List QualifiedName) :
    (table.shapeAt depth path type).kind = .other := by
  induction chain generalizing depth path with
  | itself _ =>
      have deep : expansionLimit < depth := below
      rw [shapeAt_of_deep deep]
      rfl
  | through step _ ih =>
      rcases Nat.lt_or_ge expansionLimit depth with deep | shallow
      · rw [shapeAt_of_deep deep]
        rfl
      · obtain ⟨ref, name, methods, rfl, found⟩ := exists_lookup_of_aliasTarget? step
        by_cases again : ref ∈ path
        · rw [shapeAt_again shallow found again]
          rfl
        · rw [shapeAt_alias shallow found again]
          exact ih (by omega) (ref :: path)

/-- A record at the end of a chain is seen if the aliases before it are no more than the limit. -/
theorem StandsForIn.kind_shapeOf_eq_record_iff
    (chain : table.StandsForIn hops type (.named ref))
    (record : table.recordBody? (.named ref) = some body) :
    (table.shapeOf type).kind = .record ↔ hops ≤ expansionLimit := by
  constructor
  · intro shown
    refine Nat.le_of_not_lt fun beyond => ?_
    have below : expansionLimit < 0 + hops := by omega
    have nothing : (table.shapeOf type).kind = .other := chain.kind_shapeAt_of_limit_lt below []
    cases nothing.symm.trans shown
  · intro within
    rw [chain.kind_shapeOf_eq_meaning within, underlying_of_recordBody? record]
    rfl

/-- A record that is seen at the end of a chain goes by the name that stands there. -/
theorem StandsForIn.shapeOf_eq_record_iff
    (chain : table.StandsForIn hops type (.named ref)) :
    table.shapeOf type = .record ref.path ref.name ref.text ↔
      (table.shapeOf type).kind = .record := by
  constructor
  · intro shape
    rw [shape]
    rfl
  · intro shown
    obtain ⟨_, stands, seen⟩ := exists_record_of_isShapeOf (table.isShapeOf_shapeOf type) shown
    obtain rfl := chain.standsFor.unique stands
    rcases seen with ⟨_, literal⟩ | ⟨_, same, shape⟩
    · cases literal
    · cases same
      exact shape

/-! ## Chains of every length -/

/-- The name of a card, with so many marks at its end. -/
def cardName (marks : Nat) : QualifiedName :=
  ⟨"m", String.ofList ("Card".toList ++ List.replicate marks '_')⟩

/-- The members of a card. -/
def cardBody : List Field :=
  [⟨"ID", .primitive .int, false, true⟩]

/-- A card, and so many more names for it, each an alias of the one with a mark less. -/
def renamedCard : Nat → Declarations
  | 0 => ⟨[(cardName 0, ⟨cardName 0, .defined (.record cardBody), []⟩)]⟩
  | marks + 1 =>
    let target := HostType.named (cardName marks)
    ⟨(cardName (marks + 1), ⟨cardName (marks + 1), .alias target, []⟩) ::
      (renamedCard marks).entries⟩

theorem cardName_inj
    {marks others : Nat} :
    cardName marks = cardName others ↔ marks = others := by
  simp [cardName, String.ofList_inj, List.replicate_inj]

/-- Further names leave the declaration of a name as it is. -/
theorem lookup_renamedCard_of_le
    {marks most : Nat} (fewer : marks ≤ most) :
    (renamedCard most).lookup (cardName marks) = (renamedCard marks).lookup (cardName marks) := by
  induction fewer with
  | refl => rfl
  | @step most fewer ih =>
      have other : (cardName marks == cardName (most + 1)) = false := by
        rw [beq_eq_false_iff_ne, Ne, cardName_inj]
        exact Nat.ne_of_lt (Nat.lt_succ_of_le fewer)
      rw [← ih, renamedCard, lookup, List.lookup_cons, other]
      rfl

/-- From each of the names a chain of as many aliases as it has marks leads to the card. -/
theorem standsForIn_renamedCard
    {marks most : Nat} (fewer : marks ≤ most) :
    (renamedCard most).StandsForIn marks (.named (cardName marks)) (.named (cardName 0)) := by
  induction marks with
  | zero =>
      refine .itself ?_
      rw [aliasTarget?, lookup_renamedCard_of_le fewer]
      simp [renamedCard, lookup]
  | succ marks ih =>
      refine .through ?_ (ih (Nat.le_of_succ_le fewer))
      rw [aliasTarget?, lookup_renamedCard_of_le fewer]
      simp [renamedCard, lookup]

theorem recordBody?_renamedCard
    (most : Nat) :
    (renamedCard most).recordBody? (.named (cardName 0)) = some cardBody := by
  have found := lookup_renamedCard_of_le (Nat.zero_le most)
  exact recordBody?_of_lookup found rfl

/-! ## Side by side -/

/-- A chain of so many aliases ends in a declared record.  The shape of its first type is that of
the record up to the limit, and the type resolves to the record below the limit.  So the two agree
at every length but the limit itself, and so do the shape and the members of the type on whether it
is a record. -/
theorem record_agreement_iff
    {hops : Nat} {type : HostType} {ref : QualifiedName} {body : List Field}
    (chain : table.StandsForIn hops type (.named ref))
    (record : table.recordBody? (.named ref) = some body) :
    (table.shapeOf type = .record ref.path ref.name ref.text ↔ hops ≤ expansionLimit) ∧
    (table.resolve type = .named ref ↔ hops < expansionLimit) ∧
    ((table.shapeOf type = .record ref.path ref.name ref.text ↔ table.resolve type = .named ref) ↔
      hops ≠ expansionLimit) ∧
    (((table.shapeOf type).kind = .record ↔ (table.recordBody? type).isSome = true) ↔
      hops ≠ expansionLimit) := by
  have kind := chain.kind_shapeOf_eq_record_iff record
  have shape := chain.shapeOf_eq_record_iff.trans kind
  have resolved := chain.resolve_eq_named_iff
  have members := chain.isSome_recordBody?_iff record
  have one_length : (hops ≤ expansionLimit ↔ hops < expansionLimit) ↔ hops ≠ expansionLimit := by
    omega
  refine ⟨shape, resolved, ?_, ?_⟩
  · rw [shape, resolved, one_length]
  · rw [kind, members, one_length]

theorem record_agreement_iff_renamedCard :
    ((renamedCard 63).StandsForIn 63 (.named (cardName 63)) (.named ⟨"m", "Card"⟩) ∧
      (renamedCard 63).recordBody? (.named ⟨"m", "Card"⟩) = some cardBody ∧
      (renamedCard 63).shapeOf (.named (cardName 63)) = .record "m" "Card" "m.Card" ∧
      (renamedCard 63).resolve (.named (cardName 63)) = .named ⟨"m", "Card"⟩) ∧
    (renamedCard 65).StandsForIn 65 (.named (cardName 65)) (.named ⟨"m", "Card"⟩) ∧
      (renamedCard 65).recordBody? (.named ⟨"m", "Card"⟩) = some cardBody ∧
      (renamedCard 65).shapeOf (.named (cardName 65)) ≠ .record "m" "Card" "m.Card" ∧
      (renamedCard 65).resolve (.named (cardName 65)) ≠ .named ⟨"m", "Card"⟩ := by
  have short := standsForIn_renamedCard (Nat.le_refl 63)
  have long := standsForIn_renamedCard (Nat.le_refl 65)
  have card := recordBody?_renamedCard 63
  have card' := recordBody?_renamedCard 65
  obtain ⟨seen, found, -, -⟩ := record_agreement_iff short card
  obtain ⟨unseen, unfound, -, -⟩ := record_agreement_iff long card'
  have beyond : ¬ 65 ≤ expansionLimit := by decide
  refine ⟨⟨short, card, seen.2 (by decide), found.2 (by decide)⟩, long, card', ?_, ?_⟩
  · exact fun shape => beyond (unseen.1 shape)
  · exact fun resolved => beyond (Nat.le_of_lt (unfound.1 resolved))

/-- A chain with as many aliases as the limit: the shape of the first is that of the card, and still
the name resolves to a text and has no members. -/
theorem card_seen_but_not_resolved :
    (renamedCard 64).StandsForIn 64 (.named (cardName 64)) (.named ⟨"m", "Card"⟩) ∧
      (renamedCard 64).recordBody? (.named ⟨"m", "Card"⟩) = some cardBody ∧
      (renamedCard 64).shapeOf (.named (cardName 64)) = .record "m" "Card" "m.Card" ∧
      (renamedCard 64).resolve (.named (cardName 64)) = .other (cardName 64).text ∧
      (renamedCard 64).recordBody? (.named (cardName 64)) = none := by
  have chain := standsForIn_renamedCard (Nat.le_refl 64)
  have record := recordBody?_renamedCard 64
  have shown := (chain.kind_shapeOf_eq_record_iff record).2 (by decide)
  have members := mt (chain.isSome_recordBody?_iff record).1 (by decide)
  exact ⟨chain, record, chain.shapeOf_eq_record_iff.2 shown,
    chain.resolve_of_limit_le (by decide), Option.not_isSome_iff_eq_none.1 members⟩

end Declarations
end RecordConversion
