import RecordConversion.Proofs.Declarations.Resolution

/-!
# Lengths of chains of names

Resolution and the search for the underlying type follow chains of names for a limited number of
steps.  Here the steps are counted: `StandsForIn` counts the aliases from a type to its meaning, and
`RestsOnIn` the defined types that are passed on the way to a type that is no declared name, with a
short chain of aliases before each.

A chain that is short enough is followed to its end, and one that is too long ends as a text.  A
chain can also end in a type that is kept as text, so an answer that is a text does not tell the two
apart.

* `resolveWithin_eq_some_iff`: limited resolution finds the ends of shorter chains.
* `resolve_isText_iff` and `underlying_isText_iff`: when the answer is a text.
-/

namespace RecordConversion

/-- The type is kept as text. -/
def HostType.IsText (type : HostType) : Prop :=
  ∃ spelling, type = .other spelling

namespace Declarations

/-! ## Chains of aliases -/

/-- A chain of so many aliases leads from a type to another one that is no alias. -/
inductive StandsForIn
    (table : Declarations) : Nat → HostType → HostType → Prop
  | itself
      {type : HostType}
      (no_alias : table.aliasTarget? type = none) :
      StandsForIn table 0 type type
  | through
      {hops : Nat} {type target meaning : HostType}
      (step : table.aliasTarget? type = some target)
      (further : StandsForIn table hops target meaning) :
      StandsForIn table (hops + 1) type meaning

/-- A chain of fewer aliases than the limit leads from a type to another one that is no alias. -/
def StandsForSoon
    (table : Declarations) (type meaning : HostType) : Prop :=
  ∃ hops < expansionLimit, table.StandsForIn hops type meaning

variable {table : Declarations}

theorem StandsForIn.standsFor
    {hops : Nat} {type meaning : HostType}
    (chain : table.StandsForIn hops type meaning) :
    table.StandsFor type meaning := by
  induction chain with
  | itself no_alias => exact .itself no_alias
  | through step _ ih => exact .through step ih

theorem StandsForSoon.standsFor
    {type meaning : HostType}
    (soon : table.StandsForSoon type meaning) :
    table.StandsFor type meaning := by
  obtain ⟨hops, -, chain⟩ := soon
  exact chain.standsFor

/-- Limited resolution finds the ends of the chains with fewer aliases than steps. -/
theorem resolveWithin_eq_some_iff
    {steps : Nat} {type meaning : HostType} :
    table.resolveWithin steps type = some meaning ↔
      ∃ hops < steps, table.StandsForIn hops type meaning := by
  constructor
  · intro found
    induction steps generalizing type with
    | zero => cases found
    | succ steps ih =>
        cases step : table.aliasTarget? type with
        | none =>
            simp only [resolveWithin, step, Option.some.injEq] at found
            exact ⟨0, steps.succ_pos, found ▸ .itself step⟩
        | some target =>
            simp only [resolveWithin, step] at found
            obtain ⟨hops, fewer, chain⟩ := ih found
            exact ⟨hops + 1, Nat.succ_lt_succ fewer, .through step chain⟩
  · rintro ⟨hops, fewer, chain⟩
    induction chain generalizing steps with
    | itself no_alias =>
        obtain ⟨further, rfl⟩ := Nat.exists_eq_add_of_lt fewer
        simp [resolveWithin, no_alias]
    | through step _ ih =>
        obtain ⟨further, rfl⟩ := Nat.exists_eq_succ_of_ne_zero (Nat.ne_zero_of_lt fewer)
        simp only [resolveWithin, step]
        exact ih (Nat.lt_of_succ_lt_succ fewer)

theorem standsForSoon_iff
    {type meaning : HostType} :
    table.StandsForSoon type meaning ↔
      table.resolveWithin expansionLimit type = some meaning :=
  resolveWithin_eq_some_iff.symm

/-- A type resolves to the end of a short chain. -/
theorem StandsForSoon.resolve_eq
    {type meaning : HostType}
    (soon : table.StandsForSoon type meaning) :
    table.resolve type = meaning := by
  rw [resolve, standsForSoon_iff.1 soon, Option.getD_some]

/-- A type resolves to the end of a short chain, or to its text where there is none. -/
theorem standsForSoon_resolve_or
    (type : HostType) :
    table.StandsForSoon type (table.resolve type) ∨
      (¬ ∃ meaning, table.StandsForSoon type meaning) ∧ table.resolve type = .other type.text := by
  cases found : table.resolveWithin expansionLimit type with
  | none => exact .inr ⟨by simp [standsForSoon_iff, found], by simp [resolve, found]⟩
  | some meaning =>
      have soon : table.StandsForSoon type meaning := standsForSoon_iff.2 found
      exact .inl (soon.resolve_eq.symm ▸ soon)

/-- A type resolves to a text exactly if no short chain of aliases leads to anything else. -/
theorem resolve_isText_iff
    (type : HostType) :
    (table.resolve type).IsText ↔
      ∀ meaning, table.StandsForSoon type meaning → meaning.IsText := by
  constructor
  · intro text meaning soon
    exact soon.resolve_eq ▸ text
  · intro texts
    rcases table.standsForSoon_resolve_or type with soon | ⟨-, text⟩
    · exact texts _ soon
    · exact ⟨_, text⟩

/-! ## Chains of defined types -/

/-- Past so many defined types, each at the end of a short chain of aliases, a type comes down to
one that is no declared name. -/
inductive RestsOnIn
    (table : Declarations) : Nat → HostType → HostType → Prop
  | bottom
      {type bottom : HostType}
      (soon : table.StandsForSoon type bottom)
      (undeclared : table.definitionOf? bottom = none) :
      RestsOnIn table 0 type bottom
  | past
      {passed : Nat} {type name body bottom : HostType}
      (soon : table.StandsForSoon type name)
      (defined : table.definitionOf? name = some body)
      (further : RestsOnIn table passed body bottom) :
      RestsOnIn table (passed + 1) type bottom

/-- Past fewer defined types than the limit, a type comes down to one that is no declared name. -/
def RestsOnSoon
    (table : Declarations) (type bottom : HostType) : Prop :=
  ∃ passed < expansionLimit, table.RestsOnIn passed type bottom

theorem RestsOnIn.underlyingWithin_eq
    {passed steps : Nat} {type bottom : HostType}
    (rests : table.RestsOnIn passed type bottom) (fewer : passed < steps) :
    table.underlyingWithin steps (table.resolve type) = some bottom := by
  induction rests generalizing steps with
  | bottom soon undeclared =>
      obtain ⟨further, rfl⟩ := Nat.exists_eq_add_of_lt fewer
      simp [soon.resolve_eq, underlyingWithin, undeclared]
  | past soon defined _ ih =>
      obtain ⟨further, rfl⟩ := Nat.exists_eq_succ_of_ne_zero (Nat.ne_zero_of_lt fewer)
      simp only [soon.resolve_eq, underlyingWithin, defined]
      exact ih (Nat.lt_of_succ_lt_succ fewer)

/-- The search finds the end of a chain of names, or the text of one with too many aliases. -/
theorem restsOnIn_or_isText_of_underlyingWithin
    {steps : Nat} {type bottom : HostType}
    (found : table.underlyingWithin steps (table.resolve type) = some bottom) :
    (∃ passed < steps, table.RestsOnIn passed type bottom) ∨ bottom.IsText := by
  induction steps generalizing type with
  | zero => cases found
  | succ steps ih =>
      rw [underlyingWithin] at found
      rcases table.standsForSoon_resolve_or type with soon | ⟨-, text⟩
      · cases defined : table.definitionOf? (table.resolve type) with
        | none =>
            simp only [defined, Option.some.injEq] at found
            exact .inl ⟨0, steps.succ_pos, found ▸ .bottom soon defined⟩
        | some body =>
            simp only [defined] at found
            rcases ih found with ⟨passed, fewer, rests⟩ | text
            · exact .inl ⟨passed + 1, Nat.succ_lt_succ fewer, .past soon defined rests⟩
            · exact .inr text
      · simp only [text, definitionOf?, Option.some.injEq] at found
        exact .inr ⟨_, found.symm⟩

theorem RestsOnSoon.underlyingWithin_eq
    {type bottom : HostType}
    (rests : table.RestsOnSoon type bottom) :
    table.underlyingWithin expansionLimit (table.resolve type) = some bottom := by
  obtain ⟨passed, fewer, rests⟩ := rests
  exact rests.underlyingWithin_eq fewer

/-- The underlying type is the end of a short chain of names. -/
theorem RestsOnSoon.underlying_eq
    {type bottom : HostType}
    (rests : table.RestsOnSoon type bottom) :
    table.underlying type = bottom := by
  rw [underlying, rests.underlyingWithin_eq, Option.getD_some]

/-- The underlying type is a text exactly if no short chain of names leads to anything else. -/
theorem underlying_isText_iff
    (type : HostType) :
    (table.underlying type).IsText ↔
      ∀ bottom, table.RestsOnSoon type bottom → bottom.IsText := by
  constructor
  · intro text bottom rests
    exact rests.underlying_eq ▸ text
  · intro texts
    cases found : table.underlyingWithin expansionLimit (table.resolve type) with
    | none => exact ⟨type.text, by simp [underlying, found]⟩
    | some bottom =>
        have underlying : table.underlying type = bottom := by simp [underlying, found]
        rw [underlying]
        exact (restsOnIn_or_isText_of_underlyingWithin found).elim (texts bottom) id

end Declarations
end RecordConversion
