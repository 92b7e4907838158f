import RecordConversion.Proofs.Resolver
import RecordConversion.Proofs.Rule.Answers

/-!
# What statements begin with

A statement of a standard rule sets a place of the target, stands under a condition, or is a block.
So it is not empty, and the statement of a conversion is empty exactly if the conversion is skipped.

* `Rule.opens_of_convert?`: how the statement of each rule begins.
* `Resolver.expression_eq_empty_iff`: conversions without a statement.
-/

namespace RecordConversion

/-- The text begins as a statement does: with a place of the target, a condition, or a block that
declares a variable. -/
def OpensStatement (text : String) : Prop :=
  ∃ opening ∈ ["dst.", "if ", "\x7b\nv := "], ∃ rest, text = opening ++ rest

theorem OpensStatement.ne_empty
    {text : String} (opens : OpensStatement text) :
    text ≠ "" := by
  obtain ⟨opening, listed, rest, rfl⟩ := opens
  intro empty
  obtain ⟨rfl, -⟩ := String.append_eq_empty_iff.1 empty
  exact absurd listed (by decide)

/-! ## Statements -/

theorem opensStatement_assignment
    (pair : FieldPair) (value : String) :
    OpensStatement (assignment pair.place value) :=
  ⟨"dst.", by simp, pair.target.accessPath ++ (" = " ++ value), by
    simp only [assignment, FieldPair.place, String.append_assoc]⟩

theorem opensStatement_castAssignment
    (pair : FieldPair) (type value : String) :
    OpensStatement (castAssignment pair.place type value) :=
  ⟨"dst.", by simp, pair.target.accessPath ++ (" = (" ++ (type ++ (")(" ++ (value ++ ")")))), by
    simp only [castAssignment, FieldPair.place, String.append_assoc]⟩

theorem opensStatement_guarded
    (condition statement : String) :
    OpensStatement (guarded condition statement) :=
  ⟨"if ", by simp, condition ++ (" \x7b\n" ++ (statement ++ "\n\x7d")), by
    simp only [guarded, String.append_assoc]⟩

theorem opensStatement_sliceLoop
    (source target targetType body : String) :
    OpensStatement (sliceLoop source target targetType body) :=
  opensStatement_guarded _ _

theorem opensStatement_delegation
    (pair : FieldPair) (converter source : String) (fromPointer toPointer : Bool) :
    OpensStatement (delegation converter source fromPointer pair.place toPointer) := by
  cases toPointer with
  | true => exact opensStatement_assignment pair _
  | false => exact opensStatement_guarded _ _

namespace Rule

variable {context : RuleContext} {pair : FieldPair} {strategy : Strategy} {text : String}

theorem opens_of_pointer
    (given : pointer.convert? context pair = some (strategy, text)) :
    OpensStatement text := by
  rcases pointer_eq_some_iff.1 given with ⟨_, _, _, followed⟩ | ⟨_, _, _, made⟩
  · obtain ⟨-, ⟨-, rfl⟩ | ⟨-, -, -, rfl⟩⟩ := unwrap?_eq_some_iff.1 followed
    · exact opensStatement_guarded _ _
    · exact opensStatement_guarded _ _
  · obtain ⟨-, ⟨-, rfl⟩ | ⟨-, -, -, rfl⟩⟩ := wrap?_eq_some_iff.1 made
    · exact opensStatement_assignment pair _
    · exact ⟨"\x7b\nv := ", by simp,
        withoutLead "*" pair.target.typeText ++ ("(" ++ (pair.value ++ (")\n" ++
          (assignment pair.place "&v" ++ "\n\x7d")))), by simp only [String.append_assoc]⟩

/-- How the statement of a standard rule begins. -/
theorem opens_of_convert?
    {rule : Rule} (standard : rule ∈ Rule.standard)
    (given : rule.convert? context pair = some (strategy, text)) :
    OpensStatement text := by
  simp only [Rule.standard, List.mem_cons, List.not_mem_nil, or_false] at standard
  rcases standard with rfl | rfl | rfl | rfl | rfl | rfl | rfl | rfl | rfl | rfl
  · obtain ⟨-, -, rfl⟩ := sameType_eq_some_iff.1 given
    exact opensStatement_assignment pair _
  · obtain ⟨-, -, rfl⟩ := basicCast_eq_some_iff.1 given
    exact opensStatement_castAssignment pair _ _
  · exact opens_of_pointer given
  · rcases nullable_eq_some_iff.1 given with taken | ⟨-, put⟩
    · obtain ⟨_, -, -, -, rfl⟩ := payloadOf?_eq_some_iff.1 taken
      exact opensStatement_guarded _ _
    · obtain ⟨_, -, -, -, rfl⟩ := nullableOf?_eq_some_iff.1 put
      exact opensStatement_assignment pair _
  · rcases timeString_eq_some_iff.1 given with ⟨-, -, rfl⟩ | ⟨-, -, -, rfl⟩
    · exact opensStatement_assignment pair _
    · exact opensStatement_guarded _ _
  · obtain ⟨_, -, -, ⟨_, _, -, -, delegated⟩ | ⟨-, _, _, -, -, delegated⟩⟩ :=
      nestedStruct_eq_some_iff.1 given
    · obtain ⟨-, -, rfl⟩ := delegateRecord?_eq_some_iff.1 delegated
      exact opensStatement_delegation pair _ _ _ _
    · obtain ⟨-, -, rfl⟩ := delegateSlice?_eq_some_iff.1 delegated
      exact opensStatement_sliceLoop _ _ _ _
  · obtain ⟨_, _, -, -, -, -, ⟨-, -, rfl⟩ | ⟨-, -, -, rfl⟩⟩ := sliceConvert_eq_some_iff.1 given
    · exact opensStatement_sliceLoop _ _ _ _
    · exact opensStatement_sliceLoop _ _ _ _
  · obtain ⟨-, -, rfl⟩ := stringer_eq_some_iff.1 given
    split
    · exact opensStatement_guarded _ _
    · exact opensStatement_assignment pair _
  · obtain ⟨-, -, rfl⟩ := assignable_eq_some_iff.1 given
    exact opensStatement_assignment pair _
  · obtain ⟨-, -, rfl⟩ := convertible_eq_some_iff.1 given
    exact opensStatement_castAssignment pair _ _

end Rule

namespace Resolver

/-- By standard rules the conversion of a pair has no statement exactly if it is skipped. -/
theorem expression_eq_empty_iff
    {resolver : Resolver} (standard : ∀ rule ∈ resolver.rules, rule ∈ Rule.standard)
    (provider : Provider) (pair : FieldPair) :
    (resolver.resolveField provider pair).value.expression = "" ↔
      (resolver.resolveField provider pair).value.isSkip = true := by
  cases decided : firstRule? provider resolver.pairs pair resolver.rules with
  | none =>
      simp [resolveField, decided, Logged.quiet, FieldConversion.skipped, FieldConversion.isSkip]
  | some answer =>
      obtain ⟨rule, conversion⟩ := answer
      obtain ⟨before, after, shape, given, -⟩ := firstRule?_eq_some_iff.1 decided
      obtain ⟨⟨strategy, text⟩, answered, rfl⟩ := Option.map_eq_some_iff.1 given
      have listed : rule ∈ Rule.standard := standard rule (by simp [shape])
      have some_text := (Rule.opens_of_convert? listed answered).ne_empty
      have some_strategy := (Rule.gives_of_convert? listed answered).ne_skip
      simp [resolveField, decided, FieldConversion.isSkip, some_text, some_strategy]

end Resolver
end RecordConversion
