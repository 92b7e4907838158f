import RecordConversion.Proofs.Rule.Answers

/-!
# Delegation to other converters

A conversion delegates if its statement calls the converter of two records.  What such a statement
looks like is said here in plain text: `FieldPair.Calls`.

* `Rule.exists_call`: a standard rule delegates only to the converter of a pair in the set of the
  batch, and the two records of the pair are those that the fields refer to.
-/

namespace RecordConversion

/-- The strategies that leave records to a converter of their own. -/
def Strategy.delegates : Strategy → Bool
  | nestedStructConvert | nestedStructPointerConvert | nestedSliceConvert => true
  | _ => false

/-- A statement sets a place to what a function gives for a value or for its address, either to the
result itself or, if it is not nil, to what it points to. -/
inductive CallsOn
    (name value place : String) : String → Prop
  | stored
      {argument : String} (passed : argument = value ∨ argument = "&" ++ value) :
      CallsOn name value place (place ++ " = " ++ name ++ "(" ++ argument ++ ")")
  | followed
      {argument : String} (passed : argument = value ∨ argument = "&" ++ value) :
      CallsOn name value place
        ("if v := " ++ name ++ "(" ++ argument ++ "); v != nil \x7b\n" ++ place ++ " = *v\n\x7d")

/-- A statement calls a function on the source field of a pair to set the target field, or on each
element of the one to set the elements of the other. -/
inductive FieldPair.Calls
    (pair : FieldPair) (name : String) : String → Prop
  | whole
      {statement : String}
      (call : CallsOn name pair.value pair.place statement) :
      Calls pair name statement
  | each
      {body : String}
      (call : CallsOn name (pair.value ++ "[i]") (pair.place ++ "[i]") body) :
      Calls pair name
        ("if " ++ pair.value ++ " != nil \x7b\n" ++ pair.place ++ " = make(" ++
          pair.target.typeText ++ ", len(" ++ pair.value ++ "))\nfor i := range " ++ pair.value ++
          " \x7b\n" ++ body ++ "\n\x7d\n\x7d")

/-- The field pair that has been converted. -/
def FieldConversion.pair (conversion : FieldConversion) : FieldPair :=
  ⟨conversion.source, conversion.target⟩

/-- A delegation is a call of the converter, however the two sides are given. -/
theorem callsOn_delegation
    (name value place : String) (fromPointer toPointer : Bool) :
    CallsOn name value place (delegation name value fromPointer place toPointer) := by
  have passed :
      (if fromPointer then value else "&" ++ value) = value ∨
        (if fromPointer then value else "&" ++ value) = "&" ++ value := by
    cases fromPointer <;> simp
  cases toPointer with
  | true =>
      have stored : CallsOn name value place _ := .stored passed
      simpa [delegation, assignment, String.append_assoc] using stored
  | false =>
      have followed : CallsOn name value place _ := .followed passed
      have lead (rest : String) : "if " ++ ("v := " ++ rest) = "if v := " ++ rest := by
        rw [← String.append_assoc]
        rfl
      simpa [delegation, guarded, assignment, lead, String.append_assoc] using followed

/-- A loop over a slice that delegates each element calls the converter on each. -/
theorem FieldPair.calls_sliceLoop
    (pair : FieldPair) (name : String) {body : String}
    (call : CallsOn name (pair.value ++ "[i]") (pair.place ++ "[i]") body) :
    pair.Calls name (sliceLoop pair.value pair.place pair.target.typeText body) := by
  have each := Calls.each call
  have made (rest : String) : " = " ++ ("make(" ++ rest) = " = make(" ++ rest := by
    rw [← String.append_assoc]
    rfl
  simpa [sliceLoop, guarded, assignment, made, String.append_assoc] using each

/-! ## Which records a rule leaves to their converter -/

namespace Shape

theorem nestedRecord?_of_recordRef?
    {shape : Shape} {ref : QualifiedName}
    (named : shape.recordRef? = some ref) :
    shape.nestedRecord? = some ref := by
  cases shape <;> first | exact named | cases named

theorem nestedRecord?_of_recordOrPointer?
    {shape : Shape} {ref : QualifiedName} {isPointer : Bool}
    (found : shape.recordOrPointer? = some (ref, isPointer)) :
    shape.nestedRecord? = some ref := by
  cases shape with
  | pointer element home display =>
      obtain ⟨inner, named, same⟩ := Option.map_eq_some_iff.1 found
      cases same
      have refers : element.nestedRecord? = some ref := nestedRecord?_of_recordRef? named
      exact refers
  | record home name display =>
      obtain ⟨inner, named, same⟩ := Option.map_eq_some_iff.1 found
      cases same
      exact nestedRecord?_of_recordRef? named
  | basic | slice | map | interface | other => cases found

theorem nestedRecord?_of_sliceOfRecords?
    {shape : Shape} {ref : QualifiedName} {isPointer : Bool}
    (found : shape.sliceOfRecords? = some (ref, isPointer)) :
    shape.nestedRecord? = some ref := by
  obtain ⟨element, slice, inner⟩ := Option.bind_eq_some_iff.1 found
  cases shape <;> cases slice
  have refers : element.nestedRecord? = some ref := nestedRecord?_of_recordOrPointer? inner
  exact refers

end Shape

namespace Rule

variable {context : RuleContext} {pair : FieldPair} {strategy : Strategy} {text : String}

/-- The rule for records with a converter of their own calls that of a pair in the set, and the two
records of the pair are those that the fields refer to. -/
theorem exists_call_of_nestedStruct
    (given : nestedStruct.convert? context pair = some (strategy, text)) :
    ∃ pairs source target, context.nested? = some pairs ∧ pairs.contains source target = true ∧
      pair.source.shape.nestedRecord? = some source ∧
        pair.target.shape.nestedRecord? = some target ∧
          pair.Calls (converterName source target) text := by
  obtain ⟨pairs, offered, _, ⟨source, target, from_record, to_record, delegated⟩ |
    ⟨_, source, target, from_slice, to_slice, delegated⟩⟩ := nestedStruct_eq_some_iff.1 given
  · obtain ⟨contained, _, rfl⟩ := delegateRecord?_eq_some_iff.1 delegated
    refine ⟨pairs, source.1, target.1, offered, contained, ?_, ?_, ?_⟩
    · exact Shape.nestedRecord?_of_recordOrPointer? from_record
    · exact Shape.nestedRecord?_of_recordOrPointer? to_record
    · exact .whole (callsOn_delegation _ _ _ _ _)
  · obtain ⟨contained, _, rfl⟩ := delegateSlice?_eq_some_iff.1 delegated
    refine ⟨pairs, source.1, target.1, offered, contained, ?_, ?_, ?_⟩
    · exact Shape.nestedRecord?_of_sliceOfRecords? from_slice
    · exact Shape.nestedRecord?_of_sliceOfRecords? to_slice
    · exact pair.calls_sliceLoop _ (callsOn_delegation _ _ _ _ _)

/-- A rule that does not ask for the set of pairs does not delegate. -/
theorem delegates_eq_false
    {rule : Rule} (standard : rule ∈ Rule.standard) (plain : rule.needsPairSet = false)
    (given : rule.convert? context pair = some (strategy, text)) :
    strategy.delegates = false := by
  cases gives_of_convert? standard given <;> first | rfl | cases plain

/-- A standard rule that asks for the set of pairs is that for records with a converter. -/
theorem eq_nestedStruct
    {rule : Rule} (standard : rule ∈ Rule.standard) (asks : rule.needsPairSet = true) :
    rule = nestedStruct := by
  simp only [Rule.standard, List.mem_cons, List.not_mem_nil, or_false] at standard
  rcases standard with rfl | rfl | rfl | rfl | rfl | rfl | rfl | rfl | rfl | rfl <;>
    first | rfl | cases asks

/-- A standard rule delegates only to the converter of a pair in the set, and the two records of the
pair are those that the fields refer to. -/
theorem exists_call
    {rule : Rule} (standard : rule ∈ Rule.standard)
    {provider : Provider} {pairs : PairSet} {conversion : FieldConversion}
    (given : rule.conversion? provider pairs pair = some conversion)
    (delegates : conversion.strategy.delegates = true) :
    ∃ source target, pairs.contains source target = true ∧
      conversion.source.shape.nestedRecord? = some source ∧
        conversion.target.shape.nestedRecord? = some target ∧
          conversion.pair.Calls (converterName source target) conversion.expression := by
  obtain ⟨⟨strategy, text⟩, answer, rfl⟩ := Option.map_eq_some_iff.1 given
  cases asks : rule.needsPairSet with
  | false => simp [delegates_eq_false standard asks answer] at delegates
  | true =>
      obtain rfl := eq_nestedStruct standard asks
      obtain ⟨_, source, target, same, call⟩ := exists_call_of_nestedStruct answer
      cases same
      exact ⟨source, target, call⟩

end Rule
end RecordConversion
