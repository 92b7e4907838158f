import RecordConversion.Rule.Standard

/-!
# What the rules answer

For each standard rule, the answers that it gives and exactly when it gives them.  The rule for
records that have a converter comes in two forms, one for single records and one for slices.

* `Rule.gives_of_convert?`: the strategies of each rule at a glance; none of them is to skip.
-/

namespace RecordConversion

/-! ## Parts of types -/

namespace Provider

variable {provider : Provider} {type part : HostType}

theorem pointerTarget?_eq_some_iff :
    provider.pointerTarget? type = some part ↔
      provider.declarations.underlying type = .pointer part := by
  rw [pointerTarget?]
  cases provider.declarations.underlying type <;> simp

theorem sliceElement?_eq_some_iff :
    provider.sliceElement? type = some part ↔
      provider.declarations.underlying type = .slice part := by
  rw [sliceElement?]
  cases provider.declarations.underlying type <;> simp

end Provider

/-! ## Statements -/

/-- The plain assignment of the one field to the other. -/
theorem FieldPair.assignment_eq
    (pair : FieldPair) :
    assignment pair.place pair.value =
      "dst." ++ pair.target.accessPath ++ " = src." ++ pair.source.accessPath := by
  have between : " = src." = " = " ++ "src." := rfl
  simp only [between, assignment, place, value, String.append_assoc]

/-- A loop is no assignment to the target field. -/
theorem FieldPair.sliceLoop_ne_assignment
    (pair : FieldPair) (source target targetType body value : String) :
    sliceLoop source target targetType body ≠ assignment pair.place value := by
  intro same
  have first := congrArg (fun text => text.toList.head?) same
  simp [sliceLoop, guarded, assignment, place] at first

namespace Rule

variable {context : RuleContext} {provider : Provider} {pairs : PairSet} {pair : FieldPair}
variable {strategy : Strategy} {text : String}

theorem sameType_eq_some_iff :
    sameType.convert? context pair = some (strategy, text) ↔
      context.provider.alike pair.source.type pair.target.type = true ∧
        strategy = .directAssign ∧ text = assignment pair.place pair.value := by
  simp [sameType, @eq_comm _ _ strategy, @eq_comm _ _ text]

theorem basicCast_eq_some_iff :
    basicCast.convert? context pair = some (strategy, text) ↔
      (pair.source.shape.isBasic = true ∧ pair.target.shape.isBasic = true ∧
        context.provider.alike pair.source.type pair.target.type = false ∧
          context.provider.convertible pair.source.type pair.target.type = true) ∧
        strategy = .basicCast ∧
          text = castAssignment pair.place pair.target.typeText pair.value := by
  simp [basicCast, @eq_comm _ _ strategy, @eq_comm _ _ text, and_assoc]

theorem unwrap?_eq_some_iff
    {target : HostType} :
    unwrap? provider pair target = some (strategy, text) ↔
      strategy = .pointerUnwrap ∧
        (provider.alike target pair.target.type = true ∧
            text = guarded (pair.value ++ " != nil") (assignment pair.place ("*" ++ pair.value)) ∨
          provider.alike target pair.target.type = false ∧
            pair.source.shape.elementIsRecord = false ∧
            (provider.convertible target pair.target.type = true ∧
              pair.source.shape.elementIsBasic = true ∧ pair.target.shape.isBasic = true) ∧
            text = guarded (pair.value ++ " != nil")
              (assignment pair.place (pair.target.typeText ++ "(*" ++ pair.value ++ ")"))) := by
  cases alike : provider.alike target pair.target.type
  · cases nested : pair.source.shape.elementIsRecord
    · simp [unwrap?, alike, nested, @eq_comm _ _ strategy, @eq_comm _ _ text, and_assoc,
        and_left_comm]
    · simp [unwrap?, alike, nested]
  · simp [unwrap?, alike, @eq_comm _ _ strategy, @eq_comm _ _ text]

theorem wrap?_eq_some_iff
    {target : HostType} :
    wrap? provider pair target = some (strategy, text) ↔
      strategy = .pointerWrap ∧
        (provider.alike pair.source.type target = true ∧
            text = assignment pair.place ("&" ++ pair.value) ∨
          provider.alike pair.source.type target = false ∧
            pair.target.shape.elementIsRecord = false ∧
            (provider.convertible pair.source.type target = true ∧
              pair.source.shape.isBasic = true ∧ pair.target.shape.elementIsBasic = true) ∧
            text =
              "\x7b\nv := " ++ withoutLead "*" pair.target.typeText ++ "(" ++ pair.value ++ ")\n" ++
                assignment pair.place "&v" ++ "\n\x7d") := by
  cases alike : provider.alike pair.source.type target
  · cases nested : pair.target.shape.elementIsRecord
    · simp [wrap?, alike, nested, @eq_comm _ _ strategy, @eq_comm _ _ text, and_assoc,
        and_left_comm]
    · simp [wrap?, alike, nested]
  · simp [wrap?, alike, @eq_comm _ _ strategy, @eq_comm _ _ text]

theorem pointer_eq_some_iff :
    pointer.convert? context pair = some (strategy, text) ↔
      (∃ target, context.provider.pointerTarget? pair.source.type = some target ∧
        context.provider.pointerTarget? pair.target.type = none ∧
          unwrap? context.provider pair target = some (strategy, text)) ∨
      ∃ target, context.provider.pointerTarget? pair.source.type = none ∧
        context.provider.pointerTarget? pair.target.type = some target ∧
          wrap? context.provider pair target = some (strategy, text) := by
  cases source : context.provider.pointerTarget? pair.source.type <;>
    cases target : context.provider.pointerTarget? pair.target.type <;>
      simp [pointer, source, target]

theorem payloadOf?_eq_some_iff :
    payloadOf? pair = some (strategy, text) ↔
      ∃ nullable, Nullable.ofShape? pair.source.shape = some nullable ∧
        nullable.payload.accepts pair.target.shape = true ∧
          strategy = .nullableToValue ∧
            text = guarded (pair.value ++ ".Valid")
              (assignment pair.place (pair.value ++ "." ++ nullable.field)) := by
  simp [payloadOf?, Option.bind_eq_some_iff, @eq_comm _ _ strategy, @eq_comm _ _ text]

theorem nullableOf?_eq_some_iff :
    nullableOf? pair = some (strategy, text) ↔
      ∃ nullable, Nullable.ofShape? pair.target.shape = some nullable ∧
        nullable.payload.accepts pair.source.shape = true ∧
          strategy = .valueToNullable ∧
            text = assignment pair.place
              (pair.target.typeText ++ "\x7b" ++ nullable.field ++ ": " ++ pair.value ++
                ", Valid: " ++ nullable.validity.expression pair.value ++ "\x7d") := by
  simp [nullableOf?, Option.bind_eq_some_iff, @eq_comm _ _ strategy, @eq_comm _ _ text]

theorem nullable_eq_some_iff :
    nullable.convert? context pair = some (strategy, text) ↔
      payloadOf? pair = some (strategy, text) ∨
        payloadOf? pair = none ∧ nullableOf? pair = some (strategy, text) := by
  simp [nullable, Option.or_eq_some_iff]

theorem timeString_eq_some_iff :
    timeString.convert? context pair = some (strategy, text) ↔
      (pair.source.shape.isTime = true ∧ pair.target.shape.isString = true) ∧
          strategy = .timeToString ∧
            text = assignment pair.place (pair.value ++ ".Format(time.RFC3339)") ∨
        ¬ (pair.source.shape.isTime = true ∧ pair.target.shape.isString = true) ∧
          (pair.source.shape.isString = true ∧ pair.target.shape.isTime = true) ∧
            strategy = .stringToTime ∧
              text = guarded ("parsed, err := time.Parse(time.RFC3339, " ++ pair.value ++
                "); err == nil") (assignment pair.place "parsed") := by
  simp only [timeString, Bool.and_eq_true]
  split
  · next leaves => simp [leaves, @eq_comm _ _ strategy, @eq_comm _ _ text]
  · next stays => simp [stays, @eq_comm _ _ strategy, @eq_comm _ _ text, -not_and]

theorem delegateRecord?_eq_some_iff
    {source target : QualifiedName × Bool} :
    delegateRecord? pairs pair source target = some (strategy, text) ↔
      pairs.contains source.1 target.1 = true ∧
        strategy =
          (if source.2 || target.2 then .nestedStructPointerConvert else .nestedStructConvert) ∧
        text =
          delegation (converterName source.1 target.1) pair.value source.2 pair.place target.2 := by
  simp [delegateRecord?, @eq_comm _ _ strategy, @eq_comm _ _ text]

theorem delegateSlice?_eq_some_iff
    {source target : QualifiedName × Bool} :
    delegateSlice? pairs pair source target = some (strategy, text) ↔
      pairs.contains source.1 target.1 = true ∧ strategy = .nestedSliceConvert ∧
        text = sliceLoop pair.value pair.place pair.target.typeText
          (delegation (converterName source.1 target.1) (pair.value ++ "[i]") source.2
            (pair.place ++ "[i]") target.2) := by
  simp [delegateSlice?, @eq_comm _ _ strategy, @eq_comm _ _ text]

theorem nestedStruct_eq_some_iff :
    nestedStruct.convert? context pair = some (strategy, text) ↔
      ∃ pairs, context.nested? = some pairs ∧ pairs.isEmpty = false ∧
        ((∃ source target, pair.source.shape.recordOrPointer? = some source ∧
            pair.target.shape.recordOrPointer? = some target ∧
              delegateRecord? pairs pair source target = some (strategy, text)) ∨
          (pair.source.shape.recordOrPointer? = none ∨
              pair.target.shape.recordOrPointer? = none) ∧
            ∃ source target, pair.source.shape.sliceOfRecords? = some source ∧
              pair.target.shape.sliceOfRecords? = some target ∧
                delegateSlice? pairs pair source target = some (strategy, text)) := by
  simp only [nestedStruct, Option.bind_eq_some_iff, Option.filter_eq_some_iff,
    Bool.not_eq_true', and_assoc]
  refine exists_congr fun pairs => and_congr_right fun _ => and_congr_right fun _ => ?_
  cases source : pair.source.shape.recordOrPointer? <;>
    cases target : pair.target.shape.recordOrPointer? <;>
      cases source' : pair.source.shape.sliceOfRecords? <;>
        cases target' : pair.target.shape.sliceOfRecords? <;>
          simp

theorem sliceConvert_eq_some_iff :
    sliceConvert.convert? context pair = some (strategy, text) ↔
      ∃ source target, context.provider.sliceElement? pair.source.type = some source ∧
        context.provider.sliceElement? pair.target.type = some target ∧
        (pair.source.shape.element?.isSome = true ∧ pair.target.shape.element?.isSome = true) ∧
        (pair.source.shape.elementIsRecord = false ∧
          pair.target.shape.elementIsRecord = false) ∧
        (context.provider.alike source target = true ∧ strategy = .directAssign ∧
            text = sliceLoop pair.value pair.place pair.target.typeText
              (assignment (pair.place ++ "[i]") (pair.value ++ "[i]")) ∨
          context.provider.alike source target = false ∧
            context.provider.convertible source target = true ∧
            strategy = .sliceElementConvert ∧
              text = sliceLoop pair.value pair.place pair.target.typeText
                (assignment (pair.place ++ "[i]")
                  (withoutLead "[]" pair.target.typeText ++ "(" ++ (pair.value ++ "[i]") ++
                    ")"))) := by
  cases source : context.provider.sliceElement? pair.source.type with
  | none => simp [sliceConvert, source]
  | some source' =>
      cases target : context.provider.sliceElement? pair.target.type with
      | none => simp [sliceConvert, source, target]
      | some target' =>
          cases from_element : pair.source.shape.element? with
          | none => simp [sliceConvert, source, target, from_element]
          | some _ =>
              cases to_element : pair.target.shape.element? with
              | none => simp [sliceConvert, source, target, to_element]
              | some _ =>
                  cases alike : context.provider.alike source' target' <;>
                    simp [sliceConvert, source, target, from_element, to_element, alike,
                      @eq_comm _ _ strategy, @eq_comm _ _ text]

/-- Slices without records are converted whenever an element converts. -/
theorem exists_sliceConvert
    {source target : HostType}
    (from_slice : context.provider.sliceElement? pair.source.type = some source)
    (to_slice : context.provider.sliceElement? pair.target.type = some target)
    (elements :
      pair.source.shape.element?.isSome = true ∧ pair.target.shape.element?.isSome = true)
    (no_records :
      pair.source.shape.elementIsRecord = false ∧ pair.target.shape.elementIsRecord = false)
    (converts : context.provider.convertible source target = true) :
    ∃ strategy text, sliceConvert.convert? context pair = some (strategy, text) := by
  cases alike : context.provider.alike source target with
  | true =>
      exact ⟨_, _, sliceConvert_eq_some_iff.2
        ⟨source, target, from_slice, to_slice, elements, no_records, .inl ⟨alike, rfl, rfl⟩⟩⟩
  | false =>
      exact ⟨_, _, sliceConvert_eq_some_iff.2
        ⟨source, target, from_slice, to_slice, elements, no_records,
          .inr ⟨alike, converts, rfl, rfl⟩⟩⟩

theorem stringer_eq_some_iff :
    stringer.convert? context pair = some (strategy, text) ↔
      (pair.target.shape.isString = true ∧
        context.provider.supportsStringer pair.source.type = true) ∧
        strategy = .customMethodCall ∧
          text =
            (if (context.provider.pointerTarget? pair.source.type).isSome then
              guarded (pair.value ++ " != nil")
                (assignment pair.place (pair.value ++ ".String()"))
            else assignment pair.place (pair.value ++ ".String()")) := by
  cases reached : (context.provider.pointerTarget? pair.source.type).isSome <;>
    simp [stringer, reached, @eq_comm _ _ strategy, @eq_comm _ _ text]

theorem assignable_eq_some_iff :
    assignable.convert? context pair = some (strategy, text) ↔
      context.provider.assignable pair.source.type pair.target.type = true ∧
        strategy = .directAssign ∧ text = assignment pair.place pair.value := by
  simp [assignable, @eq_comm _ _ strategy, @eq_comm _ _ text]

theorem convertible_eq_some_iff :
    convertible.convert? context pair = some (strategy, text) ↔
      (castsAsLastResort pair.source.shape = true ∧ castsAsLastResort pair.target.shape = true ∧
        context.provider.convertible pair.source.type pair.target.type = true) ∧
        strategy = .basicCast ∧
          text = castAssignment pair.place pair.target.typeText pair.value := by
  simp [convertible, @eq_comm _ _ strategy, @eq_comm _ _ text, and_assoc]

/-! ## Strategies by rule -/

/-- The strategies that each standard rule gives. -/
inductive Gives : Rule → Strategy → Prop
  | sameType : Gives sameType .directAssign
  | basicCast : Gives basicCast .basicCast
  | unwrap : Gives pointer .pointerUnwrap
  | wrap : Gives pointer .pointerWrap
  | payload : Gives nullable .nullableToValue
  | nullable : Gives nullable .valueToNullable
  | timeText : Gives timeString .timeToString
  | textTime : Gives timeString .stringToTime
  | record : Gives nestedStruct .nestedStructConvert
  | recordPointer : Gives nestedStruct .nestedStructPointerConvert
  | recordSlice : Gives nestedStruct .nestedSliceConvert
  | slice : Gives sliceConvert .directAssign
  | sliceElement : Gives sliceConvert .sliceElementConvert
  | stringer : Gives stringer .customMethodCall
  | assignable : Gives assignable .directAssign
  | convertible : Gives convertible .basicCast

theorem gives_of_convert?
    {rule : Rule} (standard : rule ∈ Rule.standard)
    (given : rule.convert? context pair = some (strategy, text)) :
    Gives rule strategy := by
  simp only [Rule.standard, List.mem_cons, List.not_mem_nil, or_false] at standard
  rcases standard with rfl | rfl | rfl | rfl | rfl | rfl | rfl | rfl | rfl | rfl
  · obtain ⟨_, rfl, _⟩ := sameType_eq_some_iff.1 given
    exact .sameType
  · obtain ⟨_, rfl, _⟩ := basicCast_eq_some_iff.1 given
    exact .basicCast
  · rcases pointer_eq_some_iff.1 given with ⟨_, _, _, followed⟩ | ⟨_, _, _, made⟩
    · obtain ⟨rfl, _⟩ := unwrap?_eq_some_iff.1 followed
      exact .unwrap
    · obtain ⟨rfl, _⟩ := wrap?_eq_some_iff.1 made
      exact .wrap
  · rcases nullable_eq_some_iff.1 given with taken | ⟨_, put⟩
    · obtain ⟨_, _, _, rfl, _⟩ := payloadOf?_eq_some_iff.1 taken
      exact .payload
    · obtain ⟨_, _, _, rfl, _⟩ := nullableOf?_eq_some_iff.1 put
      exact .nullable
  · rcases timeString_eq_some_iff.1 given with ⟨_, rfl, _⟩ | ⟨_, _, rfl, _⟩
    · exact .timeText
    · exact .textTime
  · obtain ⟨_, _, _, ⟨source, target, _, _, delegated⟩ | ⟨_, _, _, _, _, delegated⟩⟩ :=
      nestedStruct_eq_some_iff.1 given
    · obtain ⟨_, rfl, _⟩ := delegateRecord?_eq_some_iff.1 delegated
      cases source.2 || target.2
      · exact .record
      · exact .recordPointer
    · obtain ⟨_, rfl, _⟩ := delegateSlice?_eq_some_iff.1 delegated
      exact .recordSlice
  · obtain ⟨_, _, _, _, _, _, ⟨_, rfl, _⟩ | ⟨_, _, rfl, _⟩⟩ := sliceConvert_eq_some_iff.1 given
    · exact .slice
    · exact .sliceElement
  · obtain ⟨_, rfl, _⟩ := stringer_eq_some_iff.1 given
    exact .stringer
  · obtain ⟨_, rfl, _⟩ := assignable_eq_some_iff.1 given
    exact .assignable
  · obtain ⟨_, rfl, _⟩ := convertible_eq_some_iff.1 given
    exact .convertible

/-- A rule that answers converts: it does not give up the pair. -/
theorem Gives.ne_skip
    {rule : Rule} (gives : Gives rule strategy) :
    strategy ≠ .skip := by
  cases gives <;> nofun

end Rule
end RecordConversion
