import RecordConversion.Proofs.Rule.Delegation

/-!
# The function that a statement calls

A statement that calls a converter shows which one: the name stands between a text that is fixed by
the two fields and an opening parenthesis, and the argument after it is the source field or its
address.

* `FieldPair.Calls.unique`: a statement calls one function.
-/

namespace RecordConversion

/-- Where a value or its address is passed, what stands before the parenthesis is determined. -/
theorem callee_unique
    {callee callee' value argument argument' : String}
    (passed : argument = value ∨ argument = "&" ++ value)
    (passed' : argument' = value ∨ argument' = "&" ++ value)
    (same : callee ++ "(" ++ argument = callee' ++ "(" ++ argument') :
    callee = callee' := by
  have apart {left right : String} : left ++ "(" ++ value ≠ right ++ "(" ++ ("&" ++ value) := by
    intro equal
    rw [← String.append_assoc, String.append_left_inj] at equal
    simpa using congrArg (fun text => text.toList.getLast?) equal
  rcases passed with rfl | rfl <;> rcases passed' with rfl | rfl
  · rw [String.append_left_inj, String.append_left_inj] at same
    exact same
  · exact absurd same apart
  · exact absurd same.symm apart
  · rw [String.append_left_inj, String.append_left_inj] at same
    exact same

/-- A statement that sets a place in the target calls one function. -/
theorem CallsOn.unique
    {name other value path statement : String}
    (call : CallsOn name value ("dst." ++ path) statement)
    (call' : CallsOn other value ("dst." ++ path) statement) :
    name = other := by
  have begins (text text' : String) : "dst." ++ text ≠ "if v := " ++ text' := by
    intro equal
    simpa using congrArg (fun text => text.toList.head?) equal
  generalize same : statement = statement' at call'
  cases call with
  | stored passed =>
      cases call' with
      | stored passed' =>
          rw [String.append_left_inj] at same
          have callees := callee_unique passed passed' same
          rwa [String.append_right_inj] at callees
      | followed passed' =>
          simp only [String.append_assoc] at same
          exact absurd same (begins _ _)
  | followed passed =>
      cases call' with
      | stored passed' =>
          simp only [String.append_assoc] at same
          exact absurd same.symm (begins _ _)
      | followed passed' =>
          simp only [String.append_left_inj] at same
          have callees := callee_unique passed passed' same
          rwa [String.append_right_inj] at callees

/-- A call for the whole field does not read as one for each element. -/
theorem CallsOn.not_each
    {name value path statement path' rest : String}
    (call : CallsOn name value ("dst." ++ path) statement) :
    statement ≠ "if " ++ ("src." ++ path') ++ rest := by
  intro same
  cases call with
  | stored _ =>
      simpa [String.append_assoc] using congrArg (fun text => text.toList.head?) same
  | followed _ =>
      simpa [String.append_assoc] using congrArg (fun text => (text.toList.drop 3).head?) same

/-- A statement calls one function. -/
theorem FieldPair.Calls.unique
    {pair : FieldPair} {name other statement : String}
    (call : pair.Calls name statement) (call' : pair.Calls other statement) :
    name = other := by
  have cell : pair.place ++ "[i]" = "dst." ++ (pair.target.accessPath ++ "[i]") := by
    rw [FieldPair.place, String.append_assoc]
  generalize same : statement = statement' at call'
  cases call with
  | whole call =>
      cases call' with
      | whole call' => exact call.unique (same ▸ call')
      | each call' =>
          simp only [String.append_assoc] at same
          rw [← String.append_assoc] at same
          exact absurd same call.not_each
  | each call =>
      cases call' with
      | whole call' =>
          simp only [String.append_assoc] at same
          rw [← String.append_assoc] at same
          exact absurd same.symm call'.not_each
      | each call' =>
          simp only [String.append_left_inj, String.append_right_inj] at same
          rw [cell] at call call'
          exact call.unique (same ▸ call')

end RecordConversion
