import RecordConversion.Record.Basic
import RecordConversion.Text.LetterCase

/-!
# Pairing of fields and records

Fields pair by name without regard to case, records by their exact names.  Where several targets
have the name of a source, the last of them is taken.
-/

namespace RecordConversion

/-- A field to convert from and a field to convert to. -/
structure FieldPair where
  source : RecordField
  target : RecordField
  deriving DecidableEq, Repr

/-- The name by which fields pair. -/
def RecordField.matchKey (field : RecordField) : String :=
  Text.lowercase field.name

/-- The names that a list of entries takes out of the pairing; blank entries name nothing. -/
def ignoredKeys (ignore : List String) : List String :=
  (ignore.map fun entry => Text.lowercase (Text.trim entry)).filter fun key => !key.isEmpty

/-- The element has the property and none after it does. -/
theorem findRev?_eq_some_iff {α : Type}
    {p : α → Bool} {items : List α} {item : α} :
    items.findRev? p = some item ↔
      p item = true ∧
        ∃ before after, items = before ++ item :: after ∧ ∀ x ∈ after, p x = false := by
  simp only [List.findRev?_eq_find?_reverse, List.find?_eq_some_iff_append]
  constructor
  · rintro ⟨holds, later, earlier, shape, none_later⟩
    refine ⟨holds, earlier.reverse, later.reverse, ?_, ?_⟩
    · have := congrArg List.reverse shape
      simpa using this
    · intro x hx
      simpa using none_later x (List.mem_reverse.1 hx)
  · rintro ⟨holds, before, after, rfl, none_after⟩
    refine ⟨holds, after.reverse, before.reverse, by simp, ?_⟩
    intro x hx
    simpa using none_after x (List.mem_reverse.1 hx)

/-- The field pairs of two records in the order of the source, without the ignored names. -/
def pairFields
    (source target : List RecordField) (ignore : List String) : List FieldPair :=
  let ignored := ignoredKeys ignore
  source.filterMap fun field =>
    if ignored.contains field.matchKey then none
    else
      (target.findRev? fun other => other.matchKey == field.matchKey).map fun other =>
        ⟨field, other⟩

/-- The record pairs of two discoveries.  These list leaves first; the pairs list roots first. -/
def pairRecords (sources targets : List Record) : List RecordPair :=
  (sources.filterMap fun source =>
    (targets.findRev? fun target => target.name == source.name).map fun target =>
      ⟨source, target⟩).reverse

end RecordConversion
