import RecordConversion.Pairing
import RecordConversion.Provider

/-!
# Conversion rules

A rule looks at a source and a target field and either gives a conversion or passes.  A conversion
is a strategy and the statement that carries it out.  Some rules may also look at the set of record
pairs for which there are converters.
-/

namespace RecordConversion

/-- How one field is converted into another. -/
inductive Strategy where
  | directAssign
  | basicCast
  | pointerWrap
  | pointerUnwrap
  | nullableToValue
  | valueToNullable
  | timeToString
  | stringToTime
  | sliceElementConvert
  | nestedStructConvert
  | nestedStructPointerConvert
  | nestedSliceConvert
  | customMethodCall
  | skip
  deriving DecidableEq, Repr

namespace Strategy

/-- The word for a strategy. -/
def text : Strategy → String
  | directAssign => "direct_assign"
  | basicCast => "basic_cast"
  | pointerWrap => "pointer_wrap"
  | pointerUnwrap => "pointer_unwrap"
  | nullableToValue => "nullable_to_value"
  | valueToNullable => "value_to_nullable"
  | timeToString => "time_to_string"
  | stringToTime => "string_to_time"
  | sliceElementConvert => "slice_element_convert"
  | nestedStructConvert => "nested_struct_convert"
  | nestedStructPointerConvert => "nested_struct_pointer_convert"
  | nestedSliceConvert => "nested_slice_convert"
  | customMethodCall => "custom_method_call"
  | skip => "skip"

end Strategy

/-- The conversion of one field pair. -/
structure FieldConversion where
  source : RecordField
  target : RecordField
  strategy : Strategy
  /-- The statement that converts; nothing for a pair that is skipped. -/
  expression : String
  deriving DecidableEq, Repr

namespace FieldConversion

/-- The conversion of a pair that no rule converts. -/
def skipped (pair : FieldPair) : FieldConversion :=
  ⟨pair.source, pair.target, .skip, ""⟩

/-- No rule converts the pair. -/
def isSkip (conversion : FieldConversion) : Bool :=
  conversion.strategy == .skip

/-- The conversion as a document. -/
def toDocument (conversion : FieldConversion) : Document :=
  .object
    [("src", conversion.source.toDocument), ("dst", conversion.target.toDocument),
     ("strategy", .text conversion.strategy.text), ("expression", .text conversion.expression)]

end FieldConversion

/-- The record pairs that have converters, each once. -/
structure PairSet where
  keys : List (QualifiedName × QualifiedName)
  deriving DecidableEq, Repr

namespace PairSet

/-- No pair has a converter. -/
def empty : PairSet := ⟨[]⟩

/-- The set of the identities of record pairs. -/
def ofPairs (pairs : List RecordPair) : PairSet :=
  ⟨(pairs.map RecordPair.keys).eraseDups⟩

/-- There is a converter from one record to another. -/
def contains
    (set : PairSet) (source target : QualifiedName) : Bool :=
  set.keys.contains (source, target)

/-- The number of pairs. -/
def size (set : PairSet) : Nat :=
  set.keys.length

/-- There is no converter at all. -/
def isEmpty (set : PairSet) : Bool :=
  set.keys.isEmpty

/-- The set of record pairs holds the identities of these pairs and no others. -/
@[simp]
theorem contains_ofPairs
    (pairs : List RecordPair) (source target : QualifiedName) :
    (ofPairs pairs).contains source target = true ↔
      ∃ pair ∈ pairs, pair.keys = (source, target) := by
  simp [contains, ofPairs]

/-- A set holds nothing exactly if it is made of no pairs. -/
@[simp]
theorem isEmpty_ofPairs
    (pairs : List RecordPair) :
    (ofPairs pairs).isEmpty = pairs.isEmpty := by
  cases pairs with
  | nil => rfl
  | cons pair rest => simp [isEmpty, ofPairs, List.eraseDups_cons]

end PairSet

/-- What a rule sees besides the two fields. -/
structure RuleContext where
  provider : Provider
  /-- The converters there are, for rules that ask for them. -/
  nested? : Option PairSet

/-- A named way to convert fields. -/
structure Rule where
  name : String
  needsPairSet : Bool
  convert? : RuleContext → FieldPair → Option (Strategy × String)

namespace Rule

/-- The description of a rule on one line. -/
def describe (rule : Rule) : String :=
  "Rule \x7b name: " ++ Text.quoted rule.name ++ ", needs_nested_set: " ++
    (if rule.needsPairSet then "true" else "false") ++ " \x7d"

/-- The conversion that a rule gives for a pair among the given converters. -/
def conversion?
    (rule : Rule) (provider : Provider) (pairs : PairSet) (pair : FieldPair) :
    Option FieldConversion :=
  (rule.convert? ⟨provider, if rule.needsPairSet then some pairs else none⟩ pair).map
    fun (strategy, expression) => ⟨pair.source, pair.target, strategy, expression⟩

end Rule
end RecordConversion
