import RecordConversion.Event
import RecordConversion.Rule.Standard

/-!
# Resolution of field pairs

A resolver tries its rules in order on each field pair of a batch; the first that gives a conversion
decides, and a pair that no rule converts is skipped.  At the start of a batch the resolver takes up
the record pairs that have converters, which replace those of the batch before.
-/

namespace RecordConversion

namespace Event

/-- A batch of field pairs begins. -/
def resolvingBatch (fields pairs : Nat) : Event :=
  debug "resolving batch" [("fields", toString fields), ("nested", toString pairs)]

/-- A rule has converted a field pair. -/
def resolvedField
    (rule : String) (pair : FieldPair) : Event :=
  debug "resolved field"
    [("rule", rule), ("src", pair.source.accessPath), ("dst", pair.target.accessPath)]

end Event

/-- Rules in order, and the record pairs of the batch. -/
structure Resolver where
  rules : List Rule
  pairs : PairSet

namespace Resolver

/-- A resolver before its first batch. -/
def ofRules (rules : List Rule) : Resolver := ⟨rules, .empty⟩

/-- The resolver with the standard rules. -/
def standard : Resolver := ofRules Rule.standard

/-- The resolver with the record pairs of a new batch. -/
def rebuild
    (resolver : Resolver) (pairs : List RecordPair) : Resolver :=
  { resolver with pairs := .ofPairs pairs }

/-- The first rule that converts a pair, and its conversion. -/
def firstRule? (provider : Provider) (pairs : PairSet) (pair : FieldPair) :
    List Rule → Option (Rule × FieldConversion)
  | [] => none
  | rule :: rest =>
    match rule.conversion? provider pairs pair with
    | some conversion => some (rule, conversion)
    | none => firstRule? provider pairs pair rest

/-- The conversion of one field pair. -/
def resolveField
    (resolver : Resolver) (provider : Provider) (pair : FieldPair) : Logged FieldConversion :=
  match firstRule? provider resolver.pairs pair resolver.rules with
  | some (rule, conversion) => ⟨conversion, [.resolvedField rule.name pair]⟩
  | none => .quiet (.skipped pair)

/-- The conversions of a batch of field pairs, one for each in order, and the resolver after it. -/
def resolve
    (resolver : Resolver) (provider : Provider) (fields : List FieldPair)
    (pairs : List RecordPair) : Logged (List FieldConversion) × Resolver :=
  let ready := resolver.rebuild pairs
  let results := fields.map (ready.resolveField provider)
  (⟨results.map (·.value),
    .resolvingBatch fields.length ready.pairs.size :: results.flatMap (·.events)⟩, ready)

end Resolver
end RecordConversion
