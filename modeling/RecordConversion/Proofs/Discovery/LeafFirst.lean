import Mathlib.Data.List.Nodup
import Mathlib.Logic.Relation
import RecordConversion.Proofs.Discovery.Reachability

/-!
# Leaves come first

A record is found after all that it refers to has been looked at.  What has been visited by then but
not been found is open: a visit of it is under way, so it leads to whatever is visited next.  Hence
a record comes after every record it refers to, except itself and those that lead back to it
(`Provider.Finishes.leafFirst`).

* `Provider.discover_leafFirst`: the order of the records of a discovery, and that no exception is
  left where no record leads back to itself.
* `Provider.exists_root_of_discover`: the root is the last record.
-/

namespace RecordConversion
namespace Provider

open Relation

/-- Each record comes after what it refers to, unless that is the record itself, leads back to it,
or is no record. -/
def LeafFirst
    (provider : Provider) (module? : Option String) (found : List Record) : Prop :=
  ∀ before record after, found = before ++ record :: after →
    ∀ target, provider.Refers module? record.key target →
      target ∈ before.map Record.key ∨ target = record.key ∨
        TransGen (provider.Refers module?) target record.key ∨ provider.NoRecord target

/-- Whatever has been visited and not been found leads to all that an errand is about. -/
def OpenLeadsTo
    (provider : Provider) (module? : Option String) (progress : Discovery) (errand : Errand) :
    Prop :=
  ∀ key ∈ progress.visited, key ∉ progress.found.map Record.key →
    ∀ target, errand.Targets module? target → TransGen (provider.Refers module?) key target

variable {provider : Provider} {module? : Option String}

/-- A record may come last if all that it refers to is there, leads back, or is no record. -/
theorem LeafFirst.concat
    {found : List Record} {record : Record}
    (ordered : provider.LeafFirst module? found)
    (last : ∀ target, provider.Refers module? record.key target →
      target ∈ found.map Record.key ∨ target = record.key ∨
        TransGen (provider.Refers module?) target record.key ∨ provider.NoRecord target) :
    provider.LeafFirst module? (found ++ [record]) := by
  intro before other after shape
  rcases List.eq_nil_or_concat after with rfl | ⟨rest, final, rfl⟩
  · obtain ⟨rfl, same⟩ := List.append_inj' shape rfl
    obtain rfl : record = other := by simpa using same
    exact last
  · have shape' : found ++ [record] = (before ++ other :: rest) ++ [final] := by
      simpa using shape
    exact ordered before other rest (List.append_inj' shape' rfl).1

section AsAsked

variable (asked : provider.LoadsAsAsked)
include asked

/-- What is open when the references of a record are followed leads to them: the record by a
reference of its own, and all else through the record. -/
theorem OpenLeadsTo.enter
    {ref : QualifiedName} {record : Record} {progress : Discovery}
    (leads : provider.OpenLeadsTo module? progress (.visit ref))
    (built : provider.record? ref = .ok record) :
    provider.OpenLeadsTo module? (progress.enter ref record)
      (.follow record.path record.references) := by
  intro key visited unfound target wanted
  have refers := (targets_follow_iff asked built).1 wanted
  rcases List.mem_cons.1 visited with rfl | visited
  · exact .single refers
  · have reaches := leads key visited unfound ref rfl
    exact reaches.tail (key_of_record? asked built ▸ refers)

/-- When the references of a record have been followed, each has been found, is the record itself,
leads back to it, or is no record. -/
theorem Finishes.reference_settled
    {ref : QualifiedName} {record : Record} {progress after : Discovery}
    (leads : provider.OpenLeadsTo module? progress (.visit ref))
    (built : provider.record? ref = .ok record)
    (inner : provider.Finishes module? (.follow record.path record.references)
      (progress.enter ref record) after)
    {target : QualifiedName} (refers : provider.Refers module? record.key target) :
    target ∈ after.found.map Record.key ∨ target = record.key ∨
      TransGen (provider.Refers module?) target record.key ∨ provider.NoRecord target := by
  obtain ⟨added, extended⟩ := inner.extends
  have found : after.found = progress.found ++ added := extended.found
  rcases inner.targets_visited asked ((targets_follow_iff asked built).2 refers) with
    visited | missing
  · rcases (extended.visited target).1 visited with earlier | new
    · rcases List.mem_cons.1 earlier with same | earlier
      · exact .inr (.inl same)
      · by_cases there : target ∈ progress.found.map Record.key
        · left
          rw [found, List.map_append]
          exact List.mem_append_left _ there
        · have back := leads target earlier there ref rfl
          exact .inr (.inr (.inl (key_of_record? asked built ▸ back)))
    · left
      rw [found, List.map_append]
      exact List.mem_append_right _ new
  · exact .inr (.inr (.inr missing))

/-- A run keeps leaves first.  A reference leaves nothing open for those after it. -/
theorem Finishes.leafFirst
    {errand : Errand} {before after : Discovery}
    (run : provider.Finishes module? errand before after)
    (leads : provider.OpenLeadsTo module? before errand)
    (ordered : provider.LeafFirst module? before.found) :
    provider.LeafFirst module? after.found := by
  induction run with
  | known | done => exact ordered
  | found built _ inner ih =>
      refine (ih (leads.enter asked built) ordered).concat fun target refers => ?_
      exact inner.reference_settled asked leads built refers
  | passed _ _ ih | skipped _ _ _ _ _ ih =>
      refine ih ?_ ordered
      intro key visited unfound target wanted
      exact leads key visited unfound target wanted.cons
  | followed inside _ first _ ih_first ih_later =>
      refine ih_later ?_ (ih_first ?_ ordered)
      · obtain ⟨added, extended⟩ := first.extends
        intro key visited unfound target wanted
        rw [extended.found, List.map_append, List.mem_append, not_or] at unfound
        have earlier := ((extended.visited key).1 visited).resolve_right unfound.2
        exact leads key earlier unfound.1 target wanted.cons
      · rintro key visited unfound target rfl
        exact leads key visited unfound target (.head inside)

/-- The records of a run from the start refer, as records, to what their names refer to. -/
theorem Finishes.refers_of_field
    {errand : Errand} {after : Discovery}
    (run : provider.Finishes module? errand .start after)
    {record : Record} (member : record ∈ after.found)
    {field : RecordField} (listed : field ∈ record.fields)
    {target : QualifiedName} (leads : field.shape.nestedRecord? = some target)
    (inside : inBoundary module? record.path target.path = true) :
    provider.Refers module? record.key target :=
  ⟨record, run.record?_key asked member, field, listed, leads, inside⟩

/-- Of the records found from the start, each comes after what it refers to, unless that is the
record itself or leads back to it. -/
theorem Finishes.mem_before
    {root : QualifiedName} {after : Discovery}
    (run : provider.Finishes module? (.visit root) .start after)
    {before rest : List Record} {record other : Record}
    (shape : after.found = before ++ record :: rest)
    (member : other ∈ after.found)
    (refers : provider.Refers module? record.key other.key) :
    other ∈ before ∨ other = record ∨
      TransGen (provider.Refers module?) other.key record.key := by
  have ordered : provider.LeafFirst module? after.found :=
    run.leafFirst asked (by simp [OpenLeadsTo, Discovery.start])
      (by simp [LeafFirst, Discovery.start])
  have one : ∀ found ∈ after.found, found.key = other.key → found = other :=
    fun found listed same => List.inj_on_of_nodup_map run.nodup_keys listed member same
  have here : record ∈ after.found := by simp [shape]
  rcases ordered before record rest shape other.key refers with
    earlier | same | back | ⟨error, failed, _⟩
  · obtain ⟨found, found_before, same⟩ := List.mem_map.1 earlier
    have listed : found ∈ after.found := by
      rw [shape]
      exact List.mem_append_left _ found_before
    exact .inl (one found listed same ▸ found_before)
  · exact .inr (.inl (one record here same.symm).symm)
  · exact .inr (.inr back)
  · cases (run.record?_key asked member).symm.trans failed

end AsAsked

theorem Finishes.exists_record
    {ref : QualifiedName} {before after : Discovery}
    (run : provider.Finishes module? (.visit ref) before after) :
    ∃ record, provider.record? ref = .ok record := by
  cases run with
  | known built _ | found built _ _ => exact ⟨_, built⟩

/-- A discovery ends with its root, and no record of it comes twice. -/
theorem exists_root_of_discover
    {root : QualifiedName} {records : List Record}
    (answered : (provider.discover root).value = .ok records) :
    ∃ before record, provider.record? root = .ok record ∧ records = before ++ [record] ∧
      (records.map Record.key).Nodup := by
  obtain ⟨space, loaded⟩ := exists_load_of_discover answered
  obtain ⟨after, run, rfl⟩ := exists_finishes_of_discover loaded answered
  have distinct := run.nodup_keys
  cases run with
  | known _ visited => cases visited
  | found built _ _ => exact ⟨_, _, built, rfl, distinct⟩

/-- Where a record of a discovery refers to another one within the boundary, that one comes first,
unless it is the record itself or leads back to it.  If no record that the root reaches leads back
to itself, that one comes first without exception. -/
theorem discover_leafFirst
    (asked : provider.LoadsAsAsked)
    {root : QualifiedName} {records : List Record}
    (answered : (provider.discover root).value = .ok records) :
    ∃ space, provider.load root.path = .ok space ∧
      (∀ before record after, records = before ++ record :: after →
        ∀ field ∈ record.fields, ∀ other ∈ records,
          field.shape.nestedRecord? = some other.key →
            inBoundary space.rootModule? record.path other.path = true →
              other ∈ before ∨ other = record ∨
                TransGen (provider.Refers space.rootModule?) other.key record.key) ∧
      ((∀ key, provider.Reached space.rootModule? root key →
          ¬ TransGen (provider.Refers space.rootModule?) key key) →
        ∀ before record after, records = before ++ record :: after →
          ∀ field ∈ record.fields, ∀ other ∈ records,
            field.shape.nestedRecord? = some other.key →
              inBoundary space.rootModule? record.path other.path = true → other ∈ before) := by
  obtain ⟨space, loaded⟩ := exists_load_of_discover answered
  obtain ⟨after, run, rfl⟩ := exists_finishes_of_discover loaded answered
  have refers {before rest : List Record} {record : Record}
      (shape : after.found = before ++ record :: rest) {field : RecordField}
      (listed : field ∈ record.fields) {other : Record}
      (leads : field.shape.nestedRecord? = some other.key)
      (inside : inBoundary space.rootModule? record.path other.path = true) :
      provider.Refers space.rootModule? record.key other.key :=
    run.refers_of_field asked (by simp [shape]) listed leads inside
  refine ⟨space, loaded, ?_, ?_⟩
  · intro before record rest shape field listed other member leads inside
    exact run.mem_before asked shape member (refers shape listed leads inside)
  · intro acyclic before record rest shape field listed other member leads inside
    have reference := refers shape listed leads inside
    have no_way_back : ¬ TransGen (provider.Refers space.rootModule?) record.key record.key := by
      obtain ⟨root_record, root_built⟩ := run.exists_record
      have found : record.key ∈ after.found.map Record.key := by simp [shape]
      exact acyclic record.key ((run.mem_keys_iff asked root_built record.key).1 found)
    rcases run.mem_before asked shape member reference with earlier | rfl | back
    · exact earlier
    · exact absurd (.single reference) no_way_back
    · exact absurd (.head reference back) no_way_back

/-- In the shop, an order comes after its lines and its buyer; the buyer comes before the order that
it refers to, since the order leads back to the buyer. -/
theorem discover_leafFirst_shop :
    shop.LoadsAsAsked ∧
    ∃ records, (shop.discover ⟨"shop", "Order"⟩).value = .ok records ∧
      records.map Record.key = [⟨"shop/stock", "Line"⟩, ⟨"shop", "Buyer"⟩, ⟨"shop", "Order"⟩] ∧
      ∃ space, shop.load "shop" = .ok space ∧
        ∀ before record after, records = before ++ record :: after →
          ∀ field ∈ record.fields, ∀ other ∈ records,
            field.shape.nestedRecord? = some other.key →
              inBoundary space.rootModule? record.path other.path = true →
                other ∈ before ∨ other = record ∨
                  TransGen (shop.Refers space.rootModule?) other.key record.key := by
  obtain ⟨records, answered, keys⟩ :
      ∃ records, (shop.discover ⟨"shop", "Order"⟩).value = .ok records ∧
        records.map Record.key =
          [⟨"shop/stock", "Line"⟩, ⟨"shop", "Buyer"⟩, ⟨"shop", "Order"⟩] :=
    ⟨_, rfl, rfl⟩
  obtain ⟨space, loaded, ordered, _⟩ := discover_leafFirst shop_loadsAsAsked answered
  exact ⟨shop_loadsAsAsked, records, answered, keys, space, loaded, ordered⟩

end Provider
end RecordConversion
