import RecordConversion.Proofs.Declarations.Names
import RecordConversion.Proofs.HostType.Parts

/-!
# Records that embedded members promote

An embedded member promotes the record that its type names, seen through pointers and aliases.
`Declarations.Promotes` says so without any bound on the way there.

The search in `Declarations.embeddedRecord?` goes down to a depth that is computed from the type and
the table.  Each step takes a part of the type or of the target of an alias; these parts are
finitely many (`Declarations.parts`), so by `holds_after_length_rounds` the depth is never too
small.

* `Declarations.embeddedRecord?_eq_some_iff`: the search finds exactly what is promoted.
-/

namespace RecordConversion

namespace Declarations

/-- The parts of the target that a declaration gives for an alias. -/
def aliasParts (declaration : Declaration) : List HostType :=
  match declaration.definition with
  | .alias target => target.parts
  | .defined _ => []

/-- The parts of a type and of all alias targets. -/
def parts
    (table : Declarations) (type : HostType) : List HostType :=
  type.parts ++ table.entries.flatMap fun entry => aliasParts entry.2

/-- A type leads to a declared record through pointers and aliases. -/
inductive Promotes (table : Declarations) : HostType → DeclaredRecord → Prop
  | named
      {type : HostType} {ref : QualifiedName} {body : List Field}
      (resolved : table.resolve type = .named ref)
      (record : table.recordBody? (.named ref) = some body) :
      Promotes table type ⟨ref, body⟩
  | pointer
      {type target : HostType} {record : DeclaredRecord}
      (resolved : table.resolve type = .pointer target)
      (further : Promotes table target record) :
      Promotes table type record

/-- A member stands among some members, or in a record that one of them promotes. -/
inductive Contains
    (table : Declarations) : List Field → Field → Prop
  | own
      {members : List Field} {member : Field}
      (here : member ∈ members) :
      Contains table members member
  | promoted
      {members : List Field} {outer member : Field} {record : DeclaredRecord}
      (here : outer ∈ members)
      (anonymous : outer.embedded = true)
      (leads : table.Promotes outer.type record)
      (inner : Contains table record.body member) :
      Contains table members member

variable {table : Declarations}

/-- A promoted record is declared. -/
theorem Promotes.mem_names
    {type : HostType} {record : DeclaredRecord}
    (promoted : table.Promotes type record) :
    record.ref ∈ table.names := by
  induction promoted with
  | named _ body_found => exact mem_names_of_recordBody? body_found
  | pointer _ _ ih => exact ih

theorem Contains.cons
    {first member : Field} {rest : List Field}
    (found : table.Contains rest member) :
    table.Contains (first :: rest) member := by
  cases found with
  | own here =>
      exact .own (List.mem_cons_of_mem _ here)
  | promoted here anonymous leads inner =>
      exact .promoted (List.mem_cons_of_mem _ here) anonymous leads inner

/-! ## Parts that resolution leads to -/

theorem aliasSize_eq
    (declaration : Declaration) :
    aliasSize declaration = (aliasParts declaration).length := by
  unfold aliasSize aliasParts
  cases declaration.definition <;> simp [HostType.length_parts]

theorem foldr_aliasSize_eq
    (entries : List (QualifiedName × Declaration)) :
    entries.foldr (fun entry sizes => aliasSize entry.2 + sizes) 0 =
      (entries.flatMap fun entry => aliasParts entry.2).length := by
  induction entries with
  | nil => rfl
  | cons entry rest ih =>
      rw [List.foldr_cons, ih, aliasSize_eq, List.flatMap_cons, List.length_append]

/-- The depth of the search is one more than the number of parts. -/
theorem expansionDepth_eq
    (type : HostType) :
    table.expansionDepth type = (table.parts type).length + 1 := by
  rw [expansionDepth, parts, List.length_append, HostType.length_parts, foldr_aliasSize_eq]

theorem mem_parts_of_aliasTarget?
    {type target : HostType} (outer : HostType)
    (found : table.aliasTarget? type = some target) :
    target ∈ table.parts outer := by
  obtain ⟨ref, declaration, -, entry, aliased⟩ := exists_alias_of_aliasTarget? found
  refine List.mem_append_right _ (List.mem_flatMap.2 ⟨_, entry, ?_⟩)
  simp [aliasParts, aliased]

/-- Resolution leads from a part to a part. -/
theorem mem_parts_of_resolveWithin
    {outer : HostType} (steps : Nat) {type resolved : HostType}
    (member : type ∈ table.parts outer)
    (found : table.resolveWithin steps type = some resolved) :
    resolved ∈ table.parts outer := by
  induction steps generalizing type with
  | zero => simp [resolveWithin] at found
  | succ steps ih =>
      cases next : table.aliasTarget? type with
      | none =>
          simp only [resolveWithin, next, Option.some.injEq] at found
          exact found ▸ member
      | some target =>
          simp only [resolveWithin, next] at found
          exact ih (mem_parts_of_aliasTarget? outer next) found

/-- The children of what a part resolves to are parts. -/
theorem mem_parts_of_mem_children_resolve
    {outer type child : HostType}
    (member : type ∈ table.parts outer)
    (inside : child ∈ (table.resolve type).children) :
    child ∈ table.parts outer := by
  have behind : table.resolve type ∈ table.parts outer := by
    cases found : table.resolveWithin expansionLimit type with
    | none => simp [resolve, found, HostType.children] at inside
    | some resolved =>
        simp only [resolve, found, Option.getD_some]
        exact mem_parts_of_resolveWithin expansionLimit member found
  have part := HostType.mem_parts_of_mem_children inside
  simp only [parts, List.mem_append, List.mem_flatMap] at behind ⊢
  rcases behind with own | ⟨entry, entry_member, aliased⟩
  · exact .inl (HostType.mem_parts_trans part _ own)
  · refine .inr ⟨entry, entry_member, ?_⟩
    revert aliased
    unfold aliasParts
    rcases entry.2.definition with target | body
    · exact HostType.mem_parts_trans part target
    · simp

/-! ## The search for the promoted record -/

/-- A deeper search finds what a less deep one finds. -/
theorem embeddedRecordWithin_succ
    (depth : Nat) {type : HostType} {record : DeclaredRecord}
    (found : table.embeddedRecordWithin depth type = some record) :
    table.embeddedRecordWithin (depth + 1) type = some record := by
  induction depth generalizing type with
  | zero => simp [embeddedRecordWithin] at found
  | succ depth ih =>
      rw [embeddedRecordWithin] at found ⊢
      split
      · next target resolved =>
          simp only [resolved] at found
          exact ih found
      · next ref resolved =>
          simpa only [resolved] using found
      · next unmet_pointer unmet_name =>
          split at found
          · next target resolved => exact absurd resolved (unmet_pointer target)
          · next ref resolved => exact absurd resolved (unmet_name ref)
          · exact found

theorem promotes_of_embeddedRecordWithin
    (depth : Nat) {type : HostType} {record : DeclaredRecord}
    (found : table.embeddedRecordWithin depth type = some record) :
    table.Promotes type record := by
  induction depth generalizing type with
  | zero => simp [embeddedRecordWithin] at found
  | succ depth ih =>
      rw [embeddedRecordWithin] at found
      split at found
      · next target resolved => exact .pointer resolved (ih found)
      · next ref resolved =>
          obtain ⟨body, body_found, rfl⟩ := Option.map_eq_some_iff.1 found
          exact .named resolved body_found
      · cases found

/-- What is promoted is found at some depth. -/
theorem Promotes.exists_depth
    {type : HostType} {record : DeclaredRecord}
    (promoted : table.Promotes type record) :
    ∃ depth, table.embeddedRecordWithin depth type = some record := by
  induction promoted with
  | named resolved body_found =>
      exact ⟨1, by simp [embeddedRecordWithin, resolved, body_found]⟩
  | pointer resolved _ ih =>
      obtain ⟨depth, found⟩ := ih
      exact ⟨depth + 1, by simp [embeddedRecordWithin, resolved, found]⟩

/-- A type promotes at most one record. -/
theorem Promotes.unique
    {type : HostType} {record other : DeclaredRecord}
    (promoted : table.Promotes type record)
    (promoted' : table.Promotes type other) :
    record = other := by
  induction promoted with
  | named resolved body_found =>
      cases promoted' with
      | named resolved' body_found' =>
          obtain rfl : _ = _ := HostType.named.inj (resolved.symm.trans resolved')
          rw [Option.some.inj (body_found.symm.trans body_found')]
      | pointer resolved' _ => cases resolved.symm.trans resolved'
  | pointer resolved _ ih =>
      cases promoted' with
      | named resolved' _ => cases resolved.symm.trans resolved'
      | pointer resolved' further' =>
          obtain rfl := HostType.pointer.inj (resolved.symm.trans resolved')
          exact ih further'

/-- A search that succeeds only at a great depth is one for the target of a pointer whose own search
succeeds late. -/
theorem exists_late_target
    {outer : HostType} (depth : Nat) {type : HostType}
    (member : type ∈ table.parts outer)
    (found : (table.embeddedRecordWithin (depth + 2) type).isSome = true)
    (missed : (table.embeddedRecordWithin (depth + 1) type).isSome = false) :
    ∃ target ∈ table.parts outer,
      (table.embeddedRecordWithin (depth + 1) target).isSome = true ∧
        (table.embeddedRecordWithin depth target).isSome = false := by
  rw [embeddedRecordWithin] at found missed
  split at found
  · next target resolved =>
      simp only [resolved] at missed
      have part : target ∈ table.parts outer :=
        mem_parts_of_mem_children_resolve member (by simp [resolved, HostType.children])
      exact ⟨target, part, found, missed⟩
  · next ref resolved =>
      simp only [resolved] at missed
      rw [missed] at found
      cases found
  · cases found

/-- The search finds a record exactly if the type leads to it, however long the way is.  A search
that is late for a part is late for another part one level below, so the number of parts bounds the
levels. -/
theorem embeddedRecord?_eq_some_iff
    {type : HostType} {record : DeclaredRecord} :
    table.embeddedRecord? type = some record ↔ table.Promotes type record := by
  constructor
  · exact promotes_of_embeddedRecordWithin _
  · intro promoted
    obtain ⟨depth, found⟩ := promoted.exists_depth
    have enough :
        (table.embeddedRecordWithin (table.parts type).length type).isSome = true :=
      holds_after_length_rounds
        (fun depth type => (table.embeddedRecordWithin depth type).isSome)
        (fun depth type holds => by
          obtain ⟨record, found⟩ := Option.isSome_iff_exists.1 holds
          exact Option.isSome_iff_exists.2 ⟨record, embeddedRecordWithin_succ depth found⟩)
        (fun depth type member => exists_late_target depth member)
        (by simp [parts])
        (Option.isSome_iff_exists.2 ⟨record, found⟩)
    obtain ⟨other, found'⟩ := Option.isSome_iff_exists.1 enough
    rw [embeddedRecord?, expansionDepth_eq, embeddedRecordWithin_succ _ found',
      promoted.unique (promotes_of_embeddedRecordWithin _ found')]

end Declarations
end RecordConversion
