import RecordConversion.Proofs.Declarations.Resolution
import RecordConversion.Proofs.Discovery.Records

/-!
# The fields of an alias of a record

The record on the way that is not entered again is the one that was asked for.  If it was asked for
by the name of an alias, the record itself may be entered once more, through an embedded member that
leads back to it.  What is found there stands further in than the same fields of the record itself,
so none of it is offered, and an alias offers the fields of its record.

* `Selection.filter_leading`: candidates that others outdo do not decide between those that are
  left.
* `Collects.exists_outer`: what is found further in is found further out.
* `Provider.fieldsOf_alias`: the fields of an alias.
-/

namespace RecordConversion

/-! ## Candidates that no other one outdoes -/

/-- No candidate of the name among the given ones is shallower. -/
def Candidate.Shallowest
    (all : List Candidate) (candidate : Candidate) : Prop :=
  ∀ other ∈ all, other.key = candidate.key → candidate.depth ≤ other.depth

instance (all : List Candidate) (candidate : Candidate) :
    Decidable (candidate.Shallowest all) :=
  inferInstanceAs (Decidable (∀ other ∈ all, _))

theorem Candidate.Shallowest.of_le
    {all : List Candidate} {candidate other : Candidate}
    (shallowest : candidate.Shallowest all)
    (same : other.key = candidate.key) (shallow : other.depth ≤ candidate.depth) :
    other.Shallowest all := by
  intro rival member same'
  exact Nat.le_trans shallow (shallowest rival member (same'.trans same))

namespace Selection

open Candidate

/-- Of the leaders, those that no candidate of a list outdoes are the leaders of the candidates that
none of that list outdoes.  What is dropped is deeper than anything of its name that is kept. -/
theorem filter_leading
    (bound all : List Candidate) :
    ((leading all).filter fun choice => choice.candidate.Shallowest bound) =
      leading (all.filter fun candidate => candidate.Shallowest bound) := by
  induction all using List.reverseRecOn with
  | nil => rfl
  | append_singleton rest added ih =>
      have marked :
          (fun choice : Choice => decide (choice.candidate.Shallowest bound)) ∘ mark added =
            fun choice => decide (choice.candidate.Shallowest bound) := by
        funext choice
        simp
      rw [leading_concat, List.filter_append, List.filter_append, List.filter_map, marked,
        List.filter_comm, ih]
      by_cases kept : added.Shallowest bound
      · have deeper_iff :
            (∀ other ∈ rest.filter fun candidate => candidate.Shallowest bound,
                other.key = added.key → added.depth < other.depth) ↔
              ∀ other ∈ rest, other.key = added.key → added.depth < other.depth := by
          constructor
          · intro deeper other member same
            by_contra shallow
            have stays := kept.of_le same (Nat.le_of_not_lt shallow)
            exact shallow (deeper other (List.mem_filter.2 ⟨member, decide_eq_true stays⟩) same)
          · exact fun deeper other member => deeper other (List.mem_filter.1 member).1
        rw [List.filter_singleton, decide_eq_true kept, cond_true, leading_concat,
          if_congr deeper_iff rfl rfl]
        congr 1
        split <;> simp [kept]
      · have outdone : ∀ choice ∈ leading (rest.filter fun candidate => candidate.Shallowest bound),
            added.key = choice.candidate.key → choice.candidate.depth < added.depth := by
          intro choice leader same
          have stays := (List.mem_filter.1 (candidate_mem_of_mem_leading leader)).2
          by_contra shallow
          exact kept ((of_decide_eq_true stays).of_le same (Nat.le_of_not_lt shallow))
        have unmarked : ∀ choice ∈ leading (rest.filter fun candidate =>
            candidate.Shallowest bound), mark added choice = choice := by
          intro choice leader
          refine if_neg fun ⟨same, level, _⟩ => ?_
          exact absurd (outdone choice leader same) (Nat.not_lt_of_ge (Nat.le_of_eq level))
        have all_kept : ((leading (rest.filter fun candidate => candidate.Shallowest bound)).filter
            fun choice => added.key = choice.candidate.key → choice.candidate.depth ≤ added.depth) =
              leading (rest.filter fun candidate => candidate.Shallowest bound) := by
          rw [List.filter_eq_self]
          intro choice leader
          exact decide_eq_true fun same => Nat.le_of_lt (outdone choice leader same)
        rw [all_kept, List.map_congr_left unmarked, List.map_id', List.filter_singleton,
          decide_eq_false kept, cond_false, List.append_nil]
        split <;> simp [kept]

theorem shallowest_of_mem_leading
    {all : List Candidate} {choice : Choice} (leader : choice ∈ leading all) :
    choice.candidate.Shallowest all :=
  fun _ member same => depth_le_of_mem_leading leader member same

/-- Lists of candidates have the same leaders if they agree on what none of the first outdoes, since
the shallowest of each name is in both. -/
theorem leading_eq_of_filter_eq
    {all others : List Candidate}
    (agree : (others.filter fun candidate => candidate.Shallowest all) =
      all.filter fun candidate => candidate.Shallowest all) :
    leading others = leading all := by
  have kept : ((leading all).filter fun choice => choice.candidate.Shallowest all) =
      leading all :=
    List.filter_eq_self.2 fun choice leader => decide_eq_true (shallowest_of_mem_leading leader)
  have kept' : ((leading others).filter fun choice => choice.candidate.Shallowest all) =
      leading others := by
    rw [List.filter_eq_self]
    intro choice leader
    refine decide_eq_true fun rival member same => ?_
    obtain ⟨first, first_leads, named, shallow⟩ := exists_leader member
    have listed : first.candidate ∈ others.filter fun candidate => candidate.Shallowest all := by
      rw [agree, List.mem_filter]
      exact ⟨candidate_mem_of_mem_leading first_leads,
        decide_eq_true (shallowest_of_mem_leading first_leads)⟩
    have shallow' := depth_le_of_mem_leading leader (List.mem_filter.1 listed).1 (named.trans same)
    exact Nat.le_trans shallow' shallow
  rw [← kept', filter_leading, agree, ← filter_leading, kept]

end Selection

/-! ## Aliases of records -/

/-- A name is that of an alias which resolves to another name in its namespace. -/
structure Declarations.AliasOf
    (table : Declarations) (synonym ref : QualifiedName) : Prop where
  is_alias : table.aliasTarget? (.named synonym) ≠ none
  resolved : table.resolve (.named synonym) = .named ref
  path : synonym.path = ref.path

namespace Declarations

variable {table : Declarations} {synonym ref : QualifiedName}

/-- What a type promotes does not go by the name of an alias. -/
theorem Promotes.aliasTarget?_eq_none
    {type : HostType} {record : DeclaredRecord}
    (promoted : table.Promotes type record) :
    table.aliasTarget? (.named record.ref) = none := by
  induction promoted with
  | named resolved _ => exact resolved ▸ aliasTarget?_resolve _
  | pointer _ _ ih => exact ih

theorem Promotes.ref_ne_alias
    {type : HostType} {record : DeclaredRecord}
    (promoted : table.Promotes type record) (names : table.AliasOf synonym ref) :
    record.ref ≠ synonym := by
  rintro rfl
  exact names.is_alias promoted.aliasTarget?_eq_none

/-- What an alias resolves to goes by another name. -/
theorem AliasOf.ref_ne
    (names : table.AliasOf synonym ref) :
    ref ≠ synonym := by
  rintro rfl
  have no_alias := @aliasTarget?_resolve table (.named ref)
  rw [names.resolved] at no_alias
  exact names.is_alias no_alias

/-- What promotes a name has the members of that name. -/
theorem Promotes.recordBody?_eq
    {type : HostType} {record : DeclaredRecord}
    (promoted : table.Promotes type record) :
    table.recordBody? (.named record.ref) = some record.body := by
  induction promoted with
  | named _ found => exact found
  | pointer _ _ ih => exact ih

/-- An alias has the members of what it resolves to. -/
theorem AliasOf.recordBody?_eq
    (names : table.AliasOf synonym ref) :
    table.recordBody? (.named synonym) = table.recordBody? (.named ref) := by
  rcases table.underlying_eq_or (.named synonym) with same | ⟨bare, bare'⟩
  · rw [recordBody?, same, names.resolved, recordBody?]
  · have none_of_bare {type : HostType} (bare : (table.underlying type).kind = .other) :
        table.recordBody? type = none := by
      rw [Option.eq_none_iff_forall_ne_some]
      intro body found
      rw [underlying_of_recordBody? found] at bare
      cases bare
    rw [none_of_bare bare, none_of_bare (names.resolved ▸ bare')]

end Declarations

namespace Provider

variable {provider : Provider} {inside : String} {synonym ref : QualifiedName} {body : List Field}

/-! ## Candidates further in -/

/-- The same members met further out, with fewer records on the way, have at least the same
candidates, each as much further out. -/
theorem Collects.exists_outer
    {inside' : String} {entered entered' : List QualifiedName} {trail trail' : List String}
    {via via' : String} {members : List Field} {candidates others : List Candidate}
    (listed : provider.Collects inside entered trail via members candidates)
    (listed' : provider.Collects inside' entered' trail' via' members others)
    (fewer : entered' ⊆ entered)
    {candidate : Candidate} (chosen : candidate ∈ candidates) :
    ∃ other ∈ others, other.key = candidate.key ∧
      other.depth + trail.length = candidate.depth + trail'.length := by
  induction listed generalizing entered' trail' via' others with
  | nil => cases chosen
  | visible plain shown _ ih =>
      obtain ⟨_, rfl, later'⟩ := listed'.visible_inv plain shown
      rcases List.mem_cons.1 chosen with rfl | chosen
      · exact ⟨_, List.mem_cons_self, rfl, Nat.add_comm _ _⟩
      · obtain ⟨other, member, facts⟩ := ih later' fewer chosen
        exact ⟨other, List.mem_cons_of_mem _ member, facts⟩
  | hidden plain unshown _ ih => exact ih (listed'.hidden_inv plain unshown) fewer chosen
  | noRecord anonymous nothing _ ih =>
      exact ih (listed'.noRecord_inv anonymous nothing) fewer chosen
  | @onTheWay _ _ _ _ _ _ record anonymous leads again _ ih =>
      by_cases again' : record.ref ∈ entered'
      · exact ih (listed'.onTheWay_inv anonymous leads again') fewer chosen
      · obtain ⟨_, _, rfl, _, later'⟩ := listed'.promoted_inv anonymous leads again'
        obtain ⟨other, member, facts⟩ := ih later' fewer chosen
        exact ⟨other, List.mem_append_right _ member, facts⟩
  | promoted anonymous leads fresh _ _ ih_deeper ih_later =>
      obtain ⟨_, _, rfl, deeper', later'⟩ :=
        listed'.promoted_inv anonymous leads fun again => fresh (fewer again)
      rcases List.mem_append.1 chosen with chosen | chosen
      · obtain ⟨other, member, same, level⟩ :=
          ih_deeper deeper' (List.cons_subset_cons _ fewer) chosen
        refine ⟨other, List.mem_append_left _ member, same, ?_⟩
        simp only [List.length_append, List.length_singleton] at level
        omega
      · obtain ⟨other, member, facts⟩ := ih_later later' fewer chosen
        exact ⟨other, List.mem_append_right _ member, facts⟩

/-- Where a record is entered once more, every candidate is outdone by one of the record itself. -/
theorem Collects.not_shallowest
    {entered : List QualifiedName} {trail : List String} {via : String}
    {candidates : List Candidate}
    (listed : provider.Collects inside (ref :: entered) trail via body candidates)
    (within : trail ≠ [])
    {candidate : Candidate} (chosen : candidate ∈ candidates) :
    ¬ candidate.Shallowest (provider.candidates ref body) := by
  intro shallowest
  have itself : provider.Collects ref.path [ref] [] "" body (provider.candidates ref body) :=
    collects_iff.2 rfl
  obtain ⟨other, member, same, level⟩ := listed.exists_outer itself (by simp) chosen
  have outdone := shallowest other member same
  have := List.length_pos_of_ne_nil within
  simp only [List.length_nil] at level
  omega

section Alias

variable (names : provider.declarations.AliasOf synonym ref)
variable (declared : provider.declarations.recordBody? (.named ref) = some body)
include names declared

/-- Whether a record was asked for by its name or by an alias makes no difference to the candidates
that none of its own outdoes.  Asked for by an alias it may be entered once more, and all that is
promoted from there is outdone. -/
theorem Collects.filter_shallowest_eq
    {entered entered' : List QualifiedName} {trail : List String} {via : String}
    {members : List Field} {candidates others : List Candidate}
    (listed : provider.Collects inside entered trail via members candidates)
    (listed' : provider.Collects inside entered' trail via members others)
    (one_more : ∀ key, key ≠ synonym → (key ∈ entered' ↔ key ∈ entered ∨ key = ref)) :
    (candidates.filter fun candidate => candidate.Shallowest (provider.candidates ref body)) =
      others.filter fun candidate => candidate.Shallowest (provider.candidates ref body) := by
  induction listed generalizing entered' others with
  | nil =>
      cases listed'
      rfl
  | visible plain shown _ ih =>
      obtain ⟨_, rfl, later'⟩ := listed'.visible_inv plain shown
      rw [List.filter_cons, List.filter_cons, ih later' one_more]
  | hidden plain unshown _ ih => exact ih (listed'.hidden_inv plain unshown) one_more
  | noRecord anonymous nothing _ ih => exact ih (listed'.noRecord_inv anonymous nothing) one_more
  | onTheWay anonymous leads again _ ih =>
      have again' := (one_more _ (leads.ref_ne_alias names)).2 (.inl again)
      exact ih (listed'.onTheWay_inv anonymous leads again') one_more
  | @promoted entered trail via member rest inner later record anonymous leads fresh deeper _
      ih_deeper ih_later =>
      by_cases again' : record.ref ∈ entered'
      · obtain rfl : record.ref = ref :=
          ((one_more _ (leads.ref_ne_alias names)).1 again').resolve_left fresh
        obtain rfl : record.body = body :=
          Option.some.inj (leads.recordBody?_eq.symm.trans declared)
        have outdone : (inner.filter fun candidate =>
            candidate.Shallowest (provider.candidates record.ref record.body)) = [] := by
          rw [List.filter_eq_nil_iff]
          intro candidate chosen
          simpa using deeper.not_shallowest (by simp) chosen
        rw [List.filter_append, outdone, List.nil_append,
          ih_later (listed'.onTheWay_inv anonymous leads again') one_more]
      · obtain ⟨_, _, rfl, deeper', later'⟩ := listed'.promoted_inv anonymous leads again'
        have one_more' : ∀ key, key ≠ synonym →
            (key ∈ record.ref :: entered' ↔ key ∈ record.ref :: entered ∨ key = ref) := by
          intro key other
          rw [List.mem_cons, List.mem_cons, one_more key other, or_assoc]
        rw [List.filter_append, List.filter_append, ih_deeper deeper' one_more',
          ih_later later' one_more]

/-- An alias of a record offers the fields of the record. -/
theorem fieldsOf_alias :
    provider.fieldsOf synonym body = provider.fieldsOf ref body := by
  have by_alias :
      provider.Collects ref.path [synonym] [] "" body (provider.candidates synonym body) :=
    names.path ▸ collects_iff.2 rfl
  have by_name : provider.Collects ref.path [ref] [] "" body (provider.candidates ref body) :=
    collects_iff.2 rfl
  rw [fieldsOf_eq_leading, fieldsOf_eq_leading]
  congr 1
  apply Selection.leading_eq_of_filter_eq
  apply by_alias.filter_shallowest_eq names declared by_name
  intro key other
  simp [other]

end Alias

end Provider
end RecordConversion
