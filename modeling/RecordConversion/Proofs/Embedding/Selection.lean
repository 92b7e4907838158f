import Mathlib.Data.List.Induction
import RecordConversion.Proofs.Embedding.Candidates

/-!
# Which candidates are offered

A candidate leads when no other one of its name is shallower and none of its name and depth comes
before it.  The selection after some candidates holds exactly those that lead among them, in their
order, each with a mark that says whether one of its name and depth has another path: this is the
invariant of weighing one more candidate (`Selection.leading_add`).

* `Provider.fieldsOf_eq_prevailing`: the fields that a record offers are the candidates that
  prevail, in declaration order.
-/

namespace RecordConversion

namespace Candidate

/-- The candidate at a position leads: none of its name is shallower, and none before it is as
shallow. -/
def Leads
    (all : List Candidate) (candidate : Candidate) (position : Nat) : Prop :=
  (∀ other ∈ all, other.key = candidate.key → candidate.depth ≤ other.depth) ∧
    ∀ other ∈ all.take position, other.key = candidate.key → other.depth ≠ candidate.depth

instance (all : List Candidate) (candidate : Candidate) (position : Nat) :
    Decidable (Leads all candidate position) :=
  inferInstanceAs (Decidable (_ ∧ _))

/-- A candidate of the same name and depth has another path. -/
def Cancelled
    (all : List Candidate) (candidate : Candidate) : Prop :=
  ∃ other ∈ all, other.key = candidate.key ∧ other.depth = candidate.depth ∧
    other.field.accessPath ≠ candidate.field.accessPath

instance (all : List Candidate) (candidate : Candidate) : Decidable (Cancelled all candidate) :=
  inferInstanceAs (Decidable (∃ other ∈ all, _))

/-- The candidate at a position prevails: none of its name is shallower, all of its name and depth
have its path, and it is the first of these. -/
def Prevails
    (all : List Candidate) (candidate : Candidate) (position : Nat) : Prop :=
  (∀ other ∈ all, other.key = candidate.key → candidate.depth ≤ other.depth) ∧
    (∀ other ∈ all, other.key = candidate.key → other.depth = candidate.depth →
      other.field.accessPath = candidate.field.accessPath) ∧
    ∀ other ∈ all.take position, ¬ (other.key = candidate.key ∧ other.depth = candidate.depth)

instance (all : List Candidate) (candidate : Candidate) (position : Nat) :
    Decidable (Prevails all candidate position) :=
  inferInstanceAs (Decidable (_ ∧ _ ∧ _))

/-- To prevail is to lead without being cancelled. -/
theorem prevails_iff
    {all : List Candidate} {candidate : Candidate} {position : Nat} :
    Prevails all candidate position ↔
      Leads all candidate position ∧ ¬ Cancelled all candidate := by
  constructor
  · rintro ⟨shallowest, one_path, first⟩
    refine ⟨⟨shallowest, fun other member same depth => first other member ⟨same, depth⟩⟩, ?_⟩
    rintro ⟨other, member, same, depth, differs⟩
    exact differs (one_path other member same depth)
  · rintro ⟨⟨shallowest, first⟩, uncancelled⟩
    refine ⟨shallowest, ?_, fun other member ⟨same, depth⟩ => first other member same depth⟩
    intro other member same depth
    refine Decidable.byContradiction fun differs => uncancelled ?_
    exact ⟨other, member, same, depth, differs⟩

/-! ## One leader under each name -/

theorem Leads.depth_eq
    {all : List Candidate} {first second : Candidate} {i j : Nat}
    (leads : Leads all first i) (leads' : Leads all second j)
    (member : first ∈ all) (member' : second ∈ all)
    (same : first.key = second.key) :
    first.depth = second.depth :=
  Nat.le_antisymm (leads.1 second member' same.symm) (leads'.1 first member same)

/-- A leader has no other one of its name before it. -/
theorem Leads.not_before
    {all : List Candidate} {first second : Candidate} {i j : Nat}
    (leads : Leads all first i) (leads' : Leads all second j)
    (member' : second ∈ all) (before : first ∈ all.take j) :
    first.key ≠ second.key := by
  intro same
  have member := List.mem_of_mem_take before
  exact leads'.2 first before same (leads.depth_eq leads' member member' same)

theorem mem_take_of_lt
    {all : List Candidate} {candidate : Candidate} {i j : Nat}
    (stands : (candidate, i) ∈ all.zipIdx) (earlier : i < j) :
    candidate ∈ all.take j := by
  have there := List.mk_mem_zipIdx_iff_getElem?.1 stands
  exact List.mem_iff_getElem?.2 ⟨i, by rw [List.getElem?_take, if_pos earlier, there]⟩

theorem Leads.unique
    {all : List Candidate} {first second : Candidate} {i j : Nat}
    (leads : Leads all first i) (leads' : Leads all second j)
    (stands : (first, i) ∈ all.zipIdx) (stands' : (second, j) ∈ all.zipIdx)
    (same : first.key = second.key) :
    first = second := by
  rcases Nat.lt_trichotomy i j with earlier | rfl | later
  · have member := List.fst_mem_of_mem_zipIdx stands'
    exact absurd same (leads.not_before leads' member (mem_take_of_lt stands earlier))
  · have here := List.mk_mem_zipIdx_iff_getElem?.1 stands
    have here' := List.mk_mem_zipIdx_iff_getElem?.1 stands'
    exact Option.some.inj (here.symm.trans here')
  · have member := List.fst_mem_of_mem_zipIdx stands
    exact absurd same.symm (leads'.not_before leads member (mem_take_of_lt stands' later))

/-! ## One more candidate -/

/-- A leader stays one unless the new candidate of its name is shallower. -/
theorem leads_concat_iff
    {all : List Candidate} {added candidate : Candidate} {position : Nat}
    (inside : position ≤ all.length) :
    Leads (all ++ [added]) candidate position ↔
      Leads all candidate position ∧
        (added.key = candidate.key → candidate.depth ≤ added.depth) := by
  unfold Leads
  rw [List.take_append_of_le_length inside]
  simp only [List.mem_append, List.mem_singleton]
  constructor
  · rintro ⟨shallowest, first⟩
    exact ⟨⟨fun other member => shallowest other (.inl member), first⟩,
      shallowest added (.inr rfl)⟩
  · rintro ⟨⟨shallowest, first⟩, no_deeper⟩
    refine ⟨?_, first⟩
    rintro other (member | rfl)
    · exact shallowest other member
    · exact no_deeper

/-- A new candidate leads if all others of its name are deeper. -/
theorem leads_last_iff
    {all : List Candidate} {added : Candidate} :
    Leads (all ++ [added]) added all.length ↔
      ∀ other ∈ all, other.key = added.key → added.depth < other.depth := by
  unfold Leads
  rw [List.take_left]
  simp only [List.mem_append, List.mem_singleton]
  constructor
  · rintro ⟨shallowest, first⟩ other member same
    have := shallowest other (.inl member) same
    have := first other member same
    omega
  · intro deeper
    refine ⟨?_, ?_⟩
    · rintro other (member | rfl) same
      · exact Nat.le_of_lt (deeper other member same)
      · exact Nat.le_refl _
    · intro other member same
      have := deeper other member same
      omega

/-- A new candidate cancels those of its name and depth that have another path. -/
theorem cancelled_concat_iff
    {all : List Candidate} {added candidate : Candidate} :
    Cancelled (all ++ [added]) candidate ↔
      Cancelled all candidate ∨
        (added.key = candidate.key ∧ added.depth = candidate.depth ∧
          added.field.accessPath ≠ candidate.field.accessPath) := by
  simp [Cancelled, or_and_right, exists_or]

end Candidate

namespace Selection

open Candidate

/-- The candidates that lead, each with a mark if it is cancelled. -/
def leading (all : List Candidate) : Selection :=
  (all.zipIdx.filter fun (candidate, position) => Leads all candidate position).map
    fun (candidate, _) => ⟨candidate, Cancelled all candidate⟩

/-- A choice with the mark that a new candidate of its name and depth on another path sets. -/
def mark
    (added : Candidate) (choice : Choice) : Choice :=
  if added.key = choice.candidate.key ∧ added.depth = choice.candidate.depth ∧
      added.field.accessPath ≠ choice.candidate.field.accessPath then
    { choice with ambiguous := true }
  else choice

theorem mem_leading_iff
    {all : List Candidate} {choice : Choice} :
    choice ∈ leading all ↔
      ∃ position, (choice.candidate, position) ∈ all.zipIdx ∧
        Leads all choice.candidate position ∧
          choice.ambiguous = decide (Cancelled all choice.candidate) := by
  simp only [leading, List.mem_map, List.mem_filter, decide_eq_true_eq, Prod.exists]
  constructor
  · rintro ⟨candidate, position, ⟨stands, leads⟩, rfl⟩
    exact ⟨position, stands, leads, rfl⟩
  · rintro ⟨position, stands, leads, marked⟩
    exact ⟨choice.candidate, position, ⟨stands, leads⟩, by rw [← marked]⟩

@[simp]
theorem mark_candidate
    (added : Candidate) (choice : Choice) :
    (mark added choice).candidate = choice.candidate := by
  unfold mark
  split <;> rfl

/-- The mark of a new candidate makes the choice cancelled as it is among all. -/
theorem mark_cancelled
    (all : List Candidate) (added candidate : Candidate) :
    mark added ⟨candidate, Cancelled all candidate⟩ =
      ⟨candidate, Cancelled (all ++ [added]) candidate⟩ := by
  by_cases differs : added.key = candidate.key ∧ added.depth = candidate.depth ∧
      added.field.accessPath ≠ candidate.field.accessPath
  · simp [mark, cancelled_concat_iff, differs]
  · simp only [mark, cancelled_concat_iff, differs, or_false, if_false]

/-- A new candidate that is shallower than all others of its name is not cancelled. -/
theorem not_cancelled_last
    {all : List Candidate} {added : Candidate}
    (deeper : ∀ other ∈ all, other.key = added.key → added.depth < other.depth) :
    ¬ Cancelled (all ++ [added]) added := by
  rw [cancelled_concat_iff]
  rintro (⟨other, member, same, depth, -⟩ | ⟨-, -, differs⟩)
  · have := deeper other member same
    omega
  · exact differs rfl

/-- With one more candidate, the leaders of its name that are deeper go, those at its depth are
marked if its path differs, and it comes to the end if all others of its name are deeper. -/
theorem leading_concat
    (all : List Candidate) (added : Candidate) :
    leading (all ++ [added]) =
      ((leading all).filter fun choice =>
        added.key = choice.candidate.key → choice.candidate.depth ≤ added.depth).map (mark added) ++
        if ∀ other ∈ all, other.key = added.key → added.depth < other.depth then
          [⟨added, false⟩]
        else [] := by
  have kept :
      (all.zipIdx.filter fun (candidate, position) => Leads (all ++ [added]) candidate position) =
        (all.zipIdx.filter fun (candidate, position) => Leads all candidate position).filter
          fun (candidate, _) => added.key = candidate.key → candidate.depth ≤ added.depth := by
    rw [List.filter_filter]
    apply List.filter_congr
    rintro ⟨candidate, position⟩ stands
    have inside : position < all.length := (List.mem_zipIdx' stands).1
    rw [← Bool.decide_and, decide_eq_decide, leads_concat_iff (Nat.le_of_lt inside)]
    exact and_comm
  unfold leading
  rw [List.zipIdx_append, List.filter_append, List.map_append, Nat.zero_add, kept,
    List.filter_map, List.map_map]
  congr 1
  · apply List.map_congr_left
    intro item _
    exact (mark_cancelled all added item.1).symm
  · by_cases deeper : ∀ other ∈ all, other.key = added.key → added.depth < other.depth
    · simp [leads_last_iff.2 deeper, not_cancelled_last deeper, if_pos deeper]
    · have trails : ¬ Leads (all ++ [added]) added all.length :=
        fun leads => deeper (leads_last_iff.1 leads)
      simp [trails, if_neg deeper]

/-- A leader stays a choice, marked or not, unless the new candidate of its name is shallower. -/
theorem mark_mem_leading_concat
    {all : List Candidate} {added : Candidate} {choice : Choice}
    (leader : choice ∈ leading all)
    (kept : added.key = choice.candidate.key → choice.candidate.depth ≤ added.depth) :
    mark added choice ∈ leading (all ++ [added]) := by
  rw [leading_concat]
  refine List.mem_append_left _ (List.mem_map_of_mem (List.mem_filter.2 ⟨leader, ?_⟩))
  exact decide_eq_true kept

/-- A new candidate that is shallower than all others of its name becomes a choice. -/
theorem last_mem_leading_concat
    {all : List Candidate} {added : Candidate}
    (deeper : ∀ other ∈ all, other.key = added.key → added.depth < other.depth) :
    ⟨added, false⟩ ∈ leading (all ++ [added]) := by
  rw [leading_concat, if_pos deeper]
  simp

theorem candidate_mem_of_mem_leading
    {all : List Candidate} {choice : Choice} (leader : choice ∈ leading all) :
    choice.candidate ∈ all := by
  obtain ⟨position, stands, -⟩ := mem_leading_iff.1 leader
  exact List.fst_mem_of_mem_zipIdx stands

theorem depth_le_of_mem_leading
    {all : List Candidate} {choice : Choice} (leader : choice ∈ leading all)
    {other : Candidate} (member : other ∈ all) (same : other.key = choice.candidate.key) :
    choice.candidate.depth ≤ other.depth := by
  obtain ⟨position, _, leads, _⟩ := mem_leading_iff.1 leader
  exact leads.1 other member same

/-- Under each name that occurs there is a leader at most as deep as what occurs. -/
theorem exists_leader
    {all : List Candidate} {candidate : Candidate} (member : candidate ∈ all) :
    ∃ choice ∈ leading all,
      choice.candidate.key = candidate.key ∧ choice.candidate.depth ≤ candidate.depth := by
  induction all using List.reverseRecOn generalizing candidate with
  | nil => cases member
  | append_singleton rest added ih =>
      have early :
          ∀ {earlier : Candidate}, earlier ∈ rest →
            ∃ choice ∈ leading (rest ++ [added]),
              choice.candidate.key = earlier.key ∧ choice.candidate.depth ≤ earlier.depth := by
        intro earlier earlier_member
        obtain ⟨choice, leader, same, shallow⟩ := ih earlier_member
        by_cases kept : added.key = choice.candidate.key → choice.candidate.depth ≤ added.depth
        · exact ⟨mark added choice, mark_mem_leading_concat leader kept, by simpa using same,
            by simpa using shallow⟩
        · obtain ⟨same', shallower⟩ : added.key = choice.candidate.key ∧
              ¬ choice.candidate.depth ≤ added.depth := by
            simpa using kept
          have deeper : ∀ other ∈ rest, other.key = added.key → added.depth < other.depth := by
            intro other other_member other_same
            have := depth_le_of_mem_leading leader other_member (other_same.trans same')
            omega
          have shallower' : added.depth ≤ earlier.depth := by omega
          exact ⟨⟨added, false⟩, last_mem_leading_concat deeper, same'.trans same, shallower'⟩
      rcases List.mem_append.1 member with member | member
      · exact early member
      · obtain rfl := List.mem_singleton.1 member
        by_cases deeper : ∀ other ∈ rest, other.key = candidate.key → candidate.depth < other.depth
        · exact ⟨⟨candidate, false⟩, last_mem_leading_concat deeper, rfl, Nat.le_refl _⟩
        · obtain ⟨other, other_member, same, shallow⟩ :
              ∃ other ∈ rest, other.key = candidate.key ∧ other.depth ≤ candidate.depth := by
            simpa using deeper
          obtain ⟨choice, leader, same', shallow'⟩ := early other_member
          exact ⟨choice, leader, same'.trans same, Nat.le_trans shallow' shallow⟩

theorem leading_unique
    {all : List Candidate} {choice other : Choice}
    (leader : choice ∈ leading all) (leader' : other ∈ leading all)
    (same : choice.candidate.key = other.candidate.key) :
    choice = other := by
  obtain ⟨i, stands, leads, marked⟩ := mem_leading_iff.1 leader
  obtain ⟨j, stands', leads', marked'⟩ := mem_leading_iff.1 leader'
  have one := leads.unique leads' stands stands' same
  obtain ⟨candidate, ambiguous⟩ := choice
  obtain ⟨candidate', ambiguous'⟩ := other
  obtain rfl : candidate = candidate' := one
  have one_mark : ambiguous = ambiguous' := marked.trans marked'.symm
  rw [one_mark]

/-- A new candidate that is not shallower than the leader of its name marks at most this one. -/
theorem leading_concat_of_not_deeper
    {all : List Candidate} {added : Candidate} {choice : Choice}
    (leader : choice ∈ leading all) (same : choice.candidate.key = added.key)
    (shallow : choice.candidate.depth ≤ added.depth) :
    leading (all ++ [added]) = (leading all).map (mark added) := by
  have kept :
      ((leading all).filter fun other =>
        added.key = other.candidate.key → other.candidate.depth ≤ added.depth) = leading all := by
    rw [List.filter_eq_self]
    intro other leader'
    refine decide_eq_true fun same' => ?_
    rwa [leading_unique leader' leader (same'.symm.trans same.symm)]
  have trails : ¬ ∀ other ∈ all, other.key = added.key → added.depth < other.depth := by
    intro deeper
    have := deeper choice.candidate (candidate_mem_of_mem_leading leader) same
    omega
  rw [leading_concat, kept, if_neg trails, List.append_nil]

/-- A new candidate that is shallower than all others of its name replaces them. -/
theorem leading_concat_of_deeper
    {all : List Candidate} {added : Candidate}
    (deeper : ∀ other ∈ all, other.key = added.key → added.depth < other.depth) :
    leading (all ++ [added]) =
      ((leading all).filter fun choice => choice.candidate.key != added.key) ++
        [⟨added, false⟩] := by
  have gone :
      ((leading all).filter fun choice =>
        added.key = choice.candidate.key → choice.candidate.depth ≤ added.depth) =
        (leading all).filter fun choice => choice.candidate.key != added.key := by
    apply List.filter_congr
    intro choice leader
    by_cases same : choice.candidate.key = added.key
    · have := deeper choice.candidate (candidate_mem_of_mem_leading leader) same
      simp [same, this]
    · have differs : ¬ added.key = choice.candidate.key := fun e => same e.symm
      simp [same, differs]
  have unmarked :
      ∀ choice ∈ (leading all).filter fun choice => choice.candidate.key != added.key,
        mark added choice = choice := by
    intro choice other
    have differs : choice.candidate.key ≠ added.key := by
      simpa using (List.mem_filter.1 other).2
    exact if_neg fun ⟨same, _⟩ => differs same.symm
  rw [leading_concat, gone, if_pos deeper, List.map_congr_left unmarked, List.map_id']

/-- No leader is marked if the one of the new name is at another depth or on the same path. -/
theorem map_mark_eq_self
    {all : List Candidate} {added : Candidate} {choice : Choice}
    (leader : choice ∈ leading all) (same : choice.candidate.key = added.key)
    (agrees : added.depth = choice.candidate.depth →
      added.field.accessPath = choice.candidate.field.accessPath) :
    (leading all).map (mark added) = leading all := by
  have unmarked : ∀ other ∈ leading all, mark added other = other := by
    intro other leader'
    refine if_neg fun ⟨same', depth, differs⟩ => ?_
    obtain rfl := leading_unique leader' leader (same'.symm.trans same.symm)
    exact differs (agrees depth)
  rw [List.map_congr_left unmarked, List.map_id']

/-- All leaders of the new name are marked if the one there is has its depth and another path. -/
theorem map_mark_eq_map
    {all : List Candidate} {added : Candidate} {choice : Choice}
    (leader : choice ∈ leading all) (same : choice.candidate.key = added.key)
    (depth : added.depth = choice.candidate.depth)
    (differs : added.field.accessPath ≠ choice.candidate.field.accessPath) :
    (leading all).map (mark added) =
      (leading all).map fun other =>
        if other.candidate.key == added.key then { other with ambiguous := true } else other := by
  apply List.map_congr_left
  intro other leader'
  by_cases same' : other.candidate.key = added.key
  · obtain rfl := leading_unique leader' leader (same'.trans same.symm)
    simp [mark, same, depth, differs]
  · have unequal : ¬ added.key = other.candidate.key := fun e => same' e.symm
    simp [mark, same', unequal]

/-- The selection weighs one more candidate as the leaders do.  A candidate deeper than the choice
of its name changes nothing, one as deep marks the choice if the paths differ, and a shallower one
is shallower than all of its name. -/
theorem leading_add
    (all : List Candidate) (added : Candidate) :
    (leading all).add added = leading (all ++ [added]) := by
  unfold add
  split
  · next absent =>
      have nobody : ∀ choice ∈ leading all, choice.candidate.key ≠ added.key := by
        simpa using absent
      have deeper : ∀ other ∈ all, other.key = added.key → added.depth < other.depth := by
        intro other member same
        obtain ⟨choice, leader, same', -⟩ := exists_leader member
        exact absurd (same'.trans same) (nobody choice leader)
      have all_kept :
          ((leading all).filter fun choice => choice.candidate.key != added.key) = leading all := by
        rw [List.filter_eq_self]
        intro choice leader
        simpa using nobody choice leader
      rw [leading_concat_of_deeper deeper, all_kept]
  · next choice found =>
      have leader : choice ∈ leading all := List.mem_of_find?_eq_some found
      have same : choice.candidate.key = added.key := by
        simpa using List.find?_some found
      split
      · next deeper =>
          rw [leading_concat_of_not_deeper leader same (Nat.le_of_lt deeper),
            map_mark_eq_self leader same fun level => absurd level (Nat.ne_of_gt deeper)]
      · next not_deeper =>
          split
          · next level =>
              rw [leading_concat_of_not_deeper leader same (Nat.le_of_eq level.symm)]
              split
              · next agrees => rw [map_mark_eq_self leader same fun _ => agrees.symm]
              · next differs => rw [map_mark_eq_map leader same level fun e => differs e.symm]
          · next not_level =>
              have deeper : ∀ other ∈ all, other.key = added.key → added.depth < other.depth := by
                intro other member same'
                have := depth_le_of_mem_leading leader member (same'.trans same.symm)
                omega
              rw [leading_concat_of_deeper deeper]

/-- Weighing candidates one after the other leaves those that lead. -/
theorem foldl_add_eq_leading
    (all : List Candidate) :
    all.foldl add [] = leading all := by
  induction all using List.reverseRecOn with
  | nil => rfl
  | append_singleton rest added ih =>
      rw [List.foldl_append, List.foldl_cons, List.foldl_nil, ih, leading_add]

/-- The fields of the leaders that are not cancelled are those of the candidates that prevail. -/
theorem fields_leading
    (all : List Candidate) :
    (leading all).fields =
      (all.zipIdx.filter fun (candidate, position) => Prevails all candidate position).map
        fun (candidate, _) => candidate.field := by
  unfold fields leading
  rw [List.filter_map, List.map_map, List.filter_filter]
  congr 1
  apply List.filter_congr
  rintro ⟨candidate, position⟩ _
  simp only [Function.comp_apply]
  rw [← decide_not, ← Bool.decide_and, decide_eq_decide, prevails_iff]
  exact and_comm

theorem nodup_keys_leading
    (all : List Candidate) :
    ((leading all).map fun choice => choice.candidate.key).Nodup := by
  have ordered : all.zipIdx.Pairwise fun first second => first.2 < second.2 := by
    have positions : (all.zipIdx.map Prod.snd).Pairwise (· < ·) := by
      rw [List.zipIdx_map_snd]
      exact List.pairwise_lt_range'
    exact List.pairwise_map.1 positions
  unfold leading List.Nodup
  rw [List.map_map, List.pairwise_map]
  refine (ordered.filter _).imp_of_mem ?_
  rintro ⟨first, i⟩ ⟨second, j⟩ stands stands' earlier
  simp only [List.mem_filter, decide_eq_true_eq] at stands stands'
  exact stands.2.not_before stands'.2 (List.fst_mem_of_mem_zipIdx stands'.1)
    (mem_take_of_lt stands.1 earlier)

theorem nodup_names_fields_leading
    (all : List Candidate) :
    ((leading all).fields.map fun field => Text.lowercase field.name).Nodup := by
  unfold fields
  rw [List.map_map]
  exact (nodup_keys_leading all).sublist (List.filter_sublist.map _)

end Selection

namespace Provider

theorem fieldsOf_eq_leading
    {provider : Provider} (ref : QualifiedName) (members : List Field) :
    provider.fieldsOf ref members =
      (Selection.leading (provider.candidates ref members)).fields := by
  rw [fieldsOf, Selection.foldl_add_eq_leading]

/-- Every field is a visible member that has been reached. -/
theorem exists_member_of_mem_fieldsOf
    {provider : Provider} {ref : QualifiedName} {members : List Field} {field : RecordField}
    (offered : field ∈ provider.fieldsOf ref members) :
    ∃ member, provider.declarations.Contains members member ∧
      member.embedded = false ∧ member.visible = true ∧
        ∃ trail via, field = provider.fieldAt ref.path trail via member := by
  rw [fieldsOf_eq_leading, Selection.fields_leading] at offered
  obtain ⟨⟨candidate, position⟩, kept, rfl⟩ := List.mem_map.1 offered
  have listed : candidate ∈ provider.candidates ref members :=
    List.fst_mem_of_mem_zipIdx (List.mem_filter.1 kept).1
  obtain ⟨member, contained, plain, shown, trail, via, rfl⟩ :=
    (collects_iff.2 rfl).exists_member listed
  exact ⟨member, contained, plain, shown, trail, via, rfl⟩

/-- The fields of a record are the candidates that prevail, in declaration order: there is one list
of candidates, each candidate in it is offered exactly if none of its name is shallower, all of its
name and depth have its path, and it is the first of these.  So no two offered fields have one
name, and each is a visible member of the record or of one that it promotes. -/
theorem fieldsOf_eq_prevailing
    (provider : Provider) (ref : QualifiedName) (members : List Field) :
    ∃ candidates : List Candidate,
      (∀ others, provider.Collects ref.path [ref] [] "" members others ↔ others = candidates) ∧
      provider.fieldsOf ref members =
        (candidates.zipIdx.filter fun (candidate, position) =>
          Candidate.Prevails candidates candidate position).map
            (fun (candidate, _) => candidate.field) ∧
      ((provider.fieldsOf ref members).map fun field => Text.lowercase field.name).Nodup ∧
      ∀ field ∈ provider.fieldsOf ref members,
        ∃ member, provider.declarations.Contains members member ∧
          member.embedded = false ∧ member.visible = true ∧
            ∃ trail via, field = provider.fieldAt ref.path trail via member := by
  refine ⟨provider.candidates ref members, fun others => collects_iff, ?_, ?_,
    fun field => exists_member_of_mem_fieldsOf⟩
  · rw [fieldsOf_eq_leading, Selection.fields_leading]
  · rw [fieldsOf_eq_leading]
    exact Selection.nodup_names_fields_leading _

end Provider
end RecordConversion
