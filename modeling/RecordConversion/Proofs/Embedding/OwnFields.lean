import RecordConversion.Proofs.Discovery.Records

/-!
# Fields that a record declares itself

A visible member of a record is a candidate of depth zero, under its own name as path, and every
other candidate comes from deeper inside.  So nothing that is promoted competes with it; only
another visible member of the record does that has its name in other letter case.

* `Provider.Collects.mem_iff_of_outermost`: the candidates that are not promoted.
* `Provider.ownField_mem_fieldsOf_iff`: which members of a record are offered.
-/

namespace RecordConversion

/-- A member that can be offered as a field where it is declared. -/
def Member.Shown {Ty : Type} (member : Member Ty) : Prop :=
  member.embedded = false ∧ member.visible = true

instance {Ty : Type} (member : Member Ty) : Decidable member.Shown :=
  inferInstanceAs (Decidable (_ ∧ _))

namespace Provider

/-- A visible member as a field of the record that declares it. -/
def ownField
    (provider : Provider) (inside : String) (member : Field) : RecordField :=
  provider.fieldAt inside [] "" member

variable {provider : Provider} {inside : String}

/-- The path to an own field is its name. -/
@[simp]
theorem ownField_accessPath
    (member : Field) :
    (provider.ownField inside member).accessPath = member.name := by
  simp [ownField, fieldAt]

/-! ## Outermost candidates -/

section Outermost

variable {entered : List QualifiedName} {trail : List String} {via : String}
variable {members : List Field} {candidates : List Candidate}

/-- No candidate stands further out than the members. -/
theorem Collects.length_le_depth
    (listed : provider.Collects inside entered trail via members candidates)
    {candidate : Candidate} (chosen : candidate ∈ candidates) :
    trail.length ≤ candidate.depth := by
  induction listed with
  | nil => cases chosen
  | visible _ _ _ ih =>
      rcases List.mem_cons.1 chosen with rfl | later
      · exact Nat.le_refl _
      · exact ih later
  | hidden _ _ _ ih | noRecord _ _ _ ih | onTheWay _ _ _ _ ih => exact ih chosen
  | promoted _ _ _ _ _ ih_deeper ih_later =>
      rcases List.mem_append.1 chosen with inner | later
      · have deep := ih_deeper inner
        rw [List.length_append] at deep
        exact Nat.le_trans (Nat.le_add_right _ _) deep
      · exact ih_later later

/-- The candidates that are not promoted are the members that can be offered; what is promoted
stands further in. -/
theorem Collects.mem_iff_of_outermost
    (listed : provider.Collects inside entered trail via members candidates)
    {candidate : Candidate} (outermost : candidate.depth = trail.length) :
    candidate ∈ candidates ↔
      ∃ member ∈ members, member.Shown ∧
        candidate = ⟨provider.fieldAt inside trail via member, trail.length⟩ := by
  induction listed with
  | nil => simp
  | visible plain shown _ ih =>
      rw [List.mem_cons, ih outermost]
      simp only [List.exists_mem_cons_iff]
      exact or_congr_left ⟨fun same => ⟨⟨plain, shown⟩, same⟩, fun own => own.2⟩
  | hidden plain unshown _ ih =>
      rw [ih outermost, List.exists_mem_cons_iff]
      refine (or_iff_right ?_).symm
      rintro ⟨⟨_, shown⟩, _⟩
      cases unshown.symm.trans shown
  | noRecord anonymous _ _ ih | onTheWay anonymous _ _ _ ih =>
      rw [ih outermost, List.exists_mem_cons_iff]
      refine (or_iff_right ?_).symm
      rintro ⟨⟨plain, _⟩, _⟩
      cases anonymous.symm.trans plain
  | promoted anonymous _ _ deeper _ _ ih_later =>
      rw [List.mem_append, ih_later outermost, List.exists_mem_cons_iff]
      refine or_congr_left ⟨fun inner => ?_, ?_⟩
      · have deep := deeper.length_le_depth inner
        rw [outermost, List.length_append] at deep
        exact absurd deep (Nat.not_succ_le_self _)
      · rintro ⟨⟨plain, _⟩, _⟩
        cases anonymous.symm.trans plain

end Outermost

/-! ## What is offered -/

variable {ref : QualifiedName} {members : List Field} {member : Field}

theorem mem_candidates_iff_of_outermost
    {candidate : Candidate} (outermost : candidate.depth = 0) :
    candidate ∈ provider.candidates ref members ↔
      ∃ member ∈ members, member.Shown ∧ candidate = ⟨provider.ownField ref.path member, 0⟩ :=
  (collects_iff.2 rfl).mem_iff_of_outermost outermost

theorem mem_fieldsOf_iff
    {field : RecordField} :
    field ∈ provider.fieldsOf ref members ↔
      ∃ choice ∈ Selection.leading (provider.candidates ref members),
        choice.ambiguous = false ∧ choice.candidate.field = field := by
  simp [fieldsOf_eq_leading, Selection.fields, and_assoc]

theorem own_mem_candidates
    (listed : member ∈ members) (shown : member.Shown) :
    ⟨provider.ownField ref.path member, 0⟩ ∈ provider.candidates ref members :=
  (mem_candidates_iff_of_outermost rfl).2 ⟨member, listed, shown, rfl⟩

/-- A member that is offered has no other one of its name apart from case. -/
theorem name_eq_of_ownField_mem
    (listed : member ∈ members) (shown : member.Shown)
    (offered : provider.ownField ref.path member ∈ provider.fieldsOf ref members)
    {other : Field} (here : other ∈ members) (shown' : other.Shown)
    (same : Text.lowercase other.name = Text.lowercase member.name) :
    other.name = member.name := by
  obtain ⟨choice, leader, uncancelled, field⟩ := mem_fieldsOf_iff.1 offered
  obtain ⟨position, _, leads, marked⟩ := Selection.mem_leading_iff.1 leader
  have key : choice.candidate.key = Text.lowercase member.name := by rw [Candidate.key, field]; rfl
  have outermost : choice.candidate.depth = 0 :=
    Nat.le_zero.1 (leads.1 _ (own_mem_candidates listed shown) key.symm)
  rw [uncancelled, eq_comm, decide_eq_false_iff_not] at marked
  by_contra differs
  refine marked ⟨_, own_mem_candidates here shown', same.trans key.symm, outermost.symm, ?_⟩
  rw [field, ownField_accessPath, ownField_accessPath]
  exact differs

/-- A member without another one of its name is offered. -/
theorem ownField_mem_of_alone
    (listed : member ∈ members) (shown : member.Shown)
    (alone : ∀ other ∈ members, other.Shown →
      Text.lowercase other.name = Text.lowercase member.name → other = member) :
    provider.ownField ref.path member ∈ provider.fieldsOf ref members := by
  have only {candidate : Candidate} (chosen : candidate ∈ provider.candidates ref members)
      (outermost : candidate.depth = 0) (same : candidate.key = Text.lowercase member.name) :
      candidate = ⟨provider.ownField ref.path member, 0⟩ := by
    obtain ⟨other, here, shown', rfl⟩ := (mem_candidates_iff_of_outermost outermost).1 chosen
    rw [alone other here shown' same]
  obtain ⟨choice, leader, same, shallow⟩ :=
    Selection.exists_leader (own_mem_candidates listed shown)
  obtain ⟨_, _, _, marked⟩ := Selection.mem_leading_iff.1 leader
  have chosen := Selection.candidate_mem_of_mem_leading leader
  have itself := only chosen (Nat.le_zero.1 shallow) same
  refine mem_fieldsOf_iff.2 ⟨choice, leader, ?_, by rw [itself]⟩
  rw [marked, decide_eq_false_iff_not]
  rintro ⟨rival, chosen, same', level, differs⟩
  rw [itself] at same' level differs
  exact differs (by rw [only chosen level same'])

/-- Where names are distinct, a member that can be offered is offered exactly if no other one has
its name apart from case. -/
theorem ownField_mem_fieldsOf_iff
    (distinct : ∀ other ∈ members, other.name = member.name → other = member)
    (listed : member ∈ members) (shown : member.Shown) :
    provider.ownField ref.path member ∈ provider.fieldsOf ref members ↔
      ∀ other ∈ members, other.Shown → Text.lowercase other.name = Text.lowercase member.name →
        other = member := by
  constructor
  · intro offered other here shown' same
    exact distinct other here (name_eq_of_ownField_mem listed shown offered here shown' same)
  · exact ownField_mem_of_alone listed shown

end Provider
end RecordConversion
