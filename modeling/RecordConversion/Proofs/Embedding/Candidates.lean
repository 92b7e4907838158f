import RecordConversion.Proofs.Declarations.Promotion
import RecordConversion.Record.Embedding

/-!
# The candidates for the fields of a record

`Provider.Collects` lists the candidates of some members in the order in which a reader of the
declarations meets them: a visible member is a candidate where it stands, an embedded member stands
for the candidates of the record that it promotes.  A record that is already on the way is passed
over, and so is an embedded member that promotes no record.

* `Provider.collects_iff`: there is one such list, and it is the one that is computed.  Each level
  enters a declared name that is not on the way yet, so the levels do not run out.
* `Provider.Collects.exists_member`: each candidate is a visible member of a record on the way.
-/

namespace RecordConversion
namespace Provider

/-- The candidates of members in declaration order, depth first.  `entered` are the records on the
way, `trail` the names of the embedded members passed, `via` the record declaring the members. -/
inductive Collects
    (provider : Provider) (inside : String) :
    List QualifiedName → List String → String → List Field → List Candidate → Prop
  | nil
      {entered : List QualifiedName} {trail : List String} {via : String} :
      Collects provider inside entered trail via [] []
  | visible
      {entered : List QualifiedName} {trail : List String} {via : String}
      {member : Field} {rest : List Field} {others : List Candidate}
      (plain : member.embedded = false)
      (shown : member.visible = true)
      (later : Collects provider inside entered trail via rest others) :
      Collects provider inside entered trail via (member :: rest)
        (⟨provider.fieldAt inside trail via member, trail.length⟩ :: others)
  | hidden
      {entered : List QualifiedName} {trail : List String} {via : String}
      {member : Field} {rest : List Field} {others : List Candidate}
      (plain : member.embedded = false)
      (unshown : member.visible = false)
      (later : Collects provider inside entered trail via rest others) :
      Collects provider inside entered trail via (member :: rest) others
  | noRecord
      {entered : List QualifiedName} {trail : List String} {via : String}
      {member : Field} {rest : List Field} {others : List Candidate}
      (anonymous : member.embedded = true)
      (nothing : ∀ record, ¬ provider.declarations.Promotes member.type record)
      (later : Collects provider inside entered trail via rest others) :
      Collects provider inside entered trail via (member :: rest) others
  | onTheWay
      {entered : List QualifiedName} {trail : List String} {via : String}
      {member : Field} {rest : List Field} {others : List Candidate}
      {record : Declarations.DeclaredRecord}
      (anonymous : member.embedded = true)
      (promoted : provider.declarations.Promotes member.type record)
      (again : record.ref ∈ entered)
      (later : Collects provider inside entered trail via rest others) :
      Collects provider inside entered trail via (member :: rest) others
  | promoted
      {entered : List QualifiedName} {trail : List String} {via : String}
      {member : Field} {rest : List Field} {inner others : List Candidate}
      {record : Declarations.DeclaredRecord}
      (anonymous : member.embedded = true)
      (promoted : provider.declarations.Promotes member.type record)
      (fresh : record.ref ∉ entered)
      (deeper : Collects provider inside (record.ref :: entered) (trail ++ [member.name])
        record.ref.name record.body inner)
      (later : Collects provider inside entered trail via rest others) :
      Collects provider inside entered trail via (member :: rest) (inner ++ others)

variable {provider : Provider} {inside : String}

/-! ## One member at a time -/

section Inversion

variable {entered : List QualifiedName} {trail : List String} {via : String}
variable {member : Field} {rest : List Field} {candidates : List Candidate}
variable {record : Declarations.DeclaredRecord}

theorem Collects.visible_inv
    (listed : provider.Collects inside entered trail via (member :: rest) candidates)
    (plain : member.embedded = false) (shown : member.visible = true) :
    ∃ later, candidates = ⟨provider.fieldAt inside trail via member, trail.length⟩ :: later ∧
      provider.Collects inside entered trail via rest later := by
  cases listed with
  | visible _ _ later => exact ⟨_, rfl, later⟩
  | hidden _ unshown _ => simp [shown] at unshown
  | noRecord anonymous _ _ | onTheWay anonymous _ _ _ | promoted anonymous _ _ _ _ =>
      simp [plain] at anonymous

theorem Collects.hidden_inv
    (listed : provider.Collects inside entered trail via (member :: rest) candidates)
    (plain : member.embedded = false) (unshown : member.visible = false) :
    provider.Collects inside entered trail via rest candidates := by
  cases listed with
  | visible _ shown _ => simp [unshown] at shown
  | hidden _ _ later => exact later
  | noRecord anonymous _ _ | onTheWay anonymous _ _ _ | promoted anonymous _ _ _ _ =>
      simp [plain] at anonymous

theorem Collects.noRecord_inv
    (listed : provider.Collects inside entered trail via (member :: rest) candidates)
    (anonymous : member.embedded = true)
    (nothing : ∀ record, ¬ provider.declarations.Promotes member.type record) :
    provider.Collects inside entered trail via rest candidates := by
  cases listed with
  | visible plain _ _ | hidden plain _ _ => simp [anonymous] at plain
  | noRecord _ _ later => exact later
  | onTheWay _ leads _ _ | promoted _ leads _ _ _ => exact absurd leads (nothing _)

theorem Collects.onTheWay_inv
    (listed : provider.Collects inside entered trail via (member :: rest) candidates)
    (anonymous : member.embedded = true)
    (leads : provider.declarations.Promotes member.type record)
    (again : record.ref ∈ entered) :
    provider.Collects inside entered trail via rest candidates := by
  cases listed with
  | visible plain _ _ | hidden plain _ _ => simp [anonymous] at plain
  | noRecord _ nothing _ => exact absurd leads (nothing _)
  | onTheWay _ _ _ later => exact later
  | promoted _ leads' fresh _ _ => exact absurd (leads.unique leads' ▸ again) fresh

theorem Collects.promoted_inv
    (listed : provider.Collects inside entered trail via (member :: rest) candidates)
    (anonymous : member.embedded = true)
    (leads : provider.declarations.Promotes member.type record)
    (fresh : record.ref ∉ entered) :
    ∃ inner later, candidates = inner ++ later ∧
      provider.Collects inside (record.ref :: entered) (trail ++ [member.name]) record.ref.name
        record.body inner ∧
      provider.Collects inside entered trail via rest later := by
  cases listed with
  | visible plain _ _ | hidden plain _ _ => simp [anonymous] at plain
  | noRecord _ nothing _ => exact absurd leads (nothing _)
  | onTheWay _ leads' again _ => exact absurd (leads'.unique leads ▸ again) fresh
  | promoted _ leads' _ deeper later =>
      obtain rfl := leads.unique leads'
      exact ⟨_, _, rfl, deeper, later⟩

end Inversion

/-! ## Members behind candidates -/

/-- Each candidate is a visible member as a field. -/
theorem Collects.exists_member
    {entered : List QualifiedName} {trail : List String} {via : String}
    {members : List Field} {candidates : List Candidate}
    (listed : provider.Collects inside entered trail via members candidates)
    {candidate : Candidate} (chosen : candidate ∈ candidates) :
    ∃ member, provider.declarations.Contains members member ∧
      member.embedded = false ∧ member.visible = true ∧
      ∃ trail via, candidate = ⟨provider.fieldAt inside trail via member, trail.length⟩ := by
  induction listed with
  | nil => cases chosen
  | @visible entered trail via member rest others plain shown later ih =>
      cases chosen with
      | head =>
          exact ⟨member, .own List.mem_cons_self, plain, shown, trail, via, rfl⟩
      | tail _ chosen =>
          obtain ⟨found, within, facts⟩ := ih chosen
          exact ⟨found, within.cons, facts⟩
  | hidden _ _ _ ih | noRecord _ _ _ ih | onTheWay _ _ _ _ ih =>
      obtain ⟨found, within, facts⟩ := ih chosen
      exact ⟨found, within.cons, facts⟩
  | promoted anonymous leads fresh deeper later ih_deeper ih_later =>
      rcases List.mem_append.1 chosen with chosen | chosen
      · obtain ⟨found, within, facts⟩ := ih_deeper chosen
        exact ⟨found, .promoted List.mem_cons_self anonymous leads within, facts⟩
      · obtain ⟨found, within, facts⟩ := ih_later chosen
        exact ⟨found, within.cons, facts⟩

/-! ## The list that is computed -/

theorem candidatesWithin_cons
    (levels : Nat) (entered : List QualifiedName) (trail : List String) (via : String)
    (member : Field) (rest : List Field) :
    provider.candidatesWithin inside (levels + 1) entered trail via (member :: rest) =
      provider.candidatesWithin inside (levels + 1) entered trail via [member] ++
        provider.candidatesWithin inside (levels + 1) entered trail via rest := by
  simp [candidatesWithin]

/-- With a level for each declared name that is not on the way, all candidates are listed.  A record
that is entered uses up one name and one level. -/
theorem collects_candidatesWithin
    (levels : Nat) (entered : List QualifiedName) (trail : List String) (via : String)
    (members : List Field)
    (enough : provider.declarations.unseen entered < levels) :
    provider.Collects inside entered trail via members
      (provider.candidatesWithin inside levels entered trail via members) := by
  induction levels generalizing entered trail via members with
  | zero => omega
  | succ levels ih =>
      induction members with
      | nil =>
          rw [candidatesWithin, List.flatMap_nil]
          exact .nil
      | cons member rest ih_rest =>
          rw [candidatesWithin_cons]
          rw [candidatesWithin, List.flatMap_singleton]
          cases embedded : member.embedded with
          | false =>
              cases visible : member.visible with
              | false => simpa using Collects.hidden embedded visible ih_rest
              | true => simpa using Collects.visible embedded visible ih_rest
          | true =>
              cases found : provider.declarations.embeddedRecord? member.type with
              | none =>
                  have nothing :
                      ∀ record, ¬ provider.declarations.Promotes member.type record := by
                    intro record promoted
                    rw [Declarations.embeddedRecord?_eq_some_iff.2 promoted] at found
                    cases found
                  simpa using Collects.noRecord embedded nothing ih_rest
              | some record =>
                  have promoted := Declarations.embeddedRecord?_eq_some_iff.1 found
                  by_cases again : record.ref ∈ entered
                  · simpa [again] using Collects.onTheWay embedded promoted again ih_rest
                  · have fewer :=
                      Declarations.unseen_cons_lt promoted.mem_names again
                    have deeper :=
                      ih (record.ref :: entered) (trail ++ [member.name]) record.ref.name
                        record.body (by omega)
                    simpa [again] using
                      Collects.promoted embedded promoted again deeper ih_rest

theorem Collects.unique
    {entered : List QualifiedName} {trail : List String} {via : String}
    {members : List Field} {candidates others : List Candidate}
    (listed : provider.Collects inside entered trail via members candidates)
    (listed' : provider.Collects inside entered trail via members others) :
    candidates = others := by
  induction listed generalizing others with
  | nil =>
      cases listed'
      rfl
  | visible plain shown _ ih =>
      obtain ⟨_, rfl, later'⟩ := listed'.visible_inv plain shown
      rw [ih later']
  | hidden plain unshown _ ih => exact ih (listed'.hidden_inv plain unshown)
  | noRecord anonymous nothing _ ih => exact ih (listed'.noRecord_inv anonymous nothing)
  | onTheWay anonymous leads again _ ih => exact ih (listed'.onTheWay_inv anonymous leads again)
  | promoted anonymous leads fresh _ _ ih_deeper ih_later =>
      obtain ⟨_, _, rfl, deeper', later'⟩ := listed'.promoted_inv anonymous leads fresh
      rw [ih_deeper deeper', ih_later later']

/-- The candidates that are computed for a record are the ones that there are. -/
theorem collects_iff
    {ref : QualifiedName} {members : List Field} {candidates : List Candidate} :
    provider.Collects ref.path [ref] [] "" members candidates ↔
      candidates = provider.candidates ref members := by
  have computed :
      provider.Collects ref.path [ref] [] "" members (provider.candidates ref members) :=
    collects_candidatesWithin _ [ref] [] "" members
      (Nat.lt_succ_of_le (Declarations.unseen_le_length [ref]))
  constructor
  · intro listed
    exact listed.unique computed
  · rintro rfl
    exact computed

end Provider
end RecordConversion
