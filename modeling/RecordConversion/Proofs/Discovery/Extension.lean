import RecordConversion.Proofs.Declarations.ExtendedQueries
import RecordConversion.Proofs.Discovery.DeclaredReferences

/-!
# Discovery in an extended provider

A provider keeps what another one loads and declares, and may load and declare more.  If the
declarations of the first are closed, the fields of its records are the same in the second, and the
records refer to declared names only.  So a discovery from a declared name takes the same course in
both (`Provider.Grows.finishes`), with one answer and one report.

* `Provider.Grows.record?_eq`: records.
* `Provider.Grows.discover_eq`: discoveries.
-/

namespace RecordConversion

mutual

/-- The spelling of a type depends on the local names of the namespaces in it. -/
theorem spellWith_congr
    {localName localName' : String → String} (inside : String) :
    ∀ type : HostType, (∀ ref ∈ type.names, localName ref.path = localName' ref.path) →
      spellWith localName inside type = spellWith localName' inside type
  | .named ref, same => by simp only [spellWith, same ref (List.mem_singleton_self ref)]
  | .pointer target, same => by simp only [spellWith, spellWith_congr inside target same]
  | .slice element, same => by simp only [spellWith, spellWith_congr inside element same]
  | .map key value, same => by
      simp only [HostType.names, List.mem_append] at same
      simp only [spellWith, spellWith_congr inside key fun ref here => same ref (.inl here),
        spellWith_congr inside value fun ref here => same ref (.inr here)]
  | .record body, same => by simp only [spellWith, spellMembersWith_congr inside body same]
  | .primitive _, _ | .interface, _ | .other _, _ => rfl

theorem spellMembersWith_congr
    {localName localName' : String → String} (inside : String) :
    ∀ body : List Field,
      (∀ ref ∈ HostType.memberNames body, localName ref.path = localName' ref.path) →
      spellMembersWith localName inside body = spellMembersWith localName' inside body
  | [], _ => rfl
  | ⟨_, type, _, _⟩ :: rest, same => by
      simp only [HostType.memberNames, List.mem_append] at same
      simp only [spellMembersWith, spellWith_congr inside type fun ref here => same ref (.inl here),
        spellMembersWith_congr inside rest fun ref here => same ref (.inr here)]

end

/-- The types of all fields of a record are covered. -/
def Record.CoveredBy
    (record : Record) (table : Declarations) : Prop :=
  ∀ field ∈ record.fields, table.Covers field.type

/-- The members within covered members are covered. -/
theorem Declarations.Closed.covers_contained
    {table : Declarations} (closed : table.Closed) {members : List Field} {member : Field}
    (within : table.Contains members member)
    (covered : ∀ member ∈ members, table.Covers member.type) :
    table.Covers member.type := by
  induction within with
  | own here => exact covered _ here
  | promoted _ _ leads _ ih => exact ih (closed.covers_promoted leads)

namespace Provider

/-- All that a provider declares loads, and another provider keeps what it loads and declares. -/
structure Grows (provider larger : Provider) : Prop where
  declared : provider.LoadsDeclared
  declarations : provider.declarations.Grows larger.declarations
  load : ∀ path space, provider.load path = .ok space → larger.load path = .ok space
  localName : ∀ path space, provider.load path = .ok space →
    larger.localName path = provider.localName path

variable {provider larger : Provider} {module? : Option String}

theorem coveredBy_of_record?
    (closed : provider.declarations.Closed) {ref : QualifiedName} {record : Record}
    (built : provider.record? ref = .ok record) :
    record.CoveredBy provider.declarations := by
  obtain ⟨space, _, inside⟩ := record?_eq_ok_iff.1 built
  obtain ⟨body, found, rfl⟩ := exists_body_of_recordIn inside
  have declared := Declarations.covers_named.2 (Declarations.exists_lookup_of_recordBody? found)
  intro field offered
  obtain ⟨member, within, _, _, trail, via, rfl⟩ := exists_member_of_mem_fieldsOf offered
  exact closed.covers_contained within (closed.covers_recordBody? declared found)

section Grows

variable (grows : provider.Grows larger)
include grows

/-! ## Fields and records -/

theorem Grows.spell_eq
    (inside : String) {type : HostType} (covered : provider.declarations.Covers type) :
    larger.spell inside type = provider.spell inside type := by
  refine spellWith_congr inside type fun ref named => ?_
  obtain ⟨declaration, found⟩ := covered ref named
  obtain ⟨space, loaded⟩ := grows.declared.loads ref declaration found
  exact grows.localName ref.path space loaded

theorem Grows.fieldAt_eq
    (inside : String) (trail : List String) (via : String) {member : Field}
    (covered : provider.declarations.Covers member.type) :
    larger.fieldAt inside trail via member = provider.fieldAt inside trail via member := by
  rw [fieldAt, fieldAt, grows.spell_eq inside covered, grows.declarations.shapeOf_eq covered]

/-- Covered members have the same candidates. -/
theorem Grows.collects
    {inside : String} {entered : List QualifiedName} {trail : List String} {via : String}
    {members : List Field} {candidates : List Candidate}
    (listed : provider.Collects inside entered trail via members candidates)
    (covered : ∀ member ∈ members, provider.declarations.Covers member.type) :
    larger.Collects inside entered trail via members candidates := by
  induction listed with
  | nil => exact .nil
  | visible plain shown _ ih =>
      rw [List.forall_mem_cons] at covered
      rw [← grows.fieldAt_eq _ _ _ covered.1]
      exact .visible plain shown (ih covered.2)
  | hidden plain unshown _ ih =>
      rw [List.forall_mem_cons] at covered
      exact .hidden plain unshown (ih covered.2)
  | noRecord anonymous nothing _ ih =>
      rw [List.forall_mem_cons] at covered
      refine .noRecord anonymous (fun record promoted => nothing record ?_) (ih covered.2)
      exact (grows.declarations.promotes_iff covered.1).1 promoted
  | onTheWay anonymous promoted again _ ih =>
      rw [List.forall_mem_cons] at covered
      have promoted' := (grows.declarations.promotes_iff covered.1).2 promoted
      exact .onTheWay anonymous promoted' again (ih covered.2)
  | promoted anonymous promoted fresh _ _ ih_deeper ih_later =>
      rw [List.forall_mem_cons] at covered
      have promoted' := (grows.declarations.promotes_iff covered.1).2 promoted
      have inner := grows.declarations.closed.covers_promoted promoted
      exact .promoted anonymous promoted' fresh (ih_deeper inner) (ih_later covered.2)

theorem Grows.fieldsOf_eq
    (ref : QualifiedName) {members : List Field}
    (covered : ∀ member ∈ members, provider.declarations.Covers member.type) :
    larger.fieldsOf ref members = provider.fieldsOf ref members := by
  have listed := grows.collects (collects_iff.2 (Eq.refl (provider.candidates ref members))) covered
  rw [fieldsOf, fieldsOf, ← collects_iff.1 listed]

/-- A declared name has the same record, or the same error. -/
theorem Grows.record?_eq
    {ref : QualifiedName} {declaration : Declaration}
    (found : provider.declarations.lookup ref = some declaration) :
    larger.record? ref = provider.record? ref := by
  obtain ⟨space, loaded⟩ := grows.declared.loads ref declaration found
  have here : (⟨space.path, ref.name⟩ : QualifiedName) = ref := by
    rw [grows.declared.asked _ _ loaded]
  have covered : provider.declarations.Covers (.named ref) :=
    Declarations.covers_named.2 ⟨declaration, found⟩
  simp only [record?, loaded, grows.load _ _ loaded, recordIn, here, found,
    grows.declarations.lookup_eq covered, grows.declarations.recordBody?_eq covered]
  cases behind : provider.declarations.recordBody? (.named ref) with
  | none => rfl
  | some members =>
      have members_covered := grows.declarations.closed.covers_recordBody? covered behind
      simp only [grows.fieldsOf_eq ref members_covered]

/-! ## Discoveries -/

/-- A run whose targets are declared takes the same course. -/
theorem Grows.finishes
    {errand : Errand} {before after : Discovery}
    (run : provider.Finishes module? errand before after)
    (declared : ∀ target, errand.Targets module? target →
      ∃ declaration, provider.declarations.lookup target = some declaration) :
    larger.Finishes module? errand before after := by
  induction run with
  | known built visited =>
      obtain ⟨declaration, found⟩ := declared _ rfl
      exact .known ((grows.record?_eq found).trans built) visited
  | found built fresh _ ih =>
      obtain ⟨declaration, found⟩ := declared _ rfl
      exact .found ((grows.record?_eq found).trans built) fresh
        (ih fun target wanted => exists_lookup_of_references built wanted.1)
  | done => exact .done
  | passed handled _ ih =>
      exact .passed handled (ih fun target wanted => declared target wanted.cons)
  | skipped inside fresh unbuilt skippable _ ih =>
      obtain ⟨declaration, found⟩ := declared _ (.head inside)
      exact .skipped inside fresh ((grows.record?_eq found).trans unbuilt) skippable
        (ih fun target wanted => declared target wanted.cons)
  | followed inside fresh _ _ ih_first ih_later =>
      refine .followed inside fresh (ih_first ?_)
        (ih_later fun target wanted => declared target wanted.cons)
      rintro target rfl
      exact declared target (.head inside)

/-- A discovery from a declared name answers and reports the same. -/
theorem Grows.discover_eq
    {root : QualifiedName} {declaration : Declaration}
    (found : provider.declarations.lookup root = some declaration) :
    larger.discover root = provider.discover root := by
  obtain ⟨space, loaded⟩ := grows.declared.loads root declaration found
  have loaded' := grows.load _ _ loaded
  cases built : provider.record? root with
  | error error =>
      have failed : provider.Fails space.rootModule? (.visit root) .start error .start :=
        .unbuilt built
      have failed' : larger.Fails space.rootModule? (.visit root) .start error .start :=
        .unbuilt ((grows.record?_eq found).trans built)
      rw [failed.discover_eq loaded, failed'.discover_eq loaded']
  | ok record =>
      cases answered : (provider.discover root).value with
      | error error => cases built.symm.trans (grows.declared.discover_error_iff.1 answered)
      | ok records =>
          obtain ⟨after, run, -⟩ := exists_finishes_of_discover loaded answered
          have run' := grows.finishes run (by rintro target rfl; exact ⟨declaration, found⟩)
          rw [run.discover_eq loaded, run'.discover_eq loaded']

end Grows

/-- The records of a discovery have fields of covered types. -/
theorem coveredBy_of_discover
    (closed : provider.declarations.Closed) {root : QualifiedName} {records : List Record}
    (answered : (provider.discover root).value = .ok records)
    {record : Record} (member : record ∈ records) :
    record.CoveredBy provider.declarations := by
  obtain ⟨ref, built⟩ := exists_built_of_discover answered member
  exact coveredBy_of_record? closed built

end Provider
end RecordConversion
