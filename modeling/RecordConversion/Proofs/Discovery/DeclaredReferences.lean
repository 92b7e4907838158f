import RecordConversion.Proofs.Declarations.ReferredRecords
import RecordConversion.Proofs.Discovery.Outcomes

/-!
# Discovery where all that is declared loads

A shape names a record only if the record is declared.  If every namespace that declares something
loads, then whatever a record refers to is a record (`Provider.Refers.exists_record`).  Hence a
discovery has nothing to skip, and what fails it fails at the root.

* `Provider.Finishes.no_warning`: a run whose targets are there warns of nothing.
* `Provider.LoadsDeclared.discover_error_iff`, `Provider.LoadsDeclared.warnings_discover`: what a
  discovery answers, and what it reports.
-/

namespace RecordConversion

/-- The name that a type leads to is that of a record. -/
theorem Declarations.LeadsTo.exists_recordBody?
    {table : Declarations} {type : HostType} {ref : QualifiedName}
    (leads : table.LeadsTo type ref) :
    ∃ body, table.recordBody? (.named ref) = some body := by
  induction leads with
  | itself _ record => exact exists_recordBody?_of_kind record
  | through _ _ _ ih => exact ih

namespace Provider

/-- Every namespace that declares something loads, and none loads under another path. -/
structure LoadsDeclared (provider : Provider) : Prop where
  asked : provider.LoadsAsAsked
  loads : ∀ ref declaration, provider.declarations.lookup ref = some declaration →
    ∃ space, provider.load ref.path = .ok space

variable {provider : Provider} {module? : Option String}

/-! ## What a record refers to -/

/-- The shape of a field names records only. -/
theorem exists_recordBody?_of_nestedRecord?
    {ref target : QualifiedName} {record : Record} {field : RecordField}
    (built : provider.record? ref = .ok record)
    (listed : field ∈ record.fields) (names : field.shape.nestedRecord? = some target) :
    ∃ body, provider.declarations.recordBody? (.named target) = some body := by
  have seen : provider.declarations.IsShapeOf field.shape field.type :=
    (tidy_of_record? built).classified field listed ▸ Declarations.isShapeOf_shapeOf _
  exact (Declarations.leadsTo_of_nestedRecord? seen names).exists_recordBody?

/-- The references of a record are declared. -/
theorem exists_lookup_of_references
    {ref target : QualifiedName} {record : Record}
    (built : provider.record? ref = .ok record) (refers : target ∈ record.references) :
    ∃ declaration, provider.declarations.lookup target = some declaration := by
  obtain ⟨field, listed, names⟩ := List.mem_filterMap.1 refers
  obtain ⟨body, found⟩ := exists_recordBody?_of_nestedRecord? built listed names
  exact Declarations.exists_lookup_of_recordBody? found

section Declared

variable (declared : provider.LoadsDeclared)
include declared

/-- A name with a record body is that of a record. -/
theorem LoadsDeclared.exists_record
    {ref : QualifiedName} {body : List Field}
    (found : provider.declarations.recordBody? (.named ref) = some body) :
    ∃ record, provider.record? ref = .ok record := by
  obtain ⟨declaration, entry⟩ := Declarations.exists_lookup_of_recordBody? found
  obtain ⟨space, loaded⟩ := declared.loads ref declaration entry
  have here : (⟨space.path, ref.name⟩ : QualifiedName) = ref := by
    rw [declared.asked _ _ loaded]
  have inside :
      provider.recordIn space ref.name =
        .ok ⟨ref.name, space.path, space.localName, provider.fieldsOf ref body⟩ := by
    simp only [recordIn, here, entry, found]
  exact ⟨_, record?_eq_ok_iff.2 ⟨space, loaded, inside⟩⟩

/-- What a record refers to is a record. -/
theorem Refers.exists_record
    {source target : QualifiedName}
    (refers : provider.Refers module? source target) :
    ∃ record, provider.record? target = .ok record := by
  obtain ⟨record, built, field, listed, names, _⟩ := refers
  obtain ⟨body, found⟩ := exists_recordBody?_of_nestedRecord? built listed names
  exact declared.exists_record found

/-- A run warns of nothing if the targets of its errand are there. -/
theorem Finishes.no_warning
    {errand : Errand} {before after : Discovery}
    (run : provider.Finishes module? errand before after)
    (there : ∀ target, errand.Targets module? target →
      ∃ record, provider.record? target = .ok record)
    (silent : ∀ event ∈ before.events, event.level ≠ .warn) :
    ∀ event ∈ after.events, event.level ≠ .warn := by
  induction run with
  | known | done => exact silent
  | found built _ _ ih =>
      refine ih (fun target wanted => ?_) ?_
      · exact ((targets_follow_iff declared.asked built).1 wanted).exists_record declared
      · intro event member
        rcases List.mem_append.1 member with earlier | new
        · exact silent event earlier
        · obtain rfl := List.mem_singleton.1 new
          intro warned
          cases warned
  | passed _ _ ih => exact ih (fun target wanted => there target wanted.cons) silent
  | skipped inside _ unbuilt _ _ _ =>
      obtain ⟨record, built⟩ := there _ (.head inside)
      cases unbuilt.symm.trans built
  | followed inside _ _ _ ih_first ih_later =>
      refine ih_later (fun target wanted => there target wanted.cons) (ih_first ?_ silent)
      rintro target rfl
      exact there target (.head inside)

/-! ## What a discovery answers -/

/-- A discovery fails with what fails at its root. -/
theorem LoadsDeclared.discover_error_iff
    {root : QualifiedName} {error : DiscoveryError} :
    (provider.discover root).value = .error error ↔ provider.record? root = .error error := by
  constructor
  · intro answered
    cases loaded : provider.load root.path with
    | error cause =>
        obtain rfl : .provider cause = error := by
          simpa [discover, loaded, Logged.quiet] using answered
        exact record?_eq_error_iff.2 (.inl ⟨cause, loaded, rfl⟩)
    | ok space =>
        obtain ⟨after, run⟩ := exists_fails_of_discover loaded answered
        rcases run.exists_unloadable declared.asked (by rintro target _ rfl _; exact .root) with
          ⟨target, rfl, unbuilt⟩ | ⟨_, target, cause, _, refers, unloaded, _⟩
        · exact unbuilt
        · obtain ⟨record, built⟩ := refers.exists_record declared
          obtain ⟨space, loaded', _⟩ := record?_eq_ok_iff.1 built
          cases unloaded.symm.trans loaded'
  · intro unbuilt
    rcases record?_eq_error_iff.1 unbuilt with ⟨cause, unloaded, rfl⟩ | ⟨space, loaded, _⟩
    · exact (discovers_iff.1 (.unloaded unloaded)).symm
    · exact (discovers_iff.1 (.failed loaded (.unbuilt unbuilt))).symm

/-- A discovery warns of nothing. -/
theorem LoadsDeclared.warnings_discover
    (root : QualifiedName) :
    (provider.discover root).warnings = [] := by
  have silent : ∀ event ∈ (provider.discover root).events, event.level ≠ .warn := by
    cases loaded : provider.load root.path with
    | error cause => simp [discover, loaded, Logged.quiet]
    | ok space =>
        cases built : provider.record? root with
        | error error =>
            have failed : provider.Fails space.rootModule? (.visit root) .start error .start :=
              .unbuilt built
            simp [failed.discover_eq loaded, Discovery.start]
        | ok record =>
            cases answered : (provider.discover root).value with
            | error error => cases built.symm.trans (declared.discover_error_iff.1 answered)
            | ok records =>
                obtain ⟨after, run, -⟩ := exists_finishes_of_discover loaded answered
                have quiet := run.no_warning declared (by rintro target rfl; exact ⟨record, built⟩)
                  (by simp [Discovery.start])
                rw [run.discover_eq loaded]
                intro event member
                rcases List.mem_append.1 member with earlier | last
                · exact quiet event earlier
                · obtain rfl := List.mem_singleton.1 last
                  intro warned
                  cases warned
  simp only [Logged.warnings, List.map_eq_nil_iff, List.filter_eq_nil_iff, decide_eq_true_eq]
  exact silent

/-- What a record of a discovery refers to is in the discovery. -/
theorem LoadsDeclared.mem_keys_of_refers
    {root : QualifiedName} {space : Namespace} {records : List Record}
    (loaded : provider.load root.path = .ok space)
    (answered : (provider.discover root).value = .ok records)
    {record : Record} (member : record ∈ records) {target : QualifiedName}
    (refers : provider.Refers space.rootModule? record.key target) :
    target ∈ records.map Record.key := by
  obtain ⟨after, run, rfl⟩ := exists_finishes_of_discover loaded answered
  have closed := run.closed declared.asked (by simp [ClosedAt, Discovery.start])
  rcases closed record member target refers with visited | ⟨error, failed, _⟩
  · exact (run.mem_visited_iff target).1 visited
  · obtain ⟨nested, built⟩ := refers.exists_record declared
    cases failed.symm.trans built

end Declared

end Provider

end RecordConversion
