import RecordConversion.Proofs.Discovery.LeafFirst
import RecordConversion.Proofs.Embedding.AliasFields

/-!
# Discovery from an alias of a record

A root that is asked for by an alias is the record under another name: it has the same fields, so it
refers to the same records, and a discovery from the alias finds what one from the record finds, but
for the two names themselves.  The record itself is found from the alias only if something leads
back to it.

* `Provider.record?_alias`: the record of an alias.
* `Provider.reached_alias_iff`: what an alias reaches.
* `Provider.exists_discover_alias`: a discovery from an alias answers if one from the record does.
-/

namespace RecordConversion
namespace Provider

variable {provider : Provider} {module? : Option String}

/-! ## What a discovery answers -/

/-- A discovery answers records if every reference of what the root reaches has a namespace that
loads. -/
theorem exists_discover_of_loads
    (asked : provider.LoadsAsAsked)
    {root : QualifiedName} {space : Namespace} {record : Record}
    (loaded : provider.load root.path = .ok space)
    (built : provider.record? root = .ok record)
    (loads : ∀ source target, provider.Reached space.rootModule? root source →
      provider.Refers space.rootModule? source target →
        ∃ space, provider.load target.path = .ok space) :
    ∃ records, (provider.discover root).value = .ok records := by
  cases answered : (provider.discover root).value with
  | ok records => exact ⟨records, rfl⟩
  | error error =>
      obtain ⟨after, run⟩ := exists_fails_of_discover loaded answered
      rcases run.exists_unloadable asked (by rintro target _ rfl _; exact .root) with
        ⟨target, rfl, unbuilt⟩ | ⟨source, target, cause, reached, refers, unloaded, _⟩
      · cases built.symm.trans unbuilt
      · obtain ⟨_, loaded'⟩ := loads source target reached refers
        cases unloaded.symm.trans loaded'

/-- The records that are answered are those that the root reaches. -/
theorem mem_keys_of_discover
    (asked : provider.LoadsAsAsked)
    {root : QualifiedName} {space : Namespace} {records : List Record}
    (loaded : provider.load root.path = .ok space)
    (answered : (provider.discover root).value = .ok records) (key : QualifiedName) :
    key ∈ records.map Record.key ↔ provider.Reached space.rootModule? root key := by
  obtain ⟨_, _, built, _, _⟩ := exists_root_of_discover answered
  obtain ⟨after, run, rfl⟩ := exists_finishes_of_discover loaded answered
  exact run.mem_keys_iff asked built key

/-- If one name refers to all that another one refers to, it reaches all that the other one does,
but for that name itself. -/
theorem Reached.of_references
    {a b key : QualifiedName}
    (further : ∀ target, provider.Refers module? a target → provider.Refers module? b target)
    (reached : provider.Reached module? a key) :
    key = a ∨ provider.Reached module? b key := by
  induction reached with
  | root => exact .inl rfl
  | reference _ refers built ih =>
      rcases ih with rfl | reached
      · exact .inr (.reference .root (further _ refers) built)
      · exact .inr (.reference reached refers built)

/-- A record that is built has the fields of the members behind its name. -/
theorem exists_body_of_record?
    (asked : provider.LoadsAsAsked)
    {ref : QualifiedName} {record : Record} (built : provider.record? ref = .ok record) :
    ∃ space body, provider.load ref.path = .ok space ∧
      provider.declarations.recordBody? (.named ref) = some body ∧
        record = ⟨ref.name, ref.path, space.localName, provider.fieldsOf ref body⟩ := by
  obtain ⟨space, loaded, inside⟩ := record?_eq_ok_iff.1 built
  obtain ⟨body, found, shape⟩ := exists_body_of_recordIn inside
  rw [asked _ _ loaded] at found shape
  exact ⟨space, body, loaded, found, shape⟩

/-! ## Aliases -/

section Alias

variable {synonym ref : QualifiedName} {record : Record}
variable (asked : provider.LoadsAsAsked)
variable (names : provider.declarations.AliasOf synonym ref)
variable (built : provider.record? ref = .ok record)
include asked names built

/-- The record of an alias is the record that it stands for, under the name of the alias. -/
theorem record?_alias :
    provider.record? synonym = .ok { record with name := synonym.name } := by
  obtain ⟨space, body, loaded, found, rfl⟩ := exists_body_of_record? asked built
  obtain ⟨declaration, declared⟩ :
      ∃ declaration, provider.declarations.lookup synonym = some declaration := by
    rw [← Option.ne_none_iff_exists']
    intro missing
    exact names.is_alias (by simp [Declarations.aliasTarget?, missing])
  rw [← names.path] at loaded
  have here : (⟨space.path, synonym.name⟩ : QualifiedName) = synonym := by
    rw [asked _ _ loaded]
  rw [record?_eq_ok_iff]
  refine ⟨space, loaded, ?_⟩
  simp only [recordIn, here, declared, names.recordBody?_eq, found, fieldsOf_alias names found]
  rw [asked _ _ loaded, names.path]

theorem refers_alias_iff
    {target : QualifiedName} :
    provider.Refers module? synonym target ↔ provider.Refers module? ref target := by
  have built' := record?_alias asked names built
  constructor
  · rintro ⟨other, found, refers⟩
    obtain rfl := Except.ok.inj (built'.symm.trans found)
    exact ⟨record, built, refers⟩
  · rintro ⟨other, found, refers⟩
    obtain rfl := Except.ok.inj (built.symm.trans found)
    exact ⟨_, built', refers⟩

/-- An alias reaches what its record reaches, but for the two names. -/
theorem reached_alias_iff
    {key : QualifiedName} (other : key ≠ ref) (other' : key ≠ synonym) :
    provider.Reached module? synonym key ↔ provider.Reached module? ref key := by
  constructor
  · intro reached
    exact (reached.of_references fun _ =>
      (refers_alias_iff asked names built).1).resolve_left other'
  · intro reached
    exact (reached.of_references fun _ => (refers_alias_iff asked names built).2).resolve_left other

/-- An alias reaches its record if the record refers to itself. -/
theorem reached_alias_of_refers
    (refers : provider.Refers module? ref ref) :
    provider.Reached module? synonym ref :=
  .reference .root ((refers_alias_iff asked names built).2 refers) built

omit built in
/-- If a discovery from a record answers, so does one from an alias of the record. -/
theorem exists_discover_alias
    {records : List Record} (answered : (provider.discover ref).value = .ok records) :
    ∃ others, (provider.discover synonym).value = .ok others := by
  obtain ⟨_, record, built, _, _⟩ := exists_root_of_discover answered
  obtain ⟨space, loaded⟩ := exists_load_of_discover answered
  obtain ⟨after, run, rfl⟩ := exists_finishes_of_discover loaded answered
  apply exists_discover_of_loads asked (names.path ▸ loaded) (record?_alias asked names built)
  intro source target reached refers
  rcases reached.of_references fun _ => (refers_alias_iff asked names built).1 with rfl | reached
  · exact run.loads asked built .root ((refers_alias_iff asked names built).1 refers)
  · exact run.loads asked built reached refers

end Alias

end Provider
end RecordConversion
