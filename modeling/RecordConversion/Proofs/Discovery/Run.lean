import RecordConversion.Proofs.Declarations.Names
import RecordConversion.Record.Discovery

/-!
# Runs of discovery

The course of a discovery as a relation, without any bound on its depth: `Provider.Finishes` for a
run that comes to its end, `Provider.Fails` for one that an error ends.  What is to be done is an
errand: to visit a reference, or to follow the references of a record one after the other.

Each visit that looks at references enters a declared name that has not been visited, and visited
names stay so.  Hence the levels that `Provider.visit` counts down do not run out, and every
discovery is a run:

* `Provider.ends_visit`: a visit from the start finishes or fails as the relations say.
* `Provider.exists_finishes_of_discover`, `Provider.exists_fails_of_discover`: what the answer of a
  discovery tells about its run.
-/

namespace RecordConversion

/-- What is to be done in a discovery. -/
inductive Errand where
  | visit (ref : QualifiedName)
  /-- The references of a record in the given namespace are followed. -/
  | follow (current : String) (refs : List QualifiedName)

namespace Provider

/-- An errand is done from one state of the discovery to another. -/
inductive Finishes
    (provider : Provider) (module? : Option String) : Errand → Discovery → Discovery → Prop
  | known
      {ref : QualifiedName} {record : Record} {progress : Discovery}
      (built : provider.record? ref = .ok record)
      (visited : record.key ∈ progress.visited) :
      Finishes provider module? (.visit ref) progress progress
  | found
      {ref : QualifiedName} {record : Record} {progress after : Discovery}
      (built : provider.record? ref = .ok record)
      (fresh : record.key ∉ progress.visited)
      (inner : Finishes provider module? (.follow record.path record.references)
        (progress.enter ref record) after) :
      Finishes provider module? (.visit ref) progress (after.leave record)
  | done
      {current : String} {progress : Discovery} :
      Finishes provider module? (.follow current []) progress progress
  | passed
      {current : String} {ref : QualifiedName} {rest : List QualifiedName}
      {progress after : Discovery}
      (handled : inBoundary module? current ref.path = true → ref ∈ progress.visited)
      (later : Finishes provider module? (.follow current rest) progress after) :
      Finishes provider module? (.follow current (ref :: rest)) progress after
  | skipped
      {current : String} {ref : QualifiedName} {rest : List QualifiedName}
      {error : DiscoveryError} {progress after : Discovery}
      (inside : inBoundary module? current ref.path = true)
      (fresh : ref ∉ progress.visited)
      (unbuilt : provider.record? ref = .error error)
      (skippable : error.isSkippable = true)
      (later : Finishes provider module? (.follow current rest)
        (progress.log (.nestedSkipped ref.name error)) after) :
      Finishes provider module? (.follow current (ref :: rest)) progress after
  | followed
      {current : String} {ref : QualifiedName} {rest : List QualifiedName}
      {progress between after : Discovery}
      (inside : inBoundary module? current ref.path = true)
      (fresh : ref ∉ progress.visited)
      (first : Finishes provider module? (.visit ref) progress between)
      (later : Finishes provider module? (.follow current rest) between after) :
      Finishes provider module? (.follow current (ref :: rest)) progress after

/-- An errand ends with an error. -/
inductive Fails
    (provider : Provider) (module? : Option String) :
    Errand → Discovery → DiscoveryError → Discovery → Prop
  | unbuilt
      {ref : QualifiedName} {error : DiscoveryError} {progress : Discovery}
      (failed : provider.record? ref = .error error) :
      Fails provider module? (.visit ref) progress error progress
  | inside
      {ref : QualifiedName} {record : Record} {error : DiscoveryError}
      {progress after : Discovery}
      (built : provider.record? ref = .ok record)
      (fresh : record.key ∉ progress.visited)
      (inner : Fails provider module? (.follow record.path record.references)
        (progress.enter ref record) error after) :
      Fails provider module? (.visit ref) progress error after
  | passed
      {current : String} {ref : QualifiedName} {rest : List QualifiedName}
      {error : DiscoveryError} {progress after : Discovery}
      (handled : inBoundary module? current ref.path = true → ref ∈ progress.visited)
      (later : Fails provider module? (.follow current rest) progress error after) :
      Fails provider module? (.follow current (ref :: rest)) progress error after
  | skipped
      {current : String} {ref : QualifiedName} {rest : List QualifiedName}
      {skip error : DiscoveryError} {progress after : Discovery}
      (inside : inBoundary module? current ref.path = true)
      (fresh : ref ∉ progress.visited)
      (unbuilt : provider.record? ref = .error skip)
      (skippable : skip.isSkippable = true)
      (later : Fails provider module? (.follow current rest)
        (progress.log (.nestedSkipped ref.name skip)) error after) :
      Fails provider module? (.follow current (ref :: rest)) progress error after
  | followed
      {current : String} {ref : QualifiedName} {rest : List QualifiedName}
      {error : DiscoveryError} {progress between after : Discovery}
      (inside : inBoundary module? current ref.path = true)
      (fresh : ref ∉ progress.visited)
      (first : Finishes provider module? (.visit ref) progress between)
      (later : Fails provider module? (.follow current rest) between error after) :
      Fails provider module? (.follow current (ref :: rest)) progress error after
  | stopped
      {current : String} {ref : QualifiedName} {rest : List QualifiedName}
      {error : DiscoveryError} {progress after : Discovery}
      (inside : inBoundary module? current ref.path = true)
      (fresh : ref ∉ progress.visited)
      (first : Fails provider module? (.visit ref) progress error after)
      (fatal : error.isSkippable = false) :
      Fails provider module? (.follow current (ref :: rest)) progress error after

/-- A step of discovery ends an errand, in one way or the other. -/
def Ends
    (provider : Provider) (module? : Option String) (errand : Errand) (progress : Discovery) :
    DiscoveryStep → Prop
  | (.ok (), after) => provider.Finishes module? errand progress after
  | (.error error, after) => provider.Fails module? errand progress error after

variable {provider : Provider} {module? : Option String}

/-! ## Single records -/

/-- A record is built from a namespace that loads and a declared name with a record body. -/
theorem record?_eq_ok_iff
    {ref : QualifiedName} {record : Record} :
    provider.record? ref = .ok record ↔
      ∃ space, provider.load ref.path = .ok space ∧
        provider.recordIn space ref.name = .ok record := by
  cases loaded : provider.load ref.path <;> simp [record?, loaded]

/-- A record in a namespace has the fields of the members behind its name. -/
theorem exists_body_of_recordIn
    {space : Namespace} {name : String} {record : Record}
    (built : provider.recordIn space name = .ok record) :
    ∃ body, provider.declarations.recordBody? (.named ⟨space.path, name⟩) = some body ∧
      record = ⟨name, space.path, space.localName, provider.fieldsOf ⟨space.path, name⟩ body⟩ := by
  simp only [recordIn] at built
  split at built
  · cases built
  · split at built
    · cases built
    · next body found => exact ⟨body, found, (Except.ok.inj built).symm⟩

/-- A record in a namespace goes by its name there, and its name is declared. -/
theorem key_of_recordIn
    {space : Namespace} {name : String} {record : Record}
    (built : provider.recordIn space name = .ok record) :
    record.key = ⟨space.path, name⟩ ∧ record.key ∈ provider.declarations.names := by
  obtain ⟨body, found, rfl⟩ := exists_body_of_recordIn built
  exact ⟨rfl, Declarations.mem_names_of_recordBody? found⟩

theorem key_mem_names
    {ref : QualifiedName} {record : Record}
    (built : provider.record? ref = .ok record) :
    record.key ∈ provider.declarations.names := by
  obtain ⟨space, _, inside⟩ := record?_eq_ok_iff.1 built
  exact (key_of_recordIn inside).2

/-- No record is built without an error that may be skipped, unless its namespace does not load. -/
theorem record?_eq_error_iff
    {ref : QualifiedName} {error : DiscoveryError} :
    provider.record? ref = .error error ↔
      (∃ cause, provider.load ref.path = .error cause ∧ error = .provider cause) ∨
        ∃ space, provider.load ref.path = .ok space ∧
          provider.recordIn space ref.name = .error error := by
  cases loaded : provider.load ref.path <;> simp [record?, loaded, eq_comm]

/-- What goes wrong in a loaded namespace may be skipped. -/
theorem isSkippable_of_recordIn
    {space : Namespace} {name : String} {error : DiscoveryError}
    (failed : provider.recordIn space name = .error error) :
    error.isSkippable = true := by
  simp only [recordIn] at failed
  split at failed
  · cases failed
    rfl
  · split at failed
    · cases failed
      rfl
    · cases failed

/-! ## Every discovery is a run -/

@[simp]
theorem ends_ok_iff
    {errand : Errand} {progress after : Discovery} :
    provider.Ends module? errand progress (.ok (), after) ↔
      provider.Finishes module? errand progress after :=
  Iff.rfl

@[simp]
theorem ends_error_iff
    {errand : Errand} {progress after : Discovery} {error : DiscoveryError} :
    provider.Ends module? errand progress (.error error, after) ↔
      provider.Fails module? errand progress error after :=
  Iff.rfl

/-- A step that ends one errand ends another one that goes on as this does. -/
theorem Ends.imp
    {errand larger : Errand} {progress earlier : Discovery}
    (finishes : ∀ after, provider.Finishes module? errand progress after →
      provider.Finishes module? larger earlier after)
    (fails : ∀ error after, provider.Fails module? errand progress error after →
      provider.Fails module? larger earlier error after)
    {step : DiscoveryStep} (ends : provider.Ends module? errand progress step) :
    provider.Ends module? larger earlier step := by
  obtain ⟨result, after⟩ := step
  cases result with
  | ok _ => exact finishes after ends
  | error error => exact fails error after ends

theorem Finishes.visited_subset
    {errand : Errand} {before after : Discovery}
    (run : provider.Finishes module? errand before after) :
    before.visited ⊆ after.visited := by
  induction run with
  | known | done => exact List.Subset.refl _
  | found _ _ _ ih => exact fun key member => ih (List.mem_cons_of_mem _ member)
  | passed _ _ ih | skipped _ _ _ _ _ ih => exact ih
  | followed _ _ _ _ ih_first ih_later => exact List.Subset.trans ih_first ih_later

/-- References are followed as far as nothing goes wrong that may not be skipped. -/
theorem Fails.not_isSkippable_of_follow
    {current : String} {refs : List QualifiedName}
    {before after : Discovery} {error : DiscoveryError}
    (run : provider.Fails module? (.follow current refs) before error after) :
    error.isSkippable = false := by
  generalize following : Errand.follow current refs = errand at run
  induction run generalizing refs with
  | unbuilt | inside => cases following
  | passed _ _ ih | skipped _ _ _ _ _ ih | followed _ _ _ _ ih =>
      cases following
      exact ih rfl
  | stopped _ _ _ fatal => exact fatal

/-- A visit fails with a skippable error only at the reference itself. -/
theorem Fails.unbuilt_of_isSkippable
    {ref : QualifiedName} {before after : Discovery} {error : DiscoveryError}
    (run : provider.Fails module? (.visit ref) before error after)
    (skippable : error.isSkippable = true) :
    provider.record? ref = .error error ∧ after = before := by
  cases run with
  | unbuilt failed => exact ⟨failed, rfl⟩
  | inside _ _ inner => simp [inner.not_isSkippable_of_follow] at skippable

/-- If visits that find enough levels end as they should, so does following references. -/
theorem ends_follow
    {levels : Nat} {visit : QualifiedName → Discovery → DiscoveryStep}
    (ends : ∀ ref progress, provider.declarations.unseen progress.visited < levels →
      provider.Ends module? (.visit ref) progress (visit ref progress))
    (current : String) (refs : List QualifiedName) (progress : Discovery)
    (enough : provider.declarations.unseen progress.visited < levels) :
    provider.Ends module? (.follow current refs) progress
      (Discovery.follow module? current visit refs progress) := by
  induction refs generalizing progress with
  | nil => exact Finishes.done
  | cons ref rest ih =>
      rw [Discovery.follow]
      split
      · next idle =>
          have handled : inBoundary module? current ref.path = true → ref ∈ progress.visited := by
            intro inside
            simpa [inside] using idle
          exact (ih progress enough).imp (fun _ => .passed handled) (fun _ _ => .passed handled)
      · next ahead =>
          obtain ⟨inside, fresh⟩ :
              inBoundary module? current ref.path = true ∧ ref ∉ progress.visited := by
            simpa using ahead
          have first := ends ref progress enough
          generalize visit ref progress = step at first ⊢
          obtain ⟨result, between⟩ := step
          cases result with
          | ok _ =>
              have fewer : provider.declarations.unseen between.visited < levels :=
                Nat.lt_of_le_of_lt
                  (Declarations.unseen_le_of_subset (Finishes.visited_subset first)) enough
              exact (ih between fewer).imp (fun _ => .followed inside fresh first)
                (fun _ _ => .followed inside fresh first)
          | error error =>
              cases skippable : error.isSkippable with
              | false =>
                  simpa [skippable] using Fails.stopped inside fresh first skippable
              | true =>
                  obtain ⟨unbuilt, rfl⟩ := Fails.unbuilt_of_isSkippable first skippable
                  simp only [skippable, if_true]
                  exact (ih (between.log (.nestedSkipped ref.name error)) enough).imp
                    (fun _ => .skipped inside fresh unbuilt skippable)
                    (fun _ _ => .skipped inside fresh unbuilt skippable)

/-- With a level for each declared name that has not been visited, a visit ends as it should.  A
record that is entered for the first time uses up one name. -/
theorem ends_visitWithin
    (levels : Nat) (ref : QualifiedName) (progress : Discovery)
    (enough : provider.declarations.unseen progress.visited < levels) :
    provider.Ends module? (.visit ref) progress
      (provider.visitWithin module? levels ref progress) := by
  induction levels generalizing ref progress with
  | zero => omega
  | succ levels ih =>
      rw [visitWithin]
      cases built : provider.record? ref with
      | error error => exact Fails.unbuilt built
      | ok record =>
          by_cases visited : record.key ∈ progress.visited
          · simpa [visited] using Finishes.known built visited
          · have fewer :
                provider.declarations.unseen (progress.enter ref record).visited < levels := by
              have := Declarations.unseen_cons_lt (key_mem_names built) visited
              simp only [Discovery.enter, Discovery.log]
              omega
            have inner :=
              ends_follow ih record.path record.references (progress.enter ref record) fewer
            simp only [List.contains_eq_mem, visited, decide_false, Bool.false_eq_true, if_false]
            revert inner
            cases Discovery.follow module? record.path (provider.visitWithin module? levels)
                record.references (progress.enter ref record) with
            | mk result after =>
                cases result with
                | ok _ => exact Finishes.found built visited
                | error _ => exact Fails.inside built visited

theorem ends_visit
    (provider : Provider) (module? : Option String) (ref : QualifiedName) :
    provider.Ends module? (.visit ref) .start (provider.visit module? ref .start) :=
  ends_visitWithin _ ref .start (Nat.lt_succ_of_le (Declarations.unseen_le_length _))

/-- A discovery that answers records has loaded the namespace of its root. -/
theorem exists_load_of_discover
    {ref : QualifiedName} {records : List Record}
    (answered : (provider.discover ref).value = .ok records) :
    ∃ space, provider.load ref.path = .ok space := by
  cases loaded : provider.load ref.path with
  | ok space => exact ⟨space, rfl⟩
  | error cause => simp [discover, loaded, Logged.quiet] at answered

/-- The records that are answered are those of a visit of the root that finishes. -/
theorem exists_finishes_of_discover
    {ref : QualifiedName} {space : Namespace} {records : List Record}
    (loaded : provider.load ref.path = .ok space)
    (answered : (provider.discover ref).value = .ok records) :
    ∃ after, provider.Finishes space.rootModule? (.visit ref) .start after ∧
      records = after.found := by
  have ends := provider.ends_visit space.rootModule? ref
  simp only [discover, loaded] at answered
  split at answered
  · cases answered
  · next after step =>
      rw [step] at ends
      cases answered
      exact ⟨after, ends, rfl⟩

/-- The error that is answered is that of a visit of the root, once its namespace is loaded. -/
theorem exists_fails_of_discover
    {ref : QualifiedName} {space : Namespace} {error : DiscoveryError}
    (loaded : provider.load ref.path = .ok space)
    (answered : (provider.discover ref).value = .error error) :
    ∃ after, provider.Fails space.rootModule? (.visit ref) .start error after := by
  have ends := provider.ends_visit space.rootModule? ref
  simp only [discover, loaded] at answered
  split at answered
  · next failure after step =>
      rw [step] at ends
      cases answered
      exact ⟨after, ends⟩
  · cases answered

end Provider
end RecordConversion
