import RecordConversion.Proofs.Discovery.LeafFirst
import RecordConversion.Proofs.Discovery.Records

/-!
# The outcome of a discovery

Every run of a discovery is the one that is computed, whatever the provider answers when it loads:
with a level for each declared name that has not been visited, an errand is performed as the
relations say (`Provider.Finishes.perform_eq`, `Provider.Fails.perform_eq`).  `Provider.Discovers`
says what a discovery answers by its run, without any bound on the depth, and the computed answer is
the only one (`Provider.discovers_iff`).

* `Provider.discover_tidy`: the records and the errors that a discovery answers.
-/

namespace RecordConversion
namespace Provider

/-- An errand as it is computed, with a number of levels for its visits. -/
def perform
    (provider : Provider) (module? : Option String) (levels : Nat) :
    Errand → Discovery → DiscoveryStep
  | .visit ref, progress => provider.visitWithin module? levels ref progress
  | .follow current refs, progress =>
    Discovery.follow module? current (provider.visitWithin module? levels) refs progress

/-- What a discovery answers, by the run of it. -/
inductive Discovers
    (provider : Provider) (root : QualifiedName) : Except DiscoveryError (List Record) → Prop
  | unloaded
      {cause : ProviderError}
      (failed : provider.load root.path = .error cause) :
      Discovers provider root (.error (.provider cause))
  | found
      {space : Namespace} {after : Discovery}
      (loaded : provider.load root.path = .ok space)
      (run : provider.Finishes space.rootModule? (.visit root) .start after) :
      Discovers provider root (.ok after.found)
  | failed
      {space : Namespace} {error : DiscoveryError} {after : Discovery}
      (loaded : provider.load root.path = .ok space)
      (run : provider.Fails space.rootModule? (.visit root) .start error after) :
      Discovers provider root (.error error)

variable {provider : Provider} {module? : Option String}

/-! ## One step of an errand -/

section Steps

variable {ref : QualifiedName} {record : Record} {progress between : Discovery} {levels : Nat}
variable {current : String} {rest : List QualifiedName} {error : DiscoveryError}

theorem perform_unbuilt
    (failed : provider.record? ref = .error error) :
    provider.perform module? (levels + 1) (.visit ref) progress = (.error error, progress) := by
  simp [perform, visitWithin, failed]

theorem perform_known
    (built : provider.record? ref = .ok record) (visited : record.key ∈ progress.visited) :
    provider.perform module? (levels + 1) (.visit ref) progress = (.ok (), progress) := by
  simp [perform, visitWithin, built, visited]

theorem perform_fresh
    (built : provider.record? ref = .ok record) (fresh : record.key ∉ progress.visited) :
    provider.perform module? (levels + 1) (.visit ref) progress =
      match provider.perform module? levels (.follow record.path record.references)
          (progress.enter ref record) with
      | (.ok (), after) => (.ok (), after.leave record)
      | failed => failed := by
  have absent : ¬ progress.visited.contains record.key = true := by simpa using fresh
  rw [perform, visitWithin, built]
  exact if_neg absent

theorem perform_passed
    (handled : inBoundary module? current ref.path = true → ref ∈ progress.visited) :
    provider.perform module? levels (.follow current (ref :: rest)) progress =
      provider.perform module? levels (.follow current rest) progress := by
  have idle :
      (!inBoundary module? current ref.path || progress.visited.contains ref) = true := by
    cases inside : inBoundary module? current ref.path with
    | false => rfl
    | true => simpa using handled inside
  rw [perform, Discovery.follow, if_pos idle]
  rfl

variable (inside : inBoundary module? current ref.path = true) (fresh : ref ∉ progress.visited)
include inside fresh

theorem perform_followed
    (first : provider.perform module? levels (.visit ref) progress = (.ok (), between)) :
    provider.perform module? levels (.follow current (ref :: rest)) progress =
      provider.perform module? levels (.follow current rest) between := by
  rw [perform] at first
  simp [perform, Discovery.follow, inside, fresh, first]

theorem perform_skipped
    (first : provider.perform module? levels (.visit ref) progress = (.error error, between))
    (skippable : error.isSkippable = true) :
    provider.perform module? levels (.follow current (ref :: rest)) progress =
      provider.perform module? levels (.follow current rest)
        (between.log (.nestedSkipped ref.name error)) := by
  rw [perform] at first
  simp [perform, Discovery.follow, inside, fresh, first, skippable]

theorem perform_stopped
    (first : provider.perform module? levels (.visit ref) progress = (.error error, between))
    (fatal : error.isSkippable = false) :
    provider.perform module? levels (.follow current (ref :: rest)) progress =
      (.error error, between) := by
  rw [perform] at first
  simp [perform, Discovery.follow, inside, fresh, first, fatal]

end Steps

/-! ## Runs are what is computed -/

theorem exists_levels
    {seen : List QualifiedName} {levels : Nat}
    (enough : provider.declarations.unseen seen < levels) :
    ∃ fewer, levels = fewer + 1 :=
  Nat.exists_eq_succ_of_ne_zero (Nat.ne_zero_of_lt enough)

/-- A record that is entered for the first time leaves enough levels for what it refers to. -/
theorem unseen_enter_lt
    {ref : QualifiedName} {record : Record} {progress : Discovery} {levels : Nat}
    (built : provider.record? ref = .ok record) (fresh : record.key ∉ progress.visited)
    (enough : provider.declarations.unseen progress.visited < levels + 1) :
    provider.declarations.unseen (progress.enter ref record).visited < levels := by
  have := Declarations.unseen_cons_lt (key_mem_names built) fresh
  simp only [Discovery.enter, Discovery.log]
  omega

theorem Finishes.unseen_lt
    {errand : Errand} {before after : Discovery} {levels : Nat}
    (run : provider.Finishes module? errand before after)
    (enough : provider.declarations.unseen before.visited < levels) :
    provider.declarations.unseen after.visited < levels :=
  Nat.lt_of_le_of_lt (Declarations.unseen_le_of_subset run.visited_subset) enough

/-- An errand that finishes is computed to its end. -/
theorem Finishes.perform_eq
    {errand : Errand} {before after : Discovery} {levels : Nat}
    (run : provider.Finishes module? errand before after)
    (enough : provider.declarations.unseen before.visited < levels) :
    provider.perform module? levels errand before = (.ok (), after) := by
  induction run generalizing levels with
  | known built visited =>
      obtain ⟨fewer, rfl⟩ := exists_levels enough
      exact perform_known built visited
  | found built fresh _ ih =>
      obtain ⟨fewer, rfl⟩ := exists_levels enough
      rw [perform_fresh built fresh, ih (unseen_enter_lt built fresh enough)]
  | done => rfl
  | passed handled _ ih => rw [perform_passed handled, ih enough]
  | skipped inside fresh unbuilt skippable _ ih =>
      obtain ⟨fewer, rfl⟩ := exists_levels enough
      rw [perform_skipped inside fresh (perform_unbuilt unbuilt) skippable]
      exact ih enough
  | followed inside fresh first _ ih_first ih_later =>
      rw [perform_followed inside fresh (ih_first enough), ih_later (first.unseen_lt enough)]

/-- An errand that fails is computed to its error. -/
theorem Fails.perform_eq
    {errand : Errand} {before after : Discovery} {error : DiscoveryError} {levels : Nat}
    (run : provider.Fails module? errand before error after)
    (enough : provider.declarations.unseen before.visited < levels) :
    provider.perform module? levels errand before = (.error error, after) := by
  induction run generalizing levels with
  | unbuilt failed =>
      obtain ⟨fewer, rfl⟩ := exists_levels enough
      exact perform_unbuilt failed
  | inside built fresh _ ih =>
      obtain ⟨fewer, rfl⟩ := exists_levels enough
      rw [perform_fresh built fresh, ih (unseen_enter_lt built fresh enough)]
  | passed handled _ ih => rw [perform_passed handled, ih enough]
  | skipped inside fresh unbuilt skippable _ ih =>
      obtain ⟨fewer, rfl⟩ := exists_levels enough
      rw [perform_skipped inside fresh (perform_unbuilt unbuilt) skippable]
      exact ih enough
  | followed inside fresh first _ ih_later =>
      rw [perform_followed inside fresh (first.perform_eq enough),
        ih_later (first.unseen_lt enough)]
  | stopped inside fresh _ fatal ih_first =>
      exact perform_stopped inside fresh (ih_first enough) fatal

/-- A visit from the start has one outcome, which is the computed one. -/
theorem Ends.visit_eq
    {ref : QualifiedName} {step : DiscoveryStep}
    (ends : provider.Ends module? (.visit ref) .start step) :
    provider.visit module? ref .start = step := by
  have enough :
      provider.declarations.unseen Discovery.start.visited <
        provider.declarations.entries.length + 1 :=
    Nat.lt_succ_of_le (Declarations.unseen_le_length _)
  obtain ⟨result, after⟩ := step
  cases result with
  | ok _ => exact Finishes.perform_eq ends enough
  | error error => exact Fails.perform_eq ends enough

theorem Finishes.discover_eq
    {root : QualifiedName} {space : Namespace} {after : Discovery}
    (loaded : provider.load root.path = .ok space)
    (run : provider.Finishes space.rootModule? (.visit root) .start after) :
    provider.discover root =
      ⟨.ok after.found, after.events ++ [.discoveryComplete root after.found]⟩ := by
  have computed := Ends.visit_eq (ends_ok_iff.2 run)
  simp [discover, loaded, computed]

theorem Fails.discover_eq
    {root : QualifiedName} {space : Namespace} {error : DiscoveryError} {after : Discovery}
    (loaded : provider.load root.path = .ok space)
    (run : provider.Fails space.rootModule? (.visit root) .start error after) :
    provider.discover root = ⟨.error error, after.events⟩ := by
  have computed := Ends.visit_eq (ends_error_iff.2 run)
  simp [discover, loaded, computed]

/-- A discovery has one answer, and this is computed. -/
theorem discovers_iff
    {root : QualifiedName} {answer : Except DiscoveryError (List Record)} :
    provider.Discovers root answer ↔ answer = (provider.discover root).value := by
  constructor
  · intro discovered
    cases discovered with
    | unloaded failed => simp [discover, failed, Logged.quiet]
    | found loaded run => rw [run.discover_eq loaded]
    | failed loaded run => rw [run.discover_eq loaded]
  · rintro rfl
    cases loaded : provider.load root.path with
    | error cause =>
        simpa [discover, loaded, Logged.quiet] using Discovers.unloaded loaded
    | ok space =>
        have ends := provider.ends_visit space.rootModule? root
        cases answered : (provider.discover root).value with
        | ok records =>
            obtain ⟨after, run, rfl⟩ := exists_finishes_of_discover loaded answered
            exact .found loaded run
        | error error =>
            obtain ⟨after, run⟩ := exists_fails_of_discover loaded answered
            exact .failed loaded run

/-! ## What is answered -/

/-- A skippable error is the answer exactly if it is met at the root itself. -/
theorem discover_error_iff_of_isSkippable
    {root : QualifiedName} {error : DiscoveryError} (skippable : error.isSkippable = true) :
    (provider.discover root).value = .error error ↔ provider.record? root = .error error := by
  constructor
  · intro answered
    cases discovers_iff.2 answered.symm with
    | unloaded failed => cases skippable
    | failed loaded run => exact (run.unbuilt_of_isSkippable skippable).1
  · intro unbuilt
    rcases record?_eq_error_iff.1 unbuilt with ⟨cause, _, rfl⟩ | ⟨space, loaded, _⟩
    · cases skippable
    · exact (discovers_iff.1 (.failed loaded (.unbuilt unbuilt))).symm

/-- What goes wrong in a loaded namespace is about the name that was asked for there. -/
theorem eq_of_recordIn_error
    {space : Namespace} {name : String} {error : DiscoveryError}
    (failed : provider.recordIn space name = .error error) :
    error = .notFound ⟨space.path, name⟩ ∨ error = .notARecord ⟨space.path, name⟩ := by
  simp only [recordIn] at failed
  split at failed
  · exact .inl (Except.error.inj failed).symm
  · split at failed
    · exact .inr (Except.error.inj failed).symm
    · cases failed

/-- Whatever a provider answers when it loads, a discovery has one answer.  The records of it have
distinct keys, each is built in a namespace that was loaded, and the root is the last.  An error
that says that there is no record is about the root. -/
theorem discover_tidy
    (provider : Provider) (root : QualifiedName) :
    (∀ answer, provider.Discovers root answer ↔ answer = (provider.discover root).value) ∧
    (∀ records, (provider.discover root).value = .ok records →
      (records.map Record.key).Nodup ∧
      (∀ record ∈ records, ∃ asked space, provider.load asked = .ok space ∧
        provider.recordIn space record.name = .ok record) ∧
      ∃ space before record, provider.load root.path = .ok space ∧
        provider.recordIn space root.name = .ok record ∧
        record.key = ⟨space.path, root.name⟩ ∧ records = before ++ [record]) ∧
    ∀ error, (provider.discover root).value = .error error → error.isSkippable = true →
      ∃ space, provider.load root.path = .ok space ∧
        provider.recordIn space root.name = .error error ∧
        (error = .notFound ⟨space.path, root.name⟩ ∨
          error = .notARecord ⟨space.path, root.name⟩) := by
  refine ⟨fun answer => discovers_iff, ?_, ?_⟩
  · intro records answered
    obtain ⟨before, record, built, shape, distinct⟩ := exists_root_of_discover answered
    refine ⟨distinct, ?_, ?_⟩
    · intro found member
      obtain ⟨ref, found_built⟩ := exists_built_of_discover answered member
      obtain ⟨space, loaded, inside⟩ := record?_eq_ok_iff.1 found_built
      have name : found.name = ref.name :=
        congrArg QualifiedName.name (key_of_recordIn inside).1
      exact ⟨ref.path, space, loaded, name ▸ inside⟩
    · obtain ⟨space, loaded, inside⟩ := record?_eq_ok_iff.1 built
      exact ⟨space, before, record, loaded, inside, (key_of_recordIn inside).1, shape⟩
  · intro error answered skippable
    rcases record?_eq_error_iff.1 ((discover_error_iff_of_isSkippable skippable).1 answered) with
      ⟨cause, _, rfl⟩ | ⟨space, loaded, failed⟩
    · cases skippable
    · exact ⟨space, loaded, failed, eq_of_recordIn_error failed⟩

/-- The shop, whose namespace is also loaded by another path. -/
def mirroredShop : Provider :=
  { shop with load := fun path => shop.load (if path = "mirror" then "shop" else path) }

/-- Asked for by the other path, the orders are found under the path that was loaded, and so is the
name that a missing record is said to have. -/
theorem discover_tidy_mirroredShop :
    (∃ records, (mirroredShop.discover ⟨"mirror", "Order"⟩).value = .ok records ∧
      (records.map Record.key).Nodup ∧
      ∃ before record, record.key = ⟨"shop", "Order"⟩ ∧ records = before ++ [record]) ∧
    ∃ error, (mirroredShop.discover ⟨"mirror", "Refund"⟩).value = .error error ∧
      error.isSkippable = true ∧
      (error = .notFound ⟨"shop", "Refund"⟩ ∨ error = .notARecord ⟨"shop", "Refund"⟩) := by
  have loaded : mirroredShop.load "mirror" = .ok ⟨"shop", "shop", some "shop"⟩ := by
    simp [mirroredShop, shop]
  obtain ⟨records, answered⟩ :
      ∃ records, (mirroredShop.discover ⟨"mirror", "Order"⟩).value = .ok records :=
    ⟨_, rfl⟩
  obtain ⟨error, missing, skippable⟩ :
      ∃ error, (mirroredShop.discover ⟨"mirror", "Refund"⟩).value = .error error ∧
        error.isSkippable = true :=
    ⟨_, rfl, rfl⟩
  constructor
  · obtain ⟨distinct, _, space, before, record, loaded', _, key, shape⟩ :=
      (discover_tidy mirroredShop ⟨"mirror", "Order"⟩).2.1 records answered
    cases loaded.symm.trans loaded'
    exact ⟨records, answered, distinct, before, record, key, shape⟩
  · obtain ⟨space, loaded', _, about⟩ :=
      (discover_tidy mirroredShop ⟨"mirror", "Refund"⟩).2.2 error missing skippable
    cases loaded.symm.trans loaded'
    exact ⟨error, missing, skippable, about⟩

end Provider
end RecordConversion
