import RecordConversion.Proofs.Discovery.Extension
import RecordConversion.Proofs.Resolver
import RecordConversion.Proofs.Rule.Answers

/-!
# Rules in an extended provider

The standard rules ask a provider how the types of the two fields, and what these point to or hold,
relate to each other.  For covered types an extended provider answers as before.  So the rules
convert a pair of fields of covered types as before, and resolve it with the same report.

* `Rule.convert?_eq_of_mem_standard`: the standard rules.
* `Provider.KeepsAnswers.resolve_eq`: batches of field pairs.
-/

namespace RecordConversion

/-- The types of both fields of a pair are covered. -/
structure FieldPair.CoveredBy
    (pair : FieldPair) (table : Declarations) : Prop where
  source : table.Covers pair.source.type
  target : table.Covers pair.target.type

namespace Provider

/-- A provider keeps what another one loads and declares, and its answers about covered types. -/
structure KeepsAnswers (provider larger : Provider) : Prop extends provider.Grows larger where
  identical : ∀ a b, provider.declarations.Covers a → provider.declarations.Covers b →
    larger.identical a b = provider.identical a b
  assignable : ∀ a b, provider.declarations.Covers a → provider.declarations.Covers b →
    larger.assignable a b = provider.assignable a b
  convertible : ∀ a b, provider.declarations.Covers a → provider.declarations.Covers b →
    larger.convertible a b = provider.convertible a b
  supportsStringer : ∀ type, provider.declarations.Covers type →
    larger.supportsStringer type = provider.supportsStringer type

variable {provider larger : Provider} {a b type target : HostType} {pair : FieldPair}

/-! ## What the rules ask -/

theorem covers_pointerTarget?
    (closed : provider.declarations.Closed) (covered : provider.declarations.Covers type)
    (found : provider.pointerTarget? type = some target) :
    provider.declarations.Covers target := by
  have below := closed.covers_underlying covered
  rw [pointerTarget?_eq_some_iff.1 found] at below
  exact below

theorem covers_sliceElement?
    (closed : provider.declarations.Closed) (covered : provider.declarations.Covers type)
    (found : provider.sliceElement? type = some target) :
    provider.declarations.Covers target := by
  have below := closed.covers_underlying covered
  rw [sliceElement?_eq_some_iff.1 found] at below
  exact below

section KeepsAnswers

variable (keeps : provider.KeepsAnswers larger)
include keeps

theorem KeepsAnswers.alike_eq
    (covered : provider.declarations.Covers a) (covered' : provider.declarations.Covers b) :
    larger.alike a b = provider.alike a b := by
  rw [alike, alike, keeps.identical a b covered covered']

theorem KeepsAnswers.pointerTarget?_eq
    (covered : provider.declarations.Covers type) :
    larger.pointerTarget? type = provider.pointerTarget? type := by
  rw [pointerTarget?, pointerTarget?, keeps.declarations.underlying_eq covered]

theorem KeepsAnswers.sliceElement?_eq
    (covered : provider.declarations.Covers type) :
    larger.sliceElement? type = provider.sliceElement? type := by
  rw [sliceElement?, sliceElement?, keeps.declarations.underlying_eq covered]

end KeepsAnswers

end Provider

/-! ## The rules -/

namespace Rule

variable {provider larger : Provider} {pair : FieldPair} {nested? : Option PairSet}
variable (keeps : provider.KeepsAnswers larger) (covered : pair.CoveredBy provider.declarations)
include keeps covered

theorem unwrap?_eq
    {target : HostType} (inside : provider.declarations.Covers target) :
    unwrap? larger pair target = unwrap? provider pair target := by
  rw [unwrap?, unwrap?, keeps.alike_eq inside covered.target,
    keeps.convertible _ _ inside covered.target]

theorem wrap?_eq
    {target : HostType} (inside : provider.declarations.Covers target) :
    wrap? larger pair target = wrap? provider pair target := by
  rw [wrap?, wrap?, keeps.alike_eq covered.source inside,
    keeps.convertible _ _ covered.source inside]

theorem pointer_convert?_eq :
    pointer.convert? ⟨larger, nested?⟩ pair = pointer.convert? ⟨provider, nested?⟩ pair := by
  have closed := keeps.declarations.closed
  simp only [pointer, keeps.pointerTarget?_eq covered.source,
    keeps.pointerTarget?_eq covered.target]
  split
  · next target found _ =>
      exact unwrap?_eq keeps covered (Provider.covers_pointerTarget? closed covered.source found)
  · next target _ found =>
      exact wrap?_eq keeps covered (Provider.covers_pointerTarget? closed covered.target found)
  · rfl

theorem sliceConvert_convert?_eq :
    sliceConvert.convert? ⟨larger, nested?⟩ pair =
      sliceConvert.convert? ⟨provider, nested?⟩ pair := by
  have closed := keeps.declarations.closed
  simp only [sliceConvert, keeps.sliceElement?_eq covered.source,
    keeps.sliceElement?_eq covered.target]
  split
  · next source target found found' =>
      have inside := Provider.covers_sliceElement? closed covered.source found
      have inside' := Provider.covers_sliceElement? closed covered.target found'
      simp only [keeps.alike_eq inside inside', keeps.convertible _ _ inside inside']
  · rfl

/-- Each standard rule converts a pair of covered types as before; those for nullable values, times
and records look at shapes alone. -/
theorem convert?_eq_of_mem_standard
    {rule : Rule} (member : rule ∈ standard) :
    rule.convert? ⟨larger, nested?⟩ pair = rule.convert? ⟨provider, nested?⟩ pair := by
  have same := keeps.alike_eq covered.source covered.target
  have converts := keeps.convertible _ _ covered.source covered.target
  simp only [standard, List.mem_cons, List.not_mem_nil, or_false] at member
  rcases member with rfl | rfl | rfl | rfl | rfl | rfl | rfl | rfl | rfl | rfl
  case _ => simp only [sameType, same]
  case _ => simp only [basicCast, same, converts]
  case _ => exact pointer_convert?_eq keeps covered
  case _ => rfl
  case _ => rfl
  case _ => rfl
  case _ => exact sliceConvert_convert?_eq keeps covered
  case _ =>
    simp only [stringer, keeps.supportsStringer _ covered.source,
      keeps.pointerTarget?_eq covered.source]
  case _ => simp only [assignable, keeps.assignable _ _ covered.source covered.target]
  case _ => simp only [convertible, converts]

theorem conversion?_eq_of_mem_standard
    {rule : Rule} (pairs : PairSet) (member : rule ∈ standard) :
    rule.conversion? larger pairs pair = rule.conversion? provider pairs pair := by
  rw [conversion?, conversion?, convert?_eq_of_mem_standard keeps covered member]

end Rule

namespace Provider

/-! ## Resolution -/

variable {provider larger : Provider} {resolver : Resolver}
variable (keeps : provider.KeepsAnswers larger)
include keeps

theorem KeepsAnswers.firstRule?_eq
    {rules : List Rule} (standard : rules ⊆ Rule.standard) (pairs : PairSet)
    {pair : FieldPair} (covered : pair.CoveredBy provider.declarations) :
    Resolver.firstRule? larger pairs pair rules =
      Resolver.firstRule? provider pairs pair rules := by
  induction rules with
  | nil => rfl
  | cons rule rest ih =>
      rw [List.cons_subset] at standard
      rw [Resolver.firstRule?, Resolver.firstRule?,
        Rule.conversion?_eq_of_mem_standard keeps covered pairs standard.1, ih standard.2]

variable (standard : resolver.rules ⊆ Rule.standard)
include standard

theorem KeepsAnswers.resolveField_eq
    {pair : FieldPair} (covered : pair.CoveredBy provider.declarations) :
    resolver.resolveField larger pair = resolver.resolveField provider pair := by
  rw [Resolver.resolveField, Resolver.resolveField,
    keeps.firstRule?_eq standard resolver.pairs covered]

/-- A batch of pairs of covered types is resolved as before. -/
theorem KeepsAnswers.resolve_eq
    {fields : List FieldPair} (pairs : List RecordPair)
    (covered : ∀ pair ∈ fields, pair.CoveredBy provider.declarations) :
    resolver.resolve larger fields pairs = resolver.resolve provider fields pairs := by
  have kept : (resolver.rebuild pairs).rules ⊆ Rule.standard := standard
  have results :
      fields.map ((resolver.rebuild pairs).resolveField larger) =
        fields.map ((resolver.rebuild pairs).resolveField provider) :=
    List.map_congr_left fun pair member => keeps.resolveField_eq kept (covered pair member)
  simp only [Resolver.resolve, results]

end Provider
end RecordConversion
