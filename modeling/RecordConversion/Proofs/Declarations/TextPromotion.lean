import RecordConversion.Proofs.Declarations.TextTiers

/-!
# Promotion of a text by the rule of selectors

By the rule of selectors the shallowest depth with a method or a field `String` decides, and two
candidates at that depth cancel each other, also when they are one declaration reached on two paths:
`Declarations.PromotesText`.

The search meets what the rule promotes.  It goes further where the rule does not: it counts a type
once however many paths lead to it, and takes the fields of a depth into account only one step
further in, after a method of the same depth has decided.

* `Declarations.supportsStringer_iff_promotesText_iff`: the search and the rule agree exactly if,
  where one type decides, there is no candidate nearer and no second one at its depth.
-/

namespace RecordConversion

/-- A declaration that a selector `String` may stand for. -/
inductive TextCandidate where
  | method (owner : QualifiedName) (method : Method)
  | field (owner : QualifiedName) (member : Field)
  deriving DecidableEq, Repr

namespace Declarations

section Defs

variable (table : Declarations)

/-- The members `String` of a record. -/
def textFields (ref : QualifiedName) : List Field :=
  (table.membersOf ref).filter (·.name == "String")

/-- The candidates that a name declares itself. -/
def textCandidatesOf (ref : QualifiedName) : List TextCandidate :=
  (table.textMethods ref).map (.method ref) ++ (table.textFields ref).map (.field ref)

/-- The candidates at a depth, once for each path that leads to them. -/
def textCandidatesAt
    (root : QualifiedName) (depth : Nat) : List TextCandidate :=
  (table.reachedAt root depth).flatMap table.textCandidatesOf

/-- The shallowest depth with a candidate has a single one, a method that gives a text. -/
def PromotesText (root : QualifiedName) : Prop :=
  ∃ depth owner method,
    (∀ closer < depth, table.textCandidatesAt root closer = []) ∧
      table.textCandidatesAt root depth = [.method owner method] ∧ method.isStringer = true

end Defs

variable {table : Declarations} {root ref : QualifiedName} {depth : Nat}

theorem method_mem_textCandidatesAt_iff
    {owner : QualifiedName} {method : Method} :
    .method owner method ∈ table.textCandidatesAt root depth ↔
      owner ∈ table.reachedAt root depth ∧ method ∈ table.textMethods owner := by
  simp only [textCandidatesAt, textCandidatesOf, List.mem_flatMap, List.mem_append, List.mem_map]
  constructor
  · rintro ⟨ref, reached, ⟨_, member, same⟩ | ⟨_, _, same⟩⟩
    · cases same
      exact ⟨reached, member⟩
    · cases same
  · rintro ⟨reached, member⟩
    exact ⟨owner, reached, .inl ⟨method, member, rfl⟩⟩

/-- Where there is no candidate, the search finds neither a method nor a field. -/
theorem silent_of_textCandidatesAt_eq_nil
    (silent : table.textCandidatesAt root depth = [])
    (reached : ref ∈ table.reachedAt root depth) :
    table.textMethods ref = [] ∧ table.plainTextFields ref = [] := by
  have own := List.flatMap_eq_nil_iff.1 silent ref reached
  rw [textCandidatesOf, List.append_eq_nil_iff, List.map_eq_nil_iff, List.map_eq_nil_iff] at own
  have plain : table.plainTextFields ref = (table.textFields ref).filter (!·.embedded) := by
    rw [textFields, List.filter_filter]
    rfl
  refine ⟨own.1, ?_⟩
  rw [plain, own.2]
  rfl

/-- What the rule promotes is found by the search. -/
theorem textRestsOn_of_single
    {owner : QualifiedName} {method : Method}
    (silent : ∀ closer < depth, table.textCandidatesAt root closer = [])
    (single : table.textCandidatesAt root depth = [.method owner method])
    (stringer : method.isStringer = true) :
    table.TextRestsOn root depth owner := by
  have only {other : QualifiedName} {theirs : Method}
      (reached : other ∈ table.reachedAt root depth) (member : theirs ∈ table.textMethods other) :
      other = owner ∧ theirs = method := by
    have candidate := method_mem_textCandidatesAt_iff.2 ⟨reached, member⟩
    rw [single, List.mem_singleton] at candidate
    cases candidate
    exact ⟨rfl, rfl⟩
  have found : .method owner method ∈ table.textCandidatesAt root depth := by
    rw [single]
    exact List.mem_singleton_self _
  obtain ⟨reached, member⟩ := method_mem_textCandidatesAt_iff.1 found
  refine ⟨?_, ?_, reached, ?_, ?_⟩
  · intro closer before ref reached
    exact (silent_of_textCandidatesAt_eq_nil (silent closer before) reached).1
  · intro closer before ref reached
    exact (silent_of_textCandidatesAt_eq_nil (silent closer before) reached).2
  · cases methods : table.textMethods owner with
    | nil =>
        rw [methods] at member
        cases member
    | cons first rest =>
        have same := (only reached (methods ▸ List.mem_cons_self)).2
        exact fits_iff.2 ⟨first, by rw [methods]; rfl, same ▸ stringer⟩
  · intro other other_reached methods
    obtain ⟨theirs, theirs_member⟩ := List.exists_mem_of_ne_nil _ methods
    exact (only other_reached theirs_member).1

/-- A type decides at one depth only. -/
theorem TextRestsOn.depth_unique
    {other : Nat} {owner owner' : QualifiedName}
    (rests : table.TextRestsOn root depth owner) (rests' : table.TextRestsOn root other owner') :
    depth = other := by
  rcases Nat.lt_trichotomy depth other with before | same | after
  · have silent := rests'.no_method depth before owner rests.reached
    exact absurd silent (textMethods_ne_nil_of_fits rests.fits)
  · exact same
  · have silent := rests.no_method other after owner' rests'.reached
    exact absurd silent (textMethods_ne_nil_of_fits rests'.fits)

/-- The single candidate of the depth where a type decides is its method. -/
theorem TextRestsOn.promotesText
    {owner : QualifiedName}
    (rests : table.TextRestsOn root depth owner)
    (silent : ∀ closer < depth, table.textCandidatesAt root closer = [])
    (single : (table.textCandidatesAt root depth).length = 1) :
    table.PromotesText root := by
  obtain ⟨candidate, only⟩ := List.length_eq_one_iff.1 single
  obtain ⟨method, first, stringer⟩ := fits_iff.1 rests.fits
  have found : .method owner method ∈ table.textCandidatesAt root depth :=
    method_mem_textCandidatesAt_iff.2 ⟨rests.reached, List.mem_of_head? first⟩
  rw [only, List.mem_singleton] at found
  subst found
  exact ⟨depth, owner, method, silent, only, stringer⟩

/-- Where everything is reached soon enough, a type has a text exactly if one type decides at some
depth.  This is the rule of selectors exactly if then there is no candidate nearer, and none beside
it. -/
theorem supportsStringer_iff_promotesText_iff
    {type : HostType} {root : QualifiedName}
    (base : table.embeddedBase type = .named root) (shallow : table.Shallow root) :
    (table.supportsStringer type = true ↔ ∃ depth owner, table.TextRestsOn root depth owner) ∧
    ((table.supportsStringer type = true ↔ table.PromotesText root) ↔
      ∀ depth owner, table.TextRestsOn root depth owner →
        (∀ closer < depth, table.textCandidatesAt root closer = []) ∧
          (table.textCandidatesAt root depth).length = 1) := by
  have found := supportsStringer_iff base shallow
  refine ⟨found, ?_⟩
  rw [found]
  constructor
  · intro agree depth owner rests
    obtain ⟨there, promoted, method, silent, single, stringer⟩ := agree.1 ⟨depth, owner, rests⟩
    obtain rfl := rests.depth_unique (textRestsOn_of_single silent single stringer)
    exact ⟨silent, by rw [single]; rfl⟩
  · intro sole
    constructor
    · rintro ⟨depth, owner, rests⟩
      obtain ⟨silent, single⟩ := sole depth owner rests
      exact rests.promotesText silent single
    · rintro ⟨depth, owner, method, silent, single, stringer⟩
      exact ⟨depth, owner, textRestsOn_of_single silent single stringer⟩

/-- Several candidates at the shallowest depth cancel each other. -/
theorem not_promotesText_of_several
    (silent : ∀ closer < depth, table.textCandidatesAt root closer = [])
    (several : 1 < (table.textCandidatesAt root depth).length) :
    ¬ table.PromotesText root := by
  rintro ⟨there, owner, method, silent', single, _⟩
  rcases Nat.lt_trichotomy there depth with before | rfl | after
  · rw [silent there before] at single
    cases single
  · rw [single] at several
    exact absurd several (Nat.lt_irrefl 1)
  · rw [silent' depth after] at several
    cases several

/-- A record with embedded members of the given names and with further members and methods. -/
def embedding
    (name : String) (embedded : List String) (own : List Field) (methods : List Method) :
    QualifiedName × Declaration :=
  let members := embedded.map fun inner => ⟨inner, .named ⟨"m", inner⟩, true, true⟩
  (⟨"m", name⟩, ⟨⟨"m", name⟩, .defined (.record (members ++ own)), methods⟩)

/-- The method that gives a text. -/
def textMethod : Method :=
  ⟨"String", [], [.primitive .string], false⟩

/-- A record reaches one with a text on a single path. -/
def singlePath : Declarations :=
  ⟨[embedding "A" ["B", "C"] [] [], embedding "B" ["D"] [] [], embedding "C" [] [] [],
    embedding "D" [] [] [textMethod]]⟩

/-- A record reaches one with a text on two paths. -/
def twoPaths : Declarations :=
  ⟨[embedding "A" ["B", "C"] [] [], embedding "B" ["D"] [] [], embedding "C" ["D"] [] [],
    embedding "D" [] [] [textMethod]]⟩

/-- A record embeds one with a field `String` and one with a method of that name. -/
def fieldBesideMethod : Declarations :=
  ⟨[embedding "A" ["B", "C"] [] [],
    embedding "B" [] [⟨"String", .primitive .string, false, true⟩] [],
    embedding "C" [] [] [textMethod]]⟩

/-- A text that is reached on a single path is promoted, and the search finds it. -/
theorem supportsStringer_iff_promotesText_iff_singlePath :
    singlePath.embeddedBase (.named ⟨"m", "A"⟩) = .named ⟨"m", "A"⟩ ∧
    singlePath.Shallow ⟨"m", "A"⟩ ∧
    singlePath.supportsStringer (.named ⟨"m", "A"⟩) = true ∧
    singlePath.PromotesText ⟨"m", "A"⟩ := by
  have base : singlePath.embeddedBase (.named ⟨"m", "A"⟩) = .named ⟨"m", "A"⟩ := rfl
  have shallow : singlePath.Shallow ⟨"m", "A"⟩ :=
    shallow_of_reachedAt_eq_nil (by decide : 3 ≤ expansionLimit) rfl
  have silent : ∀ closer < 2, singlePath.textCandidatesAt ⟨"m", "A"⟩ closer = [] := by decide
  have single :
      singlePath.textCandidatesAt ⟨"m", "A"⟩ 2 = [.method ⟨"m", "D"⟩ textMethod] := rfl
  have known : singlePath.TextRestsOn ⟨"m", "A"⟩ 2 ⟨"m", "D"⟩ :=
    textRestsOn_of_single silent single rfl
  obtain ⟨found, agree⟩ := supportsStringer_iff_promotesText_iff base shallow
  have supported := found.2 ⟨2, _, known⟩
  refine ⟨base, shallow, supported, (agree.2 ?_).1 supported⟩
  intro depth owner rests
  obtain rfl := rests.depth_unique known
  exact ⟨silent, by rw [single]; rfl⟩

/-- The search finds a text that two paths lead to, and one beside a field of its name, where the
rule of selectors promotes nothing. -/
theorem supportsStringer_of_cancelled :
    (twoPaths.Shallow ⟨"m", "A"⟩ ∧ twoPaths.supportsStringer (.named ⟨"m", "A"⟩) = true ∧
      twoPaths.textCandidatesAt ⟨"m", "A"⟩ 2 =
        [.method ⟨"m", "D"⟩ textMethod, .method ⟨"m", "D"⟩ textMethod] ∧
      ¬ twoPaths.PromotesText ⟨"m", "A"⟩) ∧
    (fieldBesideMethod.Shallow ⟨"m", "A"⟩ ∧
      fieldBesideMethod.supportsStringer (.named ⟨"m", "A"⟩) = true ∧
      fieldBesideMethod.textCandidatesAt ⟨"m", "A"⟩ 1 =
        [.field ⟨"m", "B"⟩ ⟨"String", .primitive .string, false, true⟩,
          .method ⟨"m", "C"⟩ textMethod] ∧
      ¬ fieldBesideMethod.PromotesText ⟨"m", "A"⟩) := by
  constructor
  · refine ⟨shallow_of_reachedAt_eq_nil (by decide : 3 ≤ expansionLimit) rfl, rfl, rfl, ?_⟩
    exact not_promotesText_of_several (by decide : ∀ closer < 2, _) (by decide)
  · refine ⟨shallow_of_reachedAt_eq_nil (by decide : 2 ≤ expansionLimit) rfl, rfl, rfl, ?_⟩
    exact not_promotesText_of_several (by decide : ∀ closer < 1, _) (by decide)

end Declarations
end RecordConversion
