import RecordConversion.Proofs.Catalog.ValidAliases
import RecordConversion.Proofs.HostType.Namespaces
import RecordConversion.Record.Discovery

/-!
# The names of embedded members

The type of an embedded member is read twice: as a type expression, and for the name of a member
that is given none.  The first reading takes away the blanks behind each star, the second takes away
the stars at the beginning and no blank behind them.  So a member is named after the type that it
embeds exactly if that type is written with its path or no blank stands within the expression;
otherwise stars and blanks stand before the name.

* `HostType.exists_lead_of_read`: what stands before a name that pointers lead to.
* `Provider.exists_path_through`: an embedded member is a step of each path through it.
* `FieldConfig.embedded_name_iff`: when a member is named after the type that it embeds.
-/

namespace RecordConversion

namespace Text

/-! ## Blanks and identifiers -/

/-- The code points of the blanks. -/
def blankCodes : List Nat :=
  [9, 10, 11, 12, 13, 0x20, 0x85, 0xa0, 0x1680, 0x2000, 0x2001, 0x2002, 0x2003, 0x2004, 0x2005,
    0x2006, 0x2007, 0x2008, 0x2009, 0x200a, 0x2028, 0x2029, 0x202f, 0x205f, 0x3000]

theorem toNat_mem_blankCodes
    {c : Char} (blank : isBlank c = true) :
    c.toNat ∈ blankCodes := by
  simp only [isBlank, Bool.or_eq_true, Bool.and_eq_true, decide_eq_true_eq, beq_iff_eq] at blank
  simp only [blankCodes, List.mem_cons, List.not_mem_nil]
  omega

/-- No blank stands in an identifier. -/
theorem visible_of_isIdentifier
    {cs : List Char} (identifier : isIdentifier cs = true) :
    ∀ c ∈ cs, isBlank c = false := by
  have foreign : ∀ code ∈ blankCodes, isIdentifierPart (Char.ofNat code) = false := by
    decide +kernel
  intro c here
  rw [Bool.eq_false_iff]
  intro blank
  have part := foreign c.toNat (toNat_mem_blankCodes blank)
  rw [Char.ofNat_toNat, HostType.isIdentifierPart_of_mem identifier here] at part
  cases part

theorem ne_nil_of_isIdentifier
    {cs : List Char} (identifier : isIdentifier cs = true) :
    cs ≠ [] := by
  rintro rfl
  cases identifier

end Text

namespace HostType

open Text

/-! ## What stands before a name -/

/-- A type is a declared name behind any number of pointers. -/
inductive PointsTo (ref : QualifiedName) : HostType → Prop
  | itself : PointsTo ref (.named ref)
  | pointer
      {target : HostType}
      (inner : PointsTo ref target) :
      PointsTo ref (.pointer target)

/-- Nothing but stars and blanks. -/
def Lead (cs : List Char) : Prop :=
  ∀ c ∈ cs, c = '*' ∨ isBlank c = true

theorem named_of_readLeaf
    {home : String} {cs : List Char} {type : HostType} {ref : QualifiedName}
    (reads : readLeaf home cs = .ok type)
    (leads : PointsTo ref type) :
    readName home cs = .ok (.named ref) := by
  rw [readLeaf] at reads
  split_ifs at reads
  · cases reads
    cases leads
  · cases reads
    cases leads
  · cases kind : Primitive.ofName? (String.ofList cs) with
    | some kind =>
        rw [kind] at reads
        cases reads
        cases leads
    | none =>
        rw [kind] at reads
        obtain ⟨path, name, -, -, rfl⟩ := refers_of_readName reads
        cases leads
        exact reads

/-- A text that is read as a name behind pointers is the text of the name behind stars and
blanks. -/
theorem exists_lead_of_read
    {home : String} {cs : List Char} {type : HostType} {ref : QualifiedName}
    (reads : read home cs = .ok type)
    (leads : PointsTo ref type) :
    ∃ before leaf, cs = before ++ leaf ∧ Lead before ∧ leaf.head? ≠ some '*' ∧
      readName home leaf = .ok (.named ref) := by
  fun_induction read home cs generalizing type with
  | case1 => cases reads
  | case2 rest ih =>
      obtain ⟨target, inner, rfl⟩ := map_eq_ok_iff.1 reads
      cases leads with
      | pointer leads =>
          obtain ⟨before, leaf, shape, lead, plain, named⟩ := ih inner leads
          obtain ⟨blanks, spaced, blank⟩ := exists_blanks_before rest
          refine ⟨'*' :: (blanks ++ before), leaf, ?_, ?_, plain, named⟩
          · rw [spaced, shape, List.cons_append, List.append_assoc]
          · intro c here
            rcases List.mem_cons.1 here with rfl | here
            · exact .inl rfl
            · exact (List.mem_append.1 here).elim (fun here => .inr (blank c here)) (lead c)
  | case3 rest _ =>
      obtain ⟨element, -, rfl⟩ := map_eq_ok_iff.1 reads
      cases leads
  | case4 | case5 => cases reads
  | case6 rest key value cut keyType _ _ _ =>
      obtain ⟨valueType, -, rfl⟩ := map_eq_ok_iff.1 reads
      cases leads
  | case7 cs _ pointer _ _ =>
      refine ⟨[], cs, rfl, by simp [Lead], ?_, named_of_readLeaf reads leads⟩
      intro star
      obtain ⟨rest, shape⟩ := List.head?_eq_some_iff.1 star
      exact pointer rest shape

theorem afterLast_of_readName
    {home : String} {cs : List Char} {ref : QualifiedName}
    (reads : readName home cs = .ok (.named ref)) :
    String.ofList (afterLast '.' cs) = ref.name ∧ isIdentifier (afterLast '.' cs) = true := by
  obtain ⟨path, name, parts, refers, same⟩ := refers_of_readName reads
  have cut : afterLast '.' cs = name := by
    rw [afterLast]
    cases cut : splitLast '.' cs with
    | none | some pieces =>
        rw [cut] at parts
        cases parts
        rfl
  cases same
  exact ⟨congrArg String.ofList cut, cut ▸ refers.identifier⟩

end HostType

namespace Provider

variable {provider : Provider} {inside : String}

/-! ## Paths through embedded members -/

/-- A candidate is one of the members, or one of the candidates of a record that a member embeds. -/
theorem mem_candidatesWithin
    {levels : Nat} {entered : List QualifiedName} {trail : List String} {via : String}
    {members : List Field} {candidate : Candidate}
    (chosen : candidate ∈ provider.candidatesWithin inside (levels + 1) entered trail via members) :
    ∃ member ∈ members,
      member.embedded = false ∧ candidate.field = provider.fieldAt inside trail via member ∨
      member.embedded = true ∧ ∃ record : Declarations.DeclaredRecord,
        candidate ∈ provider.candidatesWithin inside levels (record.ref :: entered)
          (trail ++ [member.name]) record.ref.name record.body := by
  obtain ⟨member, here, chosen⟩ := List.mem_flatMap.1 chosen
  refine ⟨member, here, ?_⟩
  split_ifs at chosen with embedded visible
  · cases found : provider.declarations.embeddedRecord? member.type with
    | none => simp [found] at chosen
    | some record =>
        rw [found] at chosen
        dsimp only at chosen
        split_ifs at chosen
        · cases chosen
        · exact .inr ⟨embedded, record, chosen⟩
  · cases List.mem_singleton.1 chosen
    exact .inl ⟨by simpa using embedded, rfl⟩
  · cases chosen

/-- The path of a candidate continues the way on which it is met, and ends with its name. -/
theorem exists_path_of_mem_candidatesWithin
    {levels : Nat} {entered : List QualifiedName} {trail : List String} {via : String}
    {members : List Field} {candidate : Candidate}
    (chosen : candidate ∈ provider.candidatesWithin inside levels entered trail via members) :
    ∃ steps, candidate.field.accessPath =
      ".".intercalate (trail ++ steps ++ [candidate.field.name]) := by
  induction levels generalizing entered trail via members with
  | zero => cases chosen
  | succ levels ih =>
      obtain ⟨member, -, ⟨-, shown⟩ | ⟨-, record, deeper⟩⟩ := mem_candidatesWithin chosen
      · exact ⟨[], by simp [shown, fieldAt]⟩
      · obtain ⟨steps, path⟩ := ih deeper
        exact ⟨member.name :: steps, by rw [path, List.append_assoc trail, List.singleton_append]⟩

/-- The name of an embedded member is the next step of each path through the member. -/
theorem exists_path_through
    {levels : Nat} {entered : List QualifiedName} {trail : List String} {via : String}
    {member : Field} {candidate : Candidate}
    (embedded : member.embedded = true)
    (chosen : candidate ∈ provider.candidatesWithin inside levels entered trail via [member]) :
    ∃ steps, candidate.field.accessPath =
      ".".intercalate (trail ++ member.name :: steps ++ [candidate.field.name]) := by
  cases levels with
  | zero => cases chosen
  | succ levels =>
      obtain ⟨_, here, ⟨plain, -⟩ | ⟨-, record, deeper⟩⟩ := mem_candidatesWithin chosen
      · cases List.mem_singleton.1 here
        simp [embedded] at plain
      · cases List.mem_singleton.1 here
        obtain ⟨steps, path⟩ := exists_path_of_mem_candidatesWithin deeper
        exact ⟨steps, by rw [path, List.append_assoc trail, List.singleton_append]⟩

end Provider

namespace FieldConfig

open Text HostType

/-! ## The name that is taken from a type -/

theorem effectiveName?_of_unnamed
    {field : FieldConfig} {base name : List Char}
    (unnamed : field.name? = none)
    (embedded : field.embedded = true)
    (starless : (strip field.type.toList).dropWhile (· == '*') = base)
    (last : afterLast '.' base = name)
    (present : name ≠ []) :
    field.effectiveName? = some (String.ofList name) := by
  simp only [effectiveName?, unnamed, embedded, if_true, starless, last]

theorem dropWhile_star_append
    {before leaf : List Char} (plain : leaf.head? ≠ some '*') :
    (before ++ leaf).dropWhile (· == '*') = before.dropWhile (· == '*') ++ leaf := by
  have kept : leaf.dropWhile (· == '*') = leaf := by
    cases leaf with
    | nil => rfl
    | cons c rest => exact List.dropWhile_cons_of_neg (by simpa using plain)
  rw [List.dropWhile_append, kept]
  split_ifs with empty
  · rw [List.isEmpty_iff.1 empty, List.nil_append]
  · rfl

/-- Stars are all that stands before a name if and only if no blank does. -/
theorem dropWhile_star_eq_nil_iff
    {before name : List Char} (lead : Lead before) (identifier : isIdentifier name = true) :
    before.dropWhile (· == '*') = [] ↔ ∀ c ∈ before ++ name, isBlank c = false := by
  rw [List.dropWhile_eq_nil_iff]
  constructor
  · intro stars c here
    rcases List.mem_append.1 here with here | here
    · rw [beq_iff_eq.1 (stars c here)]
      decide
    · exact visible_of_isIdentifier identifier c here
  · intro visible c here
    rcases lead c here with rfl | blank
    · rfl
    · rw [visible c (List.mem_append_left _ here)] at blank
      cases blank

/-- A member that embeds a named type is named after it, but for stars and blanks that stand before
the name.  There are none of them exactly if the type is written with its path, or without
blanks. -/
theorem exists_clutter
    {field : FieldConfig} {home : String} {type : HostType} {ref : QualifiedName}
    (unnamed : field.name? = none)
    (embedded : field.embedded = true)
    (reads : ofExpression field.type home = .ok type)
    (leads : PointsTo ref type) :
    ∃ clutter, Lead clutter ∧
      field.effectiveName? = some (String.ofList clutter ++ ref.name) ∧
      (clutter = [] ↔
        '.' ∈ field.type.toList ∨ ∀ c ∈ strip field.type.toList, isBlank c = false) := by
  obtain ⟨before, leaf, shape, lead, plain, named⟩ :=
    exists_lead_of_read (ofExpression_eq_ok_iff.1 reads) leads
  obtain ⟨called, identifier⟩ := afterLast_of_readName named
  have no_dot : '.' ∉ before := fun here => absurd (lead '.' here) (by decide)
  have dotted_iff : '.' ∈ field.type.toList ↔ '.' ∈ leaf := by
    rw [← mem_strip_iff (by decide), shape, List.mem_append, or_iff_right no_dot]
  have starless : (strip field.type.toList).dropWhile (· == '*') =
      before.dropWhile (· == '*') ++ leaf := by
    rw [shape, dropWhile_star_append plain]
  have fewer : before.dropWhile (· == '*') ⊆ before := (List.dropWhile_sublist _).subset
  rw [dotted_iff, shape]
  by_cases dotted : '.' ∈ leaf
  · have given := effectiveName?_of_unnamed unnamed embedded starless (afterLast_append _ dotted)
      (ne_nil_of_isIdentifier identifier)
    refine ⟨[], by simp [Lead], ?_, by simp [dotted]⟩
    rw [given, called, String.ofList_nil, String.empty_append]
  · rw [afterLast_of_not_mem dotted] at called identifier
    have undotted : '.' ∉ before.dropWhile (· == '*') ++ leaf := by
      rw [List.mem_append, not_or]
      exact ⟨fun here => no_dot (fewer here), dotted⟩
    have given := effectiveName?_of_unnamed unnamed embedded starless
      (afterLast_of_not_mem undotted)
      (List.append_ne_nil_of_right_ne_nil _ (ne_nil_of_isIdentifier identifier))
    refine ⟨before.dropWhile (· == '*'), fun c here => lead c (fewer here), ?_, ?_⟩
    · rw [given, String.ofList_append, called]
    · rw [dropWhile_star_eq_nil_iff lead identifier, or_iff_right dotted]

/-- A member that is given no name and embeds a declared type, behind any number of pointers, always
gets a name, which is the step of every path through it.  It is the name of the type if and only if
the type is written with its path or without a blank in it; else stars and blanks stand before
it. -/
theorem embedded_name_iff
    {field : FieldConfig} {home : String} {type : HostType} {ref : QualifiedName}
    (unnamed : field.name? = none)
    (embedded : field.embedded = true)
    (reads : ofExpression field.type home = .ok type)
    (leads : PointsTo ref type) :
    (field.effectiveName? = some ref.name ↔
        '.' ∈ field.type.toList ∨ ∀ c ∈ strip field.type.toList, isBlank c = false) ∧
      ∃ member,
        Catalog.readField home field = .ok member ∧
        member.type = type ∧ member.embedded = true ∧
        field.effectiveName? = some member.name ∧
        (∃ clutter, Lead clutter ∧ member.name = String.ofList clutter ++ ref.name) ∧
        ∀ (provider : Provider) inside levels entered trail via,
          ∀ candidate ∈ provider.candidatesWithin inside levels entered trail via [member],
            ∃ steps, candidate.field.accessPath =
              ".".intercalate (trail ++ member.name :: steps ++ [candidate.field.name]) := by
  obtain ⟨clutter, lead, given, nothing_iff⟩ := exists_clutter unnamed embedded reads leads
  constructor
  · rw [← nothing_iff, given, Option.some_inj]
    constructor
    · intro same
      have lengths := congrArg String.length same
      rw [String.length_append, String.length_ofList] at lengths
      exact List.length_eq_zero_iff.1 (by omega)
    · rintro rfl
      rw [String.ofList_nil, String.empty_append]
  · let name := String.ofList clutter ++ ref.name
    refine ⟨⟨name, type, field.embedded, field.isVisible name⟩, ?_, rfl, embedded, given,
      ⟨clutter, lead, rfl⟩, ?_⟩
    · rw [Catalog.readField, reads, given]
      rfl
    · intro provider inside levels entered trail via candidate chosen
      exact Provider.exists_path_through embedded chosen

/-- A pointer to a pointer to a base of another namespace, with blanks around the stars. -/
def qualifiedBase : FieldConfig :=
  ⟨none, " ** a/b.Base ", true, none⟩

/-- Blanks behind a star are harmless before a path. -/
theorem embedded_name_iff_qualified :
    ofExpression qualifiedBase.type "m" = .ok (.pointer (.pointer (.named ⟨"a/b", "Base"⟩))) ∧
      qualifiedBase.effectiveName? = some "Base" := by
  have reads : ofExpression qualifiedBase.type "m" =
      .ok (.pointer (.pointer (.named ⟨"a/b", "Base"⟩))) := by decide +kernel
  have unnamed : qualifiedBase.name? = none := rfl
  have named := embedded_name_iff unnamed rfl reads (.pointer (.pointer .itself))
  exact ⟨reads, named.1.2 (.inl (by decide))⟩

/-- A pointer to a base, with a blank behind the star. -/
def spacedBase : FieldConfig :=
  ⟨none, "* Base", true, none⟩

/-- A configuration of a user with that base. -/
def spacedUser : CatalogConfig :=
  .inModel
    [("Base", ⟨some [⟨some "ID", "int", false, none⟩], none, none, []⟩),
      ("User", ⟨some [spacedBase], none, none, []⟩)]

/-- A base whose name, and with it the path of what the base declares, begins with a blank. -/
theorem embedded_name_spaced :
    ofExpression spacedBase.type "m" = .ok (.pointer (.named ⟨"m", "Base"⟩)) ∧
      PointsTo ⟨"m", "Base"⟩ (.pointer (.named ⟨"m", "Base"⟩)) ∧
      spacedBase.effectiveName? = some " Base" ∧
      spacedBase.effectiveName? ≠ some "Base" ∧
      spacedUser.validate = [] ∧
      ∃ catalog, Catalog.ofConfig spacedUser = .ok catalog ∧
        ∃ record, catalog.provider.record? ⟨"m", "User"⟩ = .ok record ∧
          record.fields.map (·.accessPath) = [" Base.ID"] := by
  have offered :
      (Catalog.ofConfig spacedUser).toOption.any (fun catalog =>
        (catalog.provider.record? ⟨"m", "User"⟩).toOption.any fun record =>
          record.fields.map (·.accessPath) = [" Base.ID"]) = true := by
    decide +kernel
  obtain ⟨catalog, built, offered⟩ := exists_ok_of_any offered
  obtain ⟨record, found, paths⟩ := exists_ok_of_any offered
  exact ⟨by decide +kernel, .pointer .itself, by decide, by decide, by decide +kernel,
    catalog, built, record, found, of_decide_eq_true paths⟩

end FieldConfig
end RecordConversion
