import RecordConversion.Proofs.Catalog.Building
import RecordConversion.Proofs.Catalog.Lookup
import RecordConversion.Proofs.HostType.Namespaces

/-!
# Texts of the faults between declarations

The second round of validation reports a declaration by its key and a fault by its words.  A name
that is written in an expression has no blanks, and a declared name has no dots once the first round
has passed.  So the last word of such a text tells the fault, and what stands before it the
declaration: no two errors of the second round have one text.

* `ValidationError.message_inj`: the text of an error of the second round tells the error.
* `CatalogConfig.mem_messages_iff`: a text is reported exactly if its error is.
-/

namespace RecordConversion

open HostType (Refers)

/-! ## Names in types that are read -/

namespace HostType

/-- A name in a type that is read has a path without blanks and is an identifier. -/
theorem refers_of_mem_names
    {home : String} {cs : List Char} {type : HostType}
    (reads : read home cs = .ok type) {ref : QualifiedName} (here : ref ∈ type.names) :
    Refers ref.path.toList ref.name.toList := by
  fun_induction read home cs generalizing type with
  | case1 => cases reads
  | case2 rest ih =>
      obtain ⟨target, inner, rfl⟩ := map_eq_ok_iff.1 reads
      exact ih inner here
  | case3 rest ih =>
      obtain ⟨element, inner, rfl⟩ := map_eq_ok_iff.1 reads
      exact ih inner here
  | case4 => cases reads
  | case5 => cases reads
  | case6 rest key value _ keyType reads_key ih_key ih_value =>
      obtain ⟨element, inner, rfl⟩ := map_eq_ok_iff.1 reads
      rcases List.mem_append.1 here with in_key | in_value
      · exact ih_key reads_key in_key
      · exact ih_value inner in_value
  | case7 cs =>
      rw [readLeaf] at reads
      split_ifs at reads
      · cases reads
        cases here
      · cases reads
        cases here
      · split at reads
        · cases reads
          cases here
        · obtain ⟨path, name, -, refers, rfl⟩ := refers_of_readName reads
          obtain rfl := List.mem_singleton.1 here
          simpa using refers

end HostType

/-! ## Keys and texts of names -/

namespace QualifiedName

theorem undotted_of_isIdentifier
    {cs : List Char} (identifier : Text.isIdentifier cs = true) :
    '.' ∉ cs :=
  HostType.not_mem_of_isIdentifier identifier (by decide)

theorem toList_key
    (ref : QualifiedName) :
    ref.key.toList = ref.path.toList ++ '.' :: ref.name.toList := by
  simp [key]

/-- The key of a name whose own part has no dot tells it. -/
theorem key_inj
    {ref other : QualifiedName}
    (undotted : '.' ∉ ref.name.toList) (undotted' : '.' ∉ other.name.toList)
    (same : ref.key = other.key) :
    ref = other := by
  have cut := congrArg (Text.splitLast '.') (congrArg String.toList same)
  rw [toList_key, toList_key, Text.splitLast_append undotted,
    Text.splitLast_append undotted'] at cut
  obtain ⟨path, name⟩ := Prod.mk.inj (Option.some.inj cut)
  cases ref
  cases other
  exact congrArg₂ mk (String.toList_inj.1 path) (String.toList_inj.1 name)

/-- A name that can be written has its key as text. -/
theorem text_eq_key
    {ref : QualifiedName} (refers : Refers ref.path.toList ref.name.toList) :
    ref.text = ref.key := by
  have present : ref.path.isEmpty = false := by
    simpa [String.isEmpty_iff, ← String.toList_eq_nil_iff] using refers.present
  simp [text, present, key]

theorem unblank_key
    {ref : QualifiedName} (refers : Refers ref.path.toList ref.name.toList) :
    ' ' ∉ ref.key.toList := by
  rw [toList_key, List.mem_append, List.mem_cons, not_or, not_or]
  refine ⟨fun inside => ?_, by decide,
    HostType.not_mem_of_isIdentifier refers.identifier (by decide)⟩
  have visible := List.any_eq_false.1 refers.visible ' ' inside
  exact visible (by decide)

end QualifiedName

/-! ## Faults of the second round -/

namespace DeclarationFault

/-- The fault is one of the second round, and a name that it tells can be written. -/
def OfLinks : DeclarationFault → Prop
  | unknownType ref => Refers ref.path.toList ref.name.toList
  | aliasCycle | unresolved => True
  | _ => False

/-- What stands before the last blank in the text of a fault of the second round, and after it. -/
def lastBlank : DeclarationFault → String × String
  | unknownType ref => ("unknown type", ref.key)
  | aliasCycle => ("alias", "cycle")
  | unresolved => ("underlying type does not", "resolve")
  | _ => ("", "")

theorem OfLinks.toList_message
    {fault : DeclarationFault} (link : fault.OfLinks) :
    fault.message.toList = fault.lastBlank.1.toList ++ ' ' :: fault.lastBlank.2.toList ∧
      ' ' ∉ fault.lastBlank.2.toList := by
  cases fault with
  | unknownType ref =>
      have opening : "unknown type ".toList = "unknown type".toList ++ [' '] := by decide
      refine ⟨?_, QualifiedName.unblank_key link⟩
      calc (unknownType ref).message.toList
          = "unknown type ".toList ++ ref.text.toList := String.toList_append
        _ = ("unknown type".toList ++ [' ']) ++ ref.key.toList :=
            congrArg₂ (· ++ ·) opening (congrArg String.toList (QualifiedName.text_eq_key link))
        _ = "unknown type".toList ++ ' ' :: ref.key.toList := List.append_assoc ..
  | aliasCycle => exact ⟨by decide, by decide⟩
  | unresolved => exact ⟨by decide, by decide⟩
  | _ => cases link

theorem undotted_lastBlank :
    '.' ∉ aliasCycle.lastBlank.2.toList ∧ '.' ∉ unresolved.lastBlank.2.toList := by
  decide

theorem dotted_lastBlank
    (ref : QualifiedName) :
    '.' ∈ (unknownType ref).lastBlank.2.toList := by
  rw [lastBlank, QualifiedName.toList_key]
  exact List.mem_append_right _ List.mem_cons_self

/-- The last word of its text tells a fault of the second round. -/
theorem OfLinks.eq_of_lastBlank
    {fault other : DeclarationFault} (link : fault.OfLinks) (link' : other.OfLinks)
    (same : fault.lastBlank.2 = other.lastBlank.2) :
    fault = other := by
  cases fault with
  | unknownType ref =>
      cases other with
      | unknownType ref' =>
          have undotted := QualifiedName.undotted_of_isIdentifier link.identifier
          have undotted' := QualifiedName.undotted_of_isIdentifier link'.identifier
          rw [QualifiedName.key_inj undotted undotted' same]
      | aliasCycle => exact absurd (same ▸ dotted_lastBlank ref) undotted_lastBlank.1
      | unresolved => exact absurd (same ▸ dotted_lastBlank ref) undotted_lastBlank.2
      | _ => cases link'
  | aliasCycle =>
      cases other with
      | unknownType ref => exact absurd (same ▸ dotted_lastBlank ref) undotted_lastBlank.1
      | aliasCycle => rfl
      | unresolved => exact absurd same (by decide)
      | _ => cases link'
  | unresolved =>
      cases other with
      | unknownType ref => exact absurd (same ▸ dotted_lastBlank ref) undotted_lastBlank.2
      | aliasCycle => exact absurd same (by decide)
      | unresolved => rfl
      | _ => cases link'
  | _ => cases link

end DeclarationFault

namespace ValidationError

/-- The error is one of the second round, about a declaration whose name is an identifier. -/
def OfLinks : ValidationError → Prop
  | inDeclaration ref fault => Text.isIdentifier ref.name.toList = true ∧ fault.OfLinks
  | _ => False

theorem splitLast_message
    (ref : QualifiedName) {fault : DeclarationFault} (link : fault.OfLinks) :
    Text.splitLast ' ' (inDeclaration ref fault).message.toList =
      some (ref.key.toList ++ (": ".toList ++ fault.lastBlank.1.toList),
        fault.lastBlank.2.toList) := by
  obtain ⟨text, unblank⟩ := link.toList_message
  have shape : (inDeclaration ref fault).message.toList =
      (ref.key.toList ++ (": ".toList ++ fault.lastBlank.1.toList)) ++
        ' ' :: fault.lastBlank.2.toList :=
    calc (inDeclaration ref fault).message.toList
        = (ref.key ++ ": ").toList ++ fault.message.toList := String.toList_append
      _ = (ref.key.toList ++ ": ".toList) ++ fault.message.toList :=
          congrArg (· ++ fault.message.toList) String.toList_append
      _ = (ref.key.toList ++ ": ".toList) ++
            (fault.lastBlank.1.toList ++ ' ' :: fault.lastBlank.2.toList) :=
          congrArg ((ref.key.toList ++ ": ".toList) ++ ·) text
      _ = _ := by simp only [List.append_assoc]
  rw [shape, Text.splitLast_append unblank]

/-- The text of an error of the second round tells the error. -/
theorem message_inj
    {error other : ValidationError} (link : error.OfLinks) (link' : other.OfLinks)
    (same : error.message = other.message) :
    error = other := by
  cases error with
  | inDeclaration ref fault =>
      cases other with
      | inDeclaration ref' fault' =>
          have cut := congrArg (Text.splitLast ' ') (congrArg String.toList same)
          rw [splitLast_message ref link.2, splitLast_message ref' link'.2] at cut
          obtain ⟨before, word⟩ := Prod.mk.inj (Option.some.inj cut)
          obtain rfl := link.2.eq_of_lastBlank link'.2 (String.toList_inj.1 word)
          have keys : ref.key = ref'.key := String.toList_inj.1 (List.append_cancel_right before)
          have undotted := QualifiedName.undotted_of_isIdentifier link.1
          have undotted' := QualifiedName.undotted_of_isIdentifier link'.1
          rw [QualifiedName.key_inj undotted undotted' keys]
      | _ => cases link'
  | _ => cases link

end ValidationError

/-! ## What is reported -/

theorem TypeConfig.ofLinks_of_mem_linkFaults
    {config : TypeConfig} {catalog : Catalog} {ref : QualifiedName} {fault : DeclarationFault}
    (found : fault ∈ config.linkFaults catalog ref) :
    fault.OfLinks := by
  rw [linkFaults] at found
  simp only [List.mem_append, List.mem_map] at found
  rcases found with (⟨name, unknown, rfl⟩ | cyclic) | open_end
  · obtain ⟨type, given, here⟩ := List.mem_flatMap.1 (List.mem_filter.1 unknown).1
    obtain ⟨expression, -, read⟩ := List.mem_filterMap.1 given
    cases reading : HostType.ofExpression expression ref.path with
    | error fault => simp [reading, Except.toOption] at read
    | ok type' =>
        simp only [reading, Except.toOption, Option.some.injEq] at read
        subst read
        exact HostType.refers_of_mem_names (HostType.ofExpression_eq_ok_iff.1 reading) here
  · split_ifs at cyclic
    · obtain rfl := List.mem_singleton.1 cyclic
      trivial
    · cases cyclic
  · split_ifs at open_end
    · obtain rfl := List.mem_singleton.1 open_end
      trivial
    · cases open_end

namespace CatalogConfig

variable {config : CatalogConfig} {catalog : Catalog}

theorem ofLinks_of_mem_linkErrors
    (faultless : config.ownErrors = [])
    {error : ValidationError} (found : error ∈ config.linkErrors catalog) :
    error.OfLinks := by
  simp only [linkErrors, List.mem_flatMap, List.mem_map, Prod.exists] at found
  obtain ⟨path, space, here, name, type, given, fault, found, rfl⟩ := found
  exact ⟨(faultless_of_ownErrors faultless here given).2,
    TypeConfig.ofLinks_of_mem_linkFaults found⟩

/-- A fault is found with a declaration exactly if it is found with what is configured for it. -/
theorem mem_linkErrors_iff
    {path name : String} {space : NamespaceConfig} {type : TypeConfig}
    (here : (path, space) ∈ config.namespaces.entries)
    (given : (name, type) ∈ space.types.entries) (fault : DeclarationFault) :
    .inDeclaration ⟨path, name⟩ fault ∈ config.linkErrors catalog ↔
      fault ∈ type.linkFaults catalog ⟨path, name⟩ := by
  simp only [linkErrors, List.mem_flatMap, List.mem_map, Prod.exists,
    ValidationError.inDeclaration.injEq, QualifiedName.mk.injEq]
  constructor
  · rintro ⟨_, space', here', _, type', given', _, found, ⟨rfl, rfl⟩, rfl⟩
    obtain rfl : space' = space := by
      rw [← Keyed.get?_eq_some_iff] at here here'
      exact Option.some.inj (here'.symm.trans here)
    obtain rfl : type' = type := by
      rw [← Keyed.get?_eq_some_iff] at given given'
      exact Option.some.inj (given'.symm.trans given)
    exact found
  · exact fun found => ⟨path, space, here, name, type, given, fault, found, ⟨rfl, rfl⟩, rfl⟩

/-- Of a configuration without faults of the first round, the text of a fault of a declaration is
reported exactly if the fault is found with what is configured for it. -/
theorem mem_messages_iff
    (faultless : config.ownErrors = []) (built : config.validate = config.linkErrors catalog)
    {path name : String} {space : NamespaceConfig} {type : TypeConfig}
    (here : (path, space) ∈ config.namespaces.entries)
    (given : (name, type) ∈ space.types.entries) {fault : DeclarationFault}
    (link : fault.OfLinks) :
    (ValidationError.inDeclaration ⟨path, name⟩ fault).message ∈
        config.validate.map ValidationError.message ↔
      fault ∈ type.linkFaults catalog ⟨path, name⟩ := by
  have named : Text.isIdentifier name.toList = true :=
    (faultless_of_ownErrors faultless here given).2
  rw [built, ← mem_linkErrors_iff here given, List.mem_map]
  constructor
  · rintro ⟨error, found, same⟩
    have link' : (ValidationError.inDeclaration ⟨path, name⟩ fault).OfLinks := ⟨named, link⟩
    rwa [← ValidationError.message_inj (ofLinks_of_mem_linkErrors faultless found) link' same]
  · exact fun found => ⟨_, found, rfl⟩

end CatalogConfig
end RecordConversion
