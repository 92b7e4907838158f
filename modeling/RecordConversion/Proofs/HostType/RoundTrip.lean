import RecordConversion.Proofs.HostType.Brackets
import RecordConversion.Proofs.Reading
import RecordConversion.Rule.Standard

/-!
# Types read back from their text

The text of a type that was read is a type expression for the same type, wherever it is written: the
names in it are qualified, and no part of it can be taken for the beginning of another type.  The
namespace in which the expression was written must have an ordinary path, since that path comes
first in the text of an unqualified name.

* `readBack_of_read`: what is read is read back, and a key stays between its brackets.
* `text_reads_back`: the text of a type denotes it, and tells it from every other type that was
  read.
-/

namespace RecordConversion
namespace HostType

open Text

/-- A namespace path whose text begins no type other than a name. -/
structure OrdinaryPath (path : String) : Prop where
  bracketless : Bracketless path.toList
  not_pointer : ¬ "*".toList <+: path.toList
  not_function : ¬ "func(".toList <+: path.toList
  not_record : ¬ "struct\x7b".toList <+: path.toList

/-- The text of a type denotes it in every namespace. -/
structure ReadBack (type : HostType) : Prop where
  trimmed : Trimmed type.text.toList
  reads : ∀ home, read home type.text.toList = .ok type

/-! ## Texts of one piece -/

/-- The beginnings of types that are put together from others. -/
def composedOpenings : List (List Char) :=
  ["*".toList, "[]".toList, "map[".toList]

/-- A text that is not put together from the texts of other types. -/
structure OnePiece (cs : List Char) : Prop where
  present : cs ≠ []
  simple : ∀ opening ∈ composedOpenings, ¬ opening <+: cs

theorem OnePiece.of_not_composed
    {cs : List Char} (present : cs ≠ [])
    (pointer : ∀ rest, cs ≠ '*' :: rest)
    (slice : ∀ rest, cs ≠ '[' :: ']' :: rest)
    (map : ∀ rest, cs ≠ 'm' :: 'a' :: 'p' :: '[' :: rest) :
    OnePiece cs := by
  refine ⟨present, ?_⟩
  simp only [composedOpenings, List.forall_mem_cons]
  refine ⟨?_, ?_, ?_, by simp⟩
  · rintro ⟨rest, shape⟩
    exact pointer rest shape.symm
  · rintro ⟨rest, shape⟩
    exact slice rest shape.symm
  · rintro ⟨rest, shape⟩
    exact map rest shape.symm

theorem read_of_onePiece
    {cs : List Char} (piece : OnePiece cs) (home : String) :
    read home cs = readLeaf home cs := by
  obtain ⟨present, simple⟩ := piece
  simp only [composedOpenings, List.forall_mem_cons] at simple
  obtain ⟨pointer, slice, map, -⟩ := simple
  fun_cases read home cs with
  | case1 => exact absurd rfl present
  | case2 rest => exact absurd ⟨rest, rfl⟩ pointer
  | case3 rest => exact absurd ⟨rest, rfl⟩ slice
  | case4 rest => exact absurd ⟨rest, rfl⟩ map
  | case5 rest => exact absurd ⟨rest, rfl⟩ map
  | case6 rest => exact absurd ⟨rest, rfl⟩ map
  | case7 => rfl

/-- A trimmed text of one piece that is read from anywhere as the type with that text. -/
theorem readBack_of_onePiece
    {type : HostType}
    (trimmed : Trimmed type.text.toList)
    (piece : OnePiece type.text.toList)
    (reads : ∀ home, readLeaf home type.text.toList = .ok type) :
    ReadBack type :=
  ⟨trimmed, fun home => (read_of_onePiece piece home).trans (reads home)⟩

theorem readBack_interface :
    ReadBack .interface := by
  apply readBack_of_onePiece
  · exact strip_eq_self_iff.1 (by decide)
  · exact ⟨by decide, by decide⟩
  · exact fun home => rfl

theorem readBack_primitive
    (kind : Primitive) :
    ReadBack (.primitive kind) := by
  have trimmed : strip kind.name.toList = kind.name.toList := by cases kind <;> decide
  have simple : ∀ opening ∈ composedOpenings, ¬ opening <+: kind.name.toList := by
    cases kind <;> decide
  have not_interface : isInterfaceText kind.name.toList = false := by cases kind <;> decide
  have not_text : textOpenings.any (·.isPrefixOf kind.name.toList) = false := by
    cases kind <;> decide
  apply readBack_of_onePiece
  · exact strip_eq_self_iff.1 trimmed
  · exact ⟨by cases kind <;> decide, simple⟩
  · intro home
    simp [readLeaf, text, not_interface, not_text, Primitive.ofName?_name]

theorem balanced_primitive
    (kind : Primitive) :
    Balanced (HostType.primitive kind).text.toList := by
  cases kind <;> decide

theorem readBack_other
    {cs : List Char}
    (trimmed : Trimmed cs)
    (piece : OnePiece cs)
    (not_interface : isInterfaceText cs = false)
    (opens : textOpenings.any (·.isPrefixOf cs) = true) :
    ReadBack (.other (String.ofList cs)) := by
  have spelled : (HostType.other (String.ofList cs)).text.toList = cs := String.toList_ofList
  apply readBack_of_onePiece
  · rwa [spelled]
  · rwa [spelled]
  · intro home
    rw [spelled]
    simp [readLeaf, not_interface, opens]

/-! ## Names -/

theorem text_named
    {path : List Char} (present : path ≠ []) (name : List Char) :
    (HostType.named ⟨String.ofList path, String.ofList name⟩).text.toList =
      path ++ '.' :: name := by
  simp [text, QualifiedName.text, present]

/-- A path and a name that stand for a declared type. -/
structure Refers (path name : List Char) : Prop where
  present : path ≠ []
  visible : path.any isBlank = false
  identifier : isIdentifier name = true

theorem readName_of_refers
    {home : String} {cs path name : List Char}
    (cut : (splitLast '.' cs).getD (home.toList, cs) = (path, name))
    (refers : Refers path name) :
    readName home cs = .ok (.named ⟨String.ofList path, String.ofList name⟩) := by
  obtain ⟨present, visible, identifier⟩ := refers
  simp [readName, cut, present, visible, identifier]

theorem refers_of_readName
    {home : String} {cs : List Char} {type : HostType}
    (reads : readName home cs = .ok type) :
    ∃ path name, (splitLast '.' cs).getD (home.toList, cs) = (path, name) ∧
      Refers path name ∧ type = .named ⟨String.ofList path, String.ofList name⟩ := by
  rw [readName] at reads
  generalize (splitLast '.' cs).getD (home.toList, cs) = parts at reads ⊢
  obtain ⟨path, name⟩ := parts
  dsimp only at reads
  split_ifs at reads with bad_path identifier
  simp only [Bool.or_eq_true, List.isEmpty_iff, not_or, Bool.not_eq_true] at bad_path
  exact ⟨path, name, rfl, ⟨bad_path.1, bad_path.2, identifier⟩, (Except.ok.inj reads).symm⟩

/-- An opening without a dot that begins a qualified name begins its path: a longer one would hold
the dot. -/
theorem isPrefix_path
    {opening path name : List Char}
    (undotted : '.' ∉ opening)
    (begins : opening <+: path ++ '.' :: name) :
    opening <+: path := by
  rcases List.prefix_or_prefix_of_prefix begins (List.prefix_append path ('.' :: name)) with
    here | ⟨rest, rfl⟩
  · exact here
  · cases rest with
    | nil => simp
    | cons c more =>
        obtain ⟨later, shape⟩ := begins
        simp only [List.append_assoc, List.append_cancel_left_eq, List.cons_append,
          List.cons.injEq] at shape
        simp [shape.1] at undotted

theorem not_interface_of_dot
    {cs : List Char} (dotted : '.' ∈ cs) :
    isInterfaceText cs = false := by
  rw [isInterfaceText, Bool.or_eq_false_iff, beq_eq_false_iff_ne, beq_eq_false_iff_ne]
  constructor
  · rintro rfl
    exact absurd dotted (by decide)
  · intro same
    have kept : '.' ∈ cs.filter (· != ' ') := List.mem_filter.2 ⟨dotted, by decide⟩
    rw [same] at kept
    exact absurd kept (by decide)

theorem ofName?_of_dot
    {cs : List Char} (dotted : '.' ∈ cs) :
    Primitive.ofName? (String.ofList cs) = none := by
  rw [Primitive.ofName?]
  · refine List.find?_eq_none.2 fun kind _ => ?_
    rw [beq_iff_eq]
    intro same
    have spelled : kind.name.toList = cs := by rw [same, String.toList_ofList]
    rw [← spelled] at dotted
    revert dotted
    cases kind <;> decide
  · intro same
    rw [← String.toList_inj, String.toList_ofList] at same
    subst same
    exact absurd dotted (by decide)
  · intro same
    rw [← String.toList_inj, String.toList_ofList] at same
    subst same
    exact absurd dotted (by decide)

theorem undotted_of_opening :
    ∀ opening ∈ composedOpenings ++ textOpenings, '.' ∉ opening := by
  decide

/-- An ordinary path without blanks is no beginning of a type. -/
theorem OrdinaryPath.opens_nothing
    {path : String}
    (ordinary : OrdinaryPath path)
    (visible : ∀ c ∈ path.toList, isBlank c = false) :
    ∀ opening ∈ composedOpenings ++ textOpenings, ¬ opening <+: path.toList := by
  have no_blank (opening : List Char) (blank : ' ' ∈ opening) : ¬ opening <+: path.toList :=
    fun begins => absurd (visible ' ' (begins.subset blank)) (by decide)
  have no_bracket (opening : List Char) (bracket : '[' ∈ opening) : ¬ opening <+: path.toList :=
    fun begins => ordinary.bracketless.opening (begins.subset bracket)
  simp only [composedOpenings, textOpenings, List.cons_append, List.nil_append,
    List.forall_mem_cons]
  exact ⟨ordinary.not_pointer, no_bracket _ (by decide), no_bracket _ (by decide),
    no_blank _ (by decide), no_blank _ (by decide), ordinary.not_function, ordinary.not_record,
    no_bracket _ (by decide), by simp⟩

/-- A name in an ordinary namespace, with its path before it. -/
theorem readBack_unqualified
    {home : String} {name : List Char}
    (ordinary : OrdinaryPath home)
    (refers : Refers home.toList name)
    (undotted : '.' ∉ name)
    (trimmed : Trimmed name)
    (present : name ≠ []) :
    ReadBack (.named ⟨String.ofList home.toList, String.ofList name⟩) := by
  have spelled := text_named refers.present name
  have visible : ∀ c ∈ home.toList, isBlank c = false := by simpa using refers.visible
  have dotted : '.' ∈ home.toList ++ '.' :: name := by simp
  have simple : ∀ opening ∈ composedOpenings ++ textOpenings,
      ¬ opening <+: home.toList ++ '.' :: name := by
    intro opening listed begins
    exact ordinary.opens_nothing visible opening listed
      (isPrefix_path (undotted_of_opening opening listed) begins)
  have plain : textOpenings.any (·.isPrefixOf (home.toList ++ '.' :: name)) = false := by
    rw [List.any_eq_false]
    intro opening listed begins
    exact simple opening (List.mem_append_right _ listed) (List.isPrefixOf_iff_prefix.1 begins)
  apply readBack_of_onePiece
  · rw [spelled, ← List.singleton_append, ← List.append_assoc]
    apply trimmed.append _ _ present
    intro c here
    rw [List.head?_append, List.head?_eq_some_head refers.present, Option.some_or,
      ← List.head?_eq_some_head refers.present] at here
    exact visible c (List.mem_of_mem_head? here)
  · rw [spelled]
    exact ⟨by simp, fun opening listed => simple opening (List.mem_append_left _ listed)⟩
  · intro elsewhere
    rw [spelled, readLeaf, not_interface_of_dot dotted, plain, ofName?_of_dot dotted]
    exact readName_of_refers (by rw [splitLast_append undotted]; rfl) refers

/-- A name with its path, which is read as it stands. -/
theorem readBack_qualified
    {cs path name : List Char}
    (trimmed : Trimmed cs)
    (piece : OnePiece cs)
    (plain : textOpenings.any (·.isPrefixOf cs) = false)
    (cut : splitLast '.' cs = some (path, name))
    (refers : Refers path name) :
    ReadBack (.named ⟨String.ofList path, String.ofList name⟩) := by
  obtain ⟨shape, undotted⟩ := splitLast_eq_some_iff.1 cut
  have dotted : '.' ∈ cs := by simp [shape]
  have spelled := (text_named refers.present name).trans shape.symm
  apply readBack_of_onePiece
  · rwa [spelled]
  · rwa [spelled]
  · intro home
    rw [spelled, readLeaf, not_interface_of_dot dotted, plain, ofName?_of_dot dotted]
    exact readName_of_refers (by rw [cut]; rfl) refers

/-! ## Reading a text of one piece -/

/-- A text of one piece is read as a type that is read back, and the text of that type has no
brackets but those of the given text. -/
theorem readBack_of_readLeaf
    {home : String} {cs : List Char} {type : HostType}
    (ordinary : OrdinaryPath home)
    (trimmed : Trimmed cs)
    (piece : OnePiece cs)
    (reads : readLeaf home cs = .ok type) :
    ReadBack type ∧ (Balanced cs → Balanced type.text.toList) := by
  rw [readLeaf] at reads
  split_ifs at reads with interface opens
  · obtain rfl := Except.ok.inj reads
    exact ⟨readBack_interface, fun _ => by decide⟩
  · obtain rfl := Except.ok.inj reads
    refine ⟨readBack_other trimmed piece (by simpa using interface) opens, ?_⟩
    rw [text, String.toList_ofList]
    exact id
  · cases kind : Primitive.ofName? (String.ofList cs) with
    | some kind =>
        rw [kind] at reads
        obtain rfl := Except.ok.inj reads
        exact ⟨readBack_primitive _, fun _ => balanced_primitive _⟩
    | none =>
        rw [kind] at reads
        obtain ⟨path, name, parts, refers, rfl⟩ := refers_of_readName reads
        cases cut : splitLast '.' cs with
        | some pieces =>
            rw [cut, Option.getD_some] at parts
            subst parts
            obtain ⟨shape, -⟩ := splitLast_eq_some_iff.1 cut
            rw [text_named refers.present, ← shape]
            exact ⟨readBack_qualified trimmed piece (by simpa using opens) cut refers, id⟩
        | none =>
            rw [cut, Option.getD_none] at parts
            cases parts
            have undotted := splitLast_eq_none_iff.1 cut
            refine ⟨readBack_unqualified ordinary refers undotted trimmed piece.present, ?_⟩
            intro balanced
            rw [text_named refers.present, Balanced, openAfter_append,
              openAfter_of_bracketless ordinary.bracketless, Option.bind_some,
              openAfter_cons (by decide) (by decide)]
            exact balanced

/-! ## Types put together -/

theorem ReadBack.present
    {type : HostType} (back : ReadBack type) :
    type.text.toList ≠ [] := by
  intro empty
  have reads := back.reads ""
  rw [empty, read] at reads
  cases reads

theorem text_pointer
    (target : HostType) :
    (HostType.pointer target).text.toList = '*' :: target.text.toList := by
  simp [text]

theorem text_slice
    (element : HostType) :
    (HostType.slice element).text.toList = '[' :: ']' :: element.text.toList := by
  simp [text]

theorem text_map
    (key value : HostType) :
    (HostType.map key value).text.toList =
      'm' :: 'a' :: 'p' :: '[' :: (key.text.toList ++ ']' :: value.text.toList) := by
  simp [text]

theorem ReadBack.pointer
    {target : HostType} (back : ReadBack target) :
    ReadBack (.pointer target) := by
  refine ⟨?_, fun home => ?_⟩
  · rw [text_pointer]
    exact back.trimmed.append ['*'] (by simp [isBlank]) back.present
  · rw [text_pointer, read, dropBlanks_eq_self back.trimmed.first, back.reads]
    rfl

theorem ReadBack.slice
    {element : HostType} (back : ReadBack element) :
    ReadBack (.slice element) := by
  refine ⟨?_, fun home => ?_⟩
  · rw [text_slice]
    exact back.trimmed.append ['[', ']'] (by simp [isBlank]) back.present
  · rw [text_slice, read, dropBlanks_eq_self back.trimmed.first, back.reads]
    rfl

/-- The key of a map type is read back between its brackets if its text is balanced. -/
theorem ReadBack.map
    {key value : HostType}
    (back : ReadBack key)
    (back' : ReadBack value)
    (balanced : Balanced key.text.toList) :
    ReadBack (.map key value) := by
  refine ⟨?_, fun home => ?_⟩
  · have trimmed := back'.trimmed.append
      ('m' :: 'a' :: 'p' :: '[' :: (key.text.toList ++ [']'])) (by simp [isBlank])
      back'.present
    simpa [text_map] using trimmed
  · have cut := splitAtClose_append balanced value.text.toList
    rw [text_map, read]
    split
    next none => simp [cut] at none
    next found =>
      rw [cut] at found
      cases found
      rw [strip_eq_self_iff.2 back.trimmed, strip_eq_self_iff.2 back'.trimmed, back.reads,
        back'.reads]
      rfl

/-! ## Reading any text -/

/-- What is read from a trimmed text is read back, and a balanced text gives a type with a balanced
text. -/
theorem readBack_of_read
    {home : String} {cs : List Char} {type : HostType}
    (ordinary : OrdinaryPath home)
    (trimmed : Trimmed cs)
    (reads : read home cs = .ok type) :
    ReadBack type ∧ (Balanced cs → Balanced type.text.toList) := by
  fun_induction read home cs generalizing type with
  | case1 => cases reads
  | case2 rest ih =>
      obtain ⟨target, inner, rfl⟩ := map_eq_ok_iff.1 reads
      obtain ⟨back, keeps⟩ := ih (trimmed.dropBlanks_of_append ['*']) inner
      refine ⟨back.pointer, fun balanced => ?_⟩
      rw [text_pointer, balanced_pointer_iff]
      exact keeps (balanced_dropBlanks_iff.2 (balanced_pointer_iff.1 balanced))
  | case3 rest ih =>
      obtain ⟨element, inner, rfl⟩ := map_eq_ok_iff.1 reads
      obtain ⟨back, keeps⟩ := ih (trimmed.dropBlanks_of_append ['[', ']']) inner
      refine ⟨back.slice, fun balanced => ?_⟩
      rw [text_slice, balanced_slice_iff]
      exact keeps (balanced_dropBlanks_iff.2 (balanced_slice_iff.1 balanced))
  | case4 rest => cases reads
  | case5 rest key value cut fault faulty => cases reads
  | case6 rest key value cut keyType reads_key ih_key ih_value =>
      obtain ⟨valueType, inner, rfl⟩ := map_eq_ok_iff.1 reads
      obtain ⟨rfl, balanced_key⟩ := splitAtClose_eq_some_iff.1 cut
      obtain ⟨back, keeps⟩ := ih_key (trimmed_strip key) reads_key
      obtain ⟨back', keeps'⟩ := ih_value (trimmed_strip value) inner
      have balanced_keyType := keeps (balanced_strip_iff.2 balanced_key)
      refine ⟨back.map back' balanced_keyType, fun balanced => ?_⟩
      rw [text_map, balanced_map_iff balanced_keyType]
      exact keeps' (balanced_strip_iff.2 ((balanced_map_iff balanced_key).1 balanced))
  | case7 cs present pointer slice map =>
      exact readBack_of_readLeaf ordinary trimmed (.of_not_composed present pointer slice map) reads

/-! ## Type expressions -/

theorem ofExpression_eq_ok_iff
    {expression home : String} {type : HostType} :
    ofExpression expression home = .ok type ↔ read home (strip expression.toList) = .ok type := by
  rw [ofExpression]
  cases read home (strip expression.toList) <;> simp

theorem readBack_of_ofExpression
    {expression home : String} {type : HostType}
    (ordinary : OrdinaryPath home)
    (reads : ofExpression expression home = .ok type) :
    ReadBack type :=
  (readBack_of_read ordinary (trimmed_strip _) (ofExpression_eq_ok_iff.1 reads)).1

theorem ReadBack.ofExpression_text
    {type : HostType} (back : ReadBack type) (home : String) :
    ofExpression type.text home = .ok type := by
  rw [ofExpression_eq_ok_iff, strip_eq_self_iff.2 back.trimmed]
  exact back.reads home

/-- Types that are read back from one text are the same type. -/
theorem ReadBack.eq_of_text_eq
    {type type' : HostType}
    (back : ReadBack type)
    (back' : ReadBack type')
    (same : type.text = type'.text) :
    type = type' := by
  have reads := back.ofExpression_text ""
  rw [same, back'.ofExpression_text ""] at reads
  exact (Except.ok.inj reads).symm

/-- The text of a type that was read in an ordinary namespace denotes the type wherever it is
written.  Two such types with one text are equal, so to be spelled alike adds nothing to being
identical but equality. -/
theorem text_reads_back
    {expression home : String} {type : HostType}
    (ordinary : OrdinaryPath home)
    (reads : ofExpression expression home = .ok type) :
    (∀ elsewhere, ofExpression type.text elsewhere = .ok type) ∧
      ∀ expression' home' type',
        OrdinaryPath home' →
        ofExpression expression' home' = .ok type' →
        (type.text = type'.text → type = type') ∧
          ∀ provider : Provider,
            provider.alike type type' = true ↔
              provider.identical type type' = true ∨ type = type' := by
  have back := readBack_of_ofExpression ordinary reads
  refine ⟨back.ofExpression_text, ?_⟩
  intro expression' home' type' ordinary' reads'
  have one := back.eq_of_text_eq (readBack_of_ofExpression ordinary' reads')
  refine ⟨one, fun provider => ?_⟩
  rw [Provider.alike, Bool.or_eq_true, beq_iff_eq]
  exact or_congr_right ⟨one, congrArg text⟩

/-- Pages of orders by four states, written in the namespace `shop` and, qualified, in `mail`. -/
theorem text_reads_back_orders :
    OrdinaryPath "shop" ∧ OrdinaryPath "mail" ∧
      ∃ orders,
        ofExpression " map[ [4]Status ] *[] Order" "shop" = .ok orders ∧
        ofExpression "map[[4]Status]* []shop.Order" "mail" = .ok orders ∧
        (∀ elsewhere, ofExpression "map[[4]Status]*[]shop.Order" elsewhere = .ok orders) ∧
        ∀ provider : Provider,
          provider.alike orders orders = true ↔
            provider.identical orders orders = true ∨ orders = orders := by
  have shop : OrdinaryPath "shop" := ⟨⟨by decide, by decide⟩, by decide, by decide, by decide⟩
  have mail : OrdinaryPath "mail" := ⟨⟨by decide, by decide⟩, by decide, by decide, by decide⟩
  let orders : HostType := .map (.other "[4]Status") (.pointer (.slice (.named ⟨"shop", "Order"⟩)))
  have written : ofExpression " map[ [4]Status ] *[] Order" "shop" = .ok orders := by
    decide +kernel
  have qualified : ofExpression "map[[4]Status]* []shop.Order" "mail" = .ok orders := by
    decide +kernel
  obtain ⟨anywhere, others⟩ := text_reads_back shop written
  exact ⟨shop, mail, orders, written, qualified, anywhere, (others _ _ _ mail qualified).2⟩

end HostType
end RecordConversion
