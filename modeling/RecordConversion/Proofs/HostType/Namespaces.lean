import RecordConversion.Proofs.HostType.RoundTrip

/-!
# One expression in two namespaces

The names that stand in an expression without a path belong to the namespace in which it is written.
Read in two namespaces, an expression gives two types that differ in the paths of these names and in
nothing else (`HostType.exists_twins_of_read`).  What is kept as text is not looked into, so the
names in it belong nowhere.

* `HostType.Mentions`: the names that belong to the namespace of an expression.
* `HostType.Twins.eq_nil_of_text`: two such types have one text only if there are no such names.
-/

namespace RecordConversion
namespace HostType

open Text

/-- The name has a meaning of its own in every namespace. -/
def predeclared (name : List Char) : Bool :=
  name == "any".toList || (Primitive.ofName? (String.ofList name)).isSome

/-- A name stands in an expression without a path, outside of what is kept as text. -/
inductive Mentions : List Char → String → Prop
  | itself
      {name : List Char}
      (identifier : isIdentifier name = true)
      (declared : predeclared name = false) :
      Mentions name (String.ofList name)
  | pointer
      {rest : List Char} {name : String}
      (inner : Mentions (dropBlanks rest) name) :
      Mentions ('*' :: rest) name
  | slice
      {rest : List Char} {name : String}
      (inner : Mentions (dropBlanks rest) name) :
      Mentions ('[' :: ']' :: rest) name
  | key
      {rest key value : List Char} {name : String}
      (cut : splitAtClose 0 rest = some (key, value))
      (inner : Mentions (strip key) name) :
      Mentions ('m' :: 'a' :: 'p' :: '[' :: rest) name
  | value
      {rest key value : List Char} {name : String}
      (cut : splitAtClose 0 rest = some (key, value))
      (inner : Mentions (strip value) name) :
      Mentions ('m' :: 'a' :: 'p' :: '[' :: rest) name

/-- Two types that differ in the paths of the given names, which are those of two namespaces. -/
inductive Twins (a b : String) : List String → HostType → HostType → Prop
  | same
      (type : HostType) :
      Twins a b [] type type
  | name
      (name : String)
      (present : a ≠ "") (present' : b ≠ "") :
      Twins a b [name] (.named ⟨a, name⟩) (.named ⟨b, name⟩)
  | pointer
      {names : List String} {target target' : HostType}
      (inner : Twins a b names target target') :
      Twins a b names (.pointer target) (.pointer target')
  | slice
      {names : List String} {element element' : HostType}
      (inner : Twins a b names element element') :
      Twins a b names (.slice element) (.slice element')
  | map
      {names others : List String} {key key' element element' : HostType}
      (index : Twins a b names key key')
      (inner : Twins a b others element element') :
      Twins a b (names ++ others) (.map key element) (.map key' element')

/-! ## The names in an expression -/

theorem isIdentifierPart_of_mem
    {cs : List Char} (identifier : isIdentifier cs = true) {c : Char} (here : c ∈ cs) :
    isIdentifierPart c = true := by
  cases cs with
  | nil => cases here
  | cons first rest =>
      rw [isIdentifier, Bool.and_eq_true, List.all_eq_true] at identifier
      rcases List.mem_cons.1 here with rfl | later
      · have start := identifier.1
        simp only [isIdentifierStart, isIdentifierPart, isAlphanumeric, Bool.or_eq_true] at start ⊢
        exact start.imp_left .inl
      · exact identifier.2 c later

theorem not_mem_of_isIdentifier
    {cs : List Char} (identifier : isIdentifier cs = true)
    {c : Char} (foreign : isIdentifierPart c = false) :
    c ∉ cs := by
  intro here
  rw [isIdentifierPart_of_mem identifier here] at foreign
  cases foreign

theorem mentions_pointer_iff
    {rest : List Char} {name : String} :
    Mentions ('*' :: rest) name ↔ Mentions (dropBlanks rest) name := by
  constructor
  · intro mentions
    cases mentions with
    | itself identifier _ =>
        exact absurd List.mem_cons_self (not_mem_of_isIdentifier identifier (by decide))
    | pointer inner => exact inner
  · exact .pointer

theorem mentions_slice_iff
    {rest : List Char} {name : String} :
    Mentions ('[' :: ']' :: rest) name ↔ Mentions (dropBlanks rest) name := by
  constructor
  · intro mentions
    cases mentions with
    | itself identifier _ =>
        exact absurd List.mem_cons_self (not_mem_of_isIdentifier identifier (by decide))
    | slice inner => exact inner
  · exact .slice

theorem mentions_map_iff
    {rest key value : List Char} {name : String}
    (cut : splitAtClose 0 rest = some (key, value)) :
    Mentions ('m' :: 'a' :: 'p' :: '[' :: rest) name ↔
      Mentions (strip key) name ∨ Mentions (strip value) name := by
  constructor
  · intro mentions
    cases mentions with
    | itself identifier _ =>
        have bracket : '[' ∈ 'm' :: 'a' :: 'p' :: '[' :: rest := by simp
        exact absurd bracket (not_mem_of_isIdentifier identifier (by decide))
    | key cut' inner =>
        cases cut.symm.trans cut'
        exact .inl inner
    | value cut' inner =>
        cases cut.symm.trans cut'
        exact .inr inner
  · rintro (inner | inner)
    · exact .key cut inner
    · exact .value cut inner

theorem mentions_iff_of_onePiece
    {cs : List Char} {name : String} (piece : OnePiece cs) :
    Mentions cs name ↔
      (isIdentifier cs = true ∧ predeclared cs = false) ∧ name = String.ofList cs := by
  obtain ⟨_, simple⟩ := piece
  simp only [composedOpenings, List.forall_mem_cons] at simple
  obtain ⟨pointer, slice, map, -⟩ := simple
  constructor
  · intro mentions
    cases mentions with
    | itself identifier declared => exact ⟨⟨identifier, declared⟩, rfl⟩
    | @pointer rest _ _ => exact absurd ⟨rest, rfl⟩ pointer
    | @slice rest _ _ => exact absurd ⟨rest, rfl⟩ slice
    | @key rest _ _ _ _ _ => exact absurd ⟨rest, rfl⟩ map
    | @value rest _ _ _ _ _ => exact absurd ⟨rest, rfl⟩ map
  · rintro ⟨⟨identifier, declared⟩, rfl⟩
    exact .itself identifier declared

/-! ## Reading in two namespaces -/

/-- A name without a path is read as a name of the namespace. -/
theorem readLeaf_of_isIdentifier
    {home : String} {cs : List Char}
    (identifier : isIdentifier cs = true) (declared : predeclared cs = false) :
    readLeaf home cs = readName home cs := by
  rw [predeclared, Bool.or_eq_false_iff] at declared
  obtain ⟨not_any, not_basic⟩ := declared
  have not_interface : isInterfaceText cs = false := by
    rw [isInterfaceText, not_any, Bool.false_or, beq_eq_false_iff_ne]
    intro same
    have brace : '\x7b' ∈ cs.filter (· != ' ') := by
      rw [same]
      decide
    exact not_mem_of_isIdentifier identifier (by decide) (List.mem_filter.1 brace).1
  have not_text : textOpenings.any (·.isPrefixOf cs) = false := by
    have foreign : ∀ opening ∈ textOpenings, opening.all isIdentifierPart = false := by
      decide
    rw [List.any_eq_false]
    intro opening listed begins
    have parts : opening.all isIdentifierPart = true :=
      List.all_eq_true.2 fun c here =>
        isIdentifierPart_of_mem identifier ((List.isPrefixOf_iff_prefix.1 begins).subset here)
    rw [foreign opening listed] at parts
    cases parts
  rw [Option.isSome_eq_false_iff, Option.isNone_iff_eq_none] at not_basic
  simp [readLeaf, not_interface, not_text, not_basic]

theorem eq_of_readName_of_isIdentifier
    {home : String} {cs : List Char} {type : HostType}
    (identifier : isIdentifier cs = true) (reads : readName home cs = .ok type) :
    home ≠ "" ∧ type = .named ⟨home, String.ofList cs⟩ := by
  obtain ⟨path, name, parts, refers, rfl⟩ := refers_of_readName reads
  rw [splitLast_eq_none_iff.2 (not_mem_of_isIdentifier identifier (by decide))] at parts
  cases parts
  exact ⟨fun empty => refers.present (by simp [empty]), by simp⟩

/-- Any other text of one piece is read alike in all namespaces. -/
theorem eq_of_readLeaf
    {a b : String} {cs : List Char} {type type' : HostType}
    (foreign : ¬ (isIdentifier cs = true ∧ predeclared cs = false))
    (reads : readLeaf a cs = .ok type) (reads' : readLeaf b cs = .ok type') :
    type = type' := by
  rw [readLeaf] at reads reads'
  split_ifs at reads reads' with interface opens
  · exact Except.ok.inj (reads.symm.trans reads')
  · exact Except.ok.inj (reads.symm.trans reads')
  · cases kind : Primitive.ofName? (String.ofList cs) with
    | some kind =>
        rw [kind] at reads reads'
        exact Except.ok.inj (reads.symm.trans reads')
    | none =>
        rw [kind] at reads reads'
        obtain ⟨path, name, parts, refers, rfl⟩ := refers_of_readName reads
        obtain ⟨path', name', parts', refers', rfl⟩ := refers_of_readName reads'
        cases cut : splitLast '.' cs with
        | some pieces =>
            rw [cut, Option.getD_some] at parts parts'
            cases parts.symm.trans parts'
            rfl
        | none =>
            rw [cut, Option.getD_none] at parts
            cases parts
            rw [isInterfaceText, Bool.or_eq_true, not_or, Bool.not_eq_true] at interface
            have declared : predeclared cs = false := by
              rw [predeclared, interface.1, kind]
              rfl
            exact absurd ⟨refers.identifier, declared⟩ foreign

theorem exists_twins_of_readLeaf
    {a b : String} {cs : List Char} {type type' : HostType}
    (piece : OnePiece cs)
    (reads : readLeaf a cs = .ok type) (reads' : readLeaf b cs = .ok type') :
    ∃ names, Twins a b names type type' ∧ ∀ name, Mentions cs name ↔ name ∈ names := by
  simp only [mentions_iff_of_onePiece piece]
  by_cases own : isIdentifier cs = true ∧ predeclared cs = false
  · rw [readLeaf_of_isIdentifier own.1 own.2] at reads reads'
    obtain ⟨present, rfl⟩ := eq_of_readName_of_isIdentifier own.1 reads
    obtain ⟨present', rfl⟩ := eq_of_readName_of_isIdentifier own.1 reads'
    exact ⟨_, .name _ present present', by simp [own]⟩
  · obtain rfl := eq_of_readLeaf own reads reads'
    exact ⟨_, .same type, by simp [own]⟩

/-- An expression that is read in two namespaces gives types that differ in its names. -/
theorem exists_twins_of_read
    {a b : String} {cs : List Char} {type type' : HostType}
    (reads : read a cs = .ok type) (reads' : read b cs = .ok type') :
    ∃ names, Twins a b names type type' ∧ ∀ name, Mentions cs name ↔ name ∈ names := by
  fun_induction read a cs generalizing type type' with
  | case1 => cases reads
  | case2 rest ih =>
      rw [read] at reads'
      obtain ⟨target, inner, rfl⟩ := map_eq_ok_iff.1 reads
      obtain ⟨target', inner', rfl⟩ := map_eq_ok_iff.1 reads'
      obtain ⟨names, twins, same⟩ := ih inner inner'
      exact ⟨names, .pointer twins, fun name => mentions_pointer_iff.trans (same name)⟩
  | case3 rest ih =>
      rw [read] at reads'
      obtain ⟨element, inner, rfl⟩ := map_eq_ok_iff.1 reads
      obtain ⟨element', inner', rfl⟩ := map_eq_ok_iff.1 reads'
      obtain ⟨names, twins, same⟩ := ih inner inner'
      exact ⟨names, .slice twins, fun name => mentions_slice_iff.trans (same name)⟩
  | case4 rest => cases reads
  | case5 rest key value cut fault faulty => cases reads
  | case6 rest key value cut keyType reads_key ih_key ih_value =>
      obtain ⟨element, inner, rfl⟩ := map_eq_ok_iff.1 reads
      rw [read] at reads'
      split at reads'
      · cases reads'
      · next key' value' cut' =>
          cases cut.symm.trans cut'
          split at reads'
          · cases reads'
          · next keyType' reads_key' =>
              obtain ⟨element', inner', rfl⟩ := map_eq_ok_iff.1 reads'
              obtain ⟨names, index, same⟩ := ih_key reads_key reads_key'
              obtain ⟨others, twins, same'⟩ := ih_value inner inner'
              refine ⟨names ++ others, .map index twins, fun name => ?_⟩
              rw [mentions_map_iff cut, same, same', List.mem_append]
  | case7 cs present pointer slice map =>
      have piece : OnePiece cs := .of_not_composed present pointer slice map
      rw [read_of_onePiece piece] at reads'
      exact exists_twins_of_readLeaf piece reads reads'

/-! ## One text -/

/-- A text with places for a path, filled in. -/
def fill (path : List Char) (template : List (Option Char)) : List Char :=
  template.flatMap fun place => place.elim path fun c => [c]

@[simp]
theorem fill_append
    (path : List Char) (before after : List (Option Char)) :
    fill path (before ++ after) = fill path before ++ fill path after :=
  List.flatMap_append

@[simp]
theorem fill_none
    (path : List Char) (rest : List (Option Char)) :
    fill path (none :: rest) = path ++ fill path rest :=
  rfl

@[simp]
theorem fill_some
    (path : List Char) (c : Char) (rest : List (Option Char)) :
    fill path (some c :: rest) = c :: fill path rest :=
  rfl

@[simp]
theorem fill_map_some
    (path cs : List Char) :
    fill path (cs.map some) = cs := by
  induction cs with
  | nil => rfl
  | cons c rest ih => rw [List.map_cons, fill_some, ih]

theorem length_fill
    (path : List Char) (template : List (Option Char)) :
    (fill path template).length =
      template.countP Option.isSome + template.count none * path.length := by
  induction template with
  | nil => simp [fill]
  | cons place rest ih =>
      cases place with
      | none =>
          simp only [fill_none, List.length_append, ih, List.count_cons_self, Nat.succ_mul,
            List.countP_cons, Option.isSome_none, Bool.false_eq_true, if_false]
          omega
      | some c => simp [ih, Nat.add_right_comm]

/-- A text with a place tells what is filled in.  Its length tells that of the path, so the texts
before the first place are as long and the path follows them. -/
theorem eq_of_fill_eq
    {path path' : List Char} {template : List (Option Char)}
    (place : none ∈ template) (same : fill path template = fill path' template) :
    path = path' := by
  have lengths : path.length = path'.length := by
    have filled := congrArg List.length same
    rw [length_fill, length_fill, Nat.add_left_cancel_iff] at filled
    exact Nat.eq_of_mul_eq_mul_left (List.count_pos_iff.2 place) filled
  obtain ⟨before, after, rfl⟩ := List.append_of_mem place
  rw [fill_append, fill_append, fill_none, fill_none] at same
  have fore : (fill path before).length = (fill path' before).length := by
    rw [length_fill, length_fill, lengths]
  exact (List.append_inj (List.append_inj same fore).2 lengths).1

/-- The texts of the two types are one text with the two paths filled in, and every name has a
place. -/
theorem Twins.exists_template
    {a b : String} {names : List String} {type type' : HostType}
    (twins : Twins a b names type type') :
    ∃ template, type.text.toList = fill a.toList template ∧
      type'.text.toList = fill b.toList template ∧ (names ≠ [] → none ∈ template) := by
  induction twins with
  | same type => exact ⟨type.text.toList.map some, by simp⟩
  | name name present present' =>
      refine ⟨none :: some '.' :: name.toList.map some, ?_⟩
      simp [text, QualifiedName.text, present, present']
  | pointer _ ih =>
      obtain ⟨template, here, there, places⟩ := ih
      refine ⟨some '*' :: template, ?_⟩
      simpa [text_pointer, here, there] using places
  | slice _ ih =>
      obtain ⟨template, here, there, places⟩ := ih
      refine ⟨some '[' :: some ']' :: template, ?_⟩
      simpa [text_slice, here, there] using places
  | map _ _ ih ih' =>
      obtain ⟨template, here, there, places⟩ := ih
      obtain ⟨template', here', there', places'⟩ := ih'
      refine
        ⟨some 'm' :: some 'a' :: some 'p' :: some '[' :: (template ++ some ']' :: template'), ?_⟩
      rw [text_map, text_map, here, here', there, there']
      refine ⟨by simp, by simp, fun named => ?_⟩
      rw [Ne, List.append_eq_nil_iff, not_and_or] at named
      simpa using named.imp places places'

/-- Types of one text in two namespaces have no names of these. -/
theorem Twins.eq_nil_of_text
    {a b : String} {names : List String} {type type' : HostType}
    (twins : Twins a b names type type') (different : a ≠ b) (same : type.text = type'.text) :
    names = [] := by
  obtain ⟨template, here, there, places⟩ := twins.exists_template
  by_contra named
  rw [same, there] at here
  exact different (String.toList_inj.1 (eq_of_fill_eq (places named) here.symm))

end HostType
end RecordConversion
