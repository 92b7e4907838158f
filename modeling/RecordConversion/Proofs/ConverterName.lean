import RecordConversion.ConverterName

/-!
# Names of converters that read alike

The name of a converter is made of two labels with the word "To" between them.  The label of a
record is its name, and the token of its namespace before it if both records have one name.  A label
may hold the word itself, so a name can be cut at more than one place.

* `converterName_eq_iff_readAlike`: two names are one exactly if their labels agree, or if the one
  name is the other cut at another place.
* `converterName_eq_iff_of_target`, `converterName_eq_iff_of_source`: between records of one name
  that share a side, only the tokens of the other side count.
-/

namespace RecordConversion

/-! ## Texts around a word -/

section Pieces

variable {first second : Char} {left right left' right' rest : List Char}

/-- Where the word is not met at once, it stands in what comes before. -/
theorem exists_word_of_append_eq
    (differ : first ≠ second)
    (same : first :: second :: right = rest ++ first :: second :: right') :
    (rest = [] ∧ right = right') ∨
      ∃ word, rest = first :: second :: word ∧ right = word ++ first :: second :: right' := by
  match rest with
  | [] =>
      simp only [List.nil_append, List.cons.injEq, true_and] at same
      exact .inl ⟨rfl, same⟩
  | [c] =>
      simp only [List.cons_append, List.nil_append, List.cons.injEq] at same
      exact absurd same.2.1.symm differ
  | c :: d :: word =>
      simp only [List.cons_append, List.cons.injEq] at same
      obtain ⟨rfl, rfl, shape⟩ := same
      exact .inr ⟨word, rfl, shape⟩

/-- Texts around a word of two different letters give one text exactly if they agree side by side or
if the word is met at two places. -/
theorem append_word_eq_iff
    (differ : first ≠ second) :
    left ++ first :: second :: right = left' ++ first :: second :: right' ↔
      (left = left' ∧ right = right') ∨
        (∃ word, left' = left ++ first :: second :: word ∧
          right = word ++ first :: second :: right') ∨
        ∃ word, left = left' ++ first :: second :: word ∧
          right' = word ++ first :: second :: right := by
  constructor
  · intro same
    rcases List.append_eq_append_iff.1 same with ⟨rest, rfl, later⟩ | ⟨rest, rfl, later⟩
    · rcases exists_word_of_append_eq differ later with ⟨rfl, rfl⟩ | ⟨word, rfl, shape⟩
      · exact .inl ⟨by simp, rfl⟩
      · exact .inr (.inl ⟨word, rfl, shape⟩)
    · rcases exists_word_of_append_eq differ later with ⟨rfl, rfl⟩ | ⟨word, rfl, shape⟩
      · exact .inl ⟨by simp, rfl⟩
      · exact .inr (.inr ⟨word, rfl, shape⟩)
  · rintro (⟨rfl, rfl⟩ | ⟨word, rfl, rfl⟩ | ⟨word, rfl, rfl⟩)
    · rfl
    · simp
    · simp

end Pieces

/-! ## Labels -/

/-- What the name of a converter calls a record that is converted from or to another one. -/
def converterLabel (record other : QualifiedName) : String :=
  if record.name = other.name then namespaceToken record.path ++ record.name else record.name

/-- A name consists of the labels of source and target. -/
theorem converterName_eq
    (source target : QualifiedName) :
    converterName source target =
      "Convert" ++ converterLabel source target ++ "To" ++ converterLabel target source := by
  by_cases same : source.name = target.name
  · simp only [converterName, converterLabel, same, if_true, String.append_assoc]
  · have other : target.name ≠ source.name := Ne.symm same
    simp only [converterName, converterLabel, same, other, if_false]

/-- Two pairs of records have the same labels. -/
def LabelsAgree (pair other : QualifiedName × QualifiedName) : Prop :=
  converterLabel pair.1 pair.2 = converterLabel other.1 other.2 ∧
    converterLabel pair.2 pair.1 = converterLabel other.2 other.1

/-- The name for the first pair is that for the second one, cut at an earlier place. -/
def CutEarlier (pair other : QualifiedName × QualifiedName) : Prop :=
  ∃ word,
    converterLabel other.1 other.2 = converterLabel pair.1 pair.2 ++ "To" ++ word ∧
      converterLabel pair.2 pair.1 = word ++ "To" ++ converterLabel other.2 other.1

/-- The names for two pairs of records are one text. -/
def ReadAlike (pair other : QualifiedName × QualifiedName) : Prop :=
  LabelsAgree pair other ∨ CutEarlier pair other ∨ CutEarlier other pair

/-- Names around the word "To", on strings. -/
theorem append_to_eq_iff
    {left right left' right' : String} :
    left ++ "To" ++ right = left' ++ "To" ++ right' ↔
      (left = left' ∧ right = right') ∨
        (∃ word, left' = left ++ "To" ++ word ∧ right = word ++ "To" ++ right') ∨
        ∃ word, left = left' ++ "To" ++ word ∧ right' = word ++ "To" ++ right := by
  have letters (text text' : String) :
      (text ++ "To" ++ text').toList = text.toList ++ 'T' :: 'o' :: text'.toList := by
    simp
  have words {shorter longer right right' : String} :
      (∃ word, longer.toList = shorter.toList ++ 'T' :: 'o' :: word ∧
          right.toList = word ++ 'T' :: 'o' :: right'.toList) ↔
        ∃ word, longer = shorter ++ "To" ++ word ∧ right = word ++ "To" ++ right' := by
    constructor
    · rintro ⟨word, shape, shape'⟩
      refine ⟨String.ofList word, String.toList_inj.1 ?_, String.toList_inj.1 ?_⟩
      · rw [letters, shape, String.toList_ofList]
      · rw [letters, shape', String.toList_ofList]
    · rintro ⟨word, rfl, rfl⟩
      exact ⟨word.toList, letters shorter word, letters word right'⟩
  rw [← String.toList_inj, letters, letters, append_word_eq_iff (by decide), words, words,
    String.toList_inj, String.toList_inj]

/-- Two converters have one name exactly if the names for their pairs read alike. -/
theorem converterName_eq_iff_readAlike
    {source target source' target' : QualifiedName} :
    converterName source target = converterName source' target' ↔
      ReadAlike (source, target) (source', target') := by
  have lead (left right : String) :
      "Convert" ++ left ++ "To" ++ right = "Convert" ++ (left ++ "To" ++ right) := by
    simp only [String.append_assoc]
  rw [converterName_eq, converterName_eq, lead, lead, String.append_right_inj, append_to_eq_iff]
  rfl

/-! ## Names that share a side -/

/-- Converters to one record from records of its name have one name exactly if the namespaces that
they start from have one token. -/
theorem converterName_eq_iff_of_target
    {source source' target : QualifiedName}
    (name : source.name = target.name) (name' : source'.name = target.name) :
    converterName source target = converterName source' target ↔
      namespaceToken source.path = namespaceToken source'.path := by
  simp only [converterName, name, name', if_true, String.append_left_inj, String.append_right_inj]

/-- Converters from one record to records of its name have one name exactly if the namespaces that
they lead to have one token. -/
theorem converterName_eq_iff_of_source
    {source target target' : QualifiedName}
    (name : source.name = target.name) (name' : source.name = target'.name) :
    converterName source target = converterName source target' ↔
      namespaceToken target.path = namespaceToken target'.path := by
  simp only [converterName, ← name, ← name', if_true, String.append_left_inj,
    String.append_right_inj]

end RecordConversion
