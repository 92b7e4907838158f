import RecordConversion.HostType.Expression
import RecordConversion.Proofs.Text.Trimmed

/-!
# Brackets of type expressions

The key of a map type ends at the bracket that closes it.  A text is read with a number of brackets
open; a balanced text closes those that it opens and no other, and such a text is found again
between the brackets of a map type.

* `splitAtClose_eq_some_iff`: where a text is cut.
* `openAfter_strip`: blanks do not count.
-/

namespace RecordConversion
namespace HostType

/-- The number of open brackets behind a text that is read with `depth` of them open, unless the
text closes one that is not. -/
def openAfter (depth : Nat) : List Char → Option Nat
  | [] => some depth
  | c :: rest =>
    if c = '[' then openAfter (depth + 1) rest
    else if c = ']' then
      match depth with
      | 0 => none
      | outer + 1 => openAfter outer rest
    else openAfter depth rest

/-- Every bracket is closed that the text opens, and no other. -/
def Balanced (cs : List Char) : Prop :=
  openAfter 0 cs = some 0

instance (cs : List Char) : Decidable (Balanced cs) :=
  inferInstanceAs (Decidable (openAfter 0 cs = some 0))

/-- A text without brackets. -/
structure Bracketless (cs : List Char) : Prop where
  opening : '[' ∉ cs
  closing : ']' ∉ cs

/-! ## Open brackets -/

@[simp]
theorem openAfter_nil
    (depth : Nat) :
    openAfter depth [] = some depth :=
  rfl

@[simp]
theorem openAfter_open
    (depth : Nat) (rest : List Char) :
    openAfter depth ('[' :: rest) = openAfter (depth + 1) rest :=
  rfl

@[simp]
theorem openAfter_close
    (depth : Nat) (rest : List Char) :
    openAfter (depth + 1) (']' :: rest) = openAfter depth rest :=
  rfl

theorem openAfter_cons
    {c : Char} (opening : c ≠ '[') (closing : c ≠ ']')
    (depth : Nat) (rest : List Char) :
    openAfter depth (c :: rest) = openAfter depth rest := by
  simp [openAfter, opening, closing]

theorem openAfter_append
    (depth : Nat) (cs ds : List Char) :
    openAfter depth (cs ++ ds) = (openAfter depth cs).bind fun deep => openAfter deep ds := by
  fun_induction openAfter depth cs with
  | case1 depth => rfl
  | case2 depth rest ih => exact ih
  | case3 rest => rfl
  | case4 depth rest _ ih => exact ih
  | case5 depth c rest opening closing ih =>
      rw [List.cons_append, openAfter_cons opening closing, ih]

/-- Further open brackets stay open. -/
theorem openAfter_add
    {depth left : Nat} {cs : List Char}
    (reads : openAfter depth cs = some left) (more : Nat) :
    openAfter (depth + more) cs = some (left + more) := by
  fun_induction openAfter depth cs with
  | case1 depth =>
      obtain rfl := Option.some.inj reads
      rfl
  | case2 depth rest ih =>
      rw [openAfter_open, Nat.add_right_comm]
      exact ih reads
  | case3 rest => cases reads
  | case4 depth rest _ ih =>
      rw [Nat.succ_eq_add_one, Nat.add_right_comm, openAfter_close]
      exact ih reads
  | case5 depth c rest opening closing ih =>
      rw [openAfter_cons opening closing]
      exact ih reads

theorem openAfter_of_bracketless
    {cs : List Char} (bracketless : Bracketless cs) (depth : Nat) :
    openAfter depth cs = some depth := by
  obtain ⟨opening, closing⟩ := bracketless
  induction cs with
  | nil => exact openAfter_nil depth
  | cons c rest ih =>
      simp only [List.mem_cons, not_or] at opening closing
      rw [openAfter_cons (Ne.symm opening.1) (Ne.symm closing.1), ih opening.2 closing.2]

theorem bracketless_of_blank
    {cs : List Char}
    (blank : ∀ c ∈ cs, Text.isBlank c = true) :
    Bracketless cs :=
  ⟨fun here => absurd (blank _ here) (by decide), fun here => absurd (blank _ here) (by decide)⟩

/-- Trimming takes no bracket away. -/
theorem openAfter_strip
    (depth : Nat) (cs : List Char) :
    openAfter depth (Text.strip cs) = openAfter depth cs := by
  obtain ⟨before, after, shape, blank⟩ := Text.exists_blanks_around cs
  have blank_before : Bracketless before :=
    bracketless_of_blank fun c here => blank c (List.mem_append_left _ here)
  have blank_after : Bracketless after :=
    bracketless_of_blank fun c here => blank c (List.mem_append_right _ here)
  conv => rhs; rw [shape]
  rw [openAfter_append, openAfter_append, openAfter_of_bracketless blank_before]
  simp [openAfter_of_bracketless blank_after]

theorem openAfter_dropBlanks
    (depth : Nat) (cs : List Char) :
    openAfter depth (Text.dropBlanks cs) = openAfter depth cs := by
  obtain ⟨blanks, shape, blank⟩ := Text.exists_blanks_before cs
  conv => rhs; rw [shape]
  rw [openAfter_append, openAfter_of_bracketless (bracketless_of_blank blank)]
  rfl

/-! ## Balanced texts -/

theorem Balanced.keeps_depth
    {cs : List Char} (balanced : Balanced cs) (depth : Nat) :
    openAfter depth cs = some depth := by
  simpa using openAfter_add balanced depth

theorem balanced_strip_iff
    {cs : List Char} :
    Balanced (Text.strip cs) ↔ Balanced cs := by
  rw [Balanced, openAfter_strip, Balanced]

theorem balanced_dropBlanks_iff
    {cs : List Char} :
    Balanced (Text.dropBlanks cs) ↔ Balanced cs := by
  rw [Balanced, openAfter_dropBlanks, Balanced]

theorem balanced_pointer_iff
    {target : List Char} :
    Balanced ('*' :: target) ↔ Balanced target := by
  rw [Balanced, openAfter_cons (by decide) (by decide), Balanced]

theorem balanced_slice_iff
    {element : List Char} :
    Balanced ('[' :: ']' :: element) ↔ Balanced element :=
  Iff.rfl

/-- Behind a balanced key and its closing bracket, a text is read as by itself. -/
theorem balanced_map_iff
    {key value : List Char} (balanced : Balanced key) :
    Balanced ('m' :: 'a' :: 'p' :: '[' :: (key ++ ']' :: value)) ↔ Balanced value := by
  rw [Balanced, openAfter_cons (by decide) (by decide), openAfter_cons (by decide) (by decide),
    openAfter_cons (by decide) (by decide), openAfter_open, openAfter_append,
    balanced.keeps_depth, Option.bind_some, openAfter_close, Balanced]

/-! ## The closing bracket -/

theorem splitAtClose_append
    {depth : Nat} {key : List Char}
    (reads : openAfter depth key = some 0) (value : List Char) :
    splitAtClose depth (key ++ ']' :: value) = some (key, value) := by
  fun_induction openAfter depth key with
  | case1 depth =>
      obtain rfl := Option.some.inj reads
      rfl
  | case2 depth rest ih => simp [splitAtClose, ih reads]
  | case3 rest => cases reads
  | case4 depth rest _ ih => simp [splitAtClose, ih reads]
  | case5 depth c rest opening closing ih => simp [splitAtClose, closing, ih reads]

/-- A text is cut at the bracket before which all others are closed. -/
theorem splitAtClose_eq_some_iff
    {depth : Nat} {cs key value : List Char} :
    splitAtClose depth cs = some (key, value) ↔
      cs = key ++ ']' :: value ∧ openAfter depth key = some 0 := by
  constructor
  · intro cut
    fun_induction splitAtClose depth cs generalizing key with
    | case1 => cases cut
    | case2 rest =>
        cases cut
        exact ⟨rfl, rfl⟩
    | case3 depth rest ih =>
        obtain ⟨⟨before, after⟩, cut', same⟩ := Option.map_eq_some_iff.1 cut
        cases same
        obtain ⟨rfl, reads⟩ := ih cut'
        exact ⟨rfl, reads⟩
    | case4 depth rest ih =>
        obtain ⟨⟨before, after⟩, cut', same⟩ := Option.map_eq_some_iff.1 cut
        cases same
        obtain ⟨rfl, reads⟩ := ih cut'
        exact ⟨rfl, by rwa [openAfter_open]⟩
    | case5 depth c rest _ _ _ ih =>
        obtain ⟨⟨before, after⟩, cut', same⟩ := Option.map_eq_some_iff.1 cut
        cases same
        obtain ⟨rfl, reads⟩ := ih cut'
        have closing : c ≠ ']' := by cases depth <;> simp_all
        exact ⟨rfl, by rwa [openAfter_cons ‹_› closing]⟩
  · rintro ⟨rfl, reads⟩
    exact splitAtClose_append reads value

end HostType
end RecordConversion
