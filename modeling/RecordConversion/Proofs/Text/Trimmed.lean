import Mathlib.Data.List.Basic
import Mathlib.Data.List.TakeWhile
import RecordConversion.Text.Blank

/-!
# Texts without blanks at their ends

Trimming leaves a text that begins and ends with a visible character, and such a text is not changed
by trimming.

* `exists_blanks_around`: what trimming takes away is blank.
* `strip_eq_self_iff`: the texts that trimming leaves alone.
-/

namespace RecordConversion
namespace Text

/-- Neither the first nor the last character of a text is blank. -/
structure Trimmed (cs : List Char) : Prop where
  first : ∀ c, cs.head? = some c → isBlank c = false
  last : ∀ c, cs.getLast? = some c → isBlank c = false

/-! ## What trimming takes away -/

theorem exists_blanks_before
    (cs : List Char) :
    ∃ blanks, cs = blanks ++ dropBlanks cs ∧ ∀ c ∈ blanks, isBlank c = true :=
  ⟨cs.takeWhile isBlank, List.takeWhile_append_dropWhile.symm, fun _ => List.mem_takeWhile_imp⟩

theorem exists_blanks_after
    (cs : List Char) :
    ∃ blanks, cs = dropTrailing isBlank cs ++ blanks ∧ ∀ c ∈ blanks, isBlank c = true := by
  obtain ⟨blanks, shape, blank⟩ := exists_blanks_before cs.reverse
  refine ⟨blanks.reverse, ?_, fun c here => blank c (List.mem_reverse.1 here)⟩
  rw [dropTrailing, ← List.reverse_append]
  exact (List.reverse_eq_iff.1 shape)

/-- A text is the stripped text with blanks around it. -/
theorem exists_blanks_around
    (cs : List Char) :
    ∃ before after, cs = before ++ strip cs ++ after ∧
      ∀ c ∈ before ++ after, isBlank c = true := by
  obtain ⟨before, shape, blank⟩ := exists_blanks_before cs
  obtain ⟨after, shape', blank'⟩ := exists_blanks_after (dropBlanks cs)
  refine ⟨before, after, ?_, fun c here => (List.mem_append.1 here).elim (blank c) (blank' c)⟩
  rw [strip, List.append_assoc, ← shape', ← shape]

/-- A visible character is not trimmed. -/
theorem mem_strip_iff
    {cs : List Char} {c : Char} (visible : isBlank c = false) :
    c ∈ strip cs ↔ c ∈ cs := by
  obtain ⟨before, after, shape, blank⟩ := exists_blanks_around cs
  have outside : c ∉ before ++ after := fun here => by simp [blank c here] at visible
  rw [List.mem_append, not_or] at outside
  have around : c ∈ cs ↔ c ∈ before ++ strip cs ++ after := by rw [← shape]
  rw [around, List.mem_append, List.mem_append, or_iff_left outside.2, or_iff_right outside.1]

/-! ## What trimming leaves -/

theorem visible_of_head?_dropBlanks
    {cs : List Char} {c : Char}
    (here : (dropBlanks cs).head? = some c) :
    isBlank c = false := by
  have visible := List.head?_dropWhile_not isBlank cs
  rw [← dropBlanks, here] at visible
  simpa using visible

theorem dropBlanks_eq_self
    {cs : List Char}
    (first : ∀ c, cs.head? = some c → isBlank c = false) :
    dropBlanks cs = cs := by
  cases cs with
  | nil => rfl
  | cons c rest => simp [dropBlanks, first c rfl]

theorem dropTrailing_eq_self
    {cs : List Char}
    (last : ∀ c, cs.getLast? = some c → isBlank c = false) :
    dropTrailing isBlank cs = cs := by
  have reversed : dropBlanks cs.reverse = cs.reverse :=
    dropBlanks_eq_self fun c here => last c (by rwa [List.head?_reverse] at here)
  rw [dropTrailing, ← dropBlanks, reversed, List.reverse_reverse]

theorem trimmed_dropTrailing
    {cs : List Char}
    (first : ∀ c, cs.head? = some c → isBlank c = false) :
    Trimmed (dropTrailing isBlank cs) where
  first := by
    intro c here
    obtain ⟨blanks, shape, -⟩ := exists_blanks_after cs
    apply first
    rw [shape, List.head?_append, here, Option.some_or]
  last := by
    intro c here
    rw [dropTrailing, List.getLast?_reverse] at here
    exact visible_of_head?_dropBlanks here

/-- Trimming leaves a trimmed text. -/
theorem trimmed_strip
    (cs : List Char) :
    Trimmed (strip cs) :=
  trimmed_dropTrailing fun _ => visible_of_head?_dropBlanks

/-- Trimming leaves exactly the trimmed texts alone. -/
theorem strip_eq_self_iff
    {cs : List Char} :
    strip cs = cs ↔ Trimmed cs := by
  constructor
  · intro same
    exact same ▸ trimmed_strip cs
  · intro trimmed
    rw [strip, dropBlanks_eq_self trimmed.first, dropTrailing_eq_self trimmed.last]

/-! ## Trimmed texts put together -/

/-- A trimmed text that is not empty ends whatever is put before it. -/
theorem Trimmed.append
    {cs : List Char}
    (trimmed : Trimmed cs) (before : List Char)
    (first : ∀ c, before.head? = some c → isBlank c = false)
    (present : cs ≠ []) :
    Trimmed (before ++ cs) where
  first := by
    cases before with
    | nil => exact trimmed.first
    | cons b rest => exact fun c here => first c (by simpa using here)
  last := by
    intro c here
    rw [List.getLast?_append_of_ne_nil before present] at here
    exact trimmed.last c here

/-- What is left of a trimmed text behind its beginning is trimmed but for blanks before it. -/
theorem Trimmed.dropBlanks_of_append
    (before : List Char) {cs : List Char}
    (trimmed : Trimmed (before ++ cs)) :
    Trimmed (dropBlanks cs) where
  first _ := visible_of_head?_dropBlanks
  last := by
    intro c here
    obtain ⟨blanks, shape, -⟩ := exists_blanks_before cs
    have present : dropBlanks cs ≠ [] := by
      intro empty
      simp [empty] at here
    apply trimmed.last
    rw [shape, ← List.append_assoc, List.getLast?_append_of_ne_nil _ present]
    exact here

end Text
end RecordConversion
