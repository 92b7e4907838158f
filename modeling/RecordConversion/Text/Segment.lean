import RecordConversion.Text.Blank

/-!
# Parts of separated text

Paths are cut at slashes and qualified names at dots; reports are put together from lines.
-/

namespace RecordConversion
namespace Text

/-- The text before and after the last occurrence of a separator, if there is one. -/
def splitLast
    (separator : Char) : List Char → Option (List Char × List Char)
  | [] => none
  | c :: rest =>
    match splitLast separator rest with
    | some (before, after) => some (c :: before, after)
    | none => if c = separator then some ([], rest) else none

/-- A text without the separator is not cut, and any other is. -/
theorem splitLast_eq_none_iff
    {separator : Char} {cs : List Char} :
    splitLast separator cs = none ↔ separator ∉ cs := by
  induction cs with
  | nil => simp [splitLast]
  | cons c rest ih =>
      cases h : splitLast separator rest with
      | some pieces =>
          have present : separator ∈ rest := by
            refine Decidable.byContradiction fun absent => ?_
            rw [ih.2 absent] at h
            cases h
          simp [splitLast, h, present]
      | none =>
          have absent := ih.1 h
          by_cases here : c = separator
          · simp [splitLast, h, here]
          · have : ¬ separator = c := fun e => here e.symm
            simp [splitLast, h, here, this, absent]

/-- The last separator stands between the two pieces. -/
theorem splitLast_append
    {separator : Char} {after : List Char} (absent : separator ∉ after) (before : List Char) :
    splitLast separator (before ++ separator :: after) = some (before, after) := by
  induction before with
  | nil => simp [splitLast, splitLast_eq_none_iff.2 absent]
  | cons c rest ih => simp [splitLast, ih]

/-- The pieces are what stands on both sides of the last separator. -/
theorem splitLast_eq_some_iff
    {separator : Char} {cs before after : List Char} :
    splitLast separator cs = some (before, after) ↔
      cs = before ++ separator :: after ∧ separator ∉ after := by
  constructor
  · intro h
    induction cs generalizing before with
    | nil => simp [splitLast] at h
    | cons c rest ih =>
        cases e : splitLast separator rest with
        | some pieces =>
            obtain ⟨b, a⟩ := pieces
            simp only [splitLast, e, Option.some.injEq, Prod.mk.injEq] at h
            obtain ⟨rfl, rfl⟩ := h
            obtain ⟨shape, absent⟩ := ih e
            exact ⟨by rw [shape, List.cons_append], absent⟩
        | none =>
            by_cases here : c = separator
            · simp only [splitLast, e, here, if_true, Option.some.injEq, Prod.mk.injEq] at h
              obtain ⟨rfl, rfl⟩ := h
              exact ⟨by rw [here, List.nil_append], splitLast_eq_none_iff.1 e⟩
            · simp [splitLast, e, here] at h
  · rintro ⟨rfl, absent⟩
    exact splitLast_append absent before

/-- The text after the last separator, or all of it. -/
def afterLast
    (separator : Char) (cs : List Char) : List Char :=
  match splitLast separator cs with
  | some (_, after) => after
  | none => cs

theorem afterLast_of_not_mem
    {separator : Char} {cs : List Char} (absent : separator ∉ cs) :
    afterLast separator cs = cs := by
  rw [afterLast, splitLast_eq_none_iff.2 absent]

/-- What stands before a separator does not count. -/
theorem afterLast_append
    {separator : Char} {cs : List Char} (before : List Char) (present : separator ∈ cs) :
    afterLast separator (before ++ cs) = afterLast separator cs := by
  cases cut : splitLast separator cs with
  | none => exact absurd present (splitLast_eq_none_iff.1 cut)
  | some pieces =>
      obtain ⟨shape, absent⟩ := splitLast_eq_some_iff.1 cut
      rw [afterLast, afterLast, cut, shape, ← List.append_assoc, splitLast_append absent]

/-- The last segment of a slash-separated path; slashes at its end do not count. -/
def lastSegment (path : String) : List Char :=
  afterLast '/' (dropTrailing (· == '/') (strip path.toList))

/-- A piece without the carriage return at its end. -/
def dropReturn (cs : List Char) : List Char :=
  if cs.getLast? = some '\r' then cs.dropLast else cs

/-- The lines of a text.  A line ends at a line feed, with the carriage return before it; a final
line feed begins no further line. -/
def lines (text : String) : List String :=
  let pieces := text.toList.splitOnP (· == '\n')
  let ended := pieces.dropLast.map dropReturn
  let last := pieces.getLast?.toList.filter fun piece => !piece.isEmpty
  (ended ++ last).map String.ofList

/-- The lines one below the other, the last one ended too. -/
def unlines (ls : List String) : String :=
  "\n".intercalate ls ++ "\n"

end Text
end RecordConversion
