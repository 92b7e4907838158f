/-!
# Ordered tables with distinct keys

A keyed table lists values under names in the order in which the names were first given.  Giving a
name again replaces its value and leaves it in its place.  That no name occurs twice is part of the
type.
-/

namespace RecordConversion

namespace Keyed

variable {α : Type}

/-- A list of entries with the value of a key set: in place, or else at the end. -/
def setEntry (key : String) (value : α) : List (String × α) → List (String × α)
  | [] => [(key, value)]
  | entry :: rest =>
    if entry.1 = key then (key, value) :: rest else entry :: setEntry key value rest

/-- Setting an entry adds its key only when the key is new. -/
theorem keys_setEntry
    (key : String) (value : α) (entries : List (String × α)) :
    (setEntry key value entries).map Prod.fst =
      if key ∈ entries.map Prod.fst then entries.map Prod.fst
      else entries.map Prod.fst ++ [key] := by
  induction entries with
  | nil => simp [setEntry]
  | cons entry rest ih =>
      by_cases h : entry.1 = key
      · simp [setEntry, h]
      · have h' : key ≠ entry.1 := fun e => h e.symm
        simp only [setEntry, h, if_false, List.map_cons, ih, List.mem_cons, h', false_or]
        split <;> simp

theorem nodup_keys_setEntry
    (key : String) (value : α) {entries : List (String × α)}
    (distinct : (entries.map Prod.fst).Nodup) :
    ((setEntry key value entries).map Prod.fst).Nodup := by
  rw [keys_setEntry]
  split
  · exact distinct
  · next absent =>
      rw [List.nodup_append]
      refine ⟨distinct, by simp, ?_⟩
      intro a ha b hb
      simp only [List.mem_singleton] at hb
      rintro rfl
      exact absent (hb ▸ ha)

end Keyed

/-- A table of values under distinct names, in order. -/
structure Keyed (α : Type) where
  entries : List (String × α)
  distinct : (entries.map Prod.fst).Nodup
  deriving DecidableEq

namespace Keyed

variable {α : Type}

/-- The table without entries. -/
def empty : Keyed α := ⟨[], List.nodup_nil⟩

instance : Inhabited (Keyed α) := ⟨empty⟩

/-- The names of a table, in order. -/
def keys (table : Keyed α) : List String :=
  table.entries.map Prod.fst

/-- The values of a table, in order. -/
def values (table : Keyed α) : List α :=
  table.entries.map Prod.snd

/-- The number of entries. -/
def size (table : Keyed α) : Nat :=
  table.entries.length

/-- The value under a name. -/
def get? (table : Keyed α) (key : String) : Option α :=
  table.entries.lookup key

/-- The table with the value of a name set. -/
def insert (table : Keyed α) (key : String) (value : α) : Keyed α :=
  ⟨setEntry key value table.entries, nodup_keys_setEntry key value table.distinct⟩

/-- The table with further entries set, one after the other. -/
def insertAll (table : Keyed α) (entries : List (String × α)) : Keyed α :=
  entries.foldl (fun table entry => table.insert entry.1 entry.2) table

/-- The table of a list of entries, of which the last for a name counts. -/
def ofList (entries : List (String × α)) : Keyed α :=
  empty.insertAll entries

/-! ## What setting a value does -/

/-- A new name goes to the end, and a name that is there stays in its place. -/
theorem keys_insert
    (table : Keyed α) (key : String) (value : α) :
    (table.insert key value).keys =
      if key ∈ table.keys then table.keys else table.keys ++ [key] :=
  keys_setEntry key value table.entries

/-- Setting an entry sets its own value and no other. -/
theorem lookup_setEntry
    (key : String) (value : α) (other : String) (entries : List (String × α)) :
    (setEntry key value entries).lookup other =
      if other = key then some value else entries.lookup other := by
  induction entries with
  | nil =>
      by_cases h : other = key
      · simp [setEntry, h]
      · have test : (other == key) = false := beq_eq_false_iff_ne.2 h
        simp [setEntry, List.lookup_cons, test, h]
  | cons entry rest ih =>
      obtain ⟨name, old⟩ := entry
      by_cases here : name = key
      · subst here
        by_cases h : other = name
        · simp [setEntry, h]
        · have test : (other == name) = false := beq_eq_false_iff_ne.2 h
          simp [setEntry, List.lookup_cons, test, h]
      · by_cases h : other = name
        · subst h
          simp [setEntry, here]
        · have test : (other == name) = false := beq_eq_false_iff_ne.2 h
          simp [setEntry, List.lookup_cons, here, test, ih]

/-- The value that was set is found, and the others are found as before. -/
@[simp]
theorem get?_insert
    (table : Keyed α) (key : String) (value : α) (other : String) :
    (table.insert key value).get? other =
      if other = key then some value else table.get? other :=
  lookup_setEntry key value other table.entries

/-- An entry was set last or was there before. -/
theorem mem_setEntry
    {key : String} {value : α} {entries : List (String × α)} {entry : String × α}
    (member : entry ∈ setEntry key value entries) :
    entry = (key, value) ∨ entry ∈ entries := by
  induction entries with
  | nil => exact .inl (List.mem_singleton.1 member)
  | cons first rest ih =>
      rw [setEntry] at member
      split at member
      · rcases List.mem_cons.1 member with here | later
        · exact .inl here
        · exact .inr (List.mem_cons_of_mem _ later)
      · rcases List.mem_cons.1 member with here | later
        · exact .inr (here ▸ List.mem_cons_self)
        · exact (ih later).imp_right (List.mem_cons_of_mem _)

theorem mem_insertAll
    {table : Keyed α} {added : List (String × α)} {entry : String × α}
    (member : entry ∈ (table.insertAll added).entries) :
    entry ∈ added ∨ entry ∈ table.entries := by
  induction added generalizing table with
  | nil => exact .inr member
  | cons first rest ih =>
      rcases ih member with later | old
      · exact .inl (List.mem_cons_of_mem _ later)
      · rcases mem_setEntry old with here | kept
        · exact .inl (here ▸ List.mem_cons_self)
        · exact .inr kept

theorem mem_of_get?
    {table : Keyed α} {key : String} {value : α}
    (found : table.get? key = some value) :
    (key, value) ∈ table.entries := by
  obtain ⟨before, after, shape, -⟩ := List.lookup_eq_some_iff.1 found
  rw [shape]
  simp

/-- A key of a list of entries is one that is found in it. -/
theorem mem_keys_iff_lookup
    (key : String) (entries : List (String × α)) :
    key ∈ entries.map Prod.fst ↔ (entries.lookup key).isSome = true := by
  simp only [List.mem_map, List.lookup_isSome_iff, beq_iff_eq, @eq_comm _ key]

/-- A name is in a table exactly if it has a value. -/
theorem mem_keys_iff
    (table : Keyed α) (key : String) :
    key ∈ table.keys ↔ (table.get? key).isSome = true :=
  mem_keys_iff_lookup key table.entries

end Keyed
end RecordConversion
