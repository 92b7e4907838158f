import RecordConversion.Document.Reading

/-!
# Documents that say the same

A document that is written as a text and read back says what it said, but the form of its texts may
be another: in a loose document a text comes back without quotes where its spelling is not that of
an absent value.  Lists and objects keep their parts and the order of these.

A reader recovers what a writer says if it gets the value from every restatement.  Readers of texts
and flags do, and so do the readers that are put together from readers which do.

* `Document.restates`, `Document.ReadsBack`: what a document is read back as.
* `Recovers`: a reader gets what a writer says, and a restatement is never taken for an absent
  value.
* `Recovers.list`, `Recovers.of_entries`, `Recovers.keyed`: lists, objects and tables of values.
* `Recovers.required`, `Recovers.orDefault`, `Recovers.optional`: values under a key.
* `Recovers.read_written`: what is written as a text.
-/

namespace RecordConversion
namespace Document

/-! ## Restatements -/

mutual

/-- The first document says what the second does.  In a loose one a text may have become a bare
scalar that does not stand for an absent value. -/
def restates (style : Style) : Document → Document → Bool
  | .text content, .text original => content == original
  | .bare spelling, .text original =>
    style == .loose && spelling == original && !isAbsent spelling
  | .bare spelling, .bare original => spelling == original
  | .list items, .list originals => restatesItems style items originals
  | .object entries, .object originals => restatesEntries style entries originals
  | _, _ => false

/-- Item by item the first list says what the second does. -/
def restatesItems (style : Style) : List Document → List Document → Bool
  | [], [] => true
  | item :: rest, original :: originals =>
    restates style item original && restatesItems style rest originals
  | _, _ => false

/-- Entry by entry the first object says under the same key what the second does. -/
def restatesEntries (style : Style) :
    List (String × Document) → List (String × Document) → Bool
  | [], [] => true
  | (key, value) :: rest, (key', original) :: originals =>
    key == key' && restates style value original && restatesEntries style rest originals
  | _, _ => false

end

/-- The text that is written for a document is read as a document that says the same. -/
def ReadsBack
    (style : Style) (read : String → Option Document) (write : Document → String)
    (document : Document) : Prop :=
  ∃ back, read (write document) = some back ∧ back.restates style document = true

theorem readsBack_of_any
    {style : Style} {read : String → Option Document} {write : Document → String}
    {document : Document}
    (kept : (read (write document)).any (restates style · document) = true) :
    ReadsBack style read write document := by
  simpa [ReadsBack, Option.any_eq_true] using kept

section

variable {style : Style}

theorem exists_of_restates_list
    {back : Document} {originals : List Document}
    (restated : back.restates style (.list originals) = true) :
    ∃ items, back = .list items ∧ restatesItems style items originals = true := by
  cases back <;> simp [restates] at restated
  exact ⟨_, rfl, restated⟩

theorem exists_of_restates_object
    {back : Document} {originals : List (String × Document)}
    (restated : back.restates style (.object originals) = true) :
    ∃ entries, back = .object entries ∧ restatesEntries style entries originals = true := by
  cases back <;> simp [restates] at restated
  exact ⟨_, rfl, restated⟩

theorem eq_nil_of_restates_nil
    {backs : List Document}
    (restated : restatesItems style backs [] = true) :
    backs = [] := by
  cases backs with
  | nil => rfl
  | cons => simp [restatesItems] at restated

theorem exists_of_restates_singleton
    {backs : List Document} {original : Document}
    (restated : restatesItems style backs [original] = true) :
    ∃ back, backs = [back] ∧ back.restates style original = true := by
  cases backs with
  | nil => simp [restatesItems] at restated
  | cons back backs =>
      simp only [restatesItems, Bool.and_eq_true] at restated
      rw [eq_nil_of_restates_nil restated.2]
      exact ⟨back, rfl, restated.1⟩

theorem eq_of_restates_bare
    {back : Document} {spelling : String}
    (restated : back.restates style (.bare spelling) = true) :
    back = .bare spelling := by
  cases back <;> simp [restates] at restated
  rw [restated]

/-! ## What stands under a key -/

@[simp]
theorem under_nil
    (key : String) :
    under key [] = [] :=
  rfl

@[simp]
theorem under_cons
    (key name : String) (value : Document) (rest : List (String × Document)) :
    under key ((name, value) :: rest) =
      if name = key then value :: under key rest else under key rest := by
  by_cases same : name = key <;> simp [under, same]

@[simp]
theorem under_append
    (key : String) (entries more : List (String × Document)) :
    under key (entries ++ more) = under key entries ++ under key more := by
  simp [under]

@[simp]
theorem under_entry?
    (key name : String) (value? : Option Document) :
    under key (Document.entry? name value?) = if name = key then value?.toList else [] := by
  cases value? <;> simp [Document.entry?]

@[simp]
theorem under_entryIf
    (key name : String) (condition : Bool) (value : Document) :
    under key (entryIf condition name value) =
      if condition = true ∧ name = key then [value] else [] := by
  cases condition <;> simp [entryIf]

/-- Restated objects say the same under each key. -/
theorem restates_under
    {backs entries : List (String × Document)}
    (restated : restatesEntries style backs entries = true) (key : String) :
    restatesItems style (under key backs) (under key entries) = true := by
  induction backs generalizing entries with
  | nil =>
      cases entries <;> simp_all [restatesEntries, restatesItems]
  | cons back backs ih =>
      obtain ⟨name, value⟩ := back
      cases entries with
      | nil => simp [restatesEntries] at restated
      | cons entry entries =>
          obtain ⟨name', original⟩ := entry
          simp only [restatesEntries, Bool.and_eq_true, beq_iff_eq] at restated
          obtain ⟨⟨rfl, here⟩, later⟩ := restated
          simp only [under_cons]
          split
          · rw [restatesItems, here, ih later]
            rfl
          · exact ih later

end

end Document

open Document

/-! ## Readers of what is written -/

variable {α : Type} {style : Style} {read : Document → Option α} {write : α → Document}

/-- A reader gets every value from each document that says what is written for the value, and none
of these stands for an absent value. -/
structure Recovers
    (style : Style) (read : Document → Option α) (write : α → Document) : Prop where
  reads : ∀ value back, back.restates style (write value) = true → read back = some value
  present : ∀ value spelling, (Document.bare spelling).restates style (write value) = true →
    isAbsent spelling = false

theorem recovers_text
    (style : Style) :
    Recovers style (readText style) Document.text where
  reads := by
    intro content back restated
    cases back <;> simp [restates] at restated
    · simp [readText, restated]
    · rw [readText, restated]
  present := by
    intro content spelling restated
    simp only [restates, Bool.and_eq_true, Bool.not_eq_true'] at restated
    exact restated.2

theorem recovers_flag
    (style : Style) :
    Recovers style readFlag flag where
  reads := by
    intro value back restated
    rw [eq_of_restates_bare restated]
    cases value <;> rfl
  present := by
    intro value spelling restated
    obtain rfl := Document.bare.inj (eq_of_restates_bare restated)
    cases value <;> decide

/-! ## Lists, objects and tables -/

/-- Item by item the values of a list are recovered. -/
theorem Recovers.mapM_items
    (recovers : Recovers style read write) {values : List α} {backs : List Document}
    (restated : restatesItems style backs (values.map write) = true) :
    backs.mapM read = some values := by
  induction values generalizing backs with
  | nil =>
      cases backs with
      | nil => rfl
      | cons => simp [restatesItems] at restated
  | cons value values ih =>
      cases backs with
      | nil => simp [restatesItems] at restated
      | cons back backs =>
          simp only [List.map_cons, restatesItems, Bool.and_eq_true] at restated
          rw [List.mapM_cons, recovers.reads value back restated.1, ih restated.2]
          rfl

theorem Recovers.list
    (recovers : Recovers style read write) :
    Recovers style (readList read) fun values => .list (values.map write) where
  reads := by
    intro values back restated
    obtain ⟨backs, rfl, restated⟩ := exists_of_restates_list restated
    exact recovers.mapM_items restated
  present := by
    intro values spelling restated
    simp [restates] at restated

/-- A reader of the entries of an object recovers what a writer of objects says. -/
theorem Recovers.of_entries
    {entries : α → List (String × Document)}
    (written : ∀ value, write value = .object (entries value))
    (reads : ∀ value backs, restatesEntries style backs (entries value) = true →
      read (.object backs) = some value) :
    Recovers style read write where
  reads := by
    intro value back restated
    rw [written] at restated
    obtain ⟨backs, rfl, restated⟩ := exists_of_restates_object restated
    exact reads value backs restated
  present := by
    intro value spelling restated
    rw [written] at restated
    simp [restates] at restated

/-- Entry by entry the values of an object are recovered, with their keys. -/
theorem Recovers.mapM_entries
    (recovers : Recovers style read write)
    {entries : List (String × α)} {backs : List (String × Document)}
    (restated : restatesEntries style backs
      (entries.map fun entry => (entry.1, write entry.2)) = true) :
    (backs.mapM fun back => (read back.2).map fun value => (back.1, value)) = some entries := by
  induction entries generalizing backs with
  | nil =>
      cases backs with
      | nil => rfl
      | cons => simp [restatesEntries] at restated
  | cons entry entries ih =>
      cases backs with
      | nil => simp [restatesEntries] at restated
      | cons back backs =>
          simp only [List.map_cons, restatesEntries, Bool.and_eq_true, beq_iff_eq] at restated
          obtain ⟨⟨same, here⟩, later⟩ := restated
          rw [List.mapM_cons, recovers.reads entry.2 back.2 here, same, ih later]
          rfl

namespace Keyed

/-- A new name goes to the end. -/
theorem setEntry_of_not_mem
    {key : String} (value : α) {entries : List (String × α)}
    (absent : key ∉ entries.map Prod.fst) :
    setEntry key value entries = entries ++ [(key, value)] := by
  induction entries with
  | nil => rfl
  | cons entry rest ih =>
      rw [List.map_cons, List.mem_cons, not_or] at absent
      rw [setEntry, if_neg fun same => absent.1 same.symm, ih absent.2]
      rfl

theorem entries_insertAll
    {table : Keyed α} {added : List (String × α)}
    (distinct : ((table.entries ++ added).map Prod.fst).Nodup) :
    (table.insertAll added).entries = table.entries ++ added := by
  induction added generalizing table with
  | nil => exact (List.append_nil _).symm
  | cons first rest ih =>
      have new : first.1 ∉ table.entries.map Prod.fst := by
        rw [List.map_append, List.nodup_append] at distinct
        exact fun old => distinct.2.2 first.1 old first.1 (by simp) rfl
      have inserted : (table.insert first.1 first.2).entries = table.entries ++ [first] :=
        setEntry_of_not_mem first.2 new
      rw [List.append_cons, ← inserted] at distinct
      rw [List.append_cons, ← inserted]
      exact ih distinct

/-- A table is made of its entries. -/
theorem ofList_entries
    (table : Keyed α) :
    ofList table.entries = table := by
  have listed : (ofList table.entries).entries = table.entries := entries_insertAll table.distinct
  cases table
  exact (mk.injEq _ _ _ _).mpr listed

end Keyed

theorem Recovers.keyed
    (recovers : Recovers style read write) :
    Recovers style (readKeyed read) fun table =>
      .object (table.entries.map fun entry => (entry.1, write entry.2)) := by
  refine .of_entries (fun _ => rfl) fun table backs restated => ?_
  simp only [readKeyed, readEntries, Option.bind_some, recovers.mapM_entries restated,
    Option.map_some, Keyed.ofList_entries]

/-! ## Values under a key -/

/-- A value that is written under a key is read there. -/
theorem Recovers.required
    (recovers : Recovers style read write)
    {key : String} {entries backs : List (String × Document)} {value : α}
    (restated : restatesEntries style backs entries = true)
    (given : under key entries = [write value]) :
    readRequired key read backs = some value := by
  have back := restates_under restated key
  rw [given] at back
  obtain ⟨document, here, same⟩ := exists_of_restates_singleton back
  rw [readRequired, here]
  exact recovers.reads value document same

/-- A value is written under a key, or it is the one that is taken without. -/
theorem Recovers.orDefault
    (recovers : Recovers style read write)
    {key : String} {entries backs : List (String × Document)} {default value : α}
    (restated : restatesEntries style backs entries = true)
    (given : under key entries = [write value] ∨ under key entries = [] ∧ value = default) :
    readDefault key default read backs = some value := by
  have back := restates_under restated key
  rcases given with written | ⟨unwritten, rfl⟩
  · rw [written] at back
    obtain ⟨document, here, same⟩ := exists_of_restates_singleton back
    rw [readDefault, here]
    exact recovers.reads value document same
  · rw [unwritten] at back
    rw [readDefault, eq_nil_of_restates_nil back]

/-- A value is written under a key if there is one. -/
theorem Recovers.optional
    (recovers : Recovers style read write)
    {key : String} {entries backs : List (String × Document)} {value? : Option α}
    (restated : restatesEntries style backs entries = true)
    (given : under key entries = (value?.map write).toList) :
    readDefault key none (readOptional read) backs = some value? := by
  have back := restates_under restated key
  rw [given] at back
  cases value? with
  | none => rw [readDefault, eq_nil_of_restates_nil back]
  | some value =>
      obtain ⟨document, here, same⟩ := exists_of_restates_singleton back
      have found := recovers.reads value document same
      rw [readDefault, here]
      cases document with
      | bare spelling =>
          simp only [readOptional, recovers.present value spelling same, Bool.false_eq_true,
            if_false, found, Option.map_some]
      | _ => simp only [readOptional, found, Option.map_some]

/-! ## Texts -/

/-- What is recovered from documents is read from a text that is read back. -/
theorem Recovers.read_written
    (recovers : Recovers style read write)
    {readText : String → Option Document} {writeText : Document → String} {value : α}
    (kept : ReadsBack style readText writeText (write value)) :
    (readText (writeText (write value))).bind read = some value := by
  obtain ⟨back, found, same⟩ := kept
  rw [found]
  exact recovers.reads value back same

end RecordConversion
