/-!
# Readings that succeed

A reading gives a result or a fault.  What is put together from readings succeeds exactly if its
parts do, and its result is put together from theirs.
-/

namespace RecordConversion

theorem bind_eq_ok_iff
    {α β ε : Type} {reading : Except ε α} {further : α → Except ε β} {result : β} :
    reading >>= further = .ok result ↔
      ∃ value, reading = .ok value ∧ further value = .ok result := by
  cases reading <;> simp [bind, Except.bind]

theorem map_eq_ok_iff
    {α β ε : Type} {reading : Except ε α} {f : α → β} {result : β} :
    reading.map f = .ok result ↔ ∃ value, reading = .ok value ∧ f value = result := by
  cases reading <;> simp [Except.map]

/-- A check of what is read is one of a result. -/
theorem exists_ok_of_any
    {α ε : Type} {reading : Except ε α} {check : α → Bool}
    (passed : reading.toOption.any check = true) :
    ∃ result, reading = .ok result ∧ check result = true := by
  cases reading with
  | error fault => cases passed
  | ok result => exact ⟨result, rfl, passed⟩

/-- What is checked of any result holds of the one that is read. -/
theorem holds_of_all
    {α ε : Type} {reading : Except ε α} {result : α} {P : α → Prop} [DecidablePred P]
    (read : reading = .ok result) (checked : reading.toOption.all (fun value => P value) = true) :
    P result := by
  subst read
  exact of_decide_eq_true checked

/-- Each result of a successful traversal is read from one of its items. -/
theorem exists_of_mem_mapM
    {α β ε : Type} {f : α → Except ε β} {items : List α} {results : List β} {result : β}
    (read : items.mapM f = .ok results)
    (member : result ∈ results) :
    ∃ item ∈ items, f item = .ok result := by
  induction items generalizing results with
  | nil =>
      cases read
      cases member
  | cons first rest ih =>
      rw [List.mapM_cons] at read
      obtain ⟨value, head, read⟩ := bind_eq_ok_iff.1 read
      obtain ⟨values, tail, read⟩ := bind_eq_ok_iff.1 read
      cases read
      rcases List.mem_cons.1 member with rfl | later
      · exact ⟨first, List.mem_cons_self, head⟩
      · obtain ⟨item, here, found⟩ := ih tail later
        exact ⟨item, List.mem_cons_of_mem _ here, found⟩

/-- Each item of a successful traversal is read as one of its results. -/
theorem exists_result_of_mem_mapM
    {α β ε : Type} {f : α → Except ε β} {items : List α} {results : List β} {item : α}
    (read : items.mapM f = .ok results)
    (member : item ∈ items) :
    ∃ result ∈ results, f item = .ok result := by
  induction items generalizing results with
  | nil => cases member
  | cons first rest ih =>
      rw [List.mapM_cons] at read
      obtain ⟨value, head, read⟩ := bind_eq_ok_iff.1 read
      obtain ⟨values, tail, read⟩ := bind_eq_ok_iff.1 read
      cases read
      rcases List.mem_cons.1 member with rfl | later
      · exact ⟨value, List.mem_cons_self, head⟩
      · obtain ⟨result, here, found⟩ := ih tail later
        exact ⟨result, List.mem_cons_of_mem _ here, found⟩

/-- A traversal succeeds if each item is read. -/
theorem exists_mapM_eq_ok
    {α β ε : Type} {f : α → Except ε β} {items : List α}
    (each : ∀ item ∈ items, ∃ result, f item = .ok result) :
    ∃ results, items.mapM f = .ok results := by
  induction items with
  | nil => exact ⟨[], rfl⟩
  | cons first rest ih =>
      rw [List.forall_mem_cons] at each
      obtain ⟨value, head⟩ := each.1
      obtain ⟨values, tail⟩ := ih each.2
      rw [List.mapM_cons]
      exact ⟨value :: values,
        bind_eq_ok_iff.2 ⟨value, head, bind_eq_ok_iff.2 ⟨values, tail, rfl⟩⟩⟩

/-- What can be told of each result from its item can be told of all in order. -/
theorem map_eq_of_mapM
    {α β γ ε : Type} {f : α → Except ε β} {told : β → γ} {known : α → γ}
    (tells : ∀ item result, f item = .ok result → told result = known item)
    {items : List α} {results : List β}
    (read : items.mapM f = .ok results) :
    results.map told = items.map known := by
  induction items generalizing results with
  | nil =>
      cases read
      rfl
  | cons first rest ih =>
      rw [List.mapM_cons] at read
      obtain ⟨value, head, read⟩ := bind_eq_ok_iff.1 read
      obtain ⟨values, tail, read⟩ := bind_eq_ok_iff.1 read
      cases read
      rw [List.map_cons, List.map_cons, tells first value head, ih tail]

end RecordConversion
