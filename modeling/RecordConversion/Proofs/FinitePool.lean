/-!
# Rounds over a finite pool

A property of the items of a finite pool is established round by round and never lost again.  If an
item can only be late because another one was, then each round before the last establishes at least
one more item, so as many rounds as there are items are enough.

`holds_after_length_rounds` is what bounds the depth of recursions that have no measure of their
own.
-/

namespace RecordConversion

variable {α : Type}

/-- A property that more items have has the greater count. -/
theorem countP_lt_countP
    {p q : α → Bool} {items : List α}
    (weaker : ∀ item ∈ items, p item = true → q item = true)
    {item : α} (member : item ∈ items)
    (holds : q item = true) (fails : p item = false) :
    items.countP p < items.countP q := by
  obtain ⟨before, after, rfl⟩ := List.append_of_mem member
  have early : before.countP p ≤ before.countP q :=
    List.countP_mono_left fun x hx => weaker x (List.mem_append_left _ hx)
  have late : after.countP p ≤ after.countP q :=
    List.countP_mono_left fun x hx =>
      weaker x (List.mem_append_right _ (List.mem_cons_of_mem _ hx))
  simp only [List.countP_append, List.countP_cons, holds, fails, if_true, Bool.false_eq_true,
    if_false]
  omega

section Rounds

variable {pool : List α} {established : Nat → α → Bool}

theorem holds_of_le
    (kept : ∀ round item, established round item = true → established (round + 1) item = true)
    {early late : Nat} (order : early ≤ late) {item : α}
    (holds : established early item = true) :
    established late item = true := by
  induction order with
  | refl => exact holds
  | step _ ih => exact kept _ item ih

/-- An item that is established in a late round leaves a trace in every round before. -/
theorem lt_countP_of_late
    (kept : ∀ round item, established round item = true → established (round + 1) item = true)
    (waits : ∀ round, ∀ item ∈ pool,
      established (round + 2) item = true → established (round + 1) item = false →
        ∃ other ∈ pool, established (round + 1) other = true ∧ established round other = false)
    (round : Nat) {item : α} (member : item ∈ pool)
    (now : established (round + 1) item = true) (before : established round item = false) :
    round < pool.countP (established (round + 1)) := by
  induction round generalizing item with
  | zero =>
      exact List.countP_pos_iff.2 ⟨item, member, now⟩
  | succ round ih =>
      obtain ⟨other, other_member, other_now, other_before⟩ :=
        waits round item member now before
      have earlier := ih other_member other_now other_before
      have more :
          pool.countP (established (round + 1)) < pool.countP (established (round + 1 + 1)) :=
        countP_lt_countP (fun x _ => kept (round + 1) x) member now before
      omega

/-- What is established at all is established after as many rounds as the pool has items: as long as
an item is late, every round establishes another one. -/
theorem holds_after_length_rounds
    (established : Nat → α → Bool)
    (kept : ∀ round item, established round item = true → established (round + 1) item = true)
    (waits : ∀ round, ∀ item ∈ pool,
      established (round + 2) item = true → established (round + 1) item = false →
        ∃ other ∈ pool, established (round + 1) other = true ∧ established round other = false)
    {round : Nat} {item : α} (member : item ∈ pool)
    (holds : established round item = true) :
    established pool.length item = true := by
  induction round with
  | zero => exact holds_of_le kept (Nat.zero_le _) holds
  | succ round ih =>
      cases before : established round item with
      | true => exact ih before
      | false =>
          have count := lt_countP_of_late kept waits round member holds before
          have bound : pool.countP (established (round + 1)) ≤ pool.length :=
            List.countP_le_length
          exact holds_of_le kept (by omega) holds

end Rounds
end RecordConversion
