/-!
# Tables

A table has a value for every key, a list of entries for some keys; of two entries with one key the first one counts.
-/

namespace IntegrationFlow

namespace Table

variable {α β : Type} [DecidableEq α]

/-- A table with another value for one key. -/
def put (t : α → β) (a : α) (b : β) : α → β :=
  fun x => if x = a then b else t x

@[simp] theorem put_self (a : α) (b : β) (t : α → β) : put t a b a = b :=
  if_pos rfl

@[simp] theorem put_of_ne {a x : α} (h : x ≠ a) (b : β) (t : α → β) : put t a b x = t x :=
  if_neg h

/-- When the entries with one key are taken out, nothing is found under it, and the rest is as before. -/
theorem lookup_without (key x : α) (entries : List (α × β)) :
    (entries.filter (·.1 != key)).lookup x = if x = key then none else entries.lookup x := by
  induction entries with
  | nil => simp
  | cons e es ih =>
    obtain ⟨k, v⟩ := e
    by_cases hk : k = key
    · subst hk
      rw [List.filter_cons_of_neg (by simp), ih, List.lookup_cons]
      by_cases hx : x = k
      · simp [hx]
      · simp [hx, beq_eq_false_iff_ne.2 hx]
    · rw [List.filter_cons_of_pos (by simpa using hk), List.lookup_cons, List.lookup_cons, ih]
      by_cases hx : x = k
      · subst hx
        simp [hk]
      · simp [beq_eq_false_iff_ne.2 hx]

end Table

end IntegrationFlow
