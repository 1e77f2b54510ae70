import IntegrationFlow.Proofs.Value.Entries
import IntegrationFlow.Path

/-!
# Objects in another order

The order in which the entries of an object stand makes no difference to what the object is. Two values are
`Value.Rearranged` when only the entries of objects in them stand in another order; then no path leads to a value in one
of them and to another value in the other one, such an order apart (`Value.Rearranged.resolveSegments`).
-/

namespace IntegrationFlow

/-- Two values are the same but for the order of the entries of the objects in them. -/
inductive Value.Rearranged : Value → Value → Prop
  | refl (v : Value) : Rearranged v v
  | trans {u v w : Value} (h : Rearranged u v) (h' : Rearranged v w) : Rearranged u w
  /-- Two entries under different keys that stand side by side change places. -/
  | swap {a b : Key × Value} (h : a.1.eq b.1 = false) (h' : b.1.eq a.1 = false) (before after : Entries) :
    Rearranged (.object (before ++ a :: b :: after)) (.object (before ++ b :: a :: after))
  /-- The value of an entry is rearranged. -/
  | entry {v w : Value} (h : Rearranged v w) (key : Key) (before after : Entries) :
    Rearranged (.object (before ++ (key, v) :: after)) (.object (before ++ (key, w) :: after))

namespace Entries

/-- A field that is not found at the front is found behind it. -/
theorem field?_append (name : String) (before after : Entries) :
    field? name (before ++ after) = (field? name before).or (field? name after) := by
  induction before with
  | nil => rfl
  | cons e before ih =>
    simp only [field?, find?, List.cons_append] at ih ⊢
    rw [ih]
    split <;> rfl

/-- Two entries under different keys can be searched in either order. -/
theorem field?_swap {a b : Key × Value} (h : a.1.eq b.1 = false) (name : String) (es : Entries) :
    field? name (a :: b :: es) = field? name (b :: a :: es) := by
  simp only [field?, find?]
  by_cases ha : a.1.eq (.text name) = true
  · by_cases hb : b.1.eq (.text name) = true
    · rw [Key.eq_text_iff.1 ha, Key.eq_text_iff.1 hb, Key.eq_text] at h
      simp at h
    · rw [if_pos ha, if_neg hb, if_pos ha]
  · rw [if_neg ha, if_neg ha]

/-- Storing a value changes the value of one entry, the same one for every value. -/
theorem exists_put_eq (key : Key) (es : Entries) :
    ∃ before key' after, ∀ v, put key v es = before ++ (key', v) :: after := by
  induction es with
  | nil => exact ⟨[], key, [], fun _ => rfl⟩
  | cons e es ih =>
    by_cases hk : e.1.eq key = true
    · exact ⟨[], e.1, es, fun v => by simp [put, hk]⟩
    · obtain ⟨before, key', after, heq⟩ := ih
      exact ⟨e :: before, key', after, fun v => by simp [put, hk, heq]⟩

/-- Of two values stored under one text the latter remains. -/
theorem put_put (name : String) (v w : Value) (es : Entries) :
    put (.text name) w (put (.text name) v es) = put (.text name) w es := by
  induction es with
  | nil => simp [put, Key.eq_text]
  | cons e es ih =>
    by_cases hk : e.1.eq (.text name) = true
    · simp [put, hk]
    · simp [put, hk, ih]

/-- Values stored under different texts can be stored in any order; only when both entries are new does it show. -/
theorem put_comm {name other : String} (h : name ≠ other) (v w : Value) (es : Entries) :
    put (.text other) w (put (.text name) v es) = put (.text name) v (put (.text other) w es) ∨
      put (.text other) w (put (.text name) v es) = es ++ [(.text name, v), (.text other, w)] ∧
        put (.text name) v (put (.text other) w es) = es ++ [(.text other, w), (.text name, v)] := by
  induction es with
  | nil => exact .inr (by simp [put, Key.eq_text, h, h.symm])
  | cons e es ih =>
    by_cases hk : e.1 = .text name
    · have hne : e.1.eq (.text other) = false := by simp [hk, Key.eq_text, h]
      have heq : e.1.eq (.text name) = true := Key.eq_text_iff.2 hk
      exact .inl (by simp [put, heq, hne])
    · have hname : e.1.eq (.text name) = false := eq_false_of_ne_true (mt Key.eq_text_iff.1 hk)
      by_cases ho : e.1.eq (.text other) = true
      · exact .inl (by simp [put, hname, ho])
      · rcases ih with heq | ⟨heq, heq'⟩
        · exact .inl (by simp [put, hname, ho, heq])
        · exact .inr (by simp [put, hname, ho, heq, heq'])

end Entries

namespace Value.Rearranged

/-- The order of entries is an equivalence: it can be undone. -/
theorem symm {v w : Value} (h : Rearranged v w) : Rearranged w v := by
  induction h with
  | refl v => exact .refl v
  | trans _ _ ih ih' => exact .trans ih' ih
  | swap h h' before after => exact .swap h' h before after
  | entry _ key before after ih => exact .entry ih key before after

/-- A rearranged value is stored in the same place. -/
theorem put {v w : Value} (h : Rearranged v w) (key : Key) (es : Entries) :
    Rearranged (.object (es.put key v)) (.object (es.put key w)) := by
  obtain ⟨before, key', after, heq⟩ := es.exists_put_eq key
  rw [heq, heq]
  exact .entry h key' before after

/-- Values stored under different texts, in one order and in the other. -/
theorem put_comm {name other : String} (h : name ≠ other) (v w : Value) (es : Entries) :
    Rearranged (.object ((es.put (.text name) v).put (.text other) w))
      (.object ((es.put (.text other) w).put (.text name) v)) := by
  rcases Entries.put_comm h v w es with heq | ⟨heq, heq'⟩
  · rw [heq]
    exact .refl _
  · rw [heq, heq']
    exact .swap (by simp [Key.eq_text, h]) (by simp [Key.eq_text, h.symm]) es []

private theorem rel_refl (x : Option Value) : Option.Rel Rearranged x x := by
  cases x with
  | none => exact .none
  | some v => exact .some (.refl v)

/-- One step leads to the same place in both values, if it leads anywhere. -/
theorem step? {v w : Value} (h : Rearranged v w) (s : Path.Segment) :
    Option.Rel Rearranged (Path.step? v s) (Path.step? w s) := by
  induction h with
  | refl v => exact rel_refl _
  | trans _ _ ih ih' =>
    -- The value in the middle has something there exactly when the outer ones do.
    revert ih ih'
    generalize Path.step? _ s = x, Path.step? _ s = y, Path.step? _ s = z
    intro ih ih'
    cases ih with
    | none => exact ih'
    | some h =>
      cases ih' with
      | some h' => exact .some (h.trans h')
  | swap h h' before after =>
    cases s with
    | index i => exact .none
    | field name =>
      have heq := Entries.field?_swap h name after
      simp only [Path.step?, Entries.field?_append, heq]
      exact rel_refl _
  | @entry v w h key before after ih =>
    cases s with
    | index i => exact .none
    | field name =>
      simp only [Path.step?, Entries.field?_append]
      cases Entries.field? name before with
      | some x => exact .some (.refl x)
      | none =>
        simp only [Option.none_or, Entries.field?, Entries.find?]
        by_cases hk : key.eq (.text name) = true
        · rw [if_pos hk, if_pos hk]
          exact .some h
        · rw [if_neg hk, if_neg hk]
          exact rel_refl _

/-- No path tells rearranged values apart. -/
theorem resolveSegments {v w : Value} (h : Rearranged v w) (path : List Path.Segment) :
    Option.Rel Rearranged (Path.resolveSegments v path) (Path.resolveSegments w path) := by
  induction path generalizing v w with
  | nil => exact .some h
  | cons s path ih =>
    unfold Path.resolveSegments
    have hstep := h.step? s
    revert hstep
    generalize Path.step? v s = x, Path.step? w s = y
    intro hstep
    cases hstep with
    | none => exact .none
    | some h => exact ih h

end Value.Rearranged

end IntegrationFlow
