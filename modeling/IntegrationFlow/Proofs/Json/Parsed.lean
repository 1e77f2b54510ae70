import IntegrationFlow.Proofs.Json.ReadBack

/-!
# What is parsed

A JSON text gives a value that JSON can hold (`isJson_of_parseWithin`), and the value is nested no more deeply than the
brackets of the text.
-/

namespace IntegrationFlow

namespace Decimal

/-- Digits write a number that is below the power of the base with their count. -/
theorem ofDigits_lt {base : Nat} {ds : List Nat} (h : ∀ d ∈ ds, d < base) : ofDigits base ds < base ^ ds.length := by
  induction ds using List.reverseRecOn with
  | nil => exact Nat.one_pos
  | append_singleton ds d ih =>
    have hds := ih fun x hx => h x (List.mem_append_left _ hx)
    have hd := h d (by simp)
    have hsplit : ofDigits base (ds ++ [d]) = base * ofDigits base ds + d := by
      unfold ofDigits
      rw [List.foldl_append]
      rfl
    rw [hsplit, List.length_append, List.length_singleton, Nat.pow_succ, Nat.mul_comm]
    calc ofDigits base ds * base + d < ofDigits base ds * base + base := by omega
      _ = (ofDigits base ds + 1) * base := by ring
      _ ≤ base ^ ds.length * base := Nat.mul_le_mul_right base hds

/-- A number below a power of ten has no more digits than its exponent says. -/
theorem length_digitsOf_le {n k : Nat} (hk : 0 < k) (h : n < 10 ^ k) : (digitsOf n).length ≤ k :=
  (Nat.length_toDigits_le_iff (by decide) hk).2 h

end Decimal

namespace Json

open Decimal

/-! ### The size of the numbers -/

/-- A whole number of the token is not too long. -/
def Token.IsShort : Token → Prop
  | .int n => (digitsOf n.natAbs).length ≤ Decimal.maxDigits
  | _ => True

theorem ofAsciiDigits_lt {ds : List Char} (h : ∀ c ∈ ds, c.isDigit = true) : ofAsciiDigits ds < 10 ^ ds.length := by
  refine (ofDigits_lt ?_).trans_eq (by rw [List.length_map])
  rw [List.forall_mem_map]
  intro c hc
  have hdigit := h c hc
  simp only [Char.isDigit, Bool.and_eq_true, decide_eq_true_eq] at hdigit
  have hle : c.toNat ≤ '9'.toNat := hdigit.2
  have hnine : '9'.toNat = 57 := rfl
  have hzero : '0'.toNat = 48 := rfl
  omega

theorem isShort_of_lexUnsigned {negative : Bool} {cs rest : List Char} {t : Token}
    (h : lexUnsigned negative cs = some (t, rest)) : t.IsShort := by
  unfold lexUnsigned at h
  split at h
  · cases h
  · next whole rest' hne htake =>
    have hwhole : cs.takeWhile Char.isDigit = whole := (Prod.mk.inj htake).1
    split at h
    · cases h
    split at h
    · cases h
    split at h
    · cases h
    · split at h
      · split at h
        · cases h
        · next hlength =>
          cases h
          -- So many digits make a number that can be written with as many.
          have hlt : ofAsciiDigits whole < 10 ^ Decimal.maxDigits :=
            (ofAsciiDigits_lt fun c hc => List.all_eq_true.1 List.all_takeWhile c (hwhole ▸ hc)).trans_le
              (Nat.pow_le_pow_right (by decide) (not_lt.1 hlength))
          have habs : (signed negative (ofAsciiDigits whole)).natAbs = ofAsciiDigits whole := by
            unfold signed
            split <;> omega
          have hlength := length_digitsOf_le (by decide) hlt
          rw [← habs] at hlength
          exact hlength
      · cases h
        trivial
    · cases h
      trivial

theorem isShort_of_lexWord {cs rest : List Char} {t : Token} (h : lexWord cs = some (t, rest)) : t.IsShort := by
  obtain ⟨w, hw, hmap⟩ := List.exists_of_findSome?_eq_some h
  obtain ⟨_, _, heq⟩ := Option.map_eq_some_iff.1 hmap
  obtain rfl : w.2 = t := (Prod.mk.inj heq).1
  simp only [words, List.mem_cons, List.not_mem_nil, or_false] at hw
  rcases hw with rfl | rfl | rfl | rfl | rfl | rfl <;> trivial

theorem isShort_of_lexToken {cs rest : List Char} {t : Token} (h : lexToken cs = some (t, rest)) : t.IsShort := by
  unfold lexToken at h
  split at h
  case h_1 => cases h
  case h_8 =>
    obtain ⟨_, _, heq⟩ := Option.map_eq_some_iff.1 h
    obtain rfl := (Prod.mk.inj heq).1
    trivial
  case h_9 =>
    split at h
    · next hword =>
      cases h
      exact isShort_of_lexWord hword
    · split at h <;> exact isShort_of_lexUnsigned h
  all_goals
    cases h
    trivial

theorem isShort_of_lexUpTo {fuel : Nat} {cs : List Char} {ts : List Token} (h : lexUpTo fuel cs = some ts) :
    ∀ t ∈ ts, t.IsShort := by
  induction fuel generalizing cs ts with
  | zero => cases h
  | succ fuel ih =>
    rw [lexUpTo] at h
    split at h
    · cases h
      simp
    · obtain ⟨⟨t, rest⟩, htoken, hmap⟩ := Option.bind_eq_some_iff.1 h
      obtain ⟨us, hus, rfl⟩ := Option.map_eq_some_iff.1 hmap
      exact List.forall_mem_cons.2 ⟨isShort_of_lexToken htoken, ih hus⟩

/-! ### Reading -/

/-- The tokens in front of the rest reach at least the stated depth, and end where they began. -/
def Spends (ts rest : List Token) (depth : Nat) : Prop :=
  ∃ used reached, ts = used ++ rest ∧ Reaches used reached ∧ depth ≤ reached

namespace Spends

variable {ts mid rest : List Token} {d e : Nat}

theorem refl (ts : List Token) : Spends ts ts 0 :=
  ⟨[], 0, rfl, .nil, le_rfl⟩

theorem cons {t : Token} (ht : ∀ now, deepen now t = now) (h : Spends ts rest d) : Spends (t :: ts) rest d := by
  obtain ⟨used, reached, rfl, hreaches, hle⟩ := h
  exact ⟨t :: used, reached, rfl, hreaches.cons ht, hle⟩

theorem trans (h : Spends ts mid d) (h' : Spends mid rest e) : Spends ts rest (max d e) := by
  obtain ⟨used, reached, rfl, hreaches, hle⟩ := h
  obtain ⟨used', reached', rfl, hreaches', hle'⟩ := h'
  exact ⟨used ++ used', max reached reached', (List.append_assoc ..).symm, hreaches.append hreaches', by omega⟩

theorem mono (h : Spends ts rest d) (hle : e ≤ d) : Spends ts rest e := by
  obtain ⟨used, reached, rfl, hreaches, hd⟩ := h
  exact ⟨used, reached, rfl, hreaches, hle.trans hd⟩

theorem brackets (h : Spends ts (.rightBracket :: rest) d) : Spends (.leftBracket :: ts) rest (d + 1) := by
  obtain ⟨used, reached, rfl, hreaches, hle⟩ := h
  exact ⟨_, _, by simp, hreaches.brackets, Nat.succ_le_succ hle⟩

theorem braces (h : Spends ts (.rightBrace :: rest) d) : Spends (.leftBrace :: ts) rest (d + 1) := by
  obtain ⟨used, reached, rfl, hreaches, hle⟩ := h
  exact ⟨_, _, by simp, hreaches.braces, Nat.succ_le_succ hle⟩

/-- What is left are some of the tokens. -/
theorem mem {t : Token} (h : Spends ts rest d) (ht : t ∈ rest) : t ∈ ts := by
  obtain ⟨used, reached, rfl, -, -⟩ := h
  exact List.mem_append_right _ ht

end Spends

theorem depthOfEntries_put_le (k : Key) (v : Value) (es : Entries) :
    Value.depthOfEntries (Entries.put k v es) ≤ max (Value.depthOfEntries es) v.depth := by
  rw [Value.depthOfEntries_le_iff]
  intro e he
  rcases Entries.eq_or_mem_of_mem_put he with rfl | he
  · exact Nat.le_max_right _ _
  · exact (Value.depthOfEntries_le_iff.1 le_rfl e he).trans (Nat.le_max_left _ _)

/-- A field is added to what JSON can hold. -/
theorem isJson_put {name : String} {v : Value} {es : Entries} (hes : (Value.object es).IsJson) (hv : v.IsJson) :
    (Value.object (Entries.put (.text name) v es)).IsJson := by
  obtain ⟨hkeys, hdistinct, hvalues⟩ := Value.isJson_object_iff.1 hes
  refine .object (fun e he => ?_) (hdistinct.put _ _) fun e he => ?_
  · rcases Entries.exists_of_mem_put he with hkey | ⟨d, hd, hkey⟩
    · exact ⟨name, hkey⟩
    · rw [← hkey]
      exact hkeys d hd
  · rcases Entries.eq_or_mem_of_mem_put he with heq | he
    · rw [heq]
      exact hv
    · exact hvalues e he

mutual

/-- A value that is read has no more depth than its tokens, and JSON can hold it. -/
private theorem spends_of_readValue (fuel : Nat) {ts rest : List Token} {v : Value}
    (h : readValue fuel ts = some (v, rest)) : Spends ts rest v.depth ∧ ((∀ t ∈ ts, t.IsShort) → v.IsJson) := by
  cases fuel with
  | zero => cases h
  | succ fuel =>
    unfold readValue at h
    split at h
    case h_1 => cases h; exact ⟨.cons (fun _ => rfl) (.refl _), fun _ => .null⟩
    case h_2 => cases h; exact ⟨.cons (fun _ => rfl) (.refl _), fun _ => .bool _⟩
    case h_3 => cases h; exact ⟨.cons (fun _ => rfl) (.refl _), fun hshort => .int _ (hshort _ List.mem_cons_self)⟩
    case h_4 => cases h; exact ⟨.cons (fun _ => rfl) (.refl _), fun _ => .float _⟩
    case h_5 => cases h; exact ⟨.cons (fun _ => rfl) (.refl _), fun _ => .text _⟩
    case h_6 => cases h; exact ⟨(Spends.refl _).brackets, fun _ => .list (by simp)⟩
    case h_7 =>
      obtain ⟨⟨items, rest⟩, hitems, heq⟩ := Option.map_eq_some_iff.1 h
      cases heq
      obtain ⟨hspends, hjson⟩ := spends_of_readItems fuel hitems
      exact ⟨hspends.brackets, fun hshort => .list (hjson fun t ht => hshort t (List.mem_cons_of_mem _ ht))⟩
    case h_8 =>
      cases h
      exact ⟨(Spends.refl _).braces, fun _ => .object (by simp) List.Pairwise.nil (by simp)⟩
    case h_9 =>
      obtain ⟨⟨fields, rest⟩, hfields, heq⟩ := Option.map_eq_some_iff.1 h
      cases heq
      obtain ⟨d, hspends, hdepth, hjson⟩ := spends_of_readFields fuel hfields
      rw [Value.depthOfEntries, Nat.zero_max] at hdepth
      refine ⟨hspends.braces.mono (Nat.succ_le_succ hdepth), fun hshort => hjson ?_ ?_⟩
      · exact fun t ht => hshort t (List.mem_cons_of_mem _ ht)
      · exact .object (by simp) List.Pairwise.nil (by simp)
    case h_10 => cases h

/-- Items that are read have no more depth than their tokens, and JSON can hold them. -/
private theorem spends_of_readItems (fuel : Nat) {ts rest : List Token} {vs : List Value}
    (h : readItems fuel ts = some (vs, rest)) :
    Spends ts (.rightBracket :: rest) (Value.depthOfItems vs) ∧ ((∀ t ∈ ts, t.IsShort) → ∀ v ∈ vs, v.IsJson) := by
  cases fuel with
  | zero => cases h
  | succ fuel =>
    unfold readItems at h
    split at h
    · next v _ hvalue =>
      cases h
      obtain ⟨hspends, hjson⟩ := spends_of_readValue fuel hvalue
      exact ⟨hspends.mono (by simp [Value.depthOfItems]), fun hshort => by simpa using hjson hshort⟩
    · next v later hvalue =>
      obtain ⟨⟨items, rest⟩, hitems, heq⟩ := Option.map_eq_some_iff.1 h
      cases heq
      obtain ⟨hspends, hjson⟩ := spends_of_readValue fuel hvalue
      obtain ⟨hspends', hjson'⟩ := spends_of_readItems fuel hitems
      refine ⟨hspends.trans (hspends'.cons fun _ => rfl), fun hshort => List.forall_mem_cons.2 ⟨hjson hshort, hjson' ?_⟩⟩
      exact fun t ht => hshort t (hspends.mem (List.mem_cons_of_mem _ ht))
    · cases h

/-- Fields that are read have no more depth than their tokens and those before, and JSON can hold them. -/
private theorem spends_of_readFields (fuel : Nat) {done es : Entries} {ts rest : List Token}
    (h : readFields fuel done ts = some (es, rest)) :
    ∃ d, Spends ts (.rightBrace :: rest) d ∧ Value.depthOfEntries es ≤ max (Value.depthOfEntries done) d ∧
      ((∀ t ∈ ts, t.IsShort) → (Value.object done).IsJson → (Value.object es).IsJson) := by
  cases fuel with
  | zero => cases h
  | succ fuel =>
    unfold readFields at h
    split at h
    · next name later =>
      split at h
      · next v _ hvalue =>
        cases h
        obtain ⟨hspends, hjson⟩ := spends_of_readValue fuel hvalue
        refine ⟨v.depth, (hspends.cons fun _ => rfl).cons fun _ => rfl, depthOfEntries_put_le _ v done,
          fun hshort hdone => ?_⟩
        exact isJson_put hdone (hjson fun t ht => hshort t (List.mem_cons_of_mem _ (List.mem_cons_of_mem _ ht)))
      · next v later' hvalue =>
        obtain ⟨hspends, hjson⟩ := spends_of_readValue fuel hvalue
        obtain ⟨d, hspends', hdepth, hjson'⟩ := spends_of_readFields fuel h
        have hput := depthOfEntries_put_le (.text name) v done
        refine ⟨max v.depth d, ((hspends.trans (hspends'.cons fun _ => rfl)).cons fun _ => rfl).cons fun _ => rfl,
          by omega, fun hshort hdone => ?_⟩
        have hlater : ∀ t ∈ later, t.IsShort := fun t ht =>
          hshort t (List.mem_cons_of_mem _ (List.mem_cons_of_mem _ ht))
        exact hjson' (fun t ht => hlater t (hspends.mem (List.mem_cons_of_mem _ ht))) (isJson_put hdone (hjson hlater))
      · cases h
    · cases h

end

/-- What a JSON text gives can be held by JSON, and is no deeper than allowed. -/
theorem isJson_of_parseWithin {limit : Nat} {s : String} {v : Value} (h : parseWithin limit s = some v) :
    v.IsJson ∧ v.depth ≤ limit := by
  obtain ⟨ts, hlex, hread⟩ := Option.bind_eq_some_iff.1 h
  split at hread
  · next hnesting =>
    unfold ofTokens? at hread
    split at hread
    · next w hvalue =>
      cases hread
      obtain ⟨⟨used, reached, hused, hreaches, hdepth⟩, hjson⟩ := spends_of_readValue _ hvalue
      rw [List.append_nil] at hused
      rw [hused, hreaches.nesting] at hnesting
      exact ⟨hjson (isShort_of_lexUpTo hlex), hdepth.trans hnesting⟩
    · cases hread
  · cases hread

end Json

end IntegrationFlow
