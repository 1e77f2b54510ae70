import IntegrationFlow.Proofs.Json.Lexing

/-!
# Written values read back

A value without infinite floats that is written with indentation is read as that value again, as far as its depth is
allowed (`parseWithin_pretty`).
-/

namespace IntegrationFlow.Json

/-! ### Reading the tokens of a value -/

/-- The tokens of the value are read as the value, whatever follows. -/
def Reads (v : Value) : Prop :=
  ∀ fuel rest, (tokens v).length ≤ fuel → readValue fuel (tokens v ++ rest) = some (v, rest)

/-- The tokens of a value begin with none that closes a bracket. -/
theorem exists_tokens_eq_cons (v : Value) :
    ∃ t ts, tokens v = t :: ts ∧ t ≠ .rightBracket ∧ t ≠ .rightBrace := by
  unfold tokens
  split <;> exact ⟨_, _, rfl, nofun, nofun⟩

theorem length_tokens_pos (v : Value) : 0 < (tokens v).length := by
  obtain ⟨t, ts, hts, -, -⟩ := exists_tokens_eq_cons v
  rw [hts]
  exact Nat.succ_pos _

section

variable {fuel : Nat} {rest : List Token}

private theorem readItems_tokens {v : Value} {vs : List Value} (hreads : ∀ w ∈ v :: vs, Reads w)
    (hfuel : (tokens v).length + (moreItems vs).length + 1 ≤ fuel) :
    readItems fuel (tokens v ++ (moreItems vs ++ .rightBracket :: rest)) = some (v :: vs, rest) := by
  induction vs generalizing v fuel with
  | nil =>
    obtain ⟨fuel, rfl⟩ : ∃ n, fuel = n + 1 := ⟨fuel - 1, by omega⟩
    rw [moreItems, List.nil_append, readItems, hreads v List.mem_cons_self fuel _ (by omega)]
  | cons w ws ih =>
    obtain ⟨fuel, rfl⟩ : ∃ n, fuel = n + 1 := ⟨fuel - 1, by omega⟩
    rw [moreItems, List.length_cons, List.length_append] at hfuel
    have hlater : readItems fuel (tokens w ++ (moreItems ws ++ .rightBracket :: rest)) = some (w :: ws, rest) :=
      ih (fun x hx => hreads x (List.mem_cons_of_mem v hx)) (by omega)
    rw [moreItems, List.cons_append, List.append_assoc, readItems, hreads v List.mem_cons_self fuel _ (by omega)]
    simp only [hlater, Option.map_some]

/-- A field with a new name is put behind those that were read before. -/
private theorem readFields_field {done : Entries} {e : Key × Value} (hkey : ∃ name, e.1 = .text name)
    (hnew : ∀ d ∈ done, d.1.eq e.1 = false) (hreads : Reads e.2) (hfuel : (tokens e.2).length ≤ fuel) :
    readFields (fuel + 1) done (keyToken e.1 :: .colon :: (tokens e.2 ++ rest)) =
      match rest with
      | .rightBrace :: rest => some (done ++ [e], rest)
      | .comma :: rest => readFields fuel (done ++ [e]) rest
      | _ => none := by
  obtain ⟨name, hname⟩ := hkey
  have hput : Entries.put (.text name) e.2 done = done ++ [e] := by
    rw [← hname, Entries.put_eq_append hnew]
  rw [hname, keyToken, readFields, hreads fuel rest hfuel]
  cases rest with
  | nil => rfl
  | cons t rest => cases t <;> simp only [hput]

private theorem readFields_tokens {done : Entries} {e : Key × Value} {es : Entries}
    (hkeys : ∀ d ∈ e :: es, ∃ name, d.1 = .text name) (hdistinct : (done ++ e :: es).Distinct)
    (hreads : ∀ d ∈ e :: es, Reads d.2) (hfuel : (tokens e.2).length + (moreFields es).length + 3 ≤ fuel) :
    readFields fuel done (keyToken e.1 :: .colon :: (tokens e.2 ++ (moreFields es ++ .rightBrace :: rest))) =
      some (done ++ e :: es, rest) := by
  induction es generalizing done e fuel with
  | nil =>
    obtain ⟨fuel, rfl⟩ : ∃ n, fuel = n + 1 := ⟨fuel - 1, by omega⟩
    have hnew : ∀ d ∈ done, d.1.eq e.1 = false := fun d hd =>
      (List.pairwise_append.1 hdistinct).2.2 d hd e List.mem_cons_self
    rw [moreFields, List.nil_append,
      readFields_field (hkeys e List.mem_cons_self) hnew (hreads e List.mem_cons_self) (by omega)]
  | cons d ds ih =>
    obtain ⟨fuel, rfl⟩ : ∃ n, fuel = n + 1 := ⟨fuel - 1, by omega⟩
    have hnew : ∀ d ∈ done, d.1.eq e.1 = false := fun d hd =>
      (List.pairwise_append.1 hdistinct).2.2 d hd e List.mem_cons_self
    rw [moreFields, List.length_cons, List.length_cons, List.length_cons, List.length_append] at hfuel
    have hlater : readFields fuel (done ++ [e])
        (keyToken d.1 :: .colon :: (tokens d.2 ++ (moreFields ds ++ .rightBrace :: rest))) =
          some (done ++ [e] ++ d :: ds, rest) :=
      ih (fun x hx => hkeys x (List.mem_cons_of_mem e hx)) (by rwa [List.append_assoc])
        (fun x hx => hreads x (List.mem_cons_of_mem e hx)) (by omega)
    rw [moreFields, List.cons_append, List.cons_append, List.cons_append, List.append_assoc,
      readFields_field (hkeys e List.mem_cons_self) hnew (hreads e List.mem_cons_self) (by omega)]
    simp only [hlater, List.append_assoc, List.singleton_append]

theorem reads_of_isJson {v : Value} (h : v.IsJson) : Reads v := by
  induction h with
  | @list items h ih =>
    rintro (_ | fuel) rest hfuel
    · exact absurd hfuel (Nat.not_le_of_lt (length_tokens_pos _))
    cases items with
    | nil => rfl
    | cons w ws =>
      simp only [tokens, List.length_cons, List.length_append] at hfuel
      have hitems : readItems fuel (tokens w ++ (moreItems ws ++ .rightBracket :: rest)) = some (w :: ws, rest) :=
        readItems_tokens ih (by omega)
      obtain ⟨t, ts, hts, hclose, -⟩ := exists_tokens_eq_cons w
      have htokens : tokens (.list (w :: ws)) ++ rest =
          .leftBracket :: (tokens w ++ (moreItems ws ++ .rightBracket :: rest)) := by
        simp [tokens]
      rw [hts, List.cons_append] at htokens hitems
      rw [htokens, readValue, hitems]
      · rfl
      · simpa using fun h => absurd h hclose
  | @object es hkeys hdistinct h ih =>
    rintro (_ | fuel) rest hfuel
    · exact absurd hfuel (Nat.not_le_of_lt (length_tokens_pos _))
    cases es with
    | nil => rfl
    | cons e es =>
      simp only [tokens, List.length_cons, List.length_append] at hfuel
      have hfields : readFields fuel []
          (keyToken e.1 :: .colon :: (tokens e.2 ++ (moreFields es ++ .rightBrace :: rest))) = some (e :: es, rest) :=
        readFields_tokens hkeys hdistinct ih (by omega)
      obtain ⟨name, hname⟩ := hkeys e List.mem_cons_self
      have htokens : tokens (.object (e :: es)) ++ rest =
          .leftBrace :: keyToken e.1 :: .colon :: (tokens e.2 ++ (moreFields es ++ .rightBrace :: rest)) := by
        simp [tokens]
      rw [hname, keyToken] at htokens hfields
      rw [htokens, readValue, hfields]
      · rfl
      · simp
  | _ =>
    rintro (_ | fuel) rest hfuel
    · cases hfuel
    · rfl

end

theorem ofTokens?_tokens {v : Value} (h : v.IsJson) : ofTokens? (tokens v) = some v := by
  have hread := reads_of_isJson h ((tokens v).length + 1) [] (Nat.le_succ _)
  rw [List.append_nil] at hread
  unfold ofTokens?
  rw [hread]

/-! ### The depth of the tokens of a value -/

/-- What a token does to the depth at which it stands, and to the greatest depth so far. -/
def deepen (now : Nat × Nat) : Token → Nat × Nat
  | .leftBracket | .leftBrace => (now.1 + 1, max now.2 (now.1 + 1))
  | .rightBracket | .rightBrace => (now.1 - 1, now.2)
  | _ => now

theorem nesting_eq (ts : List Token) : nesting ts = (ts.foldl deepen (0, 0)).2 :=
  congrArg (fun step => (ts.foldl step (0, 0)).2) (funext₂ fun _ t => by cases t <;> rfl)

/-- The tokens reach the stated depth above the one at which they stand, and end at that one. -/
def Reaches (ts : List Token) (depth : Nat) : Prop :=
  ∀ now most, now ≤ most → ts.foldl deepen (now, most) = (now, max most (now + depth))

namespace Reaches

variable {ts us : List Token} {d e : Nat}

theorem nil : Reaches [] 0 := by
  intro now most h
  rw [List.foldl_nil, Nat.add_zero, Nat.max_eq_left h]

theorem append (hts : Reaches ts d) (hus : Reaches us e) : Reaches (ts ++ us) (max d e) := by
  intro now most h
  rw [List.foldl_append, hts now most h, hus now _ (by omega)]
  congr 1
  omega

/-- Words that are no brackets add nothing. -/
theorem cons {t : Token} (ht : ∀ now, deepen now t = now) (hts : Reaches ts d) : Reaches (t :: ts) d := by
  intro now most h
  rw [List.foldl_cons, ht, hts now most h]

theorem brackets (h : Reaches ts d) : Reaches (.leftBracket :: (ts ++ [.rightBracket])) (d + 1) := by
  intro now most hle
  rw [List.foldl_cons, deepen, List.foldl_append, h _ _ (Nat.le_max_right _ _)]
  simp only [List.foldl_cons, List.foldl_nil, deepen, Nat.add_sub_cancel]
  congr 1
  omega

theorem braces (h : Reaches ts d) : Reaches (.leftBrace :: (ts ++ [.rightBrace])) (d + 1) := by
  intro now most hle
  rw [List.foldl_cons, deepen, List.foldl_append, h _ _ (Nat.le_max_right _ _)]
  simp only [List.foldl_cons, List.foldl_nil, deepen, Nat.add_sub_cancel]
  congr 1
  omega

theorem nesting (h : Reaches ts d) : nesting ts = d := by
  rw [nesting_eq, h 0 0 le_rfl]
  simp

end Reaches

private theorem deepen_keyToken (now : Nat × Nat) (k : Key) : deepen now (keyToken k) = now := by
  cases k <;> rfl

private theorem reaches_moreItems {vs : List Value} (h : ∀ v ∈ vs, Reaches (tokens v) v.depth) :
    Reaches (moreItems vs) (Value.depthOfItems vs) := by
  induction vs with
  | nil => exact .nil
  | cons v vs ih =>
    exact .cons (fun _ => rfl) ((h v List.mem_cons_self).append (ih fun w hw => h w (List.mem_cons_of_mem v hw)))

private theorem reaches_moreFields {es : Entries} (h : ∀ e ∈ es, Reaches (tokens e.2) e.2.depth) :
    Reaches (moreFields es) (Value.depthOfEntries es) := by
  induction es with
  | nil => exact .nil
  | cons e es ih =>
    exact .cons (fun _ => rfl) (.cons (deepen_keyToken · e.1) (.cons (fun _ => rfl)
      ((h e List.mem_cons_self).append (ih fun d hd => h d (List.mem_cons_of_mem e hd)))))

/-- The tokens of a value reach its depth. -/
theorem reaches_tokens {v : Value} (h : v.IsJson) : Reaches (tokens v) v.depth := by
  induction h with
  | @list items h ih =>
    cases items with
    | nil => exact Reaches.nil.brackets
    | cons w ws =>
      have hitems := (ih w List.mem_cons_self).append (reaches_moreItems fun x hx => ih x (List.mem_cons_of_mem w hx))
      rw [tokens, ← List.append_assoc]
      exact hitems.brackets
  | @object es hkeys hdistinct h ih =>
    cases es with
    | nil => exact Reaches.nil.braces
    | cons e es =>
      have hfields : Reaches (keyToken e.1 :: .colon :: (tokens e.2 ++ moreFields es)) (Value.depthOfEntries (e :: es)) :=
        .cons (deepen_keyToken · e.1) (.cons (fun _ => rfl)
          ((ih e List.mem_cons_self).append (reaches_moreFields fun d hd => ih d (List.mem_cons_of_mem e hd))))
      rw [tokens, ← List.append_assoc]
      exact hfields.braces
  | _ => exact .cons (fun _ => rfl) .nil

/-- A value that is written with indentation is read as that value, as far as its depth is allowed. -/
theorem parseWithin_pretty {v : Value} (h : v.IsJson) (hv : v.isFinite = true) {limit : Nat} (hdepth : v.depth ≤ limit) :
    parseWithin limit (pretty v) = some v := by
  unfold parseWithin
  rw [lex_pretty h hv, Option.bind_some, if_pos ((reaches_tokens h).nesting.trans_le hdepth), ofTokens?_tokens h]

end IntegrationFlow.Json
