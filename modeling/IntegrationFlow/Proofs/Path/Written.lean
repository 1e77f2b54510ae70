import IntegrationFlow.Proofs.Expression.Reading
import IntegrationFlow.Proofs.Json.Parsed
import IntegrationFlow.Proofs.Path.Assign
import IntegrationFlow.Proofs.Text.Trim

/-!
# Written paths

Steps are written one behind the other, names with a dot between them and positions in square brackets (`written`), or
all of them behind the dollar sign that stands for the value itself (`rooted`). `Cut` says into which pieces a text is
cut, without a bound on the number of pieces.

* A path that is written from steps is split into these steps again and leads where they lead (`steps_of_written`),
  unless a name at its ends is taken for a blank or for the sign.
* There are no other steps of which this is true (`split?_written_eq_some_iff`, `split?_rooted_eq_some_iff`). Characters
  are only dropped when a path is split (`Cut.isPlain_and_countP_le`), and one that is dropped from a name is missing.
-/

namespace IntegrationFlow.Path

open Decimal (digitsOf)
open Expression (Stops stops_nil stops_cons stops_dropWhile takeWhile_append_of_stops dropWhile_append_of_stops)

/-! ### Steps and what is written of them -/

/-- What is written of a step: a name, or the digits of a position in square brackets. -/
def Segment.source : Segment → List Char
  | .field name => name.toList
  | .index i => '[' :: (digitsOf i ++ [']'])

/-- What divides a step from what stands in front of it: a dot, if it is a name. -/
def Segment.divider : Segment → List Char
  | .field _ => ['.']
  | .index _ => []

/-- What is written of steps that stand behind another one, or behind the sign of the value itself. -/
def behind (ss : List Segment) : List Char :=
  ss.flatMap fun s => s.divider ++ s.source

/-- What is written of steps that stand in front. -/
def source : List Segment → List Char
  | [] => []
  | s :: ss => s.source ++ behind ss

/-- The path with the given steps, such as `order.items[0].sku`. -/
def written (ss : List Segment) : String :=
  String.ofList (source ss)

/-- The path with the given steps behind the sign of the value itself, such as `$.order.items[0].sku` or `$[0].sku`. -/
def rooted (ss : List Segment) : String :=
  String.ofList ('$' :: behind ss)

/-- A step that can be written: a name that is not empty and holds neither dots nor square brackets, or a position that
is not too long. -/
def Segment.IsPlain : Segment → Prop
  | .field name => name ≠ "" ∧ '.' ∉ name.toList ∧ '[' ∉ name.toList ∧ ']' ∉ name.toList
  | .index i => (digitsOf i).length ≤ Decimal.maxDigits

instance : DecidablePred Segment.IsPlain
  | .field name => inferInstanceAs (Decidable (name ≠ "" ∧ '.' ∉ name.toList ∧ '[' ∉ name.toList ∧ ']' ∉ name.toList))
  | .index i => inferInstanceAs (Decidable ((digitsOf i).length ≤ Decimal.maxDigits))

/-- The steps can be written behind the sign of the value itself: there is no blank at the end of the last one. -/
structure Rootable (ss : List Segment) : Prop where
  plain : ∀ s ∈ ss, s.IsPlain
  ending : ∀ name, ss.getLast? = some (.field name) → ∀ c ∈ name.toList.getLast?, Text.isBlank c = false

/-- The steps can also be written without the sign: the first one begins neither with it nor with a blank. -/
structure Writable (ss : List Segment) : Prop extends Rootable ss where
  beginning : ∀ name, ss.head? = some (.field name) → ∀ c ∈ name.toList.head?, c ≠ '$' ∧ Text.isBlank c = false

/-- The steps lead from one value to another one, through the entries of objects and the items of lists. -/
inductive Leads : Value → List Segment → Value → Prop
  | here {v : Value} : Leads v [] v
  | entry {entries : Entries} {name : String} {v w : Value} {ss : List Segment}
    (hv : Entries.field? name entries = some v) (h : Leads v ss w) : Leads (.object entries) (.field name :: ss) w
  | item {items : List Value} {i : Nat} {v w : Value} {ss : List Segment} (hv : items[i]? = some v)
    (h : Leads v ss w) : Leads (.list items) (.index i :: ss) w

/-- Following the steps reaches the value to which they lead. -/
theorem resolveSegments_eq_some_iff {v w : Value} {ss : List Segment} :
    resolveSegments v ss = some w ↔ Leads v ss w := by
  constructor
  · intro h
    induction ss generalizing v with
    | nil =>
      cases h
      exact .here
    | cons s ss ih =>
      obtain ⟨next, hnext, hrest⟩ := Option.bind_eq_some_iff.1 h
      unfold step? at hnext
      split at hnext
      · split at hnext
        · exact .entry hnext (ih hrest)
        · cases hnext
      · split at hnext
        · exact .item hnext (ih hrest)
        · cases hnext
  · intro h
    induction h with
    | here => rfl
    | entry hv _ ih | item hv _ ih => rw [resolveSegments, step?, hv, Option.bind_some, ih]

/-! ### Characters -/

theorem isNameChar_iff {c : Char} : isNameChar c = true ↔ c ≠ '.' ∧ c ≠ '[' ∧ c ≠ ']' := by
  simp [isNameChar, and_assoc]

theorem isNameChar_of_isBlank {c : Char} (h : Text.isBlank c = true) : isNameChar c = true := by
  rw [isNameChar_iff]
  refine ⟨?_, ?_, ?_⟩ <;> (rintro rfl; exact absurd h (by decide))

theorem isNameChar_of_isDecimalDigit {c : Char} (h : Text.isDecimalDigit c = true) : isNameChar c = true := by
  rw [isNameChar_iff]
  refine ⟨?_, ?_, ?_⟩ <;> (rintro rfl; exact absurd h (by decide))

/-- A name can be written when it is not empty and holds characters of names only. -/
theorem Segment.isPlain_field_iff {name : String} :
    (Segment.field name).IsPlain ↔ name.toList ≠ [] ∧ ∀ c ∈ name.toList, isNameChar c = true := by
  simp only [Segment.IsPlain, isNameChar_iff, forall_and, ne_eq, String.toList_eq_nil_iff, List.forall_mem_ne']

/-- The decimal digits of ASCII have their usual values. -/
theorem decimalValue?_of_isDigit {c : Char} (h : c.isDigit = true) :
    Text.decimalValue? c = some (c.toNat - '0'.toNat) := by
  have hrange : 48 ≤ c.toNat ∧ c.toNat < 58 := by
    simp only [Char.isDigit, Bool.and_eq_true, decide_eq_true_eq] at h
    exact ⟨h.1, Nat.lt_succ_of_le h.2⟩
  simp [Text.decimalValue?, Text.decimalZeros, hrange.1, hrange.2]

theorem isDecimalDigit_digitsOf (n : Nat) : ∀ c ∈ digitsOf n, Text.isDecimalDigit c = true := by
  intro c hc
  rw [Text.isDecimalDigit, decimalValue?_of_isDigit (Json.isDigit_digitsOf n c hc)]
  rfl

/-- The digits of a number are read as that number. -/
theorem ofDigits_digitsOf (n : Nat) : Decimal.ofDigits 10 ((digitsOf n).filterMap Text.decimalValue?) = n := by
  have hvalues : (digitsOf n).filterMap Text.decimalValue? = (digitsOf n).map fun c => c.toNat - '0'.toNat := by
    rw [← List.filterMap_eq_map]
    exact List.filterMap_congr fun c hc => decimalValue?_of_isDigit (Json.isDigit_digitsOf n c hc)
  rw [hvalues]
  exact Json.ofAsciiDigits_digitsOf n

/-- A number is below the power of ten with the count of its digits. -/
theorem ofDigits_decimalValues_lt (ds : List Char) :
    Decimal.ofDigits 10 (ds.filterMap Text.decimalValue?) < 10 ^ ds.length := by
  refine (Decimal.ofDigits_lt fun d hd => ?_).trans_le
    (Nat.pow_le_pow_right (by decide) (List.length_filterMap_le _ ds))
  obtain ⟨c, -, hc⟩ := List.mem_filterMap.1 hd
  exact Text.decimalValue?_lt hc

/-! ### How a text is cut -/

/-- The digits of a position are what stands in front of the closing bracket. -/
theorem takeIndex_eq_some_iff {cs ds rest : List Char} :
    takeIndex cs = some (ds, rest) ↔
      ds ≠ [] ∧ (∀ c ∈ ds, Text.isDecimalDigit c = true) ∧ cs = ds ++ ']' :: rest := by
  unfold takeIndex
  constructor
  · intro h
    split at h
    · next d ds' rest' htake hdrop =>
      cases h
      refine ⟨List.cons_ne_nil _ _, fun c hc => ?_, ?_⟩
      · rw [← htake] at hc
        exact List.mem_takeWhile_imp hc
      · rw [← htake, ← hdrop, List.takeWhile_append_dropWhile]
    · cases h
  · rintro ⟨hne, hdigits, rfl⟩
    have hstops : Stops Text.isDecimalDigit (']' :: rest) := stops_cons.2 (by decide)
    rw [takeWhile_append_of_stops hdigits hstops, dropWhile_append_of_stops hdigits hstops]
    cases ds with
    | nil => exact absurd rfl hne
    | cons d ds => rfl

/-- The pieces into which a text is cut: names as long as they go, and digits in square brackets. A character that
belongs to no piece is passed over. -/
inductive Cut : List Char → List Piece → Prop
  | nil : Cut [] []
  | name {cs rest : List Char} {ps : List Piece} (hne : cs ≠ []) (hname : ∀ c ∈ cs, isNameChar c = true)
    (hstops : Stops isNameChar rest) (hrest : Cut rest ps) : Cut (cs ++ rest) (.name cs :: ps)
  | digits {ds rest : List Char} {ps : List Piece} (hne : ds ≠ []) (hdigits : ∀ c ∈ ds, Text.isDecimalDigit c = true)
    (hrest : Cut rest ps) : Cut ('[' :: (ds ++ ']' :: rest)) (.digits ds :: ps)
  | skip {c : Char} {rest : List Char} {ps : List Piece} (hc : isNameChar c = false)
    (hindex : c = '[' → takeIndex rest = none) (hrest : Cut rest ps) : Cut (c :: rest) ps

variable {cs rest : List Char} {ps : List Piece} {fuel : Nat}

theorem cut_piecesUpTo (h : cs.length < fuel) : Cut cs (piecesUpTo fuel cs) := by
  fun_induction piecesUpTo fuel cs with
  | case1 => exact absurd h (Nat.not_lt_zero _)
  | case2 => exact .nil
  | case3 fuel c cs hc ih =>
    have hname : ∀ d ∈ c :: cs.takeWhile isNameChar, isNameChar d = true := by
      rintro d (_ | ⟨_, hd⟩)
      · exact hc
      · exact List.mem_takeWhile_imp hd
    have hlength := (List.dropWhile_suffix (p := isNameChar) (l := cs)).length_le
    have hcut := Cut.name (List.cons_ne_nil _ _) hname (stops_dropWhile isNameChar cs)
      (ih (by simp only [List.length_cons] at h; omega))
    rwa [List.cons_append, List.takeWhile_append_dropWhile] at hcut
  | case4 fuel c cs hc hbracket ds rest hindex ih =>
    obtain ⟨hne, hdigits, rfl⟩ := takeIndex_eq_some_iff.1 hindex
    rw [beq_iff_eq.1 hbracket]
    exact .digits hne hdigits (ih (by simp at h; omega))
  | case5 fuel c cs hc hbracket hindex ih =>
    exact .skip (Bool.eq_false_iff.2 hc) (fun _ => hindex) (ih (Nat.lt_of_succ_lt_succ h))
  | case6 fuel c cs hc hbracket ih =>
    exact .skip (Bool.eq_false_iff.2 hc) (fun heq => absurd (beq_iff_eq.2 heq) hbracket)
      (ih (Nat.lt_of_succ_lt_succ h))

theorem Cut.piecesUpTo_eq (hcut : Cut cs ps) (h : cs.length < fuel) : piecesUpTo fuel cs = ps := by
  induction hcut generalizing fuel with
  | nil => cases fuel <;> rfl
  | @name cs rest ps hne hname hstops _ ih =>
    obtain ⟨c, cs, rfl⟩ := List.exists_cons_of_ne_nil hne
    obtain ⟨fuel, rfl⟩ := Nat.exists_eq_succ_of_ne_zero (Nat.ne_zero_of_lt h)
    have hc : isNameChar c = true := hname c List.mem_cons_self
    have hcs : ∀ d ∈ cs, isNameChar d = true := fun d hd => hname d (List.mem_cons_of_mem _ hd)
    rw [List.cons_append, piecesUpTo, if_pos hc, takeWhile_append_of_stops hcs hstops,
      dropWhile_append_of_stops hcs hstops, ih (by simp at h; omega)]
  | @digits ds rest ps hne hdigits _ ih =>
    obtain ⟨fuel, rfl⟩ := Nat.exists_eq_succ_of_ne_zero (Nat.ne_zero_of_lt h)
    have hindex : takeIndex (ds ++ ']' :: rest) = some (ds, rest) := takeIndex_eq_some_iff.2 ⟨hne, hdigits, rfl⟩
    rw [piecesUpTo, if_neg (by decide), if_pos (by decide), hindex]
    exact congrArg _ (ih (by simp at h; omega))
  | @skip c rest ps hc hindex _ ih =>
    obtain ⟨fuel, rfl⟩ := Nat.exists_eq_succ_of_ne_zero (Nat.ne_zero_of_lt h)
    have hrest := ih (Nat.lt_of_succ_lt_succ h)
    rw [piecesUpTo, if_neg (Bool.eq_false_iff.1 hc)]
    split
    · next hbracket =>
      rw [hindex (beq_iff_eq.1 hbracket)]
      exact hrest
    · exact hrest

/-- The pieces of a path are those into which it is cut behind its sign. -/
theorem pieces_eq_iff {path : String} : pieces path = ps ↔ Cut (body path.toList) ps := by
  constructor
  · rintro rfl
    exact cut_piecesUpTo (Nat.lt_succ_self _)
  · exact fun h => h.piecesUpTo_eq (Nat.lt_succ_self _)

/-! ### What is written is cut into its steps -/

/-- What is cut out for a step. -/
def Segment.piece : Segment → Piece
  | .field name => .name name.toList
  | .index i => .digits (digitsOf i)

variable {s : Segment} {ss : List Segment}

theorem Segment.IsPlain.segment?_piece (h : s.IsPlain) : s.piece.segment? = some s := by
  cases s with
  | field name => rw [Segment.piece, Piece.segment?, String.ofList_toList]
  | index i => rw [Segment.piece, Piece.segment?, if_neg (Nat.not_lt.2 h), ofDigits_digitsOf]

theorem segmentsOf?_map_piece (h : ∀ s ∈ ss, s.IsPlain) : segmentsOf? (ss.map Segment.piece) = some ss := by
  induction ss with
  | nil => rfl
  | cons s ss ih =>
    have hs := (h s List.mem_cons_self).segment?_piece
    rw [List.map_cons, segmentsOf?, hs, ih fun t ht => h t (List.mem_cons_of_mem _ ht)]

theorem Segment.IsPlain.source_ne_nil (h : s.IsPlain) : s.source ≠ [] := by
  cases s with
  | field name => exact (Segment.isPlain_field_iff.1 h).1
  | index i => exact List.cons_ne_nil _ _

theorem behind_cons (s : Segment) (ss : List Segment) : behind (s :: ss) = s.divider ++ source (s :: ss) :=
  List.append_assoc s.divider s.source (behind ss)

/-- A name does not go on with what stands behind it. -/
theorem stops_behind (ss : List Segment) : Stops isNameChar (behind ss) := by
  cases ss with
  | nil => exact stops_nil _
  | cons s ss => cases s <;> exact stops_cons.2 (by decide)

theorem Segment.IsPlain.cut (h : s.IsPlain) (hstops : Stops isNameChar rest) (hrest : Cut rest ps) :
    Cut (s.source ++ rest) (s.piece :: ps) := by
  cases s with
  | field name =>
    obtain ⟨hne, hname⟩ := Segment.isPlain_field_iff.1 h
    exact .name hne hname hstops hrest
  | index i =>
    rw [Segment.source, List.cons_append, List.append_assoc]
    exact .digits (Json.digitsOf_ne_nil i) (isDecimalDigit_digitsOf i) hrest

theorem cut_divider (s : Segment) (hrest : Cut rest ps) : Cut (s.divider ++ rest) ps := by
  cases s with
  | field name => exact .skip (by decide) (fun h => absurd h (by decide)) hrest
  | index i => exact hrest

theorem cut_behind (h : ∀ s ∈ ss, s.IsPlain) : Cut (behind ss) (ss.map Segment.piece) := by
  induction ss with
  | nil => exact .nil
  | cons s ss ih =>
    rw [behind_cons]
    have hrest := ih fun t ht => h t (List.mem_cons_of_mem _ ht)
    exact cut_divider s ((h s List.mem_cons_self).cut (stops_behind ss) hrest)

theorem cut_source (h : ∀ s ∈ ss, s.IsPlain) : Cut (source ss) (ss.map Segment.piece) := by
  cases ss with
  | nil => exact .nil
  | cons s ss =>
    have hrest := cut_behind fun t ht => h t (List.mem_cons_of_mem s ht)
    exact (h s List.mem_cons_self).cut (stops_behind ss) hrest

/-! ### The ends of what is written -/

section

variable {p : Char → Prop}

/-- What is written begins with the first name, or with a bracket. -/
theorem head?_source_iff (h : ∀ s ∈ ss, s.IsPlain) (hp : p '[') :
    (∀ c ∈ (source ss).head?, p c) ↔
      ∀ name, ss.head? = some (.field name) → ∀ c ∈ name.toList.head?, p c := by
  cases ss with
  | nil => simp [source]
  | cons s ss =>
    rw [source, List.head?_append_of_ne_nil _ (h s List.mem_cons_self).source_ne_nil]
    cases s with
    | field name => simp [Segment.source]
    | index i => simpa [Segment.source] using hp

/-- What is written ends with the last name, or with a bracket. -/
theorem getLast?_behind_iff (h : ∀ s ∈ ss, s.IsPlain) (hp : p ']') :
    (∀ c ∈ (behind ss).getLast?, p c) ↔
      ∀ name, ss.getLast? = some (.field name) → ∀ c ∈ name.toList.getLast?, p c := by
  rcases List.eq_nil_or_concat' ss with rfl | ⟨ss, s, rfl⟩
  · simp [behind]
  · have hne : s.source ≠ [] := (h s (by simp)).source_ne_nil
    have hlast : (behind (ss ++ [s])).getLast? = s.source.getLast? := by
      rw [behind, List.flatMap_append, List.flatMap_singleton, List.getLast?_append_of_ne_nil _ (by simp [hne]),
        List.getLast?_append_of_ne_nil _ hne]
    rw [hlast]
    cases s with
    | field name => simp [Segment.source]
    | index i =>
      have hbracket : (Segment.index i).source.getLast? = some ']' :=
        List.getLast?_concat (l := '[' :: digitsOf i)
      simpa [hbracket] using hp

end

/-- What is written from the first step on ends as behind the sign of the value itself. -/
theorem getLast?_source (h : ∀ s ∈ ss, s.IsPlain) : (source ss).getLast? = (behind ss).getLast? := by
  cases ss with
  | nil => rfl
  | cons s ss =>
    have hne := (h s List.mem_cons_self).source_ne_nil
    rw [behind_cons, List.getLast?_append_of_ne_nil _ (by simp [source, hne])]

/-- Only the dot in front of a name is dropped behind the sign. -/
theorem dropWhile_behind (h : ∀ s ∈ ss, s.IsPlain) : (behind ss).dropWhile (· == '.') = source ss := by
  cases ss with
  | nil => rfl
  | cons s ss =>
    have hs := h s List.mem_cons_self
    have hdivider : ∀ c ∈ s.divider, (c == '.') = true := by cases s <;> simp [Segment.divider]
    have hstops : Stops (· == '.') (source (s :: ss)) := by
      intro c hc
      rw [source, List.head?_append_of_ne_nil _ hs.source_ne_nil] at hc
      cases s with
      | field name =>
        have hname := (Segment.isPlain_field_iff.1 hs).2 c (List.mem_of_mem_head? hc)
        simpa using (isNameChar_iff.1 hname).1
      | index i =>
        cases hc
        rfl
    rw [behind_cons, dropWhile_append_of_stops hdivider hstops]

/-! ### Blanks and the sign of the value itself -/

/-- Behind the sign the dots are dropped. -/
theorem body_of_sign (h : Text.trim cs = '$' :: rest) : body cs = rest.dropWhile (· == '.') := by
  simp only [body, h]

theorem body_of_no_sign (h : ∀ c ∈ (Text.trim cs).head?, c ≠ '$') : body cs = Text.trim cs := by
  unfold body
  split
  · next heq => exact absurd rfl (h '$' (by rw [heq]; rfl))
  · rfl

/-- A path without blanks around it and without a sign in front is cut as it stands. -/
theorem body_source (h : Writable ss) : body (source ss) = source ss := by
  have hfirst : ∀ c ∈ (source ss).head?, c ≠ '$' ∧ Text.isBlank c = false :=
    (head?_source_iff h.plain (by decide)).2 h.beginning
  have hlast : ∀ c ∈ (source ss).getLast?, Text.isBlank c = false := by
    rw [getLast?_source h.plain]
    exact (getLast?_behind_iff h.plain (by decide)).2 h.ending
  have htrim : Text.trim (source ss) = source ss := Text.trim_eq_self_iff.2 ⟨fun c hc => (hfirst c hc).2, hlast⟩
  have hsign : ∀ c ∈ (Text.trim (source ss)).head?, c ≠ '$' := by
    rw [htrim]
    exact fun c hc => (hfirst c hc).1
  rw [body_of_no_sign hsign, htrim]

/-- The blanks around a path with a sign in front are those at the end of what stands behind the sign. -/
theorem trim_sign_eq_self_iff {cs : List Char} :
    Text.trim ('$' :: cs) = '$' :: cs ↔ ∀ c ∈ cs.getLast?, Text.isBlank c = false := by
  have hfirst : ∀ c ∈ ('$' :: cs).head?, Text.isBlank c = false := by
    rintro c ⟨⟩
    decide
  have hlast : (∀ c ∈ ('$' :: cs).getLast?, Text.isBlank c = false) ↔ ∀ c ∈ cs.getLast?, Text.isBlank c = false := by
    cases cs with
    | nil => simp; decide
    | cons c cs => rw [List.getLast?_cons_cons]
  rw [Text.trim_eq_self_iff, hlast]
  exact and_iff_right hfirst

/-- The sign and the dot behind it are dropped. -/
theorem body_sign_behind (h : Rootable ss) : body ('$' :: behind ss) = source ss := by
  have htrim := trim_sign_eq_self_iff.2 ((getLast?_behind_iff h.plain (by decide)).2 h.ending)
  rw [body_of_sign htrim, dropWhile_behind h.plain]

/-! ### No characters are added -/

/-- What divides the steps does not count among the characters that can stand in names. -/
theorem countP_behind_cons (s : Segment) (ss : List Segment) :
    (behind (s :: ss)).countP isNameChar = s.source.countP isNameChar + (behind ss).countP isNameChar := by
  have hdivider : s.divider.countP isNameChar = 0 := by cases s <;> rfl
  rw [behind_cons, source, List.countP_append, List.countP_append, hdivider, Nat.zero_add]

theorem countP_source (ss : List Segment) : (source ss).countP isNameChar = (behind ss).countP isNameChar := by
  cases ss with
  | nil => rfl
  | cons s ss => rw [source, List.countP_append, countP_behind_cons]

theorem countP_source_index (i : Nat) : (Segment.index i).source.countP isNameChar = (digitsOf i).length := by
  have hdigits : (digitsOf i).countP isNameChar = (digitsOf i).length :=
    List.countP_eq_length.2 fun c hc => isNameChar_of_isDecimalDigit (isDecimalDigit_digitsOf i c hc)
  have hbrackets : ['['].countP isNameChar = 0 ∧ [']'].countP isNameChar = 0 := ⟨rfl, rfl⟩
  have hsource : (Segment.index i).source = ['['] ++ (digitsOf i ++ [']']) := rfl
  rw [hsource, List.countP_append, List.countP_append, hbrackets.1, hbrackets.2, hdigits, Nat.zero_add, Nat.add_zero]

/-- The steps that are read off a text can be written, with no more characters of names than the text has. -/
theorem Cut.isPlain_and_countP_le (hcut : Cut cs ps) (h : segmentsOf? ps = some ss) :
    (∀ s ∈ ss, s.IsPlain) ∧ (behind ss).countP isNameChar ≤ cs.countP isNameChar := by
  induction hcut generalizing ss with
  | nil =>
    cases h
    exact ⟨by simp, Nat.le_refl _⟩
  | @name cs rest ps hne hname hstops _ ih =>
    obtain ⟨s, ss, hs, hss, rfl⟩ := segmentsOf?_cons_eq_some_iff.1 h
    obtain ⟨hplain, hcount⟩ := ih hss
    obtain rfl : .field (String.ofList cs) = s := Option.some.inj hs
    refine ⟨List.forall_mem_cons.2 ⟨Segment.isPlain_field_iff.2 ?_, hplain⟩, ?_⟩
    · rw [String.toList_ofList]
      exact ⟨hne, hname⟩
    · rw [countP_behind_cons, List.countP_append, Segment.source, String.toList_ofList]
      exact Nat.add_le_add_left hcount _
  | @digits ds rest ps hne hdigits _ ih =>
    obtain ⟨s, ss, hs, hss, rfl⟩ := segmentsOf?_cons_eq_some_iff.1 h
    obtain ⟨hplain, hcount⟩ := ih hss
    unfold Piece.segment? at hs
    dsimp only at hs
    split at hs
    · cases hs
    · next hshort =>
      cases hs
      -- There may be zeros in front, which are not written again.
      have hlength := Decimal.length_digitsOf_le (List.length_pos_of_ne_nil hne) (ofDigits_decimalValues_lt ds)
      have hds : ds.countP isNameChar = ds.length :=
        List.countP_eq_length.2 fun c hc => isNameChar_of_isDecimalDigit (hdigits c hc)
      refine ⟨List.forall_mem_cons.2 ⟨hlength.trans (Nat.le_of_not_lt hshort), hplain⟩, ?_⟩
      have hwhole : ('[' :: (ds ++ ']' :: rest)).countP isNameChar = ds.length + rest.countP isNameChar := by
        rw [List.countP_cons_of_neg (by decide), List.countP_append, List.countP_cons_of_neg (by decide), hds]
      rw [countP_behind_cons, countP_source_index, hwhole]
      exact Nat.add_le_add hlength hcount
  | @skip c rest ps hc hindex _ ih =>
    obtain ⟨hplain, hcount⟩ := ih h
    exact ⟨hplain, hcount.trans (List.sublist_cons_self c rest).countP_le⟩

/-- A text that keeps these characters when it is trimmed has no blanks around it, since a blank is one of them. -/
theorem trim_eq_of_countP_le (h : cs.countP isNameChar ≤ (Text.trim cs).countP isNameChar) : Text.trim cs = cs := by
  obtain ⟨before, after, hbefore, hafter, hleft, hcs⟩ := Text.exists_blanks_trim cs
  have hcount : cs.countP isNameChar = before.length + ((Text.trim cs).countP isNameChar + after.length) := by
    rw [← List.countP_eq_length.2 fun c hc => isNameChar_of_isBlank (hbefore c hc),
      ← List.countP_eq_length.2 fun c hc => isNameChar_of_isBlank (hafter c hc), ← List.countP_append,
      ← hleft, ← List.countP_append, ← hcs]
  obtain rfl : before = [] := List.eq_nil_of_length_eq_zero (by omega)
  obtain rfl : after = [] := List.eq_nil_of_length_eq_zero (by omega)
  rw [List.append_nil] at hleft
  rw [List.nil_append] at hcs
  exact hleft.symm.trans hcs.symm

/-- The sign counts among these characters, and it is dropped. -/
theorem countP_body_of_sign (h : Text.trim cs = '$' :: rest) :
    (body cs).countP isNameChar + 1 ≤ (Text.trim cs).countP isNameChar := by
  rw [body_of_sign h, h, List.countP_cons_of_pos (by decide)]
  exact Nat.add_le_add_right (List.dropWhile_sublist _).countP_le 1

/-! ### Splitting what was written -/

/-- The steps of a path can be written, with no more characters of names than stand behind its sign. -/
theorem isPlain_and_countP_le_of_split? {path : String} (h : split? path = some ss) :
    (∀ s ∈ ss, s.IsPlain) ∧ (behind ss).countP isNameChar ≤ (body path.toList).countP isNameChar :=
  (pieces_eq_iff.1 rfl).isPlain_and_countP_le h

/-- A path with nothing but some steps in it has these steps. -/
theorem split?_of_body {path : String} (hplain : ∀ s ∈ ss, s.IsPlain) (h : body path.toList = source ss) :
    split? path = some ss := by
  have hpieces : pieces path = ss.map Segment.piece := by
    rw [pieces_eq_iff, h]
    exact cut_source hplain
  rw [split?_eq, hpieces, segmentsOf?_map_piece hplain]

/-- Steps are read off what is written of them behind the sign exactly when they can be written there. -/
theorem split?_rooted_eq_some_iff : split? (rooted ss) = some ss ↔ Rootable ss := by
  have htext : (rooted ss).toList = '$' :: behind ss := String.toList_ofList
  constructor
  · intro h
    obtain ⟨hplain, hcount⟩ := isPlain_and_countP_le_of_split? h
    rw [htext] at hcount
    obtain ⟨rest, hrest⟩ := Text.exists_trim_cons (c := '$') (by decide) (behind ss)
    have hlost := countP_body_of_sign hrest
    -- The only character that may be lost is the sign.
    have htrim : Text.trim ('$' :: behind ss) = '$' :: behind ss := by
      refine trim_eq_of_countP_le ?_
      rw [List.countP_cons_of_pos (by decide)]
      omega
    exact ⟨hplain, (getLast?_behind_iff hplain (by decide)).1 (trim_sign_eq_self_iff.1 htrim)⟩
  · intro h
    refine split?_of_body h.plain ?_
    rw [htext, body_sign_behind h]

/-- Steps are read off what is written of them exactly when they can be written without the sign. -/
theorem split?_written_eq_some_iff : split? (written ss) = some ss ↔ Writable ss := by
  have htext : (written ss).toList = source ss := String.toList_ofList
  constructor
  · intro h
    obtain ⟨hplain, hcount⟩ := isPlain_and_countP_le_of_split? h
    rw [htext, ← countP_source] at hcount
    -- With a sign in front the text has one character more than what is read off it.
    have hsign : ∀ c ∈ (Text.trim (source ss)).head?, c ≠ '$' := by
      rintro c hc rfl
      obtain ⟨rest, hrest⟩ := List.head?_eq_some_iff.1 hc
      have hlost := countP_body_of_sign hrest
      have hless := (Text.trim_sublist (source ss)).countP_le (p := isNameChar)
      omega
    rw [body_of_no_sign hsign] at hcount
    have htrim := trim_eq_of_countP_le hcount
    obtain ⟨hfirst, hlast⟩ := Text.trim_eq_self_iff.1 htrim
    rw [htrim] at hsign
    rw [getLast?_source hplain] at hlast
    exact ⟨⟨hplain, (getLast?_behind_iff hplain (by decide)).1 hlast⟩,
      (head?_source_iff hplain (by decide)).1 fun c hc => ⟨hsign c hc, hfirst c hc⟩⟩
  · intro h
    refine split?_of_body h.plain ?_
    rw [htext, body_source h]

/-- A path reaches a value exactly when its steps lead there. -/
theorem resolve_eq_ok_iff {path : String} {v w : Value} (h : split? path = some ss) :
    resolve v path = .ok w ↔ Leads v ss w := by
  unfold resolve
  rw [h, ← resolveSegments_eq_some_iff]
  dsimp only
  cases resolveSegments v ss <;> simp

/-- Nothing is found at a path exactly when its steps lead nowhere. -/
theorem resolve_eq_missing_iff {path : String} {v : Value} (h : split? path = some ss) :
    resolve v path = .error .missing ↔ ∀ w, ¬ Leads v ss w := by
  simp only [← resolveSegments_eq_some_iff]
  unfold resolve
  rw [h]
  dsimp only
  cases resolveSegments v ss <;> simp

/-- What is written of some steps, with or without the sign of the value itself in front, is split into these steps
again, and it leads from a value to where the steps lead. -/
theorem steps_of_written (h : Writable ss) :
    ∀ path ∈ [written ss, rooted ss], split? path = some ss ∧
      ∀ v, (∀ w, resolve v path = .ok w ↔ Leads v ss w) ∧ (resolve v path = .error .missing ↔ ∀ w, ¬ Leads v ss w) := by
  intro path hpath
  have hsplit : split? path = some ss := by
    rcases List.mem_pair.1 hpath with rfl | rfl
    · exact split?_written_eq_some_iff.2 h
    · exact split?_rooted_eq_some_iff.2 h.toRootable
  exact ⟨hsplit, fun v => ⟨fun w => resolve_eq_ok_iff hsplit, resolve_eq_missing_iff hsplit⟩⟩

/-- Steps through objects and lists, with a blank and a dollar sign inside of names. -/
def sampleSteps : List Segment :=
  [.field "order", .field "line items", .index 12, .index 0, .field "$sku"]

/-- A value with a way along these steps. -/
def sampleData : Value :=
  let item : Value := .list [.object [(.text "$sku", .int 7)]]
  .object [(.text "order", .object [(.text "line items", .list (List.replicate 12 (.bool false) ++ [item]))])]

theorem writable_sampleSteps : Writable sampleSteps where
  plain := by decide +kernel
  ending := by
    rintro name ⟨⟩ c ⟨⟩
    decide
  beginning := by
    rintro name ⟨⟩ c ⟨⟩
    decide

theorem leads_sampleSteps : Leads sampleData sampleSteps (.int 7) :=
  .entry rfl (.entry rfl (.item rfl (.item rfl (.entry rfl .here))))

/-- The steps are read off both forms of the path, and the value at their end is found. -/
theorem steps_of_written_sampleSteps :
    Writable sampleSteps ∧
      written sampleSteps = "order.line items[12][0].$sku" ∧
      rooted sampleSteps = "$.order.line items[12][0].$sku" ∧
      split? "order.line items[12][0].$sku" = some sampleSteps ∧
      split? "$.order.line items[12][0].$sku" = some sampleSteps ∧
      resolve sampleData "order.line items[12][0].$sku" = .ok (.int 7) := by
  have hwritten : written sampleSteps = "order.line items[12][0].$sku" := by decide +kernel
  have hrooted : rooted sampleSteps = "$.order.line items[12][0].$sku" := by decide +kernel
  have hsteps := steps_of_written writable_sampleSteps
  rw [hwritten, hrooted] at hsteps
  obtain ⟨hsplit, hresolve⟩ := hsteps _ List.mem_cons_self
  obtain ⟨hsplit', -⟩ := hsteps _ (List.mem_cons_of_mem _ List.mem_cons_self)
  exact ⟨writable_sampleSteps, hwritten, hrooted, hsplit, hsplit', ((hresolve sampleData).1 _).2 leads_sampleSteps⟩

end IntegrationFlow.Path
