import IntegrationFlow.Proofs.Decimal.ReadBack
import IntegrationFlow.Json.Printer

/-!
# Numbers in JSON texts

What is written of a whole number or of a finite float is read as that number again (`lexToken_showInt` and
`lexToken_render`), unless the text that follows goes on with it (`EndsNumber`).
-/

namespace IntegrationFlow.Json

open Decimal

/-- The text does not go on with a number that stands in front of it. -/
def EndsNumber (cs : List Char) : Prop :=
  ∀ c ∈ cs.head?, c.isDigit = false ∧ c ≠ '.' ∧ c ≠ 'e' ∧ c ≠ 'E'

/-! ### Digits -/

section

variable {ds rest : List Char}

theorem ofAsciiDigits_eq (ds : List Char) : ofAsciiDigits ds = Nat.ofDigitChars 10 ds 0 := by
  rw [ofAsciiDigits, ofDigits, List.foldl_map]
  exact Nat.ofDigitChars_eq_foldl.symm

theorem ofAsciiDigits_digitsOf (n : Nat) : ofAsciiDigits (digitsOf n) = n := by
  rw [ofAsciiDigits_eq]
  exact Nat.ofDigitChars_ten_toDigits

/-- Zeros in front do not count. -/
theorem ofAsciiDigits_zeros_append (k : Nat) (ds : List Char) :
    ofAsciiDigits (List.replicate k '0' ++ ds) = ofAsciiDigits ds := by
  rw [ofAsciiDigits_eq, ofAsciiDigits_eq, Nat.ofDigitChars_append, Nat.ofDigitChars_replicate_zero, Nat.mul_zero]

/-- Zeros at the end count as a power of ten. -/
theorem ofAsciiDigits_append_zeros (ds : List Char) (k : Nat) :
    ofAsciiDigits (ds ++ List.replicate k '0') = 10 ^ k * ofAsciiDigits ds := by
  rw [ofAsciiDigits_eq, ofAsciiDigits_eq, Nat.ofDigitChars_append, Nat.ofDigitChars_replicate_zero]

theorem digitsOf_ne_nil (n : Nat) : digitsOf n ≠ [] :=
  Nat.toDigits_ne_nil

theorem isDigit_digitsOf (n : Nat) : ∀ c ∈ digitsOf n, c.isDigit = true :=
  fun _ hc => Nat.isDigit_of_mem_toDigits (by decide) (by decide) hc

theorem isDigit_replicate (k : Nat) : ∀ c ∈ List.replicate k '0', c.isDigit = true := by
  intro c hc
  rw [List.eq_of_mem_replicate hc]
  rfl

theorem isDigit_padZeros {ds : List Char} (width : Nat) (h : ∀ c ∈ ds, c.isDigit = true) :
    ∀ c ∈ padZeros width ds, c.isDigit = true := by
  intro c hc
  rcases List.mem_append.1 hc with hc | hc
  · exact isDigit_replicate _ c hc
  · exact h c hc

/-- A positive number does not begin with a zero. -/
theorem head?_digitsOf {n : Nat} (h : 0 < n) : (digitsOf n).head? ≠ some '0' := by
  unfold digitsOf
  induction n using Nat.strongRecOn with
  | ind n ih =>
    rcases Nat.lt_or_ge n 10 with hsmall | hlarge
    · rw [Nat.toDigits_of_lt_base hsmall]
      interval_cases n <;> decide
    · rw [Nat.toDigits_of_base_le (by decide) hlarge, List.head?_append_of_ne_nil _ Nat.toDigits_ne_nil]
      exact ih (n / 10) (by omega) (by omega)

/-- The digits in front of a text that does not begin with one. -/
theorem takeAsciiDigits_append (hdigits : ∀ c ∈ ds, c.isDigit = true) (hrest : ∀ c ∈ rest.head?, c.isDigit = false) :
    takeAsciiDigits (ds ++ rest) = (ds, rest) := by
  have hstop : rest.takeWhile Char.isDigit = [] ∧ rest.dropWhile Char.isDigit = rest := by
    cases rest with
    | nil => exact ⟨rfl, rfl⟩
    | cons c cs =>
      have hc : c.isDigit = false := hrest c rfl
      simp [hc]
  unfold takeAsciiDigits
  rw [List.takeWhile_append_of_pos hdigits, List.dropWhile_append_of_pos hdigits, hstop.1, hstop.2, List.append_nil]

end

/-! ### The parts of a number -/

section

variable {rest : List Char}

theorem lexFraction_none (hrest : EndsNumber rest) : lexFraction rest = some (none, rest) := by
  unfold lexFraction
  split
  · exact absurd rfl (hrest '.' rfl).2.1
  · rfl

theorem lexFraction_point (ds : List Char) (hne : ds ≠ []) (hdigits : ∀ c ∈ ds, c.isDigit = true)
    (hrest : ∀ c ∈ rest.head?, c.isDigit = false) : lexFraction ('.' :: (ds ++ rest)) = some (some ds, rest) := by
  unfold lexFraction
  simp only [takeAsciiDigits_append hdigits hrest]

theorem lexExponent_none (hrest : EndsNumber rest) : lexExponent rest = some (none, rest) := by
  unfold lexExponent
  split
  · rfl
  · next c cs =>
    obtain ⟨-, -, he, hE⟩ := hrest c rfl
    rw [if_neg (by simp [he, hE])]

theorem takeSign_cons (negative : Bool) (cs : List Char) :
    takeSign ((if negative then '-' else '+') :: cs) = (negative, cs) := by
  cases negative <;> rfl

theorem signed_natAbs (n : Int) : signed (decide (n < 0)) n.natAbs = n := by
  unfold signed
  split
  · next h =>
    have hneg : n < 0 := of_decide_eq_true h
    omega
  · next h =>
    have hpos : ¬ n < 0 := fun hneg => h (decide_eq_true hneg)
    omega

theorem lexExponent_exponentText (e : Int) (hrest : ∀ c ∈ rest.head?, c.isDigit = false) :
    lexExponent (exponentText e ++ rest) = some (some e, rest) := by
  have hdigits := isDigit_padZeros 2 (isDigit_digitsOf e.natAbs)
  have hvalue : ofAsciiDigits (padZeros 2 (digitsOf e.natAbs)) = e.natAbs := by
    unfold padZeros
    rw [ofAsciiDigits_zeros_append, ofAsciiDigits_digitsOf]
  have htake := takeAsciiDigits_append hdigits hrest
  have hne : padZeros 2 (digitsOf e.natAbs) ≠ [] := by
    unfold padZeros
    exact List.append_ne_nil_of_right_ne_nil _ (digitsOf_ne_nil _)
  have hsign := takeSign_cons (decide (e < 0)) (padZeros 2 (digitsOf e.natAbs) ++ rest)
  simp only [decide_eq_true_eq] at hsign
  unfold exponentText lexExponent
  simp only [List.cons_append, hsign, htake]
  rw [if_pos (by rfl)]
  generalize padZeros 2 (digitsOf e.natAbs) = ds at *
  cases ds with
  | nil => exact absurd rfl hne
  | cons d ds => simp only [hvalue, signed_natAbs]

/-- A number with a fraction and without an exponent. -/
theorem lexUnsigned_point (negative : Bool) (whole fraction : List Char) (hne : whole ≠ [])
    (hwhole : ∀ c ∈ whole, c.isDigit = true) (hlead : 1 < whole.length → whole.head? ≠ some '0') (hne' : fraction ≠ [])
    (hfraction : ∀ c ∈ fraction, c.isDigit = true) (hrest : EndsNumber rest) :
    lexUnsigned negative (whole ++ '.' :: (fraction ++ rest)) =
      some (.float (if negative then -ofScientific (ofAsciiDigits (whole ++ fraction)) (-fraction.length)
        else ofScientific (ofAsciiDigits (whole ++ fraction)) (-fraction.length)), rest) := by
  have htake : takeAsciiDigits (whole ++ '.' :: (fraction ++ rest)) = (whole, '.' :: (fraction ++ rest)) :=
    takeAsciiDigits_append hwhole (by simp)
  have hpoint := lexFraction_point fraction hne' hfraction fun c hc => (hrest c hc).1
  unfold lexUnsigned
  rw [htake]
  split
  · next h => simp at h; exact absurd h.1 hne
  · next h =>
    cases h
    rw [if_neg (by simpa using hlead)]
    simp only [hpoint, lexExponent_none hrest]

/-- A number of one digit in front of the point and with an exponent. -/
theorem lexUnsigned_exponent (negative : Bool) {d : Char} {fraction : List Char} (e : Int)
    (hdigits : ∀ c ∈ d :: fraction, c.isDigit = true) (hrest : EndsNumber rest) :
    lexUnsigned negative ((if fraction.isEmpty then [d] else d :: '.' :: fraction) ++ (exponentText e ++ rest)) =
      some (.float (if negative then -ofScientific (ofAsciiDigits (d :: fraction)) (e - fraction.length)
        else ofScientific (ofAsciiDigits (d :: fraction)) (e - fraction.length)), rest) := by
  have hd : ∀ c ∈ [d], c.isDigit = true := by simpa using hdigits d List.mem_cons_self
  have hends : ∀ c ∈ (exponentText e ++ rest).head?, c.isDigit = false := by simp [exponentText]
  have hexponent := lexExponent_exponentText e fun c hc => (hrest c hc).1
  unfold lexUnsigned
  cases fraction with
  | nil =>
    have htake := takeAsciiDigits_append hd hends
    have hfraction : lexFraction (exponentText e ++ rest) = some (none, exponentText e ++ rest) := rfl
    simp only [List.isEmpty_nil, if_true, htake, hfraction, hexponent]
    simp
  | cons f fs =>
    have htake : takeAsciiDigits ([d] ++ '.' :: (f :: fs ++ (exponentText e ++ rest))) =
        ([d], '.' :: (f :: fs ++ (exponentText e ++ rest))) := takeAsciiDigits_append hd (by simp)
    have hfraction := lexFraction_point (f :: fs) (by simp)
      (fun c hc => hdigits c (List.mem_cons_of_mem d hc)) hends
    simp only [List.cons_append, List.nil_append] at htake hfraction
    simp [htake, hfraction, hexponent]

end

/-! ### Whole texts -/

/-- The parts in front of and behind the point of a number that is written positionally. -/
structure IsPositional (ds : List Char) (e : Int) (whole fraction : List Char) : Prop where
  layout : layout ds e = whole ++ '.' :: fraction
  whole_ne : whole ≠ []
  isDigit_whole : ∀ c ∈ whole, c.isDigit = true
  lead : 1 < whole.length → whole.head? ≠ some '0'
  fraction_ne : fraction ≠ []
  isDigit_fraction : ∀ c ∈ fraction, c.isDigit = true
  value : (ofAsciiDigits (whole ++ fraction) * 10 ^ (-fraction.length : ℤ) : ℚ) =
    ofAsciiDigits ds * 10 ^ (e + 1 - ds.length)

theorem exists_isPositional {ds : List Char} {e : Int} (hne : ds ≠ []) (hdigits : ∀ c ∈ ds, c.isDigit = true)
    (hlead : ds.head? ≠ some '0') (hrange : positionalFrom ≤ e ∧ e ≤ positionalTo) :
    ∃ whole fraction, IsPositional ds e whole fraction := by
  rcases lt_or_ge e 0 with hneg | hpos
  · -- Zeros stand between the point and the digits.
    refine ⟨['0'], List.replicate (-e - 1).toNat '0' ++ ds, ?_, by simp, by simp, by simp, by simp [hne], ?_, ?_⟩
    · unfold layout
      rw [if_pos hrange, if_pos hneg]
      rfl
    · exact fun c hc => (List.mem_append.1 hc).elim (isDigit_replicate _ c) (hdigits c)
    · rw [← List.replicate_one, ofAsciiDigits_zeros_append, ofAsciiDigits_zeros_append]
      congr 2
      rw [List.length_append, List.length_replicate]
      omega
  · generalize hwide : (e + 1).toNat = w
    have hlayout : layout ds e = ds.take w ++ List.replicate (w - ds.length) '0' ++
        '.' :: (if (ds.drop w).isEmpty then ['0'] else ds.drop w) := by
      unfold layout
      rw [if_pos hrange, if_neg (by omega), hwide]
    have hwhole_ne : ds.take w ++ List.replicate (w - ds.length) '0' ≠ [] := by
      have hw : w ≠ 0 := by omega
      simp [hne, hw]
    have hwhole : ∀ c ∈ ds.take w ++ List.replicate (w - ds.length) '0', c.isDigit = true := fun c hc =>
      (List.mem_append.1 hc).elim (fun hc => hdigits c (List.mem_of_mem_take hc)) (isDigit_replicate _ c)
    have hhead : (ds.take w ++ List.replicate (w - ds.length) '0').head? ≠ some '0' := by
      obtain ⟨v, rfl⟩ : ∃ v, w = v + 1 := ⟨w - 1, by omega⟩
      cases ds with
      | nil => exact absurd rfl hne
      | cons d ds => simpa using hlead
    rcases lt_or_ge w ds.length with hlong | hshort
    · -- The point stands between the digits.
      have hrest : ds.drop w ≠ [] := by simpa using hlong
      refine ⟨_, ds.drop w, ?_, hwhole_ne, hwhole, fun _ => hhead, hrest,
        fun c hc => hdigits c (List.mem_of_mem_drop hc), ?_⟩
      · rw [hlayout, if_neg (by simpa using hrest)]
      · rw [Nat.sub_eq_zero_of_le hlong.le, List.replicate_zero, List.append_nil, List.take_append_drop]
        congr 2
        rw [List.length_drop]
        omega
    · -- Zeros stand between the digits and the point.
      have hrest : ds.drop w = [] := List.drop_eq_nil_of_le hshort
      refine ⟨_, ['0'], ?_, hwhole_ne, hwhole, fun _ => hhead, by simp, by simp, ?_⟩
      · rw [hlayout, hrest]
        rfl
      · have hexponent : e + 1 - ds.length = ((w - ds.length : Nat) : Int) := by omega
        rw [List.take_of_length_le hshort, List.append_assoc, ← List.replicate_one, List.replicate_append_replicate,
          ofAsciiDigits_append_zeros, hexponent, zpow_natCast, List.length_replicate, pow_succ]
        push_cast
        rw [zpow_neg_one]
        field_simp

/-- Digits laid out around a point are read as a decimal of their value. -/
theorem exists_lexUnsigned_layout (negative : Bool) {ds rest : List Char} (e : Int) (hne : ds ≠ [])
    (hdigits : ∀ c ∈ ds, c.isDigit = true) (hlead : ds.head? ≠ some '0') (hrest : EndsNumber rest) :
    ∃ (n : Nat) (k : Int), (n * 10 ^ k : ℚ) = ofAsciiDigits ds * 10 ^ (e + 1 - ds.length) ∧
      lexUnsigned negative (layout ds e ++ rest) =
        some (.float (if negative then -ofScientific n k else ofScientific n k), rest) := by
  by_cases hrange : positionalFrom ≤ e ∧ e ≤ positionalTo
  · obtain ⟨whole, fraction, h⟩ := exists_isPositional hne hdigits hlead hrange
    refine ⟨_, _, h.value, ?_⟩
    have hlex := lexUnsigned_point negative whole fraction h.whole_ne h.isDigit_whole h.lead h.fraction_ne
      h.isDigit_fraction hrest
    rw [h.layout, List.append_assoc, List.cons_append]
    exact hlex
  · cases ds with
    | nil => exact absurd rfl hne
    | cons d ds =>
      refine ⟨ofAsciiDigits (d :: ds), e - ds.length, ?_, ?_⟩
      · congr 2
        rw [List.length_cons]
        omega
      · have hlex := lexUnsigned_exponent negative e hdigits hrest
        unfold layout
        rw [if_neg hrange]
        simpa only [List.append_assoc] using hlex

/-- The unsigned text of a finite float is read as that float. -/
theorem lexUnsigned_render {x : Float} {b : Binary} {rest : List Char} (hb : Binary.ofFloat? x = some b)
    (hrest : EndsNumber rest) :
    lexUnsigned b.negative ((if b.mantissa == 0 then ['0', '.', '0'] else b.shortest.render) ++ rest) =
      some (.float x, rest) := by
  obtain ⟨-, hwrites⟩ := writes_of_ofFloat? hb
  have hsigned := signed_ofBits_magnitude hb
  by_cases hzero : b.mantissa = 0
  · have hlex := lexUnsigned_point b.negative ['0'] ['0'] (by simp) (by simp) (by simp) (by simp) (by simp) hrest
    have hmagnitude : magnitude x = 0 := by
      have hnormal := hwrites.normal
      rw [hwrites.magnitude, hzero]
      omega
    have hscientific : ofScientific (ofAsciiDigits (['0'] ++ ['0'])) (-(['0'] : List Char).length) =
        Float.ofBits (UInt64.ofNat 0) := rfl
    rw [hscientific, ← hmagnitude, hsigned] at hlex
    rw [if_pos (by simpa using hzero)]
    exact hlex
  · have hpos : 0 < b.mantissa := Nat.pos_of_ne_zero hzero
    have hround := Binary.roundsTo_shortest hwrites hpos
    have hdigits : 0 < b.shortest.digits := by
      have hvalue := hround.pos hpos
      refine Nat.pos_of_ne_zero fun hzero => ?_
      unfold Scientific.value at hvalue
      simp [hzero] at hvalue
    obtain ⟨n, k, hvalue, hlex⟩ := exists_lexUnsigned_layout b.negative
      (b.shortest.exponent + (digitsOf b.shortest.digits).length - 1) (digitsOf_ne_nil _)
      (isDigit_digitsOf b.shortest.digits) (head?_digitsOf hdigits) hrest
    -- The number that is read is the shortest decimal, and this rounds to the float.
    have hsame : (n * 10 ^ k : ℚ) = b.shortest.value := by
      rw [hvalue, ofAsciiDigits_digitsOf]
      unfold Scientific.value
      congr 2
      omega
    rw [ofScientific_eq hpos (hsame ▸ hround), ← hwrites.magnitude, hsigned] at hlex
    rw [if_neg (by simpa using hzero)]
    exact hlex

/-- The digits of a whole number are read as that number. -/
theorem lexUnsigned_digitsOf (negative : Bool) {n : Nat} {rest : List Char} (hn : (digitsOf n).length ≤ Decimal.maxDigits)
    (hrest : EndsNumber rest) :
    lexUnsigned negative (digitsOf n ++ rest) = some (.int (signed negative n), rest) := by
  have htake := takeAsciiDigits_append (isDigit_digitsOf n) fun c hc => (hrest c hc).1
  have hvalue := ofAsciiDigits_digitsOf n
  have hlead : 1 < (digitsOf n).length → (digitsOf n).head? ≠ some '0' := by
    intro hlong
    rcases Nat.eq_zero_or_pos n with rfl | hpos
    · simp [digitsOf] at hlong
    · exact head?_digitsOf hpos
  unfold lexUnsigned
  rw [htake]
  split
  · next h => exact absurd (Prod.mk.inj h).1 (digitsOf_ne_nil n)
  · next h =>
    cases h
    rw [if_neg (by simpa using hlead)]
    simp only [lexFraction_none hrest, lexExponent_none hrest]
    rw [if_neg (by omega), hvalue]

/-! ### Tokens -/

section

variable {cs rest : List Char} {t : Token}

/-- An unsigned number begins with a digit. -/
theorem isDigit_of_lexUnsigned {negative : Bool} (h : lexUnsigned negative cs = some (t, rest)) :
    ∃ c cs', cs = c :: cs' ∧ c.isDigit = true := by
  cases cs with
  | nil => simp [lexUnsigned, takeAsciiDigits] at h
  | cons c cs =>
    refine ⟨c, cs, rfl, ?_⟩
    by_contra hc
    simp [lexUnsigned, takeAsciiDigits, hc] at h

/-- No word begins with a digit. -/
theorem lexWord_digit {c : Char} (hc : c.isDigit = true) : lexWord (c :: cs) = none := by
  have hne : c ≠ 'n' ∧ c ≠ 't' ∧ c ≠ 'f' ∧ c ≠ 'N' ∧ c ≠ 'I' ∧ c ≠ '-' := by
    refine ⟨?_, ?_, ?_, ?_, ?_, ?_⟩ <;> (rintro rfl; exact absurd hc (by decide))
  obtain ⟨hn, ht, hf, hN, hI, hminus⟩ := hne
  simp [lexWord, words, dropWord?, hn.symm, ht.symm, hf.symm, hN.symm, hI.symm, hminus.symm]

theorem lexToken_of_lexUnsigned (h : lexUnsigned false cs = some (t, rest)) : lexToken cs = some (t, rest) := by
  obtain ⟨c, cs', rfl, hc⟩ := isDigit_of_lexUnsigned h
  have hminus : (c == '-') = false := by
    rw [beq_eq_false_iff_ne]
    rintro rfl
    exact absurd hc (by decide)
  rw [lexToken]
  · rw [lexWord_digit hc, hminus]
    exact h
  all_goals
    rintro rfl
    exact absurd hc (by decide)

theorem lexToken_minus (h : lexUnsigned true cs = some (t, rest)) : lexToken ('-' :: cs) = some (t, rest) := by
  obtain ⟨c, cs', rfl, hc⟩ := isDigit_of_lexUnsigned h
  have hword : lexWord ('-' :: c :: cs') = none := by
    have hI : c ≠ 'I' := by
      rintro rfl
      exact absurd hc (by decide)
    simp [lexWord, words, dropWord?, hI.symm]
  rw [lexToken]
  · rw [hword]
    exact h
  all_goals decide

end

/-- What is written of a whole number is read as that number. -/
theorem lexToken_showInt {n : Int} {rest : List Char} (hn : (digitsOf n.natAbs).length ≤ Decimal.maxDigits)
    (hrest : EndsNumber rest) : lexToken ((showInt n).toList ++ rest) = some (.int n, rest) := by
  have hlex := lexUnsigned_digitsOf (decide (n < 0)) hn hrest
  rw [signed_natAbs] at hlex
  unfold showInt
  dsimp only
  split
  · next hneg =>
    rw [decide_eq_true hneg] at hlex
    simpa using lexToken_minus hlex
  · next hpos =>
    rw [decide_eq_false hpos] at hlex
    simpa using lexToken_of_lexUnsigned hlex

/-- What is written of a finite float is read as that float. -/
theorem lexToken_render {x : Float} {rest : List Char} (hx : x.isFinite = true) (hrest : EndsNumber rest) :
    lexToken ((Decimal.render x).toList ++ rest) = some (.float x, rest) := by
  obtain ⟨b, hb⟩ := Option.ne_none_iff_exists'.1 ((isFinite_iff x).1 hx)
  have hlex := lexUnsigned_render hb hrest
  unfold Decimal.render
  rw [hb]
  dsimp only
  cases hneg : b.negative with
  | true =>
    rw [hneg] at hlex
    simpa using lexToken_minus hlex
  | false =>
    rw [hneg] at hlex
    simpa using lexToken_of_lexUnsigned hlex

end IntegrationFlow.Json
