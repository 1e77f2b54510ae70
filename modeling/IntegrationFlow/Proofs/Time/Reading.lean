import IntegrationFlow.Proofs.Json.Parsed
import IntegrationFlow.Proofs.Time.Calendar
import IntegrationFlow.Time.Reading

/-!
# Timestamps read back

What is written of a timestamp is read as that timestamp again (`readText_render`), when its clock shows a date that is
in the calendar. All timestamps that are read are such ones (`isShown_of_timestamp`).
-/

namespace IntegrationFlow.Time

open Decimal Json

/-- The clock of the timestamp shows a date of the years from 1 to 9999, and it is less than a day off. -/
structure Timestamp.IsShown (t : Timestamp) : Prop where
  notBefore : 0 ≤ t.micros.fdiv day + epochDay
  notAfter : t.micros.fdiv day + epochDay < daysBeforeYear 10000
  offset : ∀ o ∈ t.offset?, o.natAbs < 24 * 60

/-! ### Numbers of a fixed width -/

section

variable {width n : Nat} {rest : List Char}

theorem toList_padded (width n : Nat) : (Timestamp.padded width n).toList = padZeros width (digitsOf n) :=
  String.toList_ofList

/-- A number that is not too large fills its width. -/
theorem length_padZeros (width : Nat) (hwidth : 0 < width) (h : n < 10 ^ width) :
    (padZeros width (digitsOf n)).length = width := by
  have hle : (digitsOf n).length ≤ width := (Nat.length_toDigits_le_iff (by decide) hwidth).2 h
  unfold padZeros
  rw [List.length_append, List.length_replicate]
  omega

theorem ofAsciiDigits_padZeros (width n : Nat) : ofAsciiDigits (padZeros width (digitsOf n)) = n := by
  unfold padZeros
  rw [ofAsciiDigits_zeros_append, ofAsciiDigits_digitsOf]

theorem takeNumber_padded (width n : Nat) (rest : List Char) (hwidth : 0 < width) (h : n < 10 ^ width) :
    takeNumber width ((Timestamp.padded width n).toList ++ rest) = some (n, rest) := by
  have hlength := length_padZeros width hwidth h
  have hdigits : (padZeros width (digitsOf n)).all Char.isDigit = true :=
    List.all_eq_true.2 (isDigit_padZeros width (isDigit_digitsOf n))
  rw [toList_padded]
  unfold takeNumber
  dsimp only
  rw [List.take_left' hlength, List.drop_left' hlength, hdigits, hlength, beq_self_eq_true, Bool.and_self, if_pos rfl]
  exact congrArg (fun m => some (m, rest)) (ofAsciiDigits_padZeros width n)

/-- Six digits behind the point are the microseconds. -/
theorem microsOfFraction_padZeros (h : n < 1000000) : microsOfFraction (padZeros 6 (digitsOf n)) = n := by
  have hlength := length_padZeros 6 (by decide) h
  unfold microsOfFraction
  rw [List.take_of_length_le hlength.le, hlength, Nat.sub_self, List.replicate_zero, List.append_nil]
  exact ofAsciiDigits_padZeros 6 n

/-! ### The parts of a clock's text -/

theorem takeDate_render {d : Date} (h : d.isValid = true) :
    takeDate ((Timestamp.padded 4 d.year).toList ++ '-' :: ((Timestamp.padded 2 d.month).toList ++
      '-' :: ((Timestamp.padded 2 d.day).toList ++ rest))) = some (d, rest) := by
  have hvalid := h
  unfold Date.isValid at h
  simp only [Bool.and_eq_true, decide_eq_true_eq] at h
  have hday := Date.day_le_of_isValid hvalid
  unfold takeDate
  simp only [bind, Option.bind, takeNumber_padded 4 d.year _ (by decide) (by omega), dropChar,
    takeNumber_padded 2 d.month _ (by decide) (by omega), beq_self_eq_true, if_true,
    takeNumber_padded 2 d.day _ (by decide) (by omega)]
  rw [if_pos hvalid]

/-- The text does not go on with the fraction of a second. -/
def EndsSecond (cs : List Char) : Prop :=
  ∀ c ∈ cs.head?, c.isDigit = false ∧ c ≠ '.' ∧ c ≠ ','

/-- The fraction of a second as it is written. -/
def fractionText (micros : Nat) : List Char :=
  if micros == 0 then [] else '.' :: (Timestamp.padded 6 micros).toList

theorem takeSeconds_render {s micros : Nat} (hs : s < 60) (hmicros : micros < 1000000) (hrest : EndsSecond rest) :
    takeSeconds (':' :: ((Timestamp.padded 2 s).toList ++ (fractionText micros ++ rest))) =
      some (s * 1000000 + micros, rest) := by
  have hseconds (cs : List Char) := takeNumber_padded 2 s cs (by decide) (by omega)
  by_cases hzero : micros = 0
  · have htext : fractionText micros = [] := if_pos (by simpa using hzero)
    rw [htext, List.nil_append, takeSeconds, hseconds]
    cases rest with
    | nil => simp [hzero, not_le.2 hs]
    | cons c cs =>
      obtain ⟨-, hpoint, hcomma⟩ := hrest c rfl
      simp [hzero, not_le.2 hs, hpoint, hcomma]
  · have htext : fractionText micros = '.' :: padZeros 6 (digitsOf micros) := by
      rw [fractionText, if_neg (by simpa using hzero), toList_padded]
    have hne : padZeros 6 (digitsOf micros) ≠ [] := by
      unfold padZeros
      exact List.append_ne_nil_of_right_ne_nil _ (digitsOf_ne_nil _)
    have htake := takeAsciiDigits_append (isDigit_padZeros 6 (isDigit_digitsOf micros)) fun c hc => (hrest c hc).1
    unfold takeAsciiDigits at htake
    rw [Prod.mk.injEq] at htake
    rw [htext, List.cons_append, takeSeconds, hseconds]
    simp only [bind, Option.bind, ge_iff_le, not_le.2 hs, beq_self_eq_true, Bool.true_or, if_true, htake, List.isEmpty_iff,
      hne, if_false, microsOfFraction_padZeros hmicros]

theorem takeTimeOfDay_render {n : Nat} (h : n < 86400 * 1000000) (hrest : EndsSecond rest) :
    takeTimeOfDay ((Timestamp.padded 2 (n / 1000000 / 3600)).toList ++
      ':' :: ((Timestamp.padded 2 (n / 1000000 / 60 % 60)).toList ++
        ':' :: ((Timestamp.padded 2 (n / 1000000 % 60)).toList ++ (fractionText (n % 1000000) ++ rest)))) =
      some (n, rest) := by
  unfold takeTimeOfDay
  simp only [bind, Option.bind, takeNumber_padded 2 (n / 1000000 / 3600) _ (by decide) (by omega), dropChar,
    takeNumber_padded 2 (n / 1000000 / 60 % 60) _ (by decide) (by omega), beq_self_eq_true, if_true]
  rw [if_neg (by simp; omega), takeSeconds_render (by omega) (by omega) hrest]
  simp only [Option.some.injEq, Prod.mk.injEq, and_true]
  omega

/-! ### Offsets -/

theorem offsetMinutes?_render {n : Nat} (h : n < 24 * 60) :
    offsetMinutes? ((Timestamp.padded 2 (n / 60)).toList ++ ':' :: (Timestamp.padded 2 (n % 60)).toList) = some n := by
  have hminutes := takeNumber_padded 2 (n % 60) [] (by decide) (by omega)
  rw [List.append_nil] at hminutes
  unfold offsetMinutes?
  simp only [bind, Option.bind, takeNumber_padded 2 (n / 60) _ (by decide) (by omega), dropChar,
    beq_self_eq_true, if_true, Option.getD_some, hminutes]
  rw [if_pos (by simp; omega), Option.some.injEq]
  omega

/-- The offset as it is written. -/
def offsetText? : Option Int → List Char
  | none => []
  | some 0 => ['Z']
  | some minutes => (Timestamp.offsetText minutes).toList

theorem toList_offsetText (minutes : Int) : (Timestamp.offsetText minutes).toList =
    (if minutes < 0 then '-' else '+') :: ((Timestamp.padded 2 (minutes.natAbs / 60)).toList ++
      ':' :: (Timestamp.padded 2 (minutes.natAbs % 60)).toList) := by
  unfold Timestamp.offsetText
  dsimp only
  split <;> simp

theorem endsSecond_offsetText? (o? : Option Int) : EndsSecond (offsetText? o?) := by
  unfold offsetText?
  split
  · rintro c ⟨⟩
  · rintro c ⟨⟩
    decide
  · rw [toList_offsetText]
    split
    · rintro c ⟨⟩
      decide
    · rintro c ⟨⟩
      decide

theorem offset?_offsetText? {o? : Option Int} (h : ∀ o ∈ o?, o.natAbs < 24 * 60) :
    offset? (offsetText? o?) = some o? := by
  unfold offsetText?
  split
  · rfl
  · rfl
  · next minutes _ =>
    have hminutes := offsetMinutes?_render (h minutes rfl)
    rw [toList_offsetText]
    rcases lt_or_ge minutes 0 with hneg | hpos
    · simp [hneg, offset?, hminutes, abs_of_neg hneg]
    · simp [not_lt.2 hpos, offset?, hminutes, abs_of_nonneg hpos]

end

/-! ### Whole texts -/

/-- The text of a timestamp, part by part. -/
theorem toList_render (t : Timestamp) : t.render.toList =
    (Timestamp.padded 4 t.date.year).toList ++ '-' :: ((Timestamp.padded 2 t.date.month).toList ++
      '-' :: ((Timestamp.padded 2 t.date.day).toList ++ 'T' ::
        ((Timestamp.padded 2 (t.sinceMidnight / 1000000 / 3600)).toList ++
          ':' :: ((Timestamp.padded 2 (t.sinceMidnight / 1000000 / 60 % 60)).toList ++
            ':' :: ((Timestamp.padded 2 (t.sinceMidnight / 1000000 % 60)).toList ++
              (fractionText (t.sinceMidnight % 1000000) ++ offsetText? t.offset?)))))) := by
  have hfraction :
      (if t.sinceMidnight % 1000000 == 0 then "" else "." ++ Timestamp.padded 6 (t.sinceMidnight % 1000000)).toList =
        fractionText (t.sinceMidnight % 1000000) := by
    unfold fractionText
    split <;> simp
  have hrender : t.render.toList = t.clockText.toList ++ offsetText? t.offset? := by
    unfold Timestamp.render
    rw [String.toList_append]
    congr 1
    generalize t.offset? = o?
    match o? with
    | none | some 0 | some (.ofNat (_ + 1)) | some (.negSucc _) => rfl
  rw [hrender]
  unfold Timestamp.clockText
  dsimp only
  rw [String.toList_append, hfraction]
  simp

/-- What is written of a timestamp is read as that timestamp. -/
theorem readText_render {t : Timestamp} (h : t.IsShown) : readText t.render = some t := by
  obtain ⟨hvalid, hdays⟩ := Date.ofDays_spec h.notBefore h.notAfter
  have hdate : t.date.isValid = true := hvalid
  have hdays : t.date.toDays = t.micros.fdiv day := hdays
  have hday : (0 : Int) < day := by decide
  have hlow := Int.fmod_nonneg_of_pos t.micros hday
  have hhigh := Int.fmod_lt_of_pos t.micros hday
  have hsum := Int.fmod_add_mul_fdiv t.micros day
  have hsince : (t.sinceMidnight : Int) = t.micros.fmod day := Int.toNat_of_nonneg hlow
  have hclock : readClock t.render.toList = some t := by
    rw [toList_render]
    unfold readClock
    simp only [bind, Option.bind, takeDate_render hdate]
    rw [if_pos (by rfl), takeTimeOfDay_render (by unfold day minute second at *; omega) (endsSecond_offsetText? t.offset?)]
    simp only [offset?_offsetText? h.offset, hdays, hsince]
    rw [mul_comm, add_comm, hsum]
  unfold readText
  dsimp only
  rw [hclock, Option.some_or]

/-! ### Timestamps that are read -/

theorem microsOfFraction_lt (ds : List Char) (h : ∀ c ∈ ds, c.isDigit = true) : microsOfFraction ds < 1000000 := by
  have hdigits : ∀ c ∈ ds.take 6 ++ List.replicate (6 - ds.length) '0', c.isDigit = true := fun c hc =>
    (List.mem_append.1 hc).elim (fun hc => h c (List.mem_of_mem_take hc)) (isDigit_replicate _ c)
  have hlength : (ds.take 6 ++ List.replicate (6 - ds.length) '0').length = 6 := by
    rw [List.length_append, List.length_take, List.length_replicate]
    omega
  have hlt := ofAsciiDigits_lt hdigits
  rw [hlength] at hlt
  exact hlt

theorem micros_lt_of_takeSeconds {cs rest : List Char} {n : Nat} (h : takeSeconds cs = some (n, rest)) :
    n < 60 * 1000000 := by
  unfold takeSeconds at h
  split at h
  · simp only [bind, Option.bind_eq_some_iff] at h
    obtain ⟨⟨s, cs⟩, -, h⟩ := h
    dsimp only at h
    split at h
    · cases h
    next hs =>
    split at h
    · next c fraction =>
      split at h
      · split at h
        · cases h
        · cases h
          have hmicros := microsOfFraction_lt (fraction.takeWhile Char.isDigit)
            (List.all_eq_true.1 List.all_takeWhile)
          omega
      · cases h
        omega
    · cases h
      omega
  · cases h
    decide

theorem lt_of_takeTimeOfDay {cs rest : List Char} {n : Nat} (h : takeTimeOfDay cs = some (n, rest)) :
    n < 86400 * 1000000 := by
  unfold takeTimeOfDay at h
  simp only [bind, Option.bind_eq_some_iff] at h
  obtain ⟨⟨hours, cs₁⟩, -, cs₂, -, ⟨minutes, cs₃⟩, -, h⟩ := h
  split at h
  · cases h
  · next hrange =>
    obtain ⟨⟨micros, cs₄⟩, hseconds, h⟩ := Option.bind_eq_some_iff.1 h
    cases h
    have hmicros := micros_lt_of_takeSeconds hseconds
    simp only [ge_iff_le, Bool.or_eq_true, decide_eq_true_eq, not_or, not_le] at hrange
    omega

theorem natAbs_lt_of_offset? {cs : List Char} {o? : Option Int} (h : offset? cs = some o?) :
    ∀ o ∈ o?, o.natAbs < 24 * 60 := by
  have hminutes {cs : List Char} {n : Nat} (h : offsetMinutes? cs = some n) : n < 24 * 60 := by
    unfold offsetMinutes? at h
    simp only [bind, Option.bind_eq_some_iff] at h
    obtain ⟨⟨hours, cs₁⟩, -, ⟨minutes, cs₂⟩, -, h⟩ := h
    split at h
    · next hrange =>
      cases h
      simp only [Bool.and_eq_true, decide_eq_true_eq] at hrange
      omega
    · cases h
  unfold offset? at h
  split at h
  · cases h
    rintro o ⟨⟩
  · split at h
    · split at h
      · cases h
        rintro o ⟨⟩
        decide
      · cases h
    split at h
    · obtain ⟨_, hn, rfl⟩ := Option.map_eq_some_iff.1 h
      obtain ⟨n, hn', heq⟩ := Option.bind_eq_some_iff.1 hn
      cases heq
      rintro o ⟨⟩
      exact hminutes hn'
    split at h
    · obtain ⟨_, hn, rfl⟩ := Option.map_eq_some_iff.1 h
      obtain ⟨n, hn', heq⟩ := Option.bind_eq_some_iff.1 hn
      cases heq
      rintro o ⟨⟩
      rw [Int.natAbs_neg]
      exact hminutes hn'
    · cases h

theorem isShown_of_date {d : Date} (hd : d.isValid = true) {n : Nat} (hn : n < 86400 * 1000000) {o? : Option Int}
    (ho : ∀ o ∈ o?, o.natAbs < 24 * 60) : Timestamp.IsShown ⟨d.toDays * day + n, o?⟩ := by
  obtain ⟨hlow, hhigh⟩ := Date.toDays_bounds hd
  have hdays : (d.toDays * day + n).fdiv day = d.toDays := by
    rw [Int.fdiv_eq_ediv_of_nonneg _ (by decide)]
    unfold day minute second
    omega
  refine ⟨?_, ?_, ho⟩
  · rwa [hdays]
  · rwa [hdays]

theorem isShown_of_ofMicros? {n : Int} {t : Timestamp} (h : ofMicros? n = some t) : t.IsShown := by
  unfold ofMicros? at h
  dsimp only at h
  split at h
  · next hrange =>
    cases h
    obtain ⟨hfirst, hlast⟩ := hrange
    rw [Int.fdiv_eq_ediv_of_nonneg _ (by decide)] at hfirst hlast
    have hday := Int.fdiv_eq_ediv_of_nonneg n (b := day) (by decide)
    have hepoch : epochDay = 719162 := rfl
    have hend : daysBeforeYear 10000 = 3652059 := rfl
    have hfirstSecond : firstSecond = -11676096000 := rfl
    have hlastSecond : lastSecond = 253402300799 := rfl
    refine ⟨?_, ?_, fun o ho => ?_⟩
    · simp only [hday]
      unfold day minute second at *
      omega
    · simp only [hday]
      unfold day minute second at *
      omega
    · cases ho
      decide
  · cases h

theorem isValid_of_takeDate {cs rest : List Char} {d : Date} (h : takeDate cs = some (d, rest)) : d.isValid = true := by
  unfold takeDate at h
  simp only [bind, Option.bind_eq_some_iff] at h
  obtain ⟨⟨year, cs₁⟩, -, cs₂, -, ⟨month, cs₃⟩, -, cs₄, -, ⟨day, cs₅⟩, -, h⟩ := h
  dsimp only at h
  split at h
  · next hvalid =>
    cases h
    exact hvalid
  · cases h

theorem isShown_of_readClock {cs : List Char} {t : Timestamp} (h : readClock cs = some t) : t.IsShown := by
  unfold readClock at h
  obtain ⟨⟨date, cs₁⟩, hdate, h⟩ := Option.bind_eq_some_iff.1 h
  dsimp only at h
  split at h
  · split at h
    · simp only [bind, Option.bind_eq_some_iff] at h
      obtain ⟨⟨micros, cs₂⟩, hmicros, offset, hoffset, h⟩ := h
      cases h
      exact isShown_of_date (isValid_of_takeDate hdate) (lt_of_takeTimeOfDay hmicros) (natAbs_lt_of_offset? hoffset)
    · cases h
  · cases h

theorem isShown_of_readDate {cs : List Char} {t : Timestamp} (h : readDate cs = some t) : t.IsShown := by
  unfold readDate at h
  obtain ⟨⟨date, cs₁⟩, hdate, h⟩ := Option.bind_eq_some_iff.1 h
  dsimp only at h
  split at h
  · cases h
    have hshown := @isShown_of_date date (isValid_of_takeDate hdate) 0 (by decide) none (by simp)
    rwa [Nat.cast_zero, Int.add_zero] at hshown
  · cases h

theorem isShown_of_ofFloat? {x : Float} {t : Timestamp} (h : ofFloat? x = some t) : t.IsShown := by
  unfold ofFloat? at h
  split at h
  · cases h
  · dsimp only at h
    split at h <;> exact isShown_of_ofMicros? h

theorem isShown_of_readNumber {cs : List Char} {t : Timestamp} (h : readNumber cs = some t) : t.IsShown := by
  unfold readNumber at h
  dsimp only at h
  split at h
  · cases h
  split at h
  · exact isShown_of_ofMicros? h
  · split at h
    · obtain ⟨x, -, hx⟩ := Option.bind_eq_some_iff.1 h
      exact isShown_of_ofFloat? hx
    · cases h
  · cases h

/-- All timestamps that are read have a date in the calendar. -/
theorem isShown_of_timestamp {v : Value} {t : Timestamp} (h : timestamp v = .fits t) : t.IsShown := by
  unfold timestamp at h
  split at h
  · next s =>
    split at h
    · next u hread =>
      cases h
      unfold readText at hread
      dsimp only at hread
      rw [Option.or_eq_some_iff, Option.or_eq_some_iff] at hread
      rcases hread with hclock | ⟨-, hnumber | ⟨-, hdate⟩⟩
      · exact isShown_of_readClock hclock
      · exact isShown_of_readNumber hnumber
      · exact isShown_of_readDate hdate
    · cases h
  · split at h
    · next u hread =>
      cases h
      exact isShown_of_ofMicros? hread
    · cases h
  · split at h
    · next u hread =>
      cases h
      exact isShown_of_ofFloat? hread
    · cases h
  · cases h

end IntegrationFlow.Time
