import IntegrationFlow.Expression.Token

/-!
# What is read at once

A literal, a number, a word or an operator is read up to a place that depends on little of what follows. The lemmas about
`takeQuoted`, `takeNumber`, `takeWord` and `takeSymbol` say what is read, and that the same is read in front of any text
that begins alike.
-/

namespace IntegrationFlow.Expression

/-! ### What follows -/

/-- The texts begin with the same character, or one of them with the first letter of `and` or `or` and the other one with
a blank or with a character of the aliases of these words. -/
def HeadAlike (cs cs' : List Char) : Prop :=
  cs'.head? = cs.head? ∨ (cs.head? = some 'a' ∨ cs.head? = some 'o') ∧
    (cs'.head? = some ' ' ∨ cs'.head? = some '&' ∨ cs'.head? = some '|')

/-- The first character, if there is one, has not the property. -/
def Stops (p : Char → Bool) (cs : List Char) : Prop :=
  ∀ c, cs.head? = some c → p c = false

variable {p : Char → Bool} {cs cs' rest : List Char}

theorem HeadAlike.refl (cs : List Char) : HeadAlike cs cs :=
  .inl rfl

theorem HeadAlike.append (h : HeadAlike cs cs') (front : List Char) : HeadAlike (front ++ cs) (front ++ cs') := by
  cases front with
  | nil => exact h
  | cons c front => exact .inl rfl

theorem Stops.of_headAlike (h : Stops p cs) (halike : HeadAlike cs cs') (hspace : p ' ' = false) (hand : p '&' = false)
    (hor : p '|' = false) : Stops p cs' := by
  intro c hc
  rcases halike with heq | ⟨-, heq | heq | heq⟩
  · exact h c (heq ▸ hc)
  · rw [heq] at hc
    rwa [← Option.some.inj hc]
  · rw [heq] at hc
    rwa [← Option.some.inj hc]
  · rw [heq] at hc
    rwa [← Option.some.inj hc]

theorem HeadAlike.ne_of_ne {c : Char} (h : HeadAlike cs cs') (hne : cs.head? ≠ some c) (hspace : c ≠ ' ') (hand : c ≠ '&')
    (hor : c ≠ '|') : cs'.head? ≠ some c := by
  intro hc
  rcases h with heq | ⟨-, heq | heq | heq⟩
  · exact hne (heq ▸ hc)
  · exact hspace (Option.some.inj (hc.symm.trans heq))
  · exact hand (Option.some.inj (hc.symm.trans heq))
  · exact hor (Option.some.inj (hc.symm.trans heq))

theorem HeadAlike.eq_of_eq {c : Char} (h : HeadAlike cs cs') (hc : cs.head? = some c) (ha : c ≠ 'a') (ho : c ≠ 'o') :
    cs'.head? = some c := by
  rcases h with heq | ⟨heq | heq, -⟩
  · exact heq.trans hc
  · exact (ha (Option.some.inj (hc.symm.trans heq))).elim
  · exact (ho (Option.some.inj (hc.symm.trans heq))).elim

theorem HeadAlike.eq_nil (h : HeadAlike [] cs') : cs' = [] := by
  rcases h with heq | ⟨heq | heq, -⟩
  · exact List.head?_eq_none_iff.1 heq
  · cases heq
  · cases heq

theorem HeadAlike.ne_nil (h : HeadAlike cs cs') (hne : cs ≠ []) : cs' ≠ [] := by
  rintro rfl
  rcases h with heq | ⟨-, heq | heq | heq⟩
  · exact hne (List.head?_eq_none_iff.1 heq.symm)
  all_goals cases heq

/-- Where a line ends, the other line does. -/
theorem HeadAlike.stops_line (h : HeadAlike cs cs') (hstops : Stops (· != '\n') cs) : Stops (· != '\n') cs' := by
  intro c hc
  cases cs with
  | nil =>
    rw [h.eq_nil] at hc
    cases hc
  | cons d cs =>
    obtain rfl : d = '\n' := by simpa using hstops d rfl
    rw [h.eq_of_eq rfl (by decide) (by decide)] at hc
    cases hc
    rfl

theorem HeadAlike.any_isDigit (h : HeadAlike cs cs') : cs'.head?.any Char.isDigit = cs.head?.any Char.isDigit := by
  rcases h with heq | ⟨heq | heq, heq' | heq' | heq'⟩
  · rw [heq]
  all_goals rw [heq, heq']; rfl

theorem stops_nil (p : Char → Bool) : Stops p [] :=
  nofun

theorem stops_cons {c : Char} : Stops p (c :: cs) ↔ p c = false := by
  simp [Stops]

/-! ### Characters -/

/-- The characters that are brackets, or that begin what is no token. -/
def marks : List Char :=
  [' ', '\t', '\x0c', '#', '\n', '\r', '\\', '(', '[', '\x7b', ')', ']', '\x7d']

/-- A character of a word or of a number. -/
def isWordlike (c : Char) : Bool :=
  continuesName c || c == '.' || c == '+' || c == '-'

theorem not_mem_marks_of {c : Char} (hp : (marks.all fun d => !p d) = true) (hc : p c = true) : c ∉ marks := fun hmem =>
  Bool.false_ne_true ((Bool.not_eq_true' _ ▸ List.all_eq_true.1 hp c hmem).symm.trans hc)

theorem not_mem_marks_of_isWordlike {c : Char} (hc : isWordlike c = true) : c ∉ marks :=
  not_mem_marks_of rfl hc

theorem not_mem_marks_of_isQuote {c : Char} (hc : isQuote c = true) : c ∉ marks :=
  not_mem_marks_of rfl hc

theorem mem_marks_of_isSpacing {c : Char} (hc : isSpacing c = true) : c ∈ marks := by
  simp only [isSpacing, Bool.or_eq_true, beq_iff_eq] at hc
  rcases hc with (rfl | rfl) | rfl <;> decide

theorem mem_marks_of_isClosing {c : Char} (hc : isClosing c = true) : c ∈ marks := by
  simp only [isClosing, Bool.or_eq_true, beq_iff_eq] at hc
  rcases hc with (rfl | rfl) | rfl <;> decide

theorem mem_marks_of_closing? {c close : Char} (hc : closing? c = some close) : c ∈ marks := by
  unfold closing? at hc
  split at hc
  · decide
  · decide
  · decide
  · cases hc

theorem isSpacing_of_not_mem {c : Char} (hc : c ∉ marks) : isSpacing c = false :=
  Bool.eq_false_iff.2 fun h => hc (mem_marks_of_isSpacing h)

theorem isClosing_of_not_mem {c : Char} (hc : c ∉ marks) : isClosing c = false :=
  Bool.eq_false_iff.2 fun h => hc (mem_marks_of_isClosing h)

theorem closing?_of_not_mem {c : Char} (hc : c ∉ marks) : closing? c = none :=
  Option.eq_none_iff_forall_ne_some.2 fun _ h => hc (mem_marks_of_closing? h)

theorem ne_of_not_mem {c d : Char} (hc : c ∉ marks) (hd : d ∈ marks) : c ≠ d := fun h =>
  hc (h ▸ hd)

/-! ### Numbers -/

/-- A digit of a group, or an underscore between two of them. -/
def inGroup (isDigit : Char → Bool) (c : Char) : Bool :=
  isDigit c || c == '_'

theorem takeGrouped_singleton {isDigit : Char → Bool} {c : Char} (hc : isDigit c = true)
    (hrest : Stops (inGroup isDigit) rest) : takeGrouped isDigit (c :: rest) = some ([c], rest) := by
  cases rest with
  | nil => simp [takeGrouped, hc]
  | cons d rest =>
    obtain ⟨hd, hunder⟩ : isDigit d = false ∧ d ≠ '_' := by simpa [inGroup] using stops_cons.1 hrest
    rw [takeGrouped]
    · simp [hc, hd]
    · exact hunder

theorem takeGrouped_underscore {isDigit : Char → Bool} {c : Char} (hc : isDigit c = true) :
    takeGrouped isDigit (c :: '_' :: rest) = (takeGrouped isDigit rest).map fun (ds, rest) => (c :: ds, rest) := by
  simp [takeGrouped, hc]

theorem takeGrouped_digit {isDigit : Char → Bool} {c d : Char} (hc : isDigit c = true) (hd : isDigit d = true)
    (hunder : d ≠ '_') :
    takeGrouped isDigit (c :: d :: rest) = (takeGrouped isDigit (d :: rest)).map fun (ds, rest) => (c :: ds, rest) := by
  rw [takeGrouped]
  · simp [hc, hd]
  · exact hunder

/-- Digits in groups are read up to a character that is neither a digit nor an underscore. -/
theorem takeGrouped_eq_some {isDigit : Char → Bool} {ds : List Char} (h : takeGrouped isDigit cs = some (ds, rest)) :
    ∃ c front, cs = c :: front ++ rest ∧ isDigit c = true ∧ (∀ d ∈ front, inGroup isDigit d = true) ∧
      Stops (inGroup isDigit) rest ∧
      ∀ rest', Stops (inGroup isDigit) rest' → takeGrouped isDigit (c :: front ++ rest') = some (ds, rest') := by
  fun_induction takeGrouped isDigit cs generalizing ds with
  | case1 => cases h
  | case2 c hc =>
    cases h
    exact ⟨c, [], rfl, hc, nofun, stops_nil _, fun rest' => takeGrouped_singleton hc⟩
  | case3 c hc cs ih =>
    obtain ⟨⟨ds', rest'⟩, hds, heq⟩ := Option.map_eq_some_iff.1 h
    cases heq
    obtain ⟨d, front, rfl, hd, hfront, hstops, hagain⟩ := ih hds
    refine ⟨c, '_' :: d :: front, rfl, hc, ?_, hstops, fun rest' hrest' => ?_⟩
    · simp only [List.forall_mem_cons]
      exact ⟨by simp [inGroup], by simp [inGroup, hd], hfront⟩
    · simp only [List.cons_append, takeGrouped_underscore hc]
      rw [← List.cons_append, hagain rest' hrest']
      rfl
  | case4 c hc d cs hunder hd ih =>
    obtain ⟨⟨ds', rest'⟩, hds, heq⟩ := Option.map_eq_some_iff.1 h
    cases heq
    obtain ⟨d', front, heq, hd', hfront, hstops, hagain⟩ := ih hds
    obtain ⟨rfl, rfl⟩ := List.cons.inj heq
    refine ⟨c, d :: front, rfl, hc, ?_, hstops, fun rest' hrest' => ?_⟩
    · exact List.forall_mem_cons.2 ⟨by simp [inGroup, hd], hfront⟩
    · simp only [List.cons_append, takeGrouped_digit hc hd fun h => hunder h]
      rw [← List.cons_append, hagain rest' hrest']
      rfl
  | case5 c hc d cs hunder hd =>
    cases h
    have hstops : Stops (inGroup isDigit) (d :: cs) := stops_cons.2 (by simpa [inGroup, hd] using fun h => hunder h)
    exact ⟨c, [], rfl, hc, nofun, hstops, fun rest' => takeGrouped_singleton hc⟩
  | case6 => cases h

theorem isWordlike_of_isDigit {c : Char} (h : c.isDigit = true) : isWordlike c = true := by
  simp [isWordlike, continuesName, Char.isAlphanum, h]

/-- What may follow a number does not begin with a digit. -/
theorem not_isDigit_of_mayFollowNumber {c : Char} (h : mayFollowNumber (c :: cs) = true) : c.isDigit = false := by
  refine Bool.eq_false_iff.2 fun hc => ?_
  have hname : continuesName c = true := by simp [continuesName, Char.isAlphanum, hc]
  have hne (d : Char) (hd : d.isDigit = false) : (c == d) = false :=
    beq_eq_false_iff_ne.2 fun heq => Bool.false_ne_true (hd.symm.trans (heq ▸ hc))
  simp [mayFollowNumber, hname, hne 'a' rfl, hne 'e' rfl, hne 'f' rfl, hne 'i' rfl, hne 'o' rfl, hne 'n' rfl] at h

/-- What may follow a number is no exponent. -/
theorem exponentFollows_of_mayFollowNumber (h : mayFollowNumber cs = true) : exponentFollows cs = false := by
  match cs with
  | [] => rfl
  | [_] => rfl
  | m :: s :: rest =>
    refine Bool.eq_false_iff.2 fun hexp => ?_
    simp only [exponentFollows, Bool.and_eq_true, Bool.or_eq_true, beq_iff_eq] at hexp
    obtain ⟨rfl | rfl, hs⟩ := hexp
    · obtain ⟨rfl, -⟩ : 'l' = s ∧ ['s', 'e'] <+: rest := by simpa [mayFollowNumber, continuesName] using h
      simp at hs
    · simp [mayFollowNumber, continuesName] at h

/-- What is taken from a text stands at its front and is made of the characters of words, and the same is taken in front
of each text that is like the rest and has a property. -/
structure Taken {α : Type} (ok : List Char → Prop) (take : List Char → Option (α × List Char)) (a : α)
    (cs front rest : List Char) : Prop where
  eq : cs = front ++ rest
  wordlike : ∀ c ∈ front, isWordlike c = true
  again {rest' : List Char} (halike : HeadAlike rest rest') (hok : ok rest') : take (front ++ rest') = some (a, rest')

theorem exists_taken_takeGrouped (ok : List Char → Prop) {isDigit : Char → Bool} {ds : List Char}
    (hword : ∀ c, isDigit c = true → isWordlike c = true) (hspace : isDigit ' ' = false) (hand : isDigit '&' = false)
    (hor : isDigit '|' = false) (h : takeGrouped isDigit cs = some (ds, rest)) :
    ∃ c front, isDigit c = true ∧ Taken ok (takeGrouped isDigit) ds cs (c :: front) rest := by
  obtain ⟨c, front, rfl, hc, hfront, hstops, hagain⟩ := takeGrouped_eq_some h
  refine ⟨c, front, hc, rfl, List.forall_mem_cons.2 ⟨hword c hc, fun d hd => ?_⟩, fun halike _ => hagain _ ?_⟩
  · rcases Bool.or_eq_true _ _ ▸ hfront d hd with hdigit | hunder
    · exact hword d hdigit
    · rw [beq_iff_eq.1 hunder]
      rfl
  · exact hstops.of_headAlike halike (by simp [inGroup, hspace]) (by simp [inGroup, hand]) (by simp [inGroup, hor])

/-- Groups of digits in base ten. -/
theorem exists_taken_digits (ok : List Char → Prop) {ds : List Char} (h : takeGrouped Char.isDigit cs = some (ds, rest)) :
    ∃ c front, c.isDigit = true ∧ Taken ok (takeGrouped Char.isDigit) ds cs (c :: front) rest :=
  exists_taken_takeGrouped ok (fun _ => isWordlike_of_isDigit) rfl rfl rfl h

theorem takeSign_of_isDigit {c : Char} (hc : c.isDigit = true) : Decimal.takeSign (c :: cs) = (false, c :: cs) := by
  rw [Decimal.takeSign]
  · intro _ heq
    cases heq
    cases hc
  · intro _ heq
    cases heq
    cases hc

/-- An optional sign is read in front of any digit. -/
theorem exists_sign (cs : List Char) :
    ∃ sign, cs = sign ++ (Decimal.takeSign cs).2 ∧ (∀ c ∈ sign, isWordlike c = true) ∧
      ∀ c rest, c.isDigit = true → Decimal.takeSign (sign ++ c :: rest) = ((Decimal.takeSign cs).1, c :: rest) := by
  unfold Decimal.takeSign
  split
  · exact ⟨['-'], rfl, by simp [isWordlike], fun _ _ _ => rfl⟩
  · exact ⟨['+'], rfl, by simp [isWordlike], fun _ _ _ => rfl⟩
  · exact ⟨[], rfl, nofun, fun _ _ hc => takeSign_of_isDigit hc⟩

theorem takeSigned_eq (cs : List Char) :
    takeSigned cs = (takeGrouped Char.isDigit (Decimal.takeSign cs).2).map fun read =>
      (Decimal.signed (Decimal.takeSign cs).1 (Decimal.ofAsciiDigits read.1), read.2) :=
  rfl

theorem exists_taken_takeSigned (ok : List Char → Prop) {n : Int} (h : takeSigned cs = some (n, rest)) :
    ∃ front, front ≠ [] ∧ Taken ok takeSigned n cs front rest := by
  rw [takeSigned_eq] at h
  obtain ⟨sign, hcs, hword, hsign⟩ := exists_sign cs
  generalize Decimal.takeSign cs = signed at h hcs hsign
  obtain ⟨⟨ds, _⟩, hds, heq⟩ := Option.map_eq_some_iff.1 h
  cases heq
  obtain ⟨c, front, hc, htaken⟩ := exists_taken_digits ok hds
  refine ⟨sign ++ c :: front, by simp, ?_, fun d hd => ?_, fun halike hok => ?_⟩
  · rw [hcs, htaken.eq, List.append_assoc]
  · exact (List.mem_append.1 hd).elim (hword d) (htaken.wordlike d)
  · rw [takeSigned_eq, List.append_assoc, List.cons_append, hsign c _ hc]
    dsimp only
    rw [← List.cons_append, htaken.again halike hok]
    rfl

theorem exists_taken_takeExponent {e : Option Int} (h : takeExponent cs = some (e, rest)) :
    ∃ front, Taken (exponentFollows · = false) takeExponent e cs front rest := by
  unfold takeExponent at h
  split at h
  · next hexp =>
    obtain ⟨m, s, cs, rfl⟩ : ∃ m s rest, cs = m :: s :: rest := by
      match cs, hexp with
      | m :: s :: rest, _ => exact ⟨m, s, rest, rfl⟩
    have hmark : isWordlike m = true := by
      simp only [exponentFollows, Bool.and_eq_true, Bool.or_eq_true, beq_iff_eq] at hexp
      obtain ⟨rfl | rfl, -⟩ := hexp <;> rfl
    obtain ⟨⟨n, _⟩, hn, heq⟩ := Option.map_eq_some_iff.1 h
    cases heq
    obtain ⟨_ | ⟨c, front⟩, hne, htaken⟩ := exists_taken_takeSigned (exponentFollows · = false) hn
    · exact (hne rfl).elim
    obtain ⟨rfl, -⟩ := List.cons.inj htaken.eq
    refine ⟨m :: s :: front, congrArg (m :: ·) htaken.eq, List.forall_mem_cons.2 ⟨hmark, htaken.wordlike⟩,
      fun {rest'} halike hok => ?_⟩
    have hexp' : exponentFollows (m :: s :: (front ++ rest')) = true := hexp
    rw [takeExponent, List.cons_append, List.cons_append, if_pos hexp', List.drop_one, List.tail_cons,
      ← List.cons_append, htaken.again halike hok]
    rfl
  · cases h
    refine ⟨[], rfl, nofun, fun _ hfollow => ?_⟩
    rw [List.nil_append, takeExponent, hfollow]
    rfl

/-- In front of a text that may follow a number, the mark of an imaginary number is read, or none is, and there is no
exponent. -/
theorem exists_taken_takeImaginary (cs : List Char) :
    ∃ mark, cs = mark ++ (takeImaginary cs).2 ∧ (∀ c ∈ mark, isWordlike c = true) ∧
      ∀ rest, mayFollowNumber rest = true →
        takeImaginary (mark ++ rest) = ((takeImaginary cs).1, rest) ∧ exponentFollows (mark ++ rest) = false := by
  fun_cases takeImaginary cs with
  | case1 rest => exact ⟨['j'], rfl, by simp [isWordlike, continuesName], fun rest _ => ⟨rfl, by cases rest <;> rfl⟩⟩
  | case2 rest => exact ⟨['J'], rfl, by simp [isWordlike, continuesName], fun rest _ => ⟨rfl, by cases rest <;> rfl⟩⟩
  | case3 cs =>
    refine ⟨[], rfl, nofun, fun rest hfollow => ⟨?_, exponentFollows_of_mayFollowNumber hfollow⟩⟩
    rw [List.nil_append, takeImaginary]
    · rintro rest rfl
      simp [mayFollowNumber, continuesName] at hfollow
    · rintro rest rfl
      simp [mayFollowNumber, continuesName] at hfollow

theorem exists_taken_takeFraction (ok : List Char → Prop) {f : Option (List Char)} (h : takeFraction cs = some (f, rest)) :
    ∃ front, (cs.head? = some '.' → front ≠ []) ∧ Taken ok takeFraction f cs front rest := by
  fun_cases takeFraction cs with
  | case1 d cs hd =>
    rw [takeFraction, if_pos hd] at h
    obtain ⟨⟨ds, _⟩, hds, heq⟩ := Option.map_eq_some_iff.1 h
    cases heq
    obtain ⟨c, front, hc, htaken⟩ := exists_taken_digits ok hds
    refine ⟨'.' :: c :: front, fun _ => List.cons_ne_nil _ _, congrArg ('.' :: ·) htaken.eq,
      List.forall_mem_cons.2 ⟨rfl, htaken.wordlike⟩, fun halike hok => ?_⟩
    rw [List.cons_append, List.cons_append, takeFraction, if_pos hc, ← List.cons_append, htaken.again halike hok]
    rfl
  | case2 d cs hd =>
    rw [takeFraction, if_neg hd] at h
    cases h
    -- A point alone is taken, so behind it there must be no digit in the other rest either.
    refine ⟨['.'], fun _ => List.cons_ne_nil _ _, rfl, by simp [isWordlike], fun {rest'} halike _ => ?_⟩
    have hstops : Stops Char.isDigit rest' :=
      Stops.of_headAlike (stops_cons.2 (Bool.eq_false_iff.2 hd)) halike rfl rfl rfl
    cases rest' with
    | nil => rfl
    | cons d' rest' =>
      rw [List.singleton_append, takeFraction, if_neg (Bool.eq_false_iff.1 (stops_cons.1 hstops))]
  | case3 =>
    cases h
    refine ⟨['.'], fun _ => List.cons_ne_nil _ _, rfl, by simp [isWordlike], fun halike _ => ?_⟩
    rw [halike.eq_nil]
    rfl
  | case4 cs hdigits hpoint =>
    rw [takeFraction] at h
    · cases h
      have hhead : cs.head? ≠ some '.' := by
        intro hhead
        obtain ⟨cs, rfl⟩ := List.head?_eq_some_iff.1 hhead
        cases cs with
        | nil => exact hpoint rfl
        | cons d cs => exact hdigits d cs rfl
      refine ⟨[], fun h => (hhead h).elim, rfl, nofun, fun {rest'} halike _ => ?_⟩
      have hne : rest'.head? ≠ some '.' := halike.ne_of_ne hhead (by decide) (by decide) (by decide)
      rw [List.nil_append, takeFraction]
      · rintro d cs rfl
        exact hne rfl
      · rintro rfl
        exact hne rfl
    · exact hdigits
    · exact hpoint

theorem exists_taken_takeWhole (ok : List Char → Prop) {w : List Char} (h : takeWhole cs = some (w, rest)) :
    ∃ front, (cs.head? = some '.' ∨ front ≠ []) ∧ Taken ok takeWhole w cs front rest := by
  fun_cases takeWhole cs with
  | case1 cs =>
    cases h
    refine ⟨[], .inl rfl, rfl, nofun, fun halike _ => ?_⟩
    obtain ⟨rest', rfl⟩ := List.head?_eq_some_iff.1 (halike.eq_of_eq rfl (by decide) (by decide))
    rfl
  | case2 cs hpoint =>
    rw [takeWhole] at h
    · obtain ⟨c, front, hc, htaken⟩ := exists_taken_digits ok h
      refine ⟨c :: front, .inr (List.cons_ne_nil _ _), htaken.eq, htaken.wordlike, fun halike hok => ?_⟩
      rw [← htaken.again halike hok, takeWhole]
      intro cs heq
      cases heq
      cases hc
    · exact hpoint

theorem exists_taken_takeDecimal {n : Number} (h : takeDecimal cs = some (n, rest)) :
    mayFollowNumber rest = true ∧ ∃ front, front ≠ [] ∧ Taken (mayFollowNumber · = true) takeDecimal n cs front rest := by
  obtain ⟨⟨whole, rest₁⟩, hwhole, h⟩ := Option.bind_eq_some_iff.1 h
  obtain ⟨⟨fraction, rest₂⟩, hfraction, h⟩ := Option.bind_eq_some_iff.1 h
  obtain ⟨⟨exponent, rest₃⟩, hexponent, h⟩ := Option.bind_eq_some_iff.1 h
  dsimp only at hfraction hexponent h
  split at h
  · next hfollow =>
    obtain ⟨n, hn, heq⟩ := Option.map_eq_some_iff.1 h
    cases heq
    obtain ⟨front₁, hpoint, h₁⟩ := exists_taken_takeWhole (fun _ => True) hwhole
    obtain ⟨front₂, hne, h₂⟩ := exists_taken_takeFraction (fun _ => True) hfraction
    obtain ⟨front₃, h₃⟩ := exists_taken_takeExponent hexponent
    obtain ⟨mark, hmark, hword, hagain⟩ := exists_taken_takeImaginary rest₃
    generalize takeImaginary rest₃ = read at hfollow hn hmark hagain ⊢
    refine ⟨hfollow, front₁ ++ (front₂ ++ (front₃ ++ mark)), ?_, ?_, fun c hc => ?_, fun {rest'} halike hfollow => ?_⟩
    · simp only [Ne, List.append_eq_nil_iff]
      rintro ⟨rfl, rfl, -⟩
      have hcs : cs = rest₁ := h₁.eq
      exact hne (hcs ▸ hpoint.resolve_right fun h => h rfl) rfl
    · rw [h₁.eq, h₂.eq, h₃.eq, hmark]
      simp only [List.append_assoc]
    · simp only [List.mem_append] at hc
      rcases hc with hc | hc | hc | hc
      · exact h₁.wordlike c hc
      · exact h₂.wordlike c hc
      · exact h₃.wordlike c hc
      · exact hword c hc
    -- Each part is read in front of the parts behind it, and the last one in front of the other rest.
    · obtain ⟨himaginary, hexponent⟩ := hagain rest' hfollow
      have halike₃ : HeadAlike rest₃ (mark ++ rest') := hmark ▸ halike.append mark
      have halike₂ : HeadAlike rest₂ (front₃ ++ (mark ++ rest')) := h₃.eq ▸ halike₃.append front₃
      have halike₁ : HeadAlike rest₁ (front₂ ++ (front₃ ++ (mark ++ rest'))) := h₂.eq ▸ halike₂.append front₂
      simp only [takeDecimal, List.append_assoc, h₁.again halike₁ trivial, h₂.again halike₂ trivial,
        h₃.again halike₃ hexponent, himaginary, hfollow, hn, Option.bind_some, Option.map_some, if_true]
  · cases h

theorem isWordlike_of_hexValue? {c : Char} (h : (Json.hexValue? c).isSome = true) : isWordlike c = true := by
  have halphanum : c.isAlphanum = true := by
    simp only [Json.hexValue?] at h
    delta Char.isAlphanum Char.isAlpha Char.isUpper Char.isLower Char.isDigit
    simp only [Bool.or_eq_true, Bool.and_eq_true, decide_eq_true_eq]
    split at h
    · next hdigit => exact .inr hdigit
    split at h
    · next hlower => exact .inl (.inr ⟨hlower.1, UInt32.le_trans hlower.2 (by decide)⟩)
    split at h
    · next hupper => exact .inl (.inl ⟨hupper.1, UInt32.le_trans hupper.2 (by decide)⟩)
    · cases h
  simp [isWordlike, continuesName, halphanum]

theorem isWordlike_of_octalValue? {c : Char} (h : (octalValue? c).isSome = true) : isWordlike c = true := by
  refine isWordlike_of_isDigit ?_
  simp only [octalValue?] at h
  split at h
  · next hdigit => simpa [Char.isDigit] using ⟨hdigit.1, UInt32.le_trans hdigit.2 (by decide)⟩
  · cases h

/-- The digits of a base are characters of words. -/
theorem basis?_eq_some {c : Char} {base : Nat} {isDigit : Char → Bool} (h : basis? c = some (base, isDigit)) :
    isWordlike c = true ∧ (∀ d, isDigit d = true → isWordlike d = true) ∧ isDigit ' ' = false ∧ isDigit '&' = false ∧
      isDigit '|' = false := by
  unfold basis? at h
  split at h
  · next hc =>
    cases h
    refine ⟨?_, fun _ => isWordlike_of_hexValue?, rfl, rfl, rfl⟩
    simp only [Bool.or_eq_true, beq_iff_eq] at hc
    rcases hc with rfl | rfl <;> rfl
  split at h
  · next hc =>
    cases h
    refine ⟨?_, fun _ => isWordlike_of_octalValue?, rfl, rfl, rfl⟩
    simp only [Bool.or_eq_true, beq_iff_eq] at hc
    rcases hc with rfl | rfl <;> rfl
  split at h
  · next hc =>
    cases h
    refine ⟨?_, fun d hd => ?_, rfl, rfl, rfl⟩
    · simp only [Bool.or_eq_true, beq_iff_eq] at hc
      rcases hc with rfl | rfl <;> rfl
    · simp only [Bool.or_eq_true, beq_iff_eq] at hd
      rcases hd with rfl | rfl <;> rfl
  · cases h

theorem exists_taken_takeBased {base : Nat} {isDigit : Char → Bool} {n : Number}
    (hword : ∀ c, isDigit c = true → isWordlike c = true) (hspace : isDigit ' ' = false) (hand : isDigit '&' = false)
    (hor : isDigit '|' = false) (h : takeBased base isDigit cs = some (n, rest)) :
    mayFollowNumber rest = true ∧ ∃ front, Taken (mayFollowNumber · = true) (takeBased base isDigit) n cs front rest := by
  unfold takeBased at h
  obtain ⟨⟨ds, rest'⟩, hds, h⟩ := Option.bind_eq_some_iff.1 h
  dsimp only at h
  split at h
  · next hfollow =>
    cases h
    refine ⟨hfollow, ?_⟩
    obtain ⟨c, front, hc, htaken⟩ := exists_taken_takeGrouped (mayFollowNumber · = true) hword hspace hand hor hds
    split at htaken
    · next cs =>
      refine ⟨'_' :: c :: front, congrArg ('_' :: ·) htaken.eq, List.forall_mem_cons.2 ⟨rfl, htaken.wordlike⟩,
        fun halike hfollow => ?_⟩
      simp only [takeBased, List.cons_append]
      rw [← List.cons_append, htaken.again halike hfollow, Option.bind_some, if_pos hfollow]
    · next hunder =>
      refine ⟨c :: front, htaken.eq, htaken.wordlike, fun {rest'} halike hfollow => ?_⟩
      rw [takeBased, htaken.again halike hfollow]
      · exact if_pos hfollow
      intro cs' heq
      obtain ⟨rfl, -⟩ := List.cons.inj heq
      exact hunder _ htaken.eq
  · cases h

/-- A number is read as one in base ten unless a zero and the mark of a base stand in front. -/
theorem takeNumber_eq_takeDecimal (h : ∀ c rest, cs = '0' :: c :: rest → basis? c = none) :
    takeNumber cs = takeDecimal cs := by
  unfold takeNumber
  split
  · next c rest => rw [h c rest rfl]
  · rfl

theorem takeNumber_of_basis? {c : Char} {base : Nat} {isDigit : Char → Bool} (h : basis? c = some (base, isDigit)) :
    takeNumber ('0' :: c :: cs) = takeBased base isDigit cs := by
  rw [takeNumber, h]

/-- A number is read up to the next word, blank or operator. -/
theorem exists_taken_takeNumber {n : Number} (h : takeNumber cs = some (n, rest)) :
    mayFollowNumber rest = true ∧ ∃ front, front ≠ [] ∧ Taken (mayFollowNumber · = true) takeNumber n cs front rest := by
  by_cases hbasis : ∃ c cs' base isDigit, cs = '0' :: c :: cs' ∧ basis? c = some (base, isDigit)
  · obtain ⟨c, cs, base, isDigit, rfl, hc⟩ := hbasis
    rw [takeNumber_of_basis? hc] at h
    obtain ⟨hmark, hword, hspace, hand, hor⟩ := basis?_eq_some hc
    obtain ⟨hfollow, front, htaken⟩ := exists_taken_takeBased hword hspace hand hor h
    refine ⟨hfollow, '0' :: c :: front, List.cons_ne_nil _ _, congrArg ('0' :: c :: ·) htaken.eq, ?_,
      fun halike hfollow => ?_⟩
    · exact List.forall_mem_cons.2 ⟨rfl, List.forall_mem_cons.2 ⟨hmark, htaken.wordlike⟩⟩
    · rw [List.cons_append, List.cons_append, takeNumber_of_basis? hc, htaken.again halike hfollow]
  · have hnone (c : Char) (cs' : List Char) (heq : cs = '0' :: c :: cs') : basis? c = none := by
      rcases hc : basis? c with _ | ⟨base, isDigit⟩
      · rfl
      · exact (hbasis ⟨c, cs', base, isDigit, heq, hc⟩).elim
    rw [takeNumber_eq_takeDecimal hnone] at h
    obtain ⟨hfollow, front, hne, htaken⟩ := exists_taken_takeDecimal h
    refine ⟨hfollow, front, hne, htaken.eq, htaken.wordlike, fun {rest'} halike hfollow => ?_⟩
    rw [takeNumber_eq_takeDecimal fun c cs' heq => ?_, htaken.again halike hfollow]
    -- Two characters decide on the basis; when only one was taken, the second is the first of the rest.
    match front, heq with
    | [d], heq =>
      obtain ⟨rfl, rfl⟩ := List.cons.inj heq
      rcases halike with hhead | ⟨-, hhead | hhead | hhead⟩
      · obtain ⟨cs'', rfl⟩ := List.head?_eq_some_iff.1 hhead.symm
        exact hnone c cs'' htaken.eq
      · rw [Option.some.inj hhead]
        rfl
      · rw [Option.some.inj hhead]
        rfl
      · rw [Option.some.inj hhead]
        rfl
    | d :: d' :: front, heq =>
      rw [List.cons_append, List.cons_append, List.cons.injEq, List.cons.injEq] at heq
      obtain ⟨rfl, rfl, -⟩ := heq
      exact hnone _ _ htaken.eq

/-- What does not continue a name may follow a number. -/
theorem mayFollowNumber_of_not_continuesName {c : Char} (hc : continuesName c = false) :
    mayFollowNumber (c :: cs) = true := by
  have hne (d : Char) (hd : continuesName d = true) : (c == d) = false :=
    beq_eq_false_iff_ne.2 fun heq => Bool.false_ne_true (hc.symm.trans (heq ▸ hd))
  simp [mayFollowNumber, hc, hne 'a' rfl, hne 'e' rfl, hne 'f' rfl, hne 'i' rfl, hne 'o' rfl, hne 'n' rfl]

/-- A mark may follow a number. -/
theorem mayFollowNumber_of_mem_marks {c : Char} (hc : c ∈ marks) : mayFollowNumber (c :: cs) = true := by
  refine mayFollowNumber_of_not_continuesName ?_
  have hall : (marks.all fun d => !continuesName d) = true := rfl
  simpa using List.all_eq_true.1 hall c hc

/-! ### Literals -/

theorem takeShort_again {mark : Char} {body : List Char} (hne : mark ≠ '\\')
    (h : takeShort mark cs = some (body, rest)) (rest' : List Char) :
    takeShort mark (body ++ mark :: rest') = some (body, rest') := by
  fun_induction takeShort mark cs generalizing body rest with
  | case1 => cases h
  | case2 c cs ih =>
    obtain ⟨⟨body', _⟩, hbody, heq⟩ := Option.map_eq_some_iff.1 h
    cases heq
    simp only [List.cons_append, List.nil_append, takeShort, ih hbody, consBody, Option.map_some]
  | case3 c cs hesc hmark =>
    cases h
    rw [List.nil_append, takeShort, if_pos (beq_self_eq_true mark)]
    exact fun _ _ heq _ => hne heq
  | case4 => cases h
  | case5 c cs hesc hmark hline ih =>
    obtain ⟨⟨body', _⟩, hbody, heq⟩ := Option.map_eq_some_iff.1 h
    cases heq
    rw [List.singleton_append, List.cons_append, takeShort, if_neg hmark, if_neg hline, ih hbody]
    · rfl
    · rintro d cs' rfl -
      cases cs with
      | nil => cases hbody
      | cons d cs => exact hesc d cs rfl rfl

theorem takeLong_again {mark : Char} {body : List Char} (hne : mark ≠ '\\')
    (h : takeLong mark cs = some (body, rest)) (rest' : List Char) :
    takeLong mark (body ++ mark :: mark :: mark :: rest') = some (body, rest') := by
  fun_induction takeLong mark cs generalizing body rest with
  | case1 c cs ih =>
    obtain ⟨⟨body', _⟩, hbody, heq⟩ := Option.map_eq_some_iff.1 h
    cases heq
    simp only [List.cons_append, List.nil_append, takeLong, ih hbody, consBody, Option.map_some]
  | case2 a b c cs hesc hmarks =>
    cases h
    rw [List.nil_append, takeLong, if_pos (by simp)]
    exact hne
  | case3 a b c cs hesc hmarks ih =>
    obtain ⟨⟨body', _⟩, hbody, heq⟩ := Option.map_eq_some_iff.1 h
    cases heq
    have hagain := ih hbody
    -- The text behind the first character begins with the same two characters as before.
    obtain ⟨tail, htail⟩ : ∃ tail, body' ++ mark :: mark :: mark :: rest' = b :: c :: tail := by
      have hcs := takeLong_eq hbody
      rcases body' with _ | ⟨_, _ | ⟨_, body'⟩⟩
      · cases hcs
        exact ⟨_, rfl⟩
      · cases hcs
        exact ⟨_, rfl⟩
      · cases hcs
        exact ⟨_, rfl⟩
    rw [List.singleton_append, List.cons_append, htail, takeLong, if_neg hmarks, ← htail, hagain]
    · rfl
    · exact hesc
  | case4 => cases h

theorem takeQuoted_triple (mark : Char) (cs : List Char) :
    takeQuoted mark (mark :: mark :: cs) = (takeLong mark cs).map fun (body, rest) => (⟨mark, true, body⟩, rest) := by
  simp [takeQuoted]

theorem takeQuoted_single {mark : Char} (h : ∀ rest, cs ≠ mark :: mark :: rest) :
    takeQuoted mark cs = (takeShort mark cs).map fun (body, rest) => (⟨mark, false, body⟩, rest) := by
  unfold takeQuoted
  split
  · next b c rest =>
    rw [if_neg]
    intro hmarks
    simp only [Bool.and_eq_true, beq_iff_eq] at hmarks
    exact h rest (by rw [hmarks.1, hmarks.2])
  · rfl

namespace Quoted

/-- What follows the first mark of a literal. -/
def inner (q : Quoted) : List Char :=
  (if q.triple then [q.mark, q.mark] else []) ++ q.body ++ q.marks

theorem source_eq (q : Quoted) : q.source = q.mark :: q.inner := by
  unfold source inner marks
  split <;> rfl

theorem inner_triple (mark : Char) (body : List Char) :
    (⟨mark, true, body⟩ : Quoted).inner = mark :: mark :: (body ++ [mark, mark, mark]) :=
  rfl

theorem inner_single (mark : Char) (body : List Char) : (⟨mark, false, body⟩ : Quoted).inner = body ++ [mark] :=
  rfl

/-- The literal is read up to its end in front of a rest. -/
def IsRead (q : Quoted) (rest : List Char) : Prop :=
  isQuote q.mark = true ∧ takeQuoted q.mark (q.inner ++ rest) = some (q, rest)

end Quoted

theorem isQuote_eq_true {c : Char} : isQuote c = true ↔ c = '\'' ∨ c = '"' := by
  simp [isQuote]

/-- A literal is read in front of anything that begins with no further mark. -/
theorem takeQuoted_eq_some {mark : Char} {q : Quoted} (hmark : isQuote mark = true)
    (h : takeQuoted mark cs = some (q, rest)) :
    q.mark = mark ∧ cs = q.inner ++ rest ∧ ∀ rest', (rest'.head? = some mark → rest.head? = some mark) →
      q.IsRead rest' := by
  have hne : mark ≠ '\\' := by
    rintro rfl
    cases hmark
  by_cases htriple : ∃ rest, cs = mark :: mark :: rest
  · obtain ⟨cs, rfl⟩ := htriple
    rw [takeQuoted_triple] at h
    obtain ⟨⟨body, _⟩, hbody, heq⟩ := Option.map_eq_some_iff.1 h
    cases heq
    refine ⟨rfl, by simp [Quoted.inner_triple, takeLong_eq hbody], fun rest' _ => ⟨hmark, ?_⟩⟩
    rw [Quoted.inner_triple, List.cons_append, List.cons_append, List.append_assoc, takeQuoted_triple]
    simp only [List.cons_append, List.nil_append, takeLong_again hne hbody rest', Option.map_some]
  · have hsingle (rest : List Char) (heq : cs = mark :: mark :: rest) : False := htriple ⟨rest, heq⟩
    rw [takeQuoted_single hsingle] at h
    obtain ⟨⟨body, _⟩, hbody, heq⟩ := Option.map_eq_some_iff.1 h
    cases heq
    have hcs := takeShort_eq hbody
    refine ⟨rfl, by simp [Quoted.inner_single, hcs], fun rest' hrest' => ⟨hmark, ?_⟩⟩
    rw [Quoted.inner_single, List.append_assoc, List.singleton_append, takeQuoted_single, takeShort_again hne hbody]
    · rfl
    · intro tail heq
      match body with
      | [] =>
        obtain ⟨tail', rfl⟩ := List.head?_eq_some_iff.1 (hrest' (by rw [(List.cons.inj heq).2]; rfl))
        exact hsingle tail' hcs
      | [d] =>
        rw [List.singleton_append, List.cons.injEq] at heq
        exact hsingle rest (by rw [hcs, heq.1]; rfl)
      | d :: d' :: body =>
        rw [List.cons_append, List.cons_append, List.cons.injEq, List.cons.injEq] at heq
        exact hsingle _ (by rw [hcs, heq.1, heq.2.1]; rfl)

theorem Quoted.IsRead.of_headAlike {q : Quoted} (h : q.IsRead rest) (halike : HeadAlike rest cs') : q.IsRead cs' := by
  have hmark (c : Char) (hc : isQuote c = false) : q.mark ≠ c := fun heq =>
    Bool.false_ne_true (hc.symm.trans (heq ▸ h.1))
  refine (takeQuoted_eq_some h.1 h.2).2.2 cs' fun hhead => ?_
  refine Decidable.byContradiction fun hne => ?_
  exact halike.ne_of_ne hne (hmark ' ' rfl) (hmark '&' rfl) (hmark '|' rfl) hhead

/-! ### Words -/

theorem takeWhile_append_of_stops {front : List Char} (hfront : ∀ c ∈ front, p c = true) (hrest : Stops p rest) :
    (front ++ rest).takeWhile p = front := by
  rw [List.takeWhile_append_of_pos hfront]
  cases rest with
  | nil => exact List.append_nil front
  | cons c rest => rw [List.takeWhile_cons_of_neg (Bool.eq_false_iff.1 (stops_cons.1 hrest)), List.append_nil]

theorem dropWhile_append_of_stops {front : List Char} (hfront : ∀ c ∈ front, p c = true) (hrest : Stops p rest) :
    (front ++ rest).dropWhile p = rest := by
  rw [List.dropWhile_append_of_pos hfront]
  cases rest with
  | nil => rfl
  | cons c rest => rw [List.dropWhile_cons_of_neg (Bool.eq_false_iff.1 (stops_cons.1 hrest))]

theorem stops_dropWhile (p : Char → Bool) (cs : List Char) : Stops p (cs.dropWhile p) := by
  induction cs with
  | nil => exact stops_nil p
  | cons c cs ih =>
    by_cases hc : p c = true
    · rwa [List.dropWhile_cons_of_pos hc]
    · rw [List.dropWhile_cons_of_neg hc]
      exact stops_cons.2 (Bool.eq_false_iff.2 hc)

variable {front : List Char}

theorem takeWord_of_quote {q : Char} (hfront : ∀ c ∈ front, continuesName c = true) (hq : isQuote q = true)
    (hflags : (literalFlags? front).isSome = true) :
    takeWord (front ++ q :: cs) =
      (takeQuoted q cs).bind fun (quoted, rest) => (literalToken? front quoted).map fun t => (t, rest) := by
  have hstops : Stops continuesName (q :: cs) := stops_cons.2 (by rcases isQuote_eq_true.1 hq with rfl | rfl <;> rfl)
  simp only [takeWord, takeWhile_append_of_stops hfront hstops, dropWhile_append_of_stops hfront hstops, hq, hflags,
    Bool.and_self, if_true]

theorem takeWord_of_not_quote (hfront : ∀ c ∈ front, continuesName c = true) (hrest : Stops continuesName rest)
    (hquote : Stops (fun c => isQuote c && (literalFlags? front).isSome) rest) :
    takeWord (front ++ rest) = takeWord.wordToken front rest := by
  unfold takeWord
  rw [takeWhile_append_of_stops hfront hrest, dropWhile_append_of_stops hfront hrest]
  dsimp only
  split
  · rw [if_neg (Bool.eq_false_iff.1 (stops_cons.1 hquote))]
  · rfl

/-- How the token is written that is read in front of a rest. -/
inductive Spelling : Token → List Char → List Char → Prop
  /-- A word or a number; a keyword is written as it is. -/
  | word {t : Token} {source rest : List Char} (hne : source ≠ []) (hword : ∀ c ∈ source, isWordlike c = true)
    (hsymbol : ∀ s, t ≠ .symbol s) (hline : t ≠ .newline) (hkeyword : ∀ s, t = .keyword s → source = s.toList) :
    Spelling t source rest
  /-- A literal, with letters in front of it. -/
  | literal {t : Token} {front rest : List Char} {q : Quoted} (hfront : ∀ c ∈ front, continuesName c = true)
    (ht : literalToken? front q = some t) (hq : q.IsRead rest) : Spelling t (front ++ q.source) rest
  /-- An operator. -/
  | symbol {s : String} {rest : List Char} (hs : s ∈ symbols) : Spelling (.symbol s) s.toList rest

theorem wordToken_eq_some {t : Token} (hne : front ≠ []) (hfront : ∀ c ∈ front, continuesName c = true)
    (h : takeWord.wordToken front rest = some (t, cs)) :
    cs = rest ∧ Spelling t front rest ∧ ∀ rest', takeWord.wordToken front rest' = some (t, rest') := by
  have hword (c : Char) (hc : c ∈ front) : isWordlike c = true := by simp [isWordlike, hfront c hc]
  simp only [takeWord.wordToken] at h ⊢
  split at h
  · next hkey =>
    cases h
    exact ⟨rfl, .word hne hword nofun nofun fun s hs => by cases hs; rw [String.toList_ofList], fun _ => if_pos hkey⟩
  split at h
  · next hkey hname =>
    cases h
    exact ⟨rfl, .word hne hword nofun nofun nofun, fun _ => by rw [if_neg hkey, if_pos hname]⟩
  · cases h

theorem isPrefixOf_append_of_stops {word : List Char} (hword : ∀ c ∈ word, p c = true) (hrest : Stops p rest) :
    word.isPrefixOf (front ++ rest) = word.isPrefixOf front := by
  induction word generalizing front with
  | nil => rfl
  | cons w word ih =>
    cases front with
    | nil =>
      cases rest with
      | nil => rfl
      | cons c rest =>
        have hne : (w == c) = false := beq_eq_false_iff_ne.2 fun heq =>
          Bool.false_ne_true ((stops_cons.1 hrest).symm.trans (heq ▸ hword w List.mem_cons_self))
        simp only [List.nil_append, List.isPrefixOf, hne, Bool.false_and]
    | cons c front =>
      rw [List.cons_append, List.isPrefixOf, List.isPrefixOf, ih fun c hc => hword c (List.mem_cons_of_mem w hc)]

/-- What may follow a number is told by its first word. -/
theorem mayFollowNumber_append {c : Char} (hrest : Stops continuesName rest) :
    mayFollowNumber (c :: front ++ rest) = mayFollowNumber (c :: front) := by
  have hstarts (word : String) (hword : word.toList.all continuesName = true) :
      word.toList.isPrefixOf (front ++ rest) = word.toList.isPrefixOf front :=
    isPrefixOf_append_of_stops (List.all_eq_true.1 hword) hrest
  simp only [mayFollowNumber, List.cons_append, hstarts "nd" rfl, hstarts "lse" rfl, hstarts "or" rfl, hstarts "f" rfl,
    hstarts "n" rfl, hstarts "s" rfl, hstarts "r" rfl, hstarts "ot" rfl]

/-- A word is read up to the first character that does not continue it, or up to the end of the literal that it stands in
front of. -/
theorem takeWord_eq_some {c : Char} {t : Token} (hc : continuesName c = true) (h : takeWord (c :: cs) = some (t, rest)) :
    ∃ source, cs = source ++ rest ∧ Spelling t (c :: source) rest ∧
      ∀ rest', HeadAlike rest rest' → takeWord (c :: source ++ rest') = some (t, rest') ∧
        mayFollowNumber (c :: source ++ rest') = mayFollowNumber (c :: cs) := by
  obtain ⟨front, tail, rfl, hfront, htail⟩ : ∃ front tail, cs = front ++ tail ∧
      (∀ d ∈ c :: front, continuesName d = true) ∧ Stops continuesName tail := by
    refine ⟨cs.takeWhile continuesName, cs.dropWhile continuesName, List.takeWhile_append_dropWhile.symm, ?_,
      stops_dropWhile _ cs⟩
    exact List.forall_mem_cons.2 ⟨hc, List.all_eq_true.1 List.all_takeWhile⟩
  rw [← List.cons_append] at h
  -- A quote right behind the word makes the word the prefix of a literal.
  by_cases hquote : Stops (fun d => isQuote d && (literalFlags? (c :: front)).isSome) tail
  · rw [takeWord_of_not_quote hfront htail hquote] at h
    obtain ⟨rfl, hspelling, hagain⟩ := wordToken_eq_some (List.cons_ne_nil c front) hfront h
    refine ⟨front, rfl, hspelling, fun rest' halike => ?_⟩
    have hhead : rest'.head? = rest.head? := by
      rcases halike with hhead | ⟨hhead | hhead, -⟩
      · exact hhead
      · exact (Bool.false_ne_true (htail _ hhead).symm).elim
      · exact (Bool.false_ne_true (htail _ hhead).symm).elim
    have hstops {p : Char → Bool} (h : Stops p rest) : Stops p rest' := fun d hd => h d (hhead ▸ hd)
    rw [takeWord_of_not_quote hfront (hstops htail) (hstops hquote), ← List.cons_append,
      mayFollowNumber_append (hstops htail), mayFollowNumber_append htail]
    exact ⟨hagain rest', rfl⟩
  · obtain ⟨q, tail, rfl, hq, hflags⟩ : ∃ q tail', tail = q :: tail' ∧ isQuote q = true ∧
        (literalFlags? (c :: front)).isSome = true := by
      cases tail with
      | nil => exact (hquote (stops_nil _)).elim
      | cons q tail =>
        rw [stops_cons, Bool.not_eq_false, Bool.and_eq_true] at hquote
        exact ⟨q, tail, rfl, hquote⟩
    rw [takeWord_of_quote hfront hq hflags] at h
    obtain ⟨⟨quoted, _⟩, hquoted, h⟩ := Option.bind_eq_some_iff.1 h
    obtain ⟨t, ht, heq⟩ := Option.map_eq_some_iff.1 h
    cases heq
    obtain ⟨rfl, rfl, hread⟩ := takeQuoted_eq_some hq hquoted
    refine ⟨front ++ quoted.source, by rw [Quoted.source_eq]; simp, .literal hfront ht (hread rest id),
      fun rest' halike => ?_⟩
    have hread' := (hread rest id).of_headAlike halike
    have hstops : Stops continuesName (quoted.mark :: (quoted.inner ++ rest')) := stops_cons.2 (stops_cons.1 htail)
    have hsource : c :: (front ++ quoted.source) ++ rest' = c :: front ++ quoted.mark :: (quoted.inner ++ rest') := by
      rw [Quoted.source_eq]
      simp
    rw [hsource, takeWord_of_quote hfront hq hflags, hread'.2, mayFollowNumber_append hstops, ← List.cons_append,
      mayFollowNumber_append htail]
    exact ⟨by simp only [Option.bind_some, ht, Option.map_some], rfl⟩

/-! ### Operators -/

theorem dropWord?_eq_some {word : List Char} : Json.dropWord? word cs = some rest ↔ cs = word ++ rest := by
  induction word generalizing cs with
  | nil => simp [Json.dropWord?, eq_comm]
  | cons w word ih =>
    cases cs with
    | nil => simp [Json.dropWord?]
    | cons c cs =>
      rw [Json.dropWord?, List.cons_append, List.cons.injEq]
      split
      · next heq => simp [ih, beq_iff_eq.1 heq]
      · next hne =>
        have hne' : c ≠ w := fun heq => hne (beq_iff_eq.2 heq.symm)
        simp [hne']

theorem pairwise_symbols : symbols.Pairwise fun s s' => s'.toList.length ≤ s.toList.length := by
  decide

/-- The longest operator at the front of a text is read. -/
theorem takeSymbol_eq_some {t : Token} :
    takeSymbol cs = some (t, rest) ↔ ∃ s ∈ symbols, t = .symbol s ∧ cs = s.toList ++ rest ∧
      ∀ s' ∈ symbols, s'.toList <+: cs → s'.toList.length ≤ s.toList.length := by
  have hlongest {t : Token} {rest : List Char} (h : takeSymbol cs = some (t, rest)) :
      ∃ s ∈ symbols, t = .symbol s ∧ cs = s.toList ++ rest ∧
        ∀ s' ∈ symbols, s'.toList <+: cs → s'.toList.length ≤ s.toList.length := by
    obtain ⟨before, s, after, hsymbols, hs, hbefore⟩ := List.findSome?_eq_some_iff.1 h
    obtain ⟨rest, hdrop, heq⟩ := Option.map_eq_some_iff.1 hs
    cases heq
    refine ⟨s, by simp [hsymbols], rfl, dropWord?_eq_some.1 hdrop, fun s' hs' hprefix => ?_⟩
    rw [hsymbols] at hs'
    rcases List.mem_append.1 hs' with hmem | hmem
    · obtain ⟨tail, rfl⟩ := hprefix
      have hnone := hbefore s' hmem
      rw [Option.map_eq_none_iff, dropWord?_eq_some.2 rfl] at hnone
      cases hnone
    · have hpairwise := hsymbols ▸ pairwise_symbols
      rcases List.mem_cons.1 hmem with rfl | hmem
      · exact Nat.le_refl _
      · exact List.rel_of_pairwise_cons (List.pairwise_append.1 hpairwise).2.1 hmem
  refine ⟨hlongest, ?_⟩
  rintro ⟨s, hs, rfl, rfl, hs'⟩
  rcases h : takeSymbol (s.toList ++ rest) with _ | ⟨t, rest'⟩
  · have hnone := List.findSome?_eq_none_iff.1 h s hs
    rw [Option.map_eq_none_iff, dropWord?_eq_some.2 rfl] at hnone
    cases hnone
  -- Two operators that are both the longest at the front of the text are the same one.
  · obtain ⟨s', hmem, rfl, heq, hle⟩ := hlongest h
    have hlength : s.toList.length = s'.toList.length :=
      Nat.le_antisymm (hle s hs (List.prefix_append _ _)) (hs' s' hmem (heq ▸ List.prefix_append _ _))
    obtain ⟨hchars, rfl⟩ := List.append_inj heq hlength
    rw [String.toList_inj.1 hchars]

theorem ne_nil_of_mem_symbols : ∀ s ∈ symbols, s.toList ≠ [] := by
  decide

theorem all_symbols_not_marks : (marks.all fun c => !symbols.any (·.toList.contains c)) = true := by
  decide +kernel

theorem not_mem_marks_of_mem_symbols {s : String} {c : Char} (hs : s ∈ symbols) (hc : c ∈ s.toList) : c ∉ marks :=
  not_mem_marks_of all_symbols_not_marks (List.any_eq_true.2 ⟨s, hs, List.contains_iff_mem.2 hc⟩)

/-- A longer operator begins with one that is longer by one character, but for the three points. -/
theorem all_longer_symbols : (symbols.all fun s => symbols.all fun s' =>
    !s.toList.isPrefixOf s'.toList || s'.toList.length ≤ s.toList.length || s'.toList == s.toList ++ ['.', '.'] ||
      (s'.toList.drop s.toList.length).head?.any fun c =>
        c != ' ' && c != '&' && c != '|' && symbols.contains (String.ofList (s.toList ++ [c]))) = true := by
  decide +kernel

theorem exists_longer_symbol {s s' : String} (hs : s ∈ symbols) (hs' : s' ∈ symbols) {tail : List Char}
    (h : s'.toList = s.toList ++ tail) (hne : tail ≠ []) :
    tail = ['.', '.'] ∨ ∃ c tail', tail = c :: tail' ∧ c ≠ ' ' ∧ c ≠ '&' ∧ c ≠ '|' ∧
      String.ofList (s.toList ++ [c]) ∈ symbols := by
  have hcheck := List.all_eq_true.1 (List.all_eq_true.1 all_longer_symbols s hs) s' hs'
  have hprefix : s.toList.isPrefixOf (s.toList ++ tail) = true :=
    List.isPrefixOf_iff_prefix.2 (List.prefix_append _ _)
  have hlonger : ¬(s.toList ++ tail).length ≤ s.toList.length := by
    rw [List.length_append]
    exact fun hle => hne (List.length_eq_zero_iff.1 (by omega))
  rw [h, List.drop_left, hprefix, decide_eq_false hlonger, Bool.not_true, Bool.false_or, Bool.false_or] at hcheck
  obtain ⟨c, tail, rfl⟩ := List.exists_cons_of_ne_nil hne
  simpa [and_assoc] using hcheck

/-- An operator is read in front of anything that does not make it longer. -/
theorem takeSymbol_again {s : String} (h : takeSymbol cs = some (.symbol s, rest)) (halike : HeadAlike rest cs')
    (hpoints : ['.', '.'] <+: cs' → ['.', '.'] <+: rest) : takeSymbol (s.toList ++ cs') = some (.symbol s, cs') := by
  obtain ⟨s, hs, heq, rfl, hlongest⟩ := takeSymbol_eq_some.1 h
  cases heq
  refine takeSymbol_eq_some.2 ⟨s, hs, rfl, rfl, fun s' hs' hprefix => Nat.le_of_not_lt fun hlt => ?_⟩
  have hextends : s.toList <+: s'.toList :=
    List.prefix_of_prefix_length_le (List.prefix_append _ _) hprefix (Nat.le_of_lt hlt)
  have hlonger {tail : List Char} (hne : tail ≠ []) (hsymbol : String.ofList (s.toList ++ tail) ∈ symbols)
      (htail : tail <+: rest) : False := by
    have hle := hlongest _ hsymbol (by rw [String.toList_ofList]; exact (List.prefix_append_right_inj _).2 htail)
    rw [String.toList_ofList, List.length_append] at hle
    exact hne (List.length_eq_zero_iff.1 (by omega))
  obtain ⟨tail, htail⟩ := hextends
  have hne : tail ≠ [] := by
    rintro rfl
    rw [List.append_nil] at htail
    exact Nat.lt_irrefl _ (htail ▸ hlt)
  have hfollows : tail <+: cs' := (List.prefix_append_right_inj _).1 (htail ▸ hprefix)
  rcases exists_longer_symbol hs hs' htail.symm hne with rfl | ⟨c, tail, rfl, hspace, hand, hor, hsymbol⟩
  · refine hlonger hne ?_ (hpoints hfollows)
    rwa [htail, String.ofList_toList]
  · obtain ⟨more, rfl⟩ := hfollows
    have hhead : rest.head? = some c := Decidable.byContradiction fun hne =>
      halike.ne_of_ne hne hspace hand hor rfl
    obtain ⟨rest', rfl⟩ := List.head?_eq_some_iff.1 hhead
    exact hlonger (List.cons_ne_nil c []) hsymbol (List.prefix_append _ _)

/-! ### Tokens -/

/-- The texts are alike for each token in front of them. -/
structure Alike (cs cs' : List Char) : Prop where
  head : HeadAlike cs cs'
  follow : mayFollowNumber cs = true → mayFollowNumber cs' = true
  points : ['.', '.'] <+: cs' → ['.', '.'] <+: cs

theorem Alike.refl (cs : List Char) : Alike cs cs :=
  ⟨.refl cs, id, id⟩

theorem Spelling.of_headAlike {t : Token} {source : List Char} (h : Spelling t source rest) (halike : HeadAlike rest cs') :
    Spelling t source cs' := by
  cases h with
  | word hne hword hsymbol hline hkeyword => exact .word hne hword hsymbol hline hkeyword
  | literal hfront ht hq => exact .literal hfront ht (hq.of_headAlike halike)
  | symbol hs => exact .symbol hs

/-- The token of a literal is none of the words, operators and ends of lines. -/
theorem literalToken?_eq_some {front : List Char} {q : Quoted} {t : Token} (h : literalToken? front q = some t) :
    (∃ s, t = .text s) ∨ (∃ data, t = .bytes data) ∨ ∃ slots, t = .formatted slots := by
  obtain ⟨⟨raw, isBytes, isFormatted⟩, -, h⟩ := Option.bind_eq_some_iff.1 h
  dsimp only at h
  split at h
  · obtain ⟨data, -, rfl⟩ := Option.map_eq_some_iff.1 h
    exact .inr (.inl ⟨data, rfl⟩)
  split at h
  · obtain ⟨slots, -, rfl⟩ := Option.map_eq_some_iff.1 h
    exact .inr (.inr ⟨slots, rfl⟩)
  · obtain ⟨cs, -, rfl⟩ := Option.map_eq_some_iff.1 h
    exact .inl ⟨_, rfl⟩

/-- A keyword is written as it is. -/
theorem Spelling.keyword {s : String} {source : List Char} (h : Spelling (.keyword s) source rest) : source = s.toList := by
  cases h with
  | word hne hword hsymbol hline hkeyword => exact hkeyword s rfl
  | literal hfront ht hq =>
    obtain ⟨_, ht⟩ | ⟨_, ht⟩ | ⟨_, ht⟩ := literalToken?_eq_some ht <;> cases ht

/-- An operator is written as it is. -/
theorem Spelling.symbol_eq {s : String} {source : List Char} (h : Spelling (.symbol s) source rest) : source = s.toList := by
  cases h with
  | word hne hword hsymbol hline hkeyword => exact (hsymbol s rfl).elim
  | literal hfront ht hq =>
    obtain ⟨_, ht⟩ | ⟨_, ht⟩ | ⟨_, ht⟩ := literalToken?_eq_some ht <;> cases ht
  | symbol hs => rfl

/-- No token begins with a mark. -/
theorem Spelling.not_mem_marks {c : Char} {t : Token} {source : List Char} (h : Spelling t (c :: source) rest) :
    c ∉ marks := by
  generalize hsource : c :: source = cs at h
  cases h with
  | word hne hword => exact not_mem_marks_of_isWordlike (hword c (hsource ▸ List.mem_cons_self))
  | @literal _ front _ q hfront ht hq =>
    cases front with
    | nil =>
      rw [List.nil_append, Quoted.source_eq, List.cons.injEq] at hsource
      exact hsource.1 ▸ not_mem_marks_of_isQuote hq.1
    | cons d front =>
      rw [List.cons_append, List.cons.injEq] at hsource
      have hd := hfront d List.mem_cons_self
      exact hsource.1 ▸ not_mem_marks_of_isWordlike (by simp [isWordlike, hd])
  | symbol hs => exact not_mem_marks_of_mem_symbols hs (hsource ▸ List.mem_cons_self)

/-- A token is read from the front of a text, and again when what comes behind it is replaced by something alike. -/
def ReadsAgain (c : Char) (cs : List Char) (t : Token) (rest : List Char) : Prop :=
  ∃ source, cs = source ++ rest ∧ Spelling t (c :: source) rest ∧ ∀ rest', Alike rest rest' →
    takeToken c (source ++ rest') = some (t, rest') ∧
      (mayFollowNumber (c :: cs) = true → mayFollowNumber (c :: (source ++ rest')) = true)

section

variable {c : Char} {t : Token}

private theorem readsAgain_of_literal (hquote : isQuote c = true) (h : takeLiteral c cs = some (t, rest)) :
    ReadsAgain c cs t rest := by
  obtain ⟨⟨q, _⟩, hq, h⟩ := Option.bind_eq_some_iff.1 h
  obtain ⟨t, ht, heq⟩ := Option.map_eq_some_iff.1 h
  cases heq
  obtain ⟨rfl, rfl, hread⟩ := takeQuoted_eq_some hquote hq
  have hspelling : Spelling t ([] ++ q.source) rest := .literal nofun ht (hread rest id)
  rw [Quoted.source_eq] at hspelling
  refine ⟨q.inner, rfl, hspelling, fun rest' halike => ⟨?_, fun _ => ?_⟩⟩
  · have hread' := ((hread rest id).of_headAlike halike.head).2
    simp only [takeToken, hquote, if_true, takeLiteral, hread', Option.bind_some, ht, Option.map_some]
  · exact mayFollowNumber_of_not_continuesName (by rcases isQuote_eq_true.1 hquote with hc | hc <;> rw [hc] <;> rfl)

private theorem readsAgain_of_number {n : Number} (hquote : ¬isQuote c = true)
    (hnumber : (c.isDigit || (c == '.' && cs.head?.any Char.isDigit)) = true)
    (hn : takeNumber (c :: cs) = some (n, rest)) : ReadsAgain c cs (.number n) rest := by
  obtain ⟨hfollow, front, hne, htaken⟩ := exists_taken_takeNumber hn
  obtain ⟨_, source, rfl⟩ := List.exists_cons_of_ne_nil hne
  obtain ⟨rfl, rfl⟩ := List.cons.inj (htaken.eq.trans List.cons_append)
  refine ⟨source, rfl, .word hne htaken.wordlike nofun nofun nofun, fun rest' halike => ⟨?_, fun hfollow' => ?_⟩⟩
  · -- Where only the first character was taken it is a digit, for behind a point there would be one.
    have hnumber' : (c.isDigit || (c == '.' && (source ++ rest').head?.any Char.isDigit)) = true := by
      cases source with
      | cons d source => exact hnumber
      | nil =>
        have hrest : rest.head?.any Char.isDigit = false := by
          cases rest with
          | nil => rfl
          | cons d rest => exact not_isDigit_of_mayFollowNumber hfollow
        rw [List.nil_append, hrest, Bool.and_false, Bool.or_false] at hnumber
        rw [hnumber, Bool.true_or]
    rw [takeToken, if_neg hquote, if_pos hnumber', ← List.cons_append,
      htaken.again halike.head (halike.follow hfollow)]
    rfl
  · rcases (Bool.or_eq_true _ _).mp hnumber with hdigit | hpoint
    · exact (Bool.false_ne_true ((not_isDigit_of_mayFollowNumber hfollow').symm.trans hdigit)).elim
    · rw [beq_iff_eq.1 ((Bool.and_eq_true _ _).mp hpoint).1]
      exact mayFollowNumber_of_not_continuesName rfl

private theorem readsAgain_of_word (hquote : ¬isQuote c = true)
    (hnumber : ¬(c.isDigit || (c == '.' && cs.head?.any Char.isDigit)) = true) (hname : continuesName c = true)
    (h : takeWord (c :: cs) = some (t, rest)) : ReadsAgain c cs t rest := by
  obtain ⟨source, rfl, hspelling, hagain⟩ := takeWord_eq_some hname h
  refine ⟨source, rfl, hspelling, fun rest' halike => ⟨?_, fun hfollow => ?_⟩⟩
  · have hpoint : (c == '.') = false := beq_eq_false_iff_ne.2 (by rintro rfl; cases hname)
    rw [hpoint, Bool.false_and] at hnumber
    rw [takeToken, if_neg hquote, hpoint, Bool.false_and, if_neg hnumber, if_pos hname]
    exact (hagain rest' halike.head).1
  · exact (hagain rest' halike.head).2.trans hfollow

private theorem readsAgain_of_symbol (hquote : ¬isQuote c = true)
    (hnumber : ¬(c.isDigit || (c == '.' && cs.head?.any Char.isDigit)) = true) (hname : ¬continuesName c = true)
    (h : takeSymbol (c :: cs) = some (t, rest)) : ReadsAgain c cs t rest := by
  obtain ⟨s, hs, rfl, heq, -⟩ := takeSymbol_eq_some.1 h
  obtain ⟨_, source, hsource⟩ := List.exists_cons_of_ne_nil (ne_nil_of_mem_symbols s hs)
  rw [hsource, List.cons_append] at heq
  obtain ⟨rfl, rfl⟩ := List.cons.inj heq
  refine ⟨source, rfl, hsource ▸ .symbol hs, fun rest' halike => ⟨?_, fun _ => ?_⟩⟩
  · -- A point in front of no digit is an operator also in front of another rest.
    have hnumber' : ¬(c.isDigit || (c == '.' && (source ++ rest').head?.any Char.isDigit)) = true := by
      cases source with
      | cons d source => exact hnumber
      | nil => rwa [List.nil_append, halike.head.any_isDigit]
    have hagain := takeSymbol_again h halike.head halike.points
    rw [hsource, List.cons_append] at hagain
    rw [takeToken, if_neg hquote, if_neg hnumber', if_neg hname, hagain]
  · exact mayFollowNumber_of_not_continuesName (Bool.eq_false_iff.2 hname)

/-- A token is read up to a place that stays the same in front of texts that are alike. -/
theorem takeToken_eq_some (h : takeToken c cs = some (t, rest)) : ReadsAgain c cs t rest := by
  unfold takeToken at h
  split at h
  · next hquote => exact readsAgain_of_literal hquote h
  split at h
  · next hquote hnumber =>
    obtain ⟨⟨n, _⟩, hn, heq⟩ := Option.map_eq_some_iff.1 h
    cases heq
    exact readsAgain_of_number hquote hnumber hn
  split at h
  · next hquote hnumber hname => exact readsAgain_of_word hquote hnumber hname h
  · next hquote hnumber hname => exact readsAgain_of_symbol hquote hnumber hname h

end

end IntegrationFlow.Expression
