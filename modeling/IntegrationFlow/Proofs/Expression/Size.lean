import IntegrationFlow.Expression.Evaluate
import Mathlib.Algebra.Order.Group.Unbundled.Int
import Mathlib.Algebra.Order.Ring.Int

/-!
# The size of results

Expressions refuse a repetition or a power before it is computed when its result would be huge. For texts, lists and
tuples that is exact: a repetition is let pass if and only if its result is no longer than allowed
(`guardSize_multiply_iff`). A power of whole numbers is judged by the bits of its base, which bound those of the result
(`bitLength_pow_le`). Repetitions of byte strings are let pass whatever their length, so the limits hold for all results
but byte strings (`withinLimits_of_guardSize`).
-/

namespace IntegrationFlow

/-- How many items a sequence has. -/
def Cell.sequenceLength? : Cell → Option Nat
  | .atom _ (.text ps) => some ps.length
  | .list _ items => some items.length
  | .tuple _ items => some items.length
  | .atom _ (.bytes data) => some data.length
  | _ => none

namespace Expression

/-- A product that is a sequence is no longer than allowed, and a power that is a whole number has no more bits. -/
structure WithinLimits (op : BinaryOp) (c : Cell) : Prop where
  length : op = .multiply → ∀ n, c.sequenceLength? = some n → n ≤ maxRepetition
  bits : op = .power → ∀ l n, c = .atom l (.int n) → bitLength n ≤ maxPowerBits

/-! ### Powers -/

/-- A whole number has at most so many bits when it is smaller than that power of two. -/
theorem bitLength_le_iff {n : Int} {bits : Nat} : bitLength n ≤ bits ↔ n.natAbs < 2 ^ bits := by
  unfold bitLength
  by_cases hn : n = 0
  · subst hn
    exact iff_of_true (Nat.zero_le _) (Nat.two_pow_pos bits)
  · have habs : n.natAbs ≠ 0 := Int.natAbs_ne_zero.2 hn
    rw [if_neg (by simpa using hn), Nat.add_one_le_iff, Nat.log2_lt habs]

/-- The bits of a power are bounded by those of its base, taken once for each factor. -/
theorem bitLength_pow_le (base : Int) (exponent : Nat) (h : exponent ≠ 0) :
    bitLength (base ^ exponent) ≤ bitLength base * exponent := by
  rw [bitLength_le_iff, Int.natAbs_pow, Nat.pow_mul]
  exact Nat.pow_lt_pow_left (bitLength_le_iff.1 le_rfl) h

/-- A result that is computed of two things, if they can be had. -/
private theorem exists_of_operands {α : Type} {x? y? : Except Mishap α} {f : α → α → Except Mishap Atom} {a : Atom}
    (h : (do f (← x?) (← y?)) = .ok a) : ∃ x y, f x y = .ok a := by
  cases x? with
  | error m => cases h
  | ok x =>
    cases y? with
    | error m => cases h
    | ok y => exact ⟨x, y, h⟩

/-- A result of arithmetic comes from two whole numbers, two floats or two complex numbers. -/
theorem Arithmetic.of_apply {o : Arithmetic} {m n : Number} {a : Atom} (h : o.apply m n = .ok a) :
    (∃ i j, m = .int i ∧ n = .int j ∧ o.onInts i j = .ok a) ∨ (∃ x y, o.onFloats x y = .ok a) ∨
      ∃ z w, o.onComplex z w = .ok a := by
  unfold Arithmetic.apply at h
  split at h
  · exact .inl ⟨_, _, rfl, rfl, h⟩
  · split at h
    · exact .inr (.inr (exists_of_operands h))
    · exact .inr (.inl (exists_of_operands h))

/-- A power of complex numbers is no whole number. -/
theorem powerComplex_ne_int (z w : Decimal.Complex) (n : Int) : powerComplex z w ≠ .ok (.int n) := by
  unfold powerComplex
  repeat' split
  all_goals exact nofun

/-- A power of floats is no whole number. -/
theorem powerFloats_ne_int (x y : Float) (n : Int) : powerFloats x y ≠ .ok (.int n) := by
  unfold powerFloats
  dsimp only
  repeat' split
  all_goals first | exact powerComplex_ne_int _ _ n | exact nofun

/-- A power that is a whole number is one of whole numbers, with an exponent that is not negative. -/
theorem eq_pow_of_power {a b : Number} {n : Int} (h : power.apply a b = .ok (.int n)) :
    ∃ base exponent : Int, a = .int base ∧ b = .int exponent ∧ 0 ≤ exponent ∧ n = base ^ exponent.toNat := by
  rcases Arithmetic.of_apply h with ⟨base, exponent, ha, hb, hpower⟩ | ⟨x, y, hpower⟩ | ⟨z, w, hpower⟩
  · have hpower : powerInts base exponent = .ok (.int n) := hpower
    unfold powerInts at hpower
    split at hpower
    · obtain ⟨x, y, hfloats⟩ := exists_of_operands hpower
      exact absurd hfloats (powerFloats_ne_int x y n)
    · next hneg =>
      cases hpower
      exact ⟨base, exponent, ha, hb, not_lt.1 hneg, rfl⟩
  · exact absurd hpower (powerFloats_ne_int x y n)
  · exact absurd hpower (powerComplex_ne_int z w n)

/-- A whole number as an operand. -/
theorem int?_of_number? {c : Cell} {n : Int} (h : c.number? = some (.int n)) : c.int? = some n := by
  cases c with
  | atom l a =>
    cases a with
    | bool b => cases h; rfl
    | int m => cases h; rfl
    | _ => cases h
  | _ => cases h

/-- A power that is let pass has no more bits than allowed. -/
theorem bitLength_le_of_guardSize {left right : Cell} {n : Int} (hguard : guardSize .power left right = .ok ())
    (h : power.onCells left right = .ok (.int n)) : bitLength n ≤ maxPowerBits := by
  unfold Arithmetic.onCells at h
  split at h
  · next a b ha hb =>
    obtain ⟨base, exponent, rfl, rfl, hnonneg, rfl⟩ := eq_pow_of_power h
    by_cases hzero : exponent = 0
    · rw [hzero, Int.toNat_zero, pow_zero]
      decide
    · simp only [guardSize, hb, int?_of_number? ha, int?_of_number? hb] at hguard
      split at hguard
      · cases hguard
      · split at hguard
        · cases hguard
        · next hsmall =>
          have hbits : (bitLength base : Int) * exponent ≤ maxPowerBits := by
            simp only [Bool.and_eq_true, decide_eq_true_eq, not_and, not_lt] at hsmall
            exact hsmall (by omega)
          have hcast : ((bitLength base * exponent.toNat : Nat) : Int) = (bitLength base : Int) * exponent := by
            rw [Nat.cast_mul, Int.toNat_of_nonneg hnonneg]
          have hpow := bitLength_pow_le base exponent.toNat (by omega)
          omega
  · cases h

/-! ### Repetitions -/

theorem length_repeatList {α : Type} (count : Nat) (items : List α) :
    (repeatList count items).length = items.length * count := by
  unfold repeatList
  split
  · next h => simp [List.isEmpty_iff.1 h]
  · simp [Nat.mul_comm]

/-- What is taken out of a cell has as many items as before. -/
private theorem length_outOfItems (whole : Cell) (around : List Label) (items : List Cell) :
    (Cell.outOfItems whole around items).length = items.length := by
  induction items with
  | nil => rfl
  | cons c cs ih => rw [Cell.outOfItems, List.length_cons, ih, List.length_cons]

/-- A new text has the length of its content. -/
@[simp]
private theorem sequenceLength?_atom_text (b : Birth) (ps : List Text.Point) :
    (b.atom (.text ps)).sequenceLength? = some ps.length :=
  rfl

/-- A repetition has the items of its sequence once for each count, and none for a negative one. -/
theorem sequenceLength?_of_repeatCell? {b : Birth} {count : Int} {sequence c : Cell}
    (h : repeatCell? b count sequence = some (.ok c)) (hbytes : ∀ l data, c ≠ .atom l (.bytes data)) :
    ∃ n, repeatedLength? sequence = some n ∧ c.sequenceLength? = some (n * count.toNat) := by
  have hguarded {d : Cell} (h : some (repeatCell?.guarded count d) = some (.ok c)) : d = c := by
    unfold repeatCell?.guarded at h
    split at h
    · cases h
    · exact Except.ok.inj (Option.some.inj h)
  unfold repeatCell? at h
  split at h
  · next l ps =>
    refine ⟨ps.length, rfl, ?_⟩
    obtain rfl := hguarded h
    split
    · next hcount => rw [hcount, Int.toNat_one, Nat.mul_one, Cell.sequenceLength?]
    · rw [sequenceLength?_atom_text, length_repeatList]
  · next l items =>
    obtain rfl := hguarded h
    refine ⟨items.length, rfl, ?_⟩
    rw [Birth.list, Cell.sequenceLength?, length_repeatList, Cell.parts?, Option.getD_some, length_outOfItems]
  · next l items =>
    refine ⟨items.length, rfl, ?_⟩
    obtain rfl := hguarded h
    split
    · next hcount => rw [hcount, Int.toNat_one, Nat.mul_one, Cell.sequenceLength?]
    · rw [Birth.tuple, Cell.sequenceLength?, length_repeatList, Cell.parts?, Option.getD_some, length_outOfItems]
  · next l data =>
    split at h
    · cases h
    · obtain hresult := hguarded h
      split at hresult
      · exact absurd hresult.symm (hbytes _ _)
      · exact absurd hresult.symm (hbytes _ _)
  · cases h

/-- A repetition is too much exactly when its result is longer than allowed. A sequence is no count. -/
theorem repeatsTooMuch_iff {b : Birth} {sequence count c : Cell} {n : Int} (hcount : count.int? = some n)
    (h : repeatCell? b n sequence = some (.ok c)) (hbytes : ∀ l data, c ≠ .atom l (.bytes data)) :
    (repeatsTooMuch sequence count = false ↔ ∀ m, c.sequenceLength? = some m → m ≤ maxRepetition) ∧
      repeatsTooMuch count sequence = false := by
  obtain ⟨length, hlength, hresult⟩ := sequenceLength?_of_repeatCell? h hbytes
  constructor
  · simp only [repeatsTooMuch, hlength, hcount, decide_eq_false_iff_not, not_lt, hresult, Option.some.injEq,
      forall_eq']
    rcases le_or_gt 0 n with hn | hn
    · have hcast : ((length * n.toNat : Nat) : Int) = length * n := by rw [Nat.cast_mul, Int.toNat_of_nonneg hn]
      omega
    · have hnone : (length : Int) * n ≤ 0 := mul_nonpos_of_nonneg_of_nonpos (Int.natCast_nonneg _) hn.le
      rw [Int.toNat_of_nonpos hn.le]
      omega
  · have hnone : repeatedLength? count = none := by
      cases count with
      | atom l a =>
        cases a with
        | text _ => cases hcount
        | _ => rfl
      | back _ _ | object _ _ => rfl
      | _ => cases hcount
    simp only [repeatsTooMuch, hnone]

/-- A number is no sequence. -/
private theorem repeatsTooMuch_of_number {c : Cell} {n : Number} (h : c.number? = some n) (count : Cell) :
    repeatsTooMuch c count = false := by
  have hnone : repeatedLength? c = none := by
    cases c with
    | atom l a =>
      cases a with
      | text _ => cases h
      | _ => rfl
    | back _ _ | object _ _ => rfl
    | _ => cases h
  simp only [repeatsTooMuch, hnone]

/-- A product of numbers is no sequence. -/
private theorem sequenceLength?_of_product {b : Birth} {m n : Number} {c : Cell}
    (h : (product.apply m n).map b.atom = .ok c) : c.sequenceLength? = none := by
  cases hproduct : product.apply m n with
  | error e =>
    rw [hproduct] at h
    cases h
  | ok a =>
    rw [hproduct] at h
    cases h
    rcases Arithmetic.of_apply hproduct with ⟨i, j, -, -, h⟩ | ⟨x, y, h⟩ | ⟨z, w, h⟩
    all_goals
      cases h
      rfl

/-- A repetition is let pass exactly when its result is no longer than allowed. -/
theorem guardSize_multiply_iff {b : Birth} {left right c : Cell} (h : multiply b left right = .ok c)
    (hbytes : ∀ l data, c ≠ .atom l (.bytes data)) :
    guardSize .multiply left right = .ok () ↔ ∀ n, c.sequenceLength? = some n → n ≤ maxRepetition := by
  have hguard : guardSize .multiply left right = .ok () ↔
      repeatsTooMuch left right = false ∧ repeatsTooMuch right left = false := by
    simp only [guardSize]
    cases repeatsTooMuch left right <;> cases repeatsTooMuch right left <;> simp
  rw [hguard]
  unfold multiply at h
  split at h
  · next m n hm hn =>
    simp [repeatsTooMuch_of_number hm, repeatsTooMuch_of_number hn, sequenceLength?_of_product h]
  · split at h
    · next r hrepeat =>
      obtain ⟨n, hcount, hrepeat⟩ := Option.bind_eq_some_iff.1 hrepeat
      obtain ⟨hiff, hother⟩ := repeatsTooMuch_iff hcount (h ▸ hrepeat) hbytes
      rw [hother, and_iff_left rfl, hiff]
    · split at h
      · next r hrepeat =>
        obtain ⟨n, hcount, hrepeat⟩ := Option.bind_eq_some_iff.1 hrepeat
        obtain ⟨hiff, hother⟩ := repeatsTooMuch_iff hcount (h ▸ hrepeat) hbytes
        rw [hother, and_iff_right rfl, hiff]
      · cases h

/-! ### The limits -/

/-- A new atom is the atom with a label. -/
private theorem onCells_of_calculate {b : Birth} {o : Arithmetic} {left right : Cell} {l : Label} {a : Atom}
    (h : calculate b o left right = .ok (.atom l a)) : o.onCells left right = .ok a := by
  unfold calculate at h
  cases hresult : o.onCells left right with
  | error m =>
    rw [hresult] at h
    cases h
  | ok a' =>
    rw [hresult] at h
    cases h
    rfl

/-- What is let pass and computed is within the limits, unless it is a byte string. -/
theorem withinLimits_of_guardSize {b : Birth} {op : BinaryOp} {left right c : Cell}
    (hguard : guardSize op left right = .ok ()) (h : applyBinary b op left right = .ok c)
    (hbytes : ∀ l data, c ≠ .atom l (.bytes data)) : WithinLimits op c where
  length := by
    rintro rfl
    exact (guardSize_multiply_iff h hbytes).1 hguard
  bits := by
    rintro rfl l n rfl
    exact bitLength_le_of_guardSize hguard (onCells_of_calculate h)

/-- The operands of an operation that is evaluated have passed the guard. -/
theorem exists_of_eval_binary {scope : Scope} {b : Birth} {op : BinaryOp} {left right : Expr} {c : Cell}
    (h : (Expr.binary op left right).eval scope b = .ok c) :
    ∃ l r, left.eval scope (b.part 1) = .ok l ∧ right.eval scope (b.part 2) = .ok r ∧ guardSize op l r = .ok () ∧
      applyBinary (b.part 0) op l r = .ok c := by
  rw [Expr.eval] at h
  split at h
  · cases h
  · split at h
    · cases h
    · next l hl =>
      split at h
      · cases h
      · next r hr =>
        split at h
        · cases h
        · next hguard =>
          cases hresult : applyBinary (b.part 0) op l r with
          | error m =>
            rw [hresult] at h
            cases h
          | ok w =>
            rw [hresult] at h
            cases h
            exact ⟨l, r, hl, hr, hguard, hresult⟩

/-- A repetition is let pass exactly when its result is not too long, and a power only if its result has not too many
bits; so no repetition and no power in an expression gives a larger result. This leaves out byte strings, whose
repetitions are let pass at any length. -/
theorem size_of_results (b : Birth) (left right c : Cell) :
    (multiply b left right = .ok c → (∀ l data, c ≠ .atom l (.bytes data)) →
      (guardSize .multiply left right = .ok () ↔ ∀ n, c.sequenceLength? = some n → n ≤ maxRepetition)) ∧
    (∀ n, guardSize .power left right = .ok () → power.onCells left right = .ok (.int n) →
      bitLength n ≤ maxPowerBits) ∧
    ∀ scope op e e', (Expr.binary op e e').eval scope b = .ok c → (∀ l data, c ≠ .atom l (.bytes data)) →
      WithinLimits op c := by
  refine ⟨guardSize_multiply_iff, fun n => bitLength_le_of_guardSize, fun scope op e e' h hbytes => ?_⟩
  obtain ⟨l, r, -, -, hguard, hresult⟩ := exists_of_eval_binary h
  exact withinLimits_of_guardSize hguard hresult hbytes

/-- A negative number to the power of forty, and a text that a truth value repeats. -/
theorem size_of_powerOfThree :
    bitLength ((-3) ^ 40) ≤ maxPowerBits ∧
      (guardSize .multiply (.atom .only (.bool true)) (.atom .only (.ofString "ab")) = .ok () ↔
        ∀ n, (Cell.atom .only (.ofString "ab")).sequenceLength? = some n → n ≤ maxRepetition) :=
  ⟨(size_of_results ⟨0, []⟩ (.atom .only (.int (-3))) (.atom .only (.int 40)) default).2.1 _ rfl rfl,
    (size_of_results ⟨0, []⟩ (.atom .only (.bool true)) (.atom .only (.ofString "ab"))
      (.atom .only (.ofString "ab"))).1 rfl fun _ _ => nofun⟩

/-! ### Byte strings -/

/-- A byte string is repeated as often as is asked for. -/
theorem exists_eval_repeat_bytes (scope : Scope) (b : Birth) (data : List UInt8) (count : Nat) (hdata : data ≠ [])
    (hcount : 1 < count) (hlength : (data.length : Int) * count ≤ maxCount) :
    ∃ l, (Expr.binary .multiply (.constant (.bytes data)) (.constant (.int count))).eval scope b =
      .ok (.atom l (.bytes (repeatList count data))) := by
  have hpos : 1 ≤ data.length := List.length_pos_iff.2 hdata
  have hle : (count : Int) ≤ data.length * count := by exact_mod_cast Nat.le_mul_of_pos_left count hpos
  have hmany : ¬ ((count : Int) > maxCount ∨ (count : Int) < -maxCount - 1) := by
    unfold maxCount at hlength ⊢
    omega
  have hone : count ≠ 1 := by omega
  have hrepeat (b : Birth) (l : Label) : repeatCell? b count (.atom l (.bytes data)) =
      some (.ok (b.atom (.bytes (repeatList count data)))) := by
    simp [repeatCell?, repeatCell?.guarded, not_lt.2 hlength, hmany, hone, hdata]
  have hproduct (b : Birth) (l m : Label) : multiply b (.atom l (.bytes data)) (.atom m (.int count)) =
      .ok (b.atom (.bytes (repeatList count data))) := by
    simp [multiply, Cell.number?, Atom.number?, Cell.int?, Atom.int?, hrepeat]
  have hguard (l m : Label) : guardSize .multiply (.atom l (.bytes data)) (.atom m (.int count)) = .ok () := rfl
  refine ⟨(b.part 0).label, ?_⟩
  simp only [Expr.eval, BinaryOp.unsupportedName?, Birth.piece, hguard, applyBinary, hproduct, attempt]
  rfl

/-- An expression asks for the length of a byte string that is repeated. -/
private def measures (data : List UInt8) (count : Nat) : Except Stop Expr → Bool
  | .ok (.call (.name "len") [.binary .multiply (.constant (.bytes d)) (.constant (.int n))] []) =>
    d == data && n == count
  | _ => false

/-- A byte string becomes longer than any other sequence may. -/
theorem length_of_longBytes :
    (evaluate [] ⟨0, []⟩ "len(b'x' * 100001)").map Cell.value = .ok (.int (maxRepetition + 1 : Nat)) := by
  have hread : measures [120] (maxRepetition + 1) (read "len(b'x' * 100001)") = true := by decide +kernel
  unfold measures at hread
  split at hread
  · next data count hexpr =>
    obtain ⟨rfl, rfl⟩ : data = [120] ∧ count = (maxRepetition + 1 : Nat) := by simpa using hread
    have hcall (b : Birth) (l : Label) (data : List UInt8) :
        Helper.len.apply b ⟨[.atom l (.bytes data)], []⟩ = .ok (b.atom (.int data.length)) := rfl
    unfold evaluate
    rw [hexpr]
    simp only [Expr.eval, helperOf?, Helper.ofName?, helpers, List.lookup_cons_self, Expr.evalKeywords]
    obtain ⟨l, hbytes⟩ := exists_eval_repeat_bytes [] ((Birth.part ⟨0, []⟩ 1).part 0) [120]
      (maxRepetition + 1) (by decide) (by decide) (by decide)
    rw [Expr.evalList, hbytes]
    simp only [Expr.evalList, Except.map, hcall, attempt, length_repeatList, List.length_singleton, Nat.one_mul]
    rfl
  · cases hread

end Expression

end IntegrationFlow
