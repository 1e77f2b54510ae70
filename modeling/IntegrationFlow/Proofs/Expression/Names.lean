import IntegrationFlow.Expression.Evaluate

/-!
# The names that an expression depends on

Two scopes that give the names of an expression the same values give the expression the same outcome (`Expr.eval_congr`).
A scope is asked only for the names that stand outside of call position (`Expr.reads`), and never for a name that starts
with an underscore. So whatever a scope holds under the other names, a hidden name cannot be read, and a helper gives the
same result for the same arguments (`evaluate_of_names`).
-/

namespace IntegrationFlow

open Expression

namespace Expr

mutual

/-- The names that occur in an expression and are not called. -/
def reads : Expr → List String
  | .constant _ => []
  | .name s => [s]
  | .attribute target _ => target.reads
  | .item target key => target.reads ++ key.reads
  | .slice target lower upper _ => target.reads ++ readsOption lower ++ readsOption upper
  | .unary _ operand => operand.reads
  | .binary _ left right => left.reads ++ right.reads
  | .all operands => readsList operands
  | .any operands => readsList operands
  | .compare first rest => first.reads ++ readsRest rest
  | .choose test body other => test.reads ++ body.reads ++ other.reads
  | .list items => readsList items
  | .tuple items => readsList items
  | .object entries => readsEntries entries
  | .call _ arguments keywords => readsList arguments ++ readsKeywords keywords
  | .unsupported _ => []

/-- The names that are read in a part that may be absent. -/
def readsOption : Option Expr → List String
  | none => []
  | some e => e.reads

/-- The names that are read in a list of expressions. -/
def readsList : List Expr → List String
  | [] => []
  | e :: es => e.reads ++ readsList es

/-- The names that are read in the further operands of a comparison. -/
def readsRest : List (Comparison × Expr) → List String
  | [] => []
  | e :: es => e.2.reads ++ readsRest es

/-- The names that are read in the entries of an object. -/
def readsEntries : List (Option Expr × Expr) → List String
  | [] => []
  | e :: es => readsOption e.1 ++ e.2.reads ++ readsEntries es

/-- The names that are read in keyword arguments. -/
def readsKeywords : List (Option String × Expr) → List String
  | [] => []
  | e :: es => e.2.reads ++ readsKeywords es

end

private theorem append_subset_append {as bs cs ds : List String} (h : as ⊆ bs) (h' : cs ⊆ ds) : as ++ cs ⊆ bs ++ ds :=
  List.append_subset.2
    ⟨List.Subset.trans h (List.subset_append_left bs ds), List.Subset.trans h' (List.subset_append_right bs ds)⟩

mutual

/-- A name that is read occurs in the expression. -/
theorem reads_subset : (e : Expr) → e.reads ⊆ e.names
  | .constant _ | .name _ | .unsupported _ => List.Subset.refl _
  | .attribute target _ => target.reads_subset
  | .item target key => append_subset_append target.reads_subset key.reads_subset
  | .slice target lower upper _ =>
    append_subset_append (append_subset_append target.reads_subset (readsOption_subset lower)) (readsOption_subset upper)
  | .unary _ operand => operand.reads_subset
  | .binary _ left right => append_subset_append left.reads_subset right.reads_subset
  | .all operands | .any operands => readsList_subset operands
  | .compare first rest => append_subset_append first.reads_subset (readsRest_subset rest)
  | .choose test body other =>
    append_subset_append (append_subset_append test.reads_subset body.reads_subset) other.reads_subset
  | .list items | .tuple items => readsList_subset items
  | .object entries => readsEntries_subset entries
  | .call function arguments keywords =>
    append_subset_append (List.Subset.trans (readsList_subset arguments) (List.subset_append_right function.names _))
      (readsKeywords_subset keywords)

theorem readsOption_subset : (e : Option Expr) → readsOption e ⊆ namesOption e
  | none => List.Subset.refl _
  | some e => e.reads_subset

theorem readsList_subset : (es : List Expr) → readsList es ⊆ namesList es
  | [] => List.Subset.refl _
  | e :: es => append_subset_append e.reads_subset (readsList_subset es)

theorem readsRest_subset : (es : List (Comparison × Expr)) → readsRest es ⊆ namesRest es
  | [] => List.Subset.refl _
  | e :: es => append_subset_append e.2.reads_subset (readsRest_subset es)

theorem readsEntries_subset : (es : List (Option Expr × Expr)) → readsEntries es ⊆ namesEntries es
  | [] => List.Subset.refl _
  | e :: es =>
    append_subset_append (append_subset_append (readsOption_subset e.1) e.2.reads_subset) (readsEntries_subset es)

theorem readsKeywords_subset : (es : List (Option String × Expr)) → readsKeywords es ⊆ namesKeywords es
  | [] => List.Subset.refl _
  | e :: es => append_subset_append e.2.reads_subset (readsKeywords_subset es)

end

end Expr

namespace Expression

/-- The scopes give the names the same values, or none; hidden names do not count. -/
def Scope.Agree (σ τ : Scope) (names : List String) : Prop :=
  ∀ s ∈ names, isHidden s = false → σ.lookup s = τ.lookup s

namespace Scope.Agree

variable {σ τ : Scope} {as bs : List String}

theorem mono (h : Agree σ τ bs) (hsub : as ⊆ bs) : Agree σ τ as := fun s hs =>
  h s (hsub hs)

theorem left (h : Agree σ τ (as ++ bs)) : Agree σ τ as :=
  h.mono (List.subset_append_left as bs)

theorem right (h : Agree σ τ (as ++ bs)) : Agree σ τ bs :=
  h.mono (List.subset_append_right as bs)

theorem readName_eq {s : String} (h : Agree σ τ [s]) : readName σ s = readName τ s := by
  unfold readName
  split
  · rfl
  · next hs => rw [h s List.mem_cons_self (Bool.eq_false_iff.2 hs)]

end Scope.Agree

end Expression

namespace Expr

variable {σ τ : Scope}

mutual

/-- Scopes that agree on the names that are read give the same outcome. -/
theorem eval_congr : (e : Expr) → σ.Agree τ e.reads → ∀ b, e.eval σ b = e.eval τ b
  | .constant _, _, _ | .unsupported _, _, _ => rfl
  | .name _, h, _ => h.readName_eq
  | .attribute target _, h, b => by rw [eval, eval, target.eval_congr h]
  | .item target key, h, b => by rw [eval, eval, target.eval_congr h.left, key.eval_congr h.right]
  | .slice target lower upper _, h, b => by
    rw [eval, eval, target.eval_congr h.left.left, evalOption_congr lower h.left.right, evalOption_congr upper h.right]
  | .unary _ operand, h, b => by rw [eval, eval, operand.eval_congr h]
  | .binary _ left right, h, b => by rw [eval, eval, left.eval_congr h.left, right.eval_congr h.right]
  | .all operands, h, b => evalAll_congr operands h b _
  | .any operands, h, b => evalAny_congr operands h b _
  | .compare first rest, h, b => by
    rw [eval, eval, first.eval_congr h.left]
    simp only [evalComparisons_congr rest h.right]
  | .choose test body other, h, b => by
    rw [eval, eval, test.eval_congr h.left.left, body.eval_congr h.left.right, other.eval_congr h.right]
  | .list items, h, b | .tuple items, h, b => by rw [eval, eval, evalList_congr items h]
  | .object entries, h, b => by rw [eval, eval, evalEntries_congr entries h]
  | .call _ arguments keywords, h, b => by
    rw [eval, eval, evalList_congr arguments h.left, evalKeywords_congr keywords h.right]

theorem evalOption_congr : (e : Option Expr) → σ.Agree τ (readsOption e) → ∀ b, evalOption σ b e = evalOption τ b e
  | none, _, _ => rfl
  | some e, h, b => e.eval_congr h b

theorem evalList_congr : (es : List Expr) → σ.Agree τ (readsList es) → ∀ b, evalList σ b es = evalList τ b es
  | [], _, _ => rfl
  | e :: es, h, b => by rw [evalList, evalList, e.eval_congr h.left, evalList_congr es h.right]

theorem evalAll_congr : (es : List Expr) → σ.Agree τ (readsList es) → ∀ b c, evalAll σ b c es = evalAll τ b c es
  | [], _, _, _ => rfl
  | e :: es, h, _, _ => by
    rw [evalAll, evalAll, e.eval_congr h.left]
    simp only [evalAll_congr es h.right]

theorem evalAny_congr : (es : List Expr) → σ.Agree τ (readsList es) → ∀ b c, evalAny σ b c es = evalAny τ b c es
  | [], _, _, _ => rfl
  | e :: es, h, _, _ => by
    rw [evalAny, evalAny, e.eval_congr h.left]
    simp only [evalAny_congr es h.right]

theorem evalComparisons_congr : (es : List (Comparison × Expr)) → σ.Agree τ (readsRest es) →
    ∀ b c, evalComparisons σ b c es = evalComparisons τ b c es
  | [], _, _, _ => rfl
  | e :: es, h, _, _ => by
    rw [evalComparisons, evalComparisons, e.2.eval_congr h.left]
    simp only [evalComparisons_congr es h.right]

theorem evalEntries_congr : (es : List (Option Expr × Expr)) → σ.Agree τ (readsEntries es) →
    ∀ b done, evalEntries σ b done es = evalEntries τ b done es
  | [], _, _, _ => rfl
  | (none, spread) :: es, h, _, _ => by
    rw [evalEntries, evalEntries, spread.eval_congr h.left.right]
    simp only [evalEntries_congr es h.right]
  | (some key, value) :: es, h, _, _ => by
    rw [evalEntries, evalEntries, value.eval_congr h.left.right, key.eval_congr h.left.left]
    simp only [evalEntries_congr es h.right]

theorem evalKeywords_congr : (es : List (Option String × Expr)) → σ.Agree τ (readsKeywords es) →
    ∀ b done, evalKeywords σ b done es = evalKeywords τ b done es
  | [], _, _, _ => rfl
  | (none, _) :: _, _, _, _ => rfl
  | (some _, value) :: es, h, _, _ => by
    rw [evalKeywords, evalKeywords, value.eval_congr h.left]
    simp only [evalKeywords_congr es h.right]

end

end Expr

namespace Expression

/-! ### Texts -/

/-- A scope without its hidden names gives all others the same values. -/
theorem Scope.agree_filter_visible (σ : Scope) (names : List String) :
    Agree (σ.filter fun b => !isHidden b.1) σ names := by
  intro s _ hs
  induction σ with
  | nil => rfl
  | cons b σ ih =>
    rw [List.filter_cons]
    by_cases hb : b.1 = s
    · subst hb
      rw [hs, Bool.not_false, if_pos rfl, List.lookup_cons_self, List.lookup_cons_self]
    · have hne : (s == b.1) = false := beq_eq_false_iff_ne.2 (Ne.symm hb)
      rw [List.lookup_cons, hne]
      split
      · rw [List.lookup_cons, hne]
        exact ih
      · exact ih

variable {σ τ : Scope}

theorem evaluate_congr {text : String} (h : ∀ e, read text = .ok e → σ.Agree τ e.reads) (b : Birth) :
    evaluate σ b text = evaluate τ b text := by
  unfold evaluate
  cases hread : read text with
  | error stop => rfl
  | ok e =>
    dsimp only
    rw [e.eval_congr (h e hread)]

/-- The outcome of an expression depends on the values of the names that occur in it, and of these only on the ones that
are not hidden and stand outside of call position. A call has the same outcome for the same arguments in all scopes, and
no scope makes a hidden name or a hidden field readable. -/
theorem evaluate_of_names (text : String) (σ τ : Scope) (b : Birth) :
    ((∀ e, read text = .ok e → ∀ s ∈ e.names, σ.lookup s = τ.lookup s) → evaluate σ b text = evaluate τ b text) ∧
    ((∀ e, read text = .ok e → ∀ s ∈ e.reads, isHidden s = false → σ.lookup s = τ.lookup s) →
      evaluate σ b text = evaluate τ b text) ∧
    evaluate (σ.filter fun b => !isHidden b.1) b text = evaluate σ b text ∧
    (∀ function arguments arguments' keywords keywords',
      Expr.evalList σ (b.part 1) arguments = Expr.evalList τ (b.part 1) arguments' →
      Expr.evalKeywords σ (b.part 2) [] keywords = Expr.evalKeywords τ (b.part 2) [] keywords' →
      (Expr.call function arguments keywords).eval σ b = (Expr.call function arguments' keywords').eval τ b) ∧
    ∀ s, isHidden s = true →
      (Expr.name s).eval σ b = .error (.hidden s) ∧ ∀ e, (Expr.attribute e s).eval σ b = .error (.hidden s) := by
  refine ⟨fun h => ?_, fun h => evaluate_congr h b, ?_, fun function arguments arguments' keywords keywords' hargs hkeys => ?_,
    fun s hs => ⟨?_, fun e => ?_⟩⟩
  · exact evaluate_congr (fun e he s hs _ => h e he s (e.reads_subset hs)) b
  · exact evaluate_congr (fun e _ => Scope.agree_filter_visible σ e.reads) b
  · rw [Expr.eval, Expr.eval, hargs, hkeys]
  · rw [Expr.eval, readName, if_pos hs]
  · rw [Expr.eval, if_pos hs]

/-- A text in scope. -/
def abc : Cell :=
  .ofValue [.name "abc"] (.text "abc")

/-- A scope that gives the name of a helper a value, and one that does not. -/
theorem evaluate_of_shadowedHelper :
    evaluate [("len", .atom .only (.int 1)), ("x", abc), ("_y", abc)] ⟨1, []⟩ "len(x) + 1" =
        evaluate [("x", abc)] ⟨1, []⟩ "len(x) + 1" ∧
      evaluate [("y", .atom .only .null), ("x", abc)] ⟨1, []⟩ "x if x else len" =
        evaluate [("x", abc), ("x", .atom .only .null)] ⟨1, []⟩ "x if x else len" := by
  have hreads : (read "len(x) + 1").toOption.map Expr.reads = some ["x"] := by decide +kernel
  have hnames : (read "x if x else len").toOption.map Expr.names = some ["x", "x", "len"] := by decide +kernel
  refine ⟨(evaluate_of_names _ _ _ _).2.1 fun e he s hs _ => ?_, (evaluate_of_names _ _ _ _).1 fun e he s hs => ?_⟩
  · rw [he] at hreads
    obtain rfl : s = "x" := by simpa [Option.some.inj hreads] using hs
    rfl
  · rw [he] at hnames
    have hcase : s = "x" ∨ s = "len" := by simpa [Option.some.inj hnames] using hs
    rcases hcase with rfl | rfl
    · rfl
    · rfl

end Expression

end IntegrationFlow
