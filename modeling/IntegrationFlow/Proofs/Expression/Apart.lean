import IntegrationFlow.Expression.Parser

/-!
# Operators between operands

In the tokens of an expression no operator between operands follows another one directly, and none stands at the front.
-/

namespace IntegrationFlow.Expression

/-- The characters of which the aliases of operators are made. -/
def isAliasChar (c : Char) : Bool :=
  c == '=' || c == '!' || c == '&' || c == '|'

namespace Token

/-- An operator between two operands that is written with characters of aliases, or that has an alias. -/
def isDyadic : Token → Bool
  | .symbol s => s.toList.any isAliasChar
  | .keyword s => s == "and" || s == "or"
  | _ => false

/-- The end of a line. -/
def isNewline : Token → Bool
  | .newline => true
  | _ => false

end Token

/-- No operator between operands follows another one directly, or the end of a line; none stands at the front if
`needed` says that an operand has to. -/
def Apart : Bool → List Token → Prop
  | _, [] => True
  | needed, t :: ts => (needed = true → t.isDyadic = false) ∧ Apart (t.isDyadic || t.isNewline) ts

/-- Where an operand has to stand there may be one in any case. -/
theorem Apart.weaken {needed : Bool} {ts : List Token} (h : Apart true ts) : Apart needed ts := by
  cases ts with
  | nil => trivial
  | cons t ts => exact ⟨fun _ => h.1 rfl, h.2⟩

/-- What stands in front of an operand. -/
theorem Apart.cons {t : Token} {ts : List Token} (h : Apart true ts) : Apart false (t :: ts) :=
  ⟨nofun, h.weaken⟩

/-- What stands in front of an operator or an operand. -/
theorem Apart.cons_operand {needed : Bool} {t : Token} {ts : List Token} (h : Apart false ts) (ht : t.isDyadic = false)
    (hline : t.isNewline = false) : Apart needed (t :: ts) :=
  ⟨fun _ => ht, by rwa [ht, hline]⟩

/-! ### What the parser reads at once -/

section

variable {ts rest : List Token}

theorem apart_of_expect {symbol : String} (hplain : symbol.toList.any isAliasChar = false)
    (h : expect symbol ts = some rest) (hrest : Apart false rest) : Apart false ts := by
  unfold expect at h
  split at h
  · next t ts =>
    split at h
    · next heq =>
      obtain rfl := Option.some.inj h
      exact hrest.cons_operand (by rw [← beq_iff_eq.1 heq]; exact hplain) rfl
    · cases h
  · cases h

theorem exists_of_atSymbol {symbol : String} (h : atSymbol symbol ts = true) : ∃ ts', ts = .symbol symbol :: ts' := by
  unfold atSymbol at h
  split at h
  · next t ts => exact ⟨ts, by rw [beq_iff_eq.1 h]⟩
  · cases h

theorem exists_of_atKeyword {word : String} (h : atKeyword word ts = true) : ∃ ts', ts = .keyword word :: ts' := by
  unfold atKeyword at h
  split at h
  · next t ts => exact ⟨ts, by rw [beq_iff_eq.1 h]⟩
  · cases h

theorem apart_of_binaryOp? {level : Nat} {op : BinaryOp} (h : binaryOp? level ts = some (op, rest))
    (hrest : Apart true rest) : Apart false ts := by
  unfold binaryOp? at h
  split at h
  · simp only [Option.map_eq_some_iff, Prod.mk.injEq] at h
    obtain ⟨_, -, -, rfl⟩ := h
    exact hrest.cons
  · cases h

theorem apart_of_comparison? {op : Comparison} (h : comparison? ts = some (op, rest)) (hrest : Apart true rest) :
    Apart false ts := by
  unfold comparison? at h
  split at h <;> cases h
  case h_8 | h_9 => exact hrest.weaken.cons_operand rfl rfl |>.cons_operand rfl rfl
  all_goals exact hrest.cons

theorem apart_of_unaryOp? {op : UnaryOp} (h : unaryOp? ts = some (op, rest)) (hrest : Apart true rest) : Apart true ts := by
  unfold unaryOp? at h
  split at h <;> cases h
  all_goals exact hrest.weaken.cons_operand rfl rfl

theorem apart_of_takeJoined {done joined : Option Joined} (h : takeJoined done ts = some (joined, rest))
    (hrest : Apart false rest) : Apart false ts ∧ (done = none → joined ≠ none → Apart true ts) := by
  induction ts generalizing done with
  | nil => exact ⟨trivial, fun _ _ => trivial⟩
  | cons t ts ih =>
    unfold takeJoined at h
    dsimp only at h
    split at h
    · simp only [Option.some.injEq, Prod.mk.injEq] at h
      obtain ⟨rfl, rfl⟩ := h
      exact ⟨hrest, fun hdone hjoined => absurd hdone hjoined⟩
    · next j hj =>
      have hapart := (ih h).1
      cases t <;> cases hj <;> exact ⟨hapart.cons_operand rfl rfl, fun _ _ => hapart.cons_operand rfl rfl⟩
    · next j d hj =>
      obtain ⟨d', -, h⟩ := Option.bind_eq_some_iff.1 h
      have hapart := (ih h).1
      cases t <;> cases hj <;> exact ⟨hapart.cons_operand rfl rfl, nofun⟩

end

/-! ### What the parser reads in recursions -/

/-- What is read begins where an operand has to stand, and ends behind an operand. -/
def ReadsOperand {α : Type} (read : List Token → Reading α) : Prop :=
  ∀ {ts x rest}, read ts = some (x, rest) → Apart false rest → Apart true ts

/-- What is read begins where an operator may stand, and ends behind an operand. -/
def ReadsOn {α : Type} (read : List Token → Reading α) : Prop :=
  ∀ {ts x rest}, read ts = some (x, rest) → Apart false rest → Apart false ts

/-- What is passed over begins where an operator may stand, and ends behind an operand. -/
def PassesOn (pass : List Token → Option (List Token)) : Prop :=
  ∀ {ts rest}, pass ts = some rest → Apart false rest → Apart false ts

/-- What the functions of the parser read in recursions of a depth. -/
structure ReadsApart (fuel : Nat) : Prop where
  expression : ReadsOperand (parseExpression fuel)
  params : ∀ st, PassesOn (parseParams fuel st)
  or : ReadsOperand (parseOr fuel)
  orRest : ReadsOn (parseOrRest fuel)
  and : ReadsOperand (parseAnd fuel)
  andRest : ReadsOn (parseAndRest fuel)
  not : ReadsOperand (parseNot fuel)
  comparisons : ReadsOn (parseComparisons fuel)
  binary : ∀ level, ReadsOperand (parseBinary fuel level)
  binaryRest : ∀ level left, ReadsOn (parseBinaryRest fuel level left)
  factor : ReadsOperand (parseFactor fuel)
  await : ReadsOperand (parseAwait fuel)
  primary : ReadsOperand (parsePrimary fuel)
  trailers : ∀ e, ReadsOn (parseTrailers fuel e)
  item : ∀ target, ReadsOn (parseItem fuel target)
  indexRest : ReadsOn (parseIndexRest fuel)
  index : ReadsOn (parseIndex fuel)
  bounds : ∀ lower, ReadsOn (parseBounds fuel lower)
  arguments : ∀ st, ReadsOn (parseArguments fuel st)
  atom : ReadsOperand (parseAtom fuel)
  parenthesis : ReadsOn (parseParenthesis fuel)
  bracket : ReadsOn (parseBracket fuel)
  elements : ∀ {close : String}, close.toList.any isAliasChar = false → ReadsOn (parseElements fuel close)
  brace : ReadsOn (parseBrace fuel)
  entries : ReadsOn (parseEntries fuel)
  entriesAfter : ∀ entry, ReadsOn (parseEntriesAfter fuel entry)
  starNamed : ReadsOperand (parseStarNamed fuel)
  named : ReadsOperand (parseNamed fuel)
  starExpressions : PassesOn (parseStarExpressions fuel)
  clauses : PassesOn (parseClauses fuel)
  conditions : PassesOn (parseConditions fuel)
  targets : PassesOn (parseTargets fuel)
  more : ReadsOn (parseMore fuel)

/-- A reading that goes on with what is left of another one. -/
private theorem bind_eq_some_iff {α β : Type} {r : Reading α} {next : α × List Token → Option β} {b : β} :
    r.bind next = some b ↔ ∃ x ts, r = some (x, ts) ∧ next (x, ts) = some b := by
  simp [Option.bind_eq_some_iff]

/-- A reading whose result is turned into another one. -/
private theorem map_eq_some_iff {α β : Type} {r : Reading α} {next : α × List Token → β × List Token} {b : β}
    {rest : List Token} :
    r.map next = some (b, rest) ↔ ∃ x ts, r = some (x, ts) ∧ next (x, ts) = (b, rest) := by
  simp [Option.map_eq_some_iff]

theorem readsApart_zero : ReadsApart 0 where
  expression h := by simp [parseExpression] at h
  params _ _ _ h := by simp [parseParams] at h
  or h := by simp [parseOr] at h
  orRest h := by simp [parseOrRest] at h
  and h := by simp [parseAnd] at h
  andRest h := by simp [parseAndRest] at h
  not h := by simp [parseNot] at h
  comparisons h := by simp [parseComparisons] at h
  binary _ _ _ _ h := by simp [parseBinary] at h
  binaryRest _ _ _ _ _ h := by simp [parseBinaryRest] at h
  factor h := by simp [parseFactor] at h
  await h := by simp [parseAwait] at h
  primary h := by simp [parsePrimary] at h
  trailers _ _ _ _ h := by simp [parseTrailers] at h
  item _ _ _ _ h := by simp [parseItem] at h
  indexRest h := by simp [parseIndexRest] at h
  index h := by simp [parseIndex] at h
  bounds _ _ _ _ h := by simp [parseBounds] at h
  arguments _ _ _ _ h := by simp [parseArguments] at h
  atom h := by simp [parseAtom] at h
  parenthesis h := by simp [parseParenthesis] at h
  bracket h := by simp [parseBracket] at h
  elements _ _ _ _ h := by simp [parseElements] at h
  brace h := by simp [parseBrace] at h
  entries h := by simp [parseEntries] at h
  entriesAfter _ _ _ _ h := by simp [parseEntriesAfter] at h
  starNamed h := by simp [parseStarNamed] at h
  named h := by simp [parseNamed] at h
  starExpressions h := by simp [parseStarExpressions] at h
  clauses h := by simp [parseClauses] at h
  conditions h := by simp [parseConditions] at h
  targets h := by simp [parseTargets] at h
  more h := by simp [parseMore] at h

namespace ReadsApart

variable {fuel : Nat}

theorem expression_succ (ih : ReadsApart fuel) : ReadsOperand (parseExpression (fuel + 1)) := by
  intro ts x rest h hrest
  unfold parseExpression at h
  split at h
  · obtain ⟨ts₁, hparams, h⟩ := Option.bind_eq_some_iff.1 h
    obtain ⟨e, ts₂, hbody, h⟩ := map_eq_some_iff.1 h
    cases h
    exact (ih.params _ hparams (ih.expression hbody hrest).weaken).cons_operand rfl rfl
  · obtain ⟨body, ts₁, hbody, h⟩ := bind_eq_some_iff.1 h
    refine ih.or hbody ?_
    dsimp only at h
    split at h
    · obtain ⟨test, ts₂, htest, h⟩ := bind_eq_some_iff.1 h
      dsimp only at h
      split at h
      · obtain ⟨other, ts₃, hother, h⟩ := map_eq_some_iff.1 h
        cases h
        exact (ih.or htest ((ih.expression hother hrest).weaken.cons_operand rfl rfl)).weaken.cons_operand rfl rfl
      · cases h
    · cases h
      exact hrest

/-- Behind a parameter there are further ones, or the parameters are complete. -/
private theorem apart_behind_param (ih : ReadsApart fuel) {rest : List Token} (hrest : Apart false rest)
    (st : ParamState) (ts : List Token)
    (h : (match ts with
      | .symbol "," :: ts => parseParams fuel st ts
      | .symbol ":" :: ts => if st.starBare then none else some ts
      | _ => none) = some rest) : Apart false ts := by
  split at h
  · exact (ih.params _ h hrest).cons_operand rfl rfl
  · split at h
    · cases h
    · cases h
      exact hrest.cons_operand rfl rfl
  · cases h

theorem params_succ (ih : ReadsApart fuel) (st : ParamState) : PassesOn (parseParams (fuel + 1) st) := by
  intro ts rest h hrest
  unfold parseParams at h
  dsimp only at h
  have hnext (st : ParamState) {ts : List Token} := apart_behind_param ih hrest st ts
  split at h
  · split at h
    · cases h
    · cases h
      exact hrest.cons_operand rfl rfl
  · obtain ⟨e, ts₁, hdefault, h⟩ := bind_eq_some_iff.1 h
    exact ((ih.expression hdefault (hnext _ h)).cons).cons_operand rfl rfl
  · split at h
    · cases h
    · exact (hnext _ h).cons_operand rfl rfl
  · split at h
    · cases h
    · exact (hnext _ h).cons_operand rfl rfl
  · split at h
    · cases h
    · exact ((hnext _ h).cons_operand rfl rfl).cons_operand rfl rfl
  · split at h
    · cases h
    · exact ((ih.params _ h hrest).cons_operand rfl rfl).cons_operand rfl rfl
  · split at h
    · cases h
    · split at h
      · cases h
        exact (((hrest.cons_operand rfl rfl).cons_operand rfl rfl).cons_operand rfl rfl).cons_operand rfl rfl
      · cases h
        exact ((hrest.cons_operand rfl rfl).cons_operand rfl rfl).cons_operand rfl rfl
      · cases h
  · cases h

theorem or_succ (ih : ReadsApart fuel) : ReadsOperand (parseOr (fuel + 1)) := by
  intro ts x rest h hrest
  unfold parseOr at h
  obtain ⟨first, ts₁, hfirst, h⟩ := bind_eq_some_iff.1 h
  refine ih.and hfirst ?_
  dsimp only at h
  split at h
  · obtain ⟨es, ts₂, hmore, h⟩ := map_eq_some_iff.1 h
    cases h
    exact ih.orRest hmore hrest
  · cases h
    exact hrest

theorem orRest_succ (ih : ReadsApart fuel) : ReadsOn (parseOrRest (fuel + 1)) := by
  intro ts x rest h hrest
  unfold parseOrRest at h
  split at h
  · obtain ⟨e, ts₁, hfirst, h⟩ := bind_eq_some_iff.1 h
    obtain ⟨es, ts₂, hmore, h⟩ := map_eq_some_iff.1 h
    cases h
    exact (ih.and hfirst (ih.orRest hmore hrest)).cons
  · cases h
    exact hrest

theorem and_succ (ih : ReadsApart fuel) : ReadsOperand (parseAnd (fuel + 1)) := by
  intro ts x rest h hrest
  unfold parseAnd at h
  obtain ⟨first, ts₁, hfirst, h⟩ := bind_eq_some_iff.1 h
  refine ih.not hfirst ?_
  dsimp only at h
  split at h
  · obtain ⟨es, ts₂, hmore, h⟩ := map_eq_some_iff.1 h
    cases h
    exact ih.andRest hmore hrest
  · cases h
    exact hrest

theorem andRest_succ (ih : ReadsApart fuel) : ReadsOn (parseAndRest (fuel + 1)) := by
  intro ts x rest h hrest
  unfold parseAndRest at h
  split at h
  · obtain ⟨e, ts₁, hfirst, h⟩ := bind_eq_some_iff.1 h
    obtain ⟨es, ts₂, hmore, h⟩ := map_eq_some_iff.1 h
    cases h
    exact (ih.not hfirst (ih.andRest hmore hrest)).cons
  · cases h
    exact hrest

theorem not_succ (ih : ReadsApart fuel) : ReadsOperand (parseNot (fuel + 1)) := by
  intro ts x rest h hrest
  unfold parseNot at h
  split at h
  · obtain ⟨e, ts₁, hoperand, h⟩ := map_eq_some_iff.1 h
    cases h
    exact (ih.not hoperand hrest).weaken.cons_operand rfl rfl
  · obtain ⟨first, ts₁, hfirst, h⟩ := bind_eq_some_iff.1 h
    refine ih.binary 0 hfirst ?_
    dsimp only at h
    split at h
    · obtain ⟨es, ts₂, hmore, h⟩ := map_eq_some_iff.1 h
      cases h
      exact ih.comparisons hmore hrest
    · cases h
      exact hrest

theorem comparisons_succ (ih : ReadsApart fuel) : ReadsOn (parseComparisons (fuel + 1)) := by
  intro ts x rest h hrest
  unfold parseComparisons at h
  split at h
  · next op ts₁ hop =>
    obtain ⟨e, ts₂, hfirst, h⟩ := bind_eq_some_iff.1 h
    obtain ⟨es, ts₃, hmore, h⟩ := map_eq_some_iff.1 h
    cases h
    exact apart_of_comparison? hop (ih.binary 0 hfirst (ih.comparisons hmore hrest))
  · cases h
    exact hrest

theorem binary_succ (ih : ReadsApart fuel) (level : Nat) : ReadsOperand (parseBinary (fuel + 1) level) := by
  intro ts x rest h hrest
  unfold parseBinary at h
  split at h
  · obtain ⟨left, ts₁, hleft, h⟩ := bind_eq_some_iff.1 h
    exact ih.binary _ hleft (ih.binaryRest _ _ h hrest)
  · exact ih.factor h hrest

theorem binaryRest_succ (ih : ReadsApart fuel) (level : Nat) (left : Parsed) :
    ReadsOn (parseBinaryRest (fuel + 1) level left) := by
  intro ts x rest h hrest
  unfold parseBinaryRest at h
  split at h
  · next op ts₁ hop =>
    obtain ⟨right, ts₂, hright, h⟩ := bind_eq_some_iff.1 h
    exact apart_of_binaryOp? hop (ih.binary _ hright (ih.binaryRest _ _ h hrest))
  · cases h
    exact hrest

theorem factor_succ (ih : ReadsApart fuel) : ReadsOperand (parseFactor (fuel + 1)) := by
  intro ts x rest h hrest
  unfold parseFactor at h
  split at h
  · next op ts₁ hop =>
    obtain ⟨e, ts₂, hoperand, h⟩ := map_eq_some_iff.1 h
    cases h
    exact apart_of_unaryOp? hop (ih.factor hoperand hrest)
  · obtain ⟨base, ts₁, hbase, h⟩ := bind_eq_some_iff.1 h
    refine ih.await hbase ?_
    dsimp only at h
    split at h
    · obtain ⟨e, ts₂, hexponent, h⟩ := map_eq_some_iff.1 h
      cases h
      exact (ih.factor hexponent hrest).cons
    · cases h
      exact hrest

theorem await_succ (ih : ReadsApart fuel) : ReadsOperand (parseAwait (fuel + 1)) := by
  intro ts x rest h hrest
  unfold parseAwait at h
  split at h
  · obtain ⟨e, ts₁, hprimary, h⟩ := map_eq_some_iff.1 h
    cases h
    exact (ih.primary hprimary hrest).weaken.cons_operand rfl rfl
  · exact ih.primary h hrest

theorem primary_succ (ih : ReadsApart fuel) : ReadsOperand (parsePrimary (fuel + 1)) := by
  intro ts x rest h hrest
  unfold parsePrimary at h
  obtain ⟨atom, ts₁, hatom, h⟩ := bind_eq_some_iff.1 h
  exact ih.atom hatom (ih.trailers _ h hrest)

theorem trailers_succ (ih : ReadsApart fuel) (e : Parsed) : ReadsOn (parseTrailers (fuel + 1) e) := by
  intro ts x rest h hrest
  unfold parseTrailers at h
  split at h
  · exact ((ih.trailers _ h hrest).cons_operand rfl rfl).cons_operand rfl rfl
  · obtain ⟨item, ts₁, hitem, h⟩ := bind_eq_some_iff.1 h
    exact (ih.item _ hitem (ih.trailers _ h hrest)).cons_operand rfl rfl
  · obtain ⟨args, ts₁, hargs, h⟩ := bind_eq_some_iff.1 h
    exact (ih.arguments _ hargs (ih.trailers _ h hrest)).cons_operand rfl rfl
  · cases h
    exact hrest

theorem item_succ (ih : ReadsApart fuel) (target : Expr) : ReadsOn (parseItem (fuel + 1) target) := by
  intro ts x rest h hrest
  unfold parseItem at h
  obtain ⟨first, ts₁, hfirst, h⟩ := bind_eq_some_iff.1 h
  refine ih.index hfirst ?_
  dsimp only at h
  split at h
  · split at h
    · split at h <;> cases h <;> exact hrest.cons_operand rfl rfl
    · obtain ⟨es, ts₂, hmore, h⟩ := map_eq_some_iff.1 h
      cases h
      exact (ih.indexRest hmore hrest).cons_operand rfl rfl
    · cases h
  · split at h
    · cases h
      exact hrest.cons_operand rfl rfl
    · obtain ⟨es, ts₂, hmore, h⟩ := map_eq_some_iff.1 h
      cases h
      exact (ih.indexRest hmore hrest).cons_operand rfl rfl
    · cases h

theorem indexRest_succ (ih : ReadsApart fuel) : ReadsOn (parseIndexRest (fuel + 1)) := by
  intro ts x rest h hrest
  unfold parseIndexRest at h
  split at h
  · cases h
    exact hrest.cons_operand rfl rfl
  · obtain ⟨part, ts₁, hpart, h⟩ := bind_eq_some_iff.1 h
    refine ih.index hpart ?_
    dsimp only at h
    split at h
    · cases h
      exact hrest.cons_operand rfl rfl
    · obtain ⟨es, ts₂, hmore, h⟩ := map_eq_some_iff.1 h
      cases h
      exact (ih.indexRest hmore hrest).cons_operand rfl rfl
    · cases h

theorem index_succ (ih : ReadsApart fuel) : ReadsOn (parseIndex (fuel + 1)) := by
  intro ts x rest h hrest
  unfold parseIndex at h
  split at h
  · obtain ⟨e, ts₁, hstarred, h⟩ := map_eq_some_iff.1 h
    cases h
    exact (ih.expression hstarred hrest).cons
  · obtain ⟨s, ts₁, hbounds, h⟩ := map_eq_some_iff.1 h
    cases h
    exact (ih.bounds _ hbounds hrest).cons_operand rfl rfl
  · obtain ⟨key, ts₁, hkey, h⟩ := bind_eq_some_iff.1 h
    refine (ih.named hkey ?_).weaken
    dsimp only at h
    split at h
    · split at h
      · cases h
      · obtain ⟨s, ts₂, hbounds, h⟩ := map_eq_some_iff.1 h
        cases h
        exact (ih.bounds _ hbounds hrest).cons_operand rfl rfl
    · cases h
      exact hrest

theorem bounds_succ (ih : ReadsApart fuel) (lower : Option Expr) : ReadsOn (parseBounds (fuel + 1) lower) := by
  intro ts x rest h hrest
  unfold parseBounds at h
  obtain ⟨upper, ts₁, hupper, h⟩ := bind_eq_some_iff.1 h
  have hbehind : Apart false ts₁ := by
    dsimp only at h
    split at h
    · split at h
      · cases h
        exact hrest.cons_operand rfl rfl
      · obtain ⟨e, ts₂, hstep, h⟩ := map_eq_some_iff.1 h
        cases h
        exact (ih.expression hstep hrest).cons
    · cases h
      exact hrest
  split at hupper
  · cases hupper
    exact hbehind
  · obtain ⟨e, ts₂, hexpression, hupper⟩ := map_eq_some_iff.1 hupper
    cases hupper
    exact (ih.expression hexpression hbehind).weaken

/-- Behind an argument there are further ones, or the arguments are complete. -/
private theorem apart_behind_argument (ih : ReadsApart fuel) {x : ArgState} {rest : List Token}
    (hrest : Apart false rest) (st : ArgState) (ts : List Token)
    (h : (match ts with
      | .symbol "," :: ts => parseArguments fuel st ts
      | .symbol ")" :: ts => some (st, ts)
      | _ => none) = some (x, rest)) : Apart false ts := by
  split at h
  · exact (ih.arguments _ h hrest).cons_operand rfl rfl
  · cases h
    exact hrest.cons_operand rfl rfl
  · cases h

theorem arguments_succ (ih : ReadsApart fuel) (st : ArgState) : ReadsOn (parseArguments (fuel + 1) st) := by
  intro ts x rest h hrest
  unfold parseArguments at h
  dsimp only at h
  have hnext (st : ArgState) {ts : List Token} := apart_behind_argument (x := x) ih hrest st ts
  split at h
  · cases h
    exact hrest.cons_operand rfl rfl
  · obtain ⟨e, ts₁, hspread, h⟩ := bind_eq_some_iff.1 h
    exact (ih.expression hspread (hnext _ h)).cons
  · split at h
    · cases h
    · obtain ⟨e, ts₁, hstarred, h⟩ := bind_eq_some_iff.1 h
      exact (ih.expression hstarred (hnext _ h)).cons
  · obtain ⟨e, ts₁, hvalue, h⟩ := bind_eq_some_iff.1 h
    exact ((ih.expression hvalue (hnext _ h)).cons).cons_operand rfl rfl
  · split at h
    · cases h
    · obtain ⟨e, ts₁, hargument, h⟩ := bind_eq_some_iff.1 h
      refine (ih.named hargument ?_).weaken
      dsimp only at h
      split at h
      · split at h
        · obtain ⟨ts₂, hclauses, h⟩ := Option.bind_eq_some_iff.1 h
          obtain ⟨ts₃, hclose, h⟩ := Option.map_eq_some_iff.1 h
          cases h
          exact ih.clauses hclauses (apart_of_expect (by decide) hclose hrest)
        · cases h
      · exact hnext _ h

theorem atom_succ (ih : ReadsApart fuel) : ReadsOperand (parseAtom (fuel + 1)) := by
  intro ts x rest h hrest
  unfold parseAtom at h
  split at h
  · cases h
    exact hrest.cons_operand rfl rfl
  · cases h
    exact hrest.cons_operand rfl rfl
  · cases h
    exact hrest.cons_operand rfl rfl
  · cases h
    exact hrest.cons_operand rfl rfl
  · cases h
    exact hrest.cons_operand rfl rfl
  · cases h
    exact hrest.cons_operand rfl rfl
  · exact (ih.parenthesis h hrest).cons_operand rfl rfl
  · exact (ih.bracket h hrest).cons_operand rfl rfl
  · exact (ih.brace h hrest).cons_operand rfl rfl
  · obtain ⟨joined, ts₁, hjoined, h⟩ := bind_eq_some_iff.1 h
    dsimp only at h
    split at h
    · cases h
    · cases h
      exact (apart_of_takeJoined hjoined hrest).2 rfl nofun
    · cases h
      exact (apart_of_takeJoined hjoined hrest).2 rfl nofun
    · split at h
      · cases h
        exact (apart_of_takeJoined hjoined hrest).2 rfl nofun
      · cases h

theorem parenthesis_succ (ih : ReadsApart fuel) : ReadsOn (parseParenthesis (fuel + 1)) := by
  intro ts x rest h hrest
  unfold parseParenthesis at h
  split at h
  · cases h
    exact hrest.cons_operand rfl rfl
  · obtain ⟨e, ts₁, hfrom, h⟩ := bind_eq_some_iff.1 h
    obtain ⟨ts₂, hclose, h⟩ := Option.map_eq_some_iff.1 h
    cases h
    have hbehind := ih.expression hfrom (apart_of_expect (by decide) hclose hrest)
    exact (hbehind.weaken.cons_operand rfl rfl).cons_operand rfl rfl
  · cases h
    exact (hrest.cons_operand rfl rfl).cons_operand rfl rfl
  · obtain ⟨ts₁, hyield, h⟩ := Option.bind_eq_some_iff.1 h
    obtain ⟨ts₂, hclose, h⟩ := Option.map_eq_some_iff.1 h
    cases h
    exact (ih.starExpressions hyield (apart_of_expect (by decide) hclose hrest)).cons_operand rfl rfl
  · obtain ⟨first, ts₁, hfirst, h⟩ := bind_eq_some_iff.1 h
    refine (ih.starNamed hfirst ?_).weaken
    dsimp only at h
    split at h
    · split at h
      · cases h
      · cases h
        exact hrest.cons_operand rfl rfl
    · obtain ⟨es, ts₂, hmore, h⟩ := map_eq_some_iff.1 h
      cases h
      exact (ih.elements (by decide) hmore hrest).cons_operand rfl rfl
    · split at h
      · obtain ⟨ts₂, hclauses, h⟩ := Option.bind_eq_some_iff.1 h
        obtain ⟨ts₃, hclose, h⟩ := Option.map_eq_some_iff.1 h
        cases h
        exact ih.clauses hclauses (apart_of_expect (by decide) hclose hrest)
      · cases h

theorem bracket_succ (ih : ReadsApart fuel) : ReadsOn (parseBracket (fuel + 1)) := by
  intro ts x rest h hrest
  unfold parseBracket at h
  split at h
  · cases h
    exact hrest.cons_operand rfl rfl
  · obtain ⟨first, ts₁, hfirst, h⟩ := bind_eq_some_iff.1 h
    refine (ih.starNamed hfirst ?_).weaken
    dsimp only at h
    split at h
    · cases h
      exact hrest.cons_operand rfl rfl
    · obtain ⟨es, ts₂, hmore, h⟩ := map_eq_some_iff.1 h
      cases h
      exact (ih.elements (by decide) hmore hrest).cons_operand rfl rfl
    · split at h
      · obtain ⟨ts₂, hclauses, h⟩ := Option.bind_eq_some_iff.1 h
        obtain ⟨ts₃, hclose, h⟩ := Option.map_eq_some_iff.1 h
        cases h
        exact ih.clauses hclauses (apart_of_expect (by decide) hclose hrest)
      · cases h

theorem elements_succ (ih : ReadsApart fuel) {close : String} (hclose : close.toList.any isAliasChar = false) :
    ReadsOn (parseElements (fuel + 1) close) := by
  intro ts x rest h hrest
  unfold parseElements at h
  split at h
  · next hat =>
    obtain ⟨ts', rfl⟩ := exists_of_atSymbol hat
    cases h
    exact hrest.cons_operand hclose rfl
  · obtain ⟨e, ts₁, hfirst, h⟩ := bind_eq_some_iff.1 h
    refine (ih.starNamed hfirst ?_).weaken
    dsimp only at h
    split at h
    · next hat =>
      obtain ⟨ts', rfl⟩ := exists_of_atSymbol hat
      cases h
      exact hrest.cons_operand hclose rfl
    · obtain ⟨ts₂, hcomma, h⟩ := Option.bind_eq_some_iff.1 h
      obtain ⟨es, ts₃, hmore, h⟩ := map_eq_some_iff.1 h
      cases h
      exact apart_of_expect (by decide) hcomma (ih.elements hclose hmore hrest)

theorem brace_succ (ih : ReadsApart fuel) : ReadsOn (parseBrace (fuel + 1)) := by
  intro ts x rest h hrest
  unfold parseBrace at h
  split at h
  · cases h
    exact hrest.cons_operand rfl rfl
  · obtain ⟨es, ts₁, hentries, h⟩ := map_eq_some_iff.1 h
    cases h
    exact ih.entries hentries hrest
  · obtain ⟨first, ts₁, hfirst, h⟩ := bind_eq_some_iff.1 h
    refine (ih.starNamed hfirst ?_).weaken
    dsimp only at h
    split at h
    · split at h
      · cases h
      · obtain ⟨value, ts₂, hvalue, h⟩ := bind_eq_some_iff.1 h
        refine (ih.expression hvalue ?_).weaken.cons_operand rfl rfl
        dsimp only at h
        split at h
        · obtain ⟨ts₃, hclauses, h⟩ := Option.bind_eq_some_iff.1 h
          obtain ⟨ts₄, hclose, h⟩ := Option.map_eq_some_iff.1 h
          cases h
          exact ih.clauses hclauses (apart_of_expect (by decide) hclose hrest)
        · obtain ⟨es, ts₃, hentries, h⟩ := map_eq_some_iff.1 h
          cases h
          exact ih.entriesAfter _ hentries hrest
    · cases h
      exact hrest.cons_operand rfl rfl
    · obtain ⟨es, ts₂, hmore, h⟩ := map_eq_some_iff.1 h
      cases h
      exact (ih.elements (by decide) hmore hrest).cons_operand rfl rfl
    · split at h
      · obtain ⟨ts₂, hclauses, h⟩ := Option.bind_eq_some_iff.1 h
        obtain ⟨ts₃, hclose, h⟩ := Option.map_eq_some_iff.1 h
        cases h
        exact ih.clauses hclauses (apart_of_expect (by decide) hclose hrest)
      · cases h

theorem entries_succ (ih : ReadsApart fuel) : ReadsOn (parseEntries (fuel + 1)) := by
  intro ts x rest h hrest
  unfold parseEntries at h
  split at h
  · cases h
    exact hrest.cons_operand rfl rfl
  · obtain ⟨e, ts₁, hspread, h⟩ := bind_eq_some_iff.1 h
    exact (ih.binary 0 hspread (ih.entriesAfter _ h hrest)).cons
  · obtain ⟨key, ts₁, hkey, h⟩ := bind_eq_some_iff.1 h
    obtain ⟨ts₂, hcolon, h⟩ := Option.bind_eq_some_iff.1 h
    obtain ⟨value, ts₃, hvalue, h⟩ := bind_eq_some_iff.1 h
    have hbehind := ih.expression hvalue (ih.entriesAfter _ h hrest)
    exact (ih.expression hkey (apart_of_expect (by decide) hcolon hbehind.weaken)).weaken

theorem entriesAfter_succ (ih : ReadsApart fuel) (entry : Option Expr × Expr) :
    ReadsOn (parseEntriesAfter (fuel + 1) entry) := by
  intro ts x rest h hrest
  unfold parseEntriesAfter at h
  split at h
  · cases h
    exact hrest.cons_operand rfl rfl
  · obtain ⟨es, ts₁, hentries, h⟩ := map_eq_some_iff.1 h
    cases h
    exact (ih.entries hentries hrest).cons_operand rfl rfl
  · cases h

theorem starNamed_succ (ih : ReadsApart fuel) : ReadsOperand (parseStarNamed (fuel + 1)) := by
  intro ts x rest h hrest
  unfold parseStarNamed at h
  split at h
  · obtain ⟨e, ts₁, hstarred, h⟩ := map_eq_some_iff.1 h
    cases h
    exact (ih.binary 0 hstarred hrest).weaken.cons_operand rfl rfl
  · obtain ⟨e, ts₁, hnamed, h⟩ := map_eq_some_iff.1 h
    cases h
    exact ih.named hnamed hrest

theorem named_succ (ih : ReadsApart fuel) : ReadsOperand (parseNamed (fuel + 1)) := by
  intro ts x rest h hrest
  unfold parseNamed at h
  split at h
  · obtain ⟨e, ts₁, hvalue, h⟩ := map_eq_some_iff.1 h
    cases h
    exact ((ih.expression hvalue hrest).cons).cons_operand rfl rfl
  · exact ih.expression h hrest

/-- Behind an expression there are further ones, or the list is complete. -/
private theorem apart_behind_starExpression (ih : ReadsApart fuel) {rest : List Token} (hrest : Apart false rest)
    (ts : List Token)
    (h : (match ts with
      | .symbol "," :: rest => if atSymbol ")" rest then some rest else parseStarExpressions fuel rest
      | ts => some ts) = some rest) : Apart false ts := by
  split at h
  · split at h
    · cases h
      exact hrest.cons_operand rfl rfl
    · exact (ih.starExpressions h hrest).cons_operand rfl rfl
  · cases h
    exact hrest

theorem starExpressions_succ (ih : ReadsApart fuel) : PassesOn (parseStarExpressions (fuel + 1)) := by
  intro ts rest h hrest
  unfold parseStarExpressions at h
  dsimp only at h
  have hnext {ts : List Token} := apart_behind_starExpression ih hrest ts
  split at h
  · obtain ⟨e, ts₁, hstarred, h⟩ := bind_eq_some_iff.1 h
    exact (ih.binary 0 hstarred (hnext h)).cons
  · obtain ⟨e, ts₁, hexpression, h⟩ := bind_eq_some_iff.1 h
    exact (ih.expression hexpression (hnext h)).weaken

theorem clauses_succ (ih : ReadsApart fuel) : PassesOn (parseClauses (fuel + 1)) := by
  intro ts rest h hrest
  unfold parseClauses at h
  have hfor : Apart false (if atKeyword "async" ts then ts.drop 1 else ts) := by
    dsimp only at h
    split at h
    · next ts₁ heq =>
      rw [heq]
      obtain ⟨ts₂, htargets, h⟩ := Option.bind_eq_some_iff.1 h
      refine (ih.targets htargets ?_).cons_operand rfl rfl
      split at h
      · obtain ⟨source, ts₃, hsource, h⟩ := bind_eq_some_iff.1 h
        obtain ⟨ts₄, hconditions, h⟩ := Option.bind_eq_some_iff.1 h
        refine (ih.or hsource (ih.conditions hconditions ?_)).weaken.cons_operand rfl rfl
        split at h
        · exact ih.clauses h hrest
        · cases h
          exact hrest
      · cases h
    · cases h
  split at hfor
  · next hasync =>
    obtain ⟨ts', rfl⟩ := exists_of_atKeyword hasync
    exact hfor.cons_operand rfl rfl
  · exact hfor

theorem conditions_succ (ih : ReadsApart fuel) : PassesOn (parseConditions (fuel + 1)) := by
  intro ts rest h hrest
  unfold parseConditions at h
  split at h
  · obtain ⟨test, ts₁, htest, h⟩ := bind_eq_some_iff.1 h
    exact (ih.or htest (ih.conditions h hrest)).weaken.cons_operand rfl rfl
  · cases h
    exact hrest

theorem targets_succ (ih : ReadsApart fuel) : PassesOn (parseTargets (fuel + 1)) := by
  intro ts rest h hrest
  unfold parseTargets at h
  have htarget : Apart false (if atSymbol "*" ts then ts.drop 1 else ts) := by
    dsimp only at h
    obtain ⟨target, ts₁, hprimary, h⟩ := bind_eq_some_iff.1 h
    refine (ih.primary hprimary ?_).weaken
    dsimp only at h
    split at h
    · cases h
    · split at h
      · split at h
        · cases h
          exact hrest.cons_operand rfl rfl
        · exact (ih.targets h hrest).cons_operand rfl rfl
      · cases h
        exact hrest
  split at htarget
  · next hstar =>
    obtain ⟨ts', rfl⟩ := exists_of_atSymbol hstar
    exact htarget.cons_operand rfl rfl
  · exact htarget

theorem more_succ (ih : ReadsApart fuel) : ReadsOn (parseMore (fuel + 1)) := by
  intro ts x rest h hrest
  unfold parseMore at h
  split at h
  · trivial
  · cases h
    exact hrest
  · obtain ⟨e, ts₁, hfirst, h⟩ := bind_eq_some_iff.1 h
    refine (ih.expression hfirst ?_).weaken
    dsimp only at h
    split at h
    · obtain ⟨es, ts₂, hmore, h⟩ := map_eq_some_iff.1 h
      cases h
      exact (ih.more hmore hrest).cons_operand rfl rfl
    · cases h
      exact hrest

theorem succ (ih : ReadsApart fuel) : ReadsApart (fuel + 1) where
  expression := ih.expression_succ
  params := ih.params_succ
  or := ih.or_succ
  orRest := ih.orRest_succ
  and := ih.and_succ
  andRest := ih.andRest_succ
  not := ih.not_succ
  comparisons := ih.comparisons_succ
  binary := ih.binary_succ
  binaryRest := ih.binaryRest_succ
  factor := ih.factor_succ
  await := ih.await_succ
  primary := ih.primary_succ
  trailers := ih.trailers_succ
  item := ih.item_succ
  indexRest := ih.indexRest_succ
  index := ih.index_succ
  bounds := ih.bounds_succ
  arguments := ih.arguments_succ
  atom := ih.atom_succ
  parenthesis := ih.parenthesis_succ
  bracket := ih.bracket_succ
  elements := ih.elements_succ
  brace := ih.brace_succ
  entries := ih.entries_succ
  entriesAfter := ih.entriesAfter_succ
  starNamed := ih.starNamed_succ
  named := ih.named_succ
  starExpressions := ih.starExpressions_succ
  clauses := ih.clauses_succ
  conditions := ih.conditions_succ
  targets := ih.targets_succ
  more := ih.more_succ

end ReadsApart

theorem readsApart (fuel : Nat) : ReadsApart fuel := by
  induction fuel with
  | zero => exact readsApart_zero
  | succ fuel ih => exact ih.succ

/-- Behind the end of a line there may be ends of further lines. -/
theorem apart_of_newlines {ts : List Token}
    (h : (ts.all fun
      | .newline => true
      | _ => false) = true) : Apart false ts := by
  suffices Apart true ts from this.weaken
  induction ts with
  | nil => trivial
  | cons t ts ih =>
    rw [List.all_cons, Bool.and_eq_true] at h
    cases t with
    | newline => exact ⟨fun _ => rfl, ih h.2⟩
    | _ => exact (Bool.false_ne_true h.1).elim

/-- In the tokens of an expression an operand stands at the front and behind each operator between operands, and no
operator stands at the start of a line. -/
theorem apart_of_ofTokens? {ts : List Token} {e : Expr} (h : ofTokens? ts = some e) : Apart true ts := by
  unfold ofTokens? at h
  split at h
  · next rest hread =>
    split at h
    · next hnewlines =>
      have hrest := apart_of_newlines hnewlines
      generalize parseFuel ts = fuel at hread
      cases fuel with
      | zero => simp [parseExpressions] at hread
      | succ fuel =>
        unfold parseExpressions at hread
        obtain ⟨first, ts₁, hfirst, hread⟩ := bind_eq_some_iff.1 hread
        refine (readsApart fuel).expression hfirst ?_
        dsimp only at hread
        split at hread
        · obtain ⟨es, ts₂, hmore, hread⟩ := map_eq_some_iff.1 hread
          cases hread
          exact ((readsApart fuel).more hmore hrest).cons_operand rfl rfl
        · cases hread
          exact hrest
    · cases h
  · cases h

end IntegrationFlow.Expression
