import IntegrationFlow.Proofs.Run.Flaw
import IntegrationFlow.Proofs.Text.Trim

/-!
# Filling templates

The slots of a template are found from left to right by their braces. When the texts between the intended slots hold no
opening braces and the expressions no closing ones, what is found are the intended slots (`renderUpTo_source`), whatever
single braces stand around them: `render_source` says what the filled template is.
-/

namespace IntegrationFlow

namespace Expression

open Text

/-- The blanks around an expression do not count, unless they make it too long. -/
theorem evaluate_trim {cs : List Char} (h : isAllBlank cs = false) (hlength : cs.length ≤ maxLength) (hnul : nul ∉ cs)
    (scope : Scope) (b : Birth) :
    evaluate scope b (String.ofList (trim cs)) = evaluate scope b (String.ofList cs) := by
  have hblank : isAllBlank (trim cs) = false := by
    have hlast := isBlank_getLast_trim (trim_ne_nil h)
    rw [isAllBlank, List.all_eq_false]
    exact ⟨_, List.getLast_mem (trim_ne_nil h), by simp [hlast]⟩
  have hshort : ¬ (trim cs).length > maxLength := by
    have := length_trim_le cs
    omega
  have hread : read (String.ofList (trim cs)) = read (String.ofList cs) := by
    have hnul' : nul ∉ trim cs := fun hmem => hnul (mem_of_mem_trim hmem)
    unfold nul at hnul hnul'
    simp [read, hblank, h, hshort, Nat.not_lt.2 hlength, hnul, hnul', trim_trim]
  unfold evaluate
  rw [hread]

end Expression

namespace Template

open Expression Text

/-! ### The parts of a template -/

/-- A slot that is to be found, and the text from its end up to the next slot. -/
structure Slot where
  expression : List Char
  after : List Char

/-- How a slot and the text after it are written. -/
def Slot.source (s : Slot) : List Char :=
  '\x7b' :: '\x7b' :: ' ' :: (s.expression ++ ' ' :: '\x7d' :: '\x7d' :: s.after)

/-- The expression of a slot without the blanks around it. -/
def Slot.code (s : Slot) : String :=
  String.ofList (trim s.expression)

/-- The template that begins with a text and goes on with slots. -/
def source (lead : List Char) (slots : List Slot) : List Char :=
  lead ++ slots.flatMap Slot.source

/-- The expression is one line that is not blank and does not close its slot. -/
structure Slot.IsApt (s : Slot) : Prop where
  notBlank : isAllBlank s.expression = false
  oneLine : '\n' ∉ s.expression
  notClosed : ¬ ['\x7d', '\x7d'] <:+: s.expression
  readable : nul ∉ s.expression

/-- The slots are apt, and the texts around them open no slots, also not together with the slots that follow. -/
structure IsApt (lead : List Char) (slots : List Slot) : Prop where
  eachApt : ∀ s ∈ slots, s.IsApt
  notOpened : ∀ text ∈ lead :: slots.map (·.after), ¬ ['\x7b', '\x7b'] <:+: text
  apart : ∀ text ∈ (lead :: slots.map (·.after)).dropLast, text.getLast? ≠ some '\x7b'

/-! ### What a slot takes -/

theorem firstFrom_eq_some {α : Type} {f : Nat → Option α} {n : Nat} {a : α} (h : f n = some a) : firstFrom f n = some a := by
  cases n with
  | zero => exact h
  | succ n => simp [firstFrom, h]

theorem takeInside_cons_of_closed {c : Char} {cs rest : List Char} (hc : c ≠ '\n')
    (h : cs.dropWhile isBlank = '\x7d' :: '\x7d' :: rest) : takeInside (c :: cs) = some ([c], rest) := by
  simp [takeInside, hc, h]

theorem takeInside_cons_of_open {c : Char} {cs : List Char} (hc : c ≠ '\n')
    (h : ∀ rest, cs.dropWhile isBlank ≠ '\x7d' :: '\x7d' :: rest) :
    takeInside (c :: cs) = (takeInside cs).map fun (inside, rest) => (c :: inside, rest) := by
  simp only [takeInside, beq_iff_eq, hc, if_false]

/-- Braces that close a slot do not begin inside of an expression that has none and does not end with a blank. -/
private theorem dropWhile_ne_closed {cs blanks tail rest : List Char} (hcs : cs ≠ [])
    (hlast : isBlank (cs.getLast hcs) = false) (hclosed : ¬ ['\x7d', '\x7d'] <:+: cs)
    (hblanks : ∀ c ∈ blanks, isBlank c = true) :
    (cs ++ (blanks ++ ' ' :: tail)).dropWhile isBlank ≠ '\x7d' :: '\x7d' :: rest := by
  intro heq
  have hne : cs.dropWhile isBlank ≠ [] := fun hnil => by
    simp [List.dropWhile_eq_nil_iff.1 hnil _ (List.getLast_mem hcs)] at hlast
  rw [List.dropWhile_append, if_neg (by simpa using hne)] at heq
  have hend : cs.dropWhile isBlank <:+ cs := List.dropWhile_suffix _
  rcases hdrop : cs.dropWhile isBlank with _ | ⟨x, _ | ⟨y, ys⟩⟩
  · exact hne hdrop
  · -- The only character left is a brace, and blanks follow it.
    rw [hdrop] at heq
    cases blanks with
    | nil => simp at heq
    | cons b bs =>
      simp only [List.cons_append, List.nil_append, List.cons.injEq] at heq
      have := hblanks b List.mem_cons_self
      rw [heq.2.1] at this
      exact absurd this (by decide)
  · rw [hdrop] at heq hend
    simp only [List.cons_append, List.cons.injEq] at heq
    obtain ⟨rfl, rfl, -⟩ := heq
    exact hclosed (List.IsInfix.trans ⟨[], ys, rfl⟩ hend.isInfix)

/-- What is taken ends before the blanks in front of the closing braces. -/
theorem takeInside_eq_some {cs blanks rest : List Char} (hcs : cs ≠ []) (hlast : isBlank (cs.getLast hcs) = false)
    (hline : '\n' ∉ cs) (hclosed : ¬ ['\x7d', '\x7d'] <:+: cs) (hblanks : ∀ c ∈ blanks, isBlank c = true) :
    takeInside (cs ++ (blanks ++ ' ' :: '\x7d' :: '\x7d' :: rest)) = some (cs, rest) := by
  induction cs with
  | nil => exact absurd rfl hcs
  | cons c cs ih =>
    have hc : c ≠ '\n' := fun h => hline (h ▸ List.mem_cons_self)
    cases cs with
    | nil =>
      refine takeInside_cons_of_closed hc ?_
      change (blanks ++ _).dropWhile isBlank = _
      rw [List.dropWhile_append_of_pos hblanks]
      rfl
    | cons d ds =>
      have hds : d :: ds ≠ [] := by simp
      rw [List.getLast_cons hds] at hlast
      have hclosed' : ¬ ['\x7d', '\x7d'] <:+: d :: ds := fun h => hclosed (h.trans (List.suffix_cons c _).isInfix)
      rw [List.cons_append, takeInside_cons_of_open hc fun rest => dropWhile_ne_closed hds hlast hclosed' hblanks,
        ih hds hlast (fun h => hline (List.mem_cons_of_mem c h)) hclosed']
      rfl

/-- A slot takes its expression without the blanks around it. -/
theorem takeSlot_source {s : Slot} (h : s.IsApt) (rest : List Char) :
    takeSlot (' ' :: (s.expression ++ ' ' :: '\x7d' :: '\x7d' :: rest)) = some (trim s.expression, rest) := by
  obtain ⟨before, after, hbefore, hafter, hleft, heq⟩ := exists_blanks_trim s.expression
  have htrim := trim_ne_nil h.notBlank
  have hinner : trim s.expression <:+: s.expression := ⟨before, after, by rw [List.append_assoc, ← hleft, ← heq]⟩
  have hdrop (cs : List Char) : cs.drop (cs.takeWhile isBlank).length = cs.dropWhile isBlank := by
    rw [← @List.drop_left _ (cs.takeWhile isBlank) (cs.dropWhile isBlank), List.takeWhile_append_dropWhile]
  have hbegin (tail : List Char) : (' ' :: (s.expression ++ tail)).dropWhile isBlank = trim s.expression ++ (after ++ tail) := by
    have hne : s.expression.dropWhile isBlank ≠ [] := by
      change trimLeft s.expression ≠ []
      simp [hleft, htrim]
    rw [List.dropWhile_cons_of_pos (by decide), List.dropWhile_append, if_neg (by simpa using hne)]
    change trimLeft s.expression ++ tail = _
    rw [hleft, List.append_assoc]
  refine firstFrom_eq_some ?_
  simp only [hdrop, hbegin]
  exact takeInside_eq_some htrim (isBlank_getLast_trim htrim) (fun h' => h.oneLine (hinner.subset h'))
    (fun h' => h.notClosed (h'.trans hinner)) hafter

/-! ### What a template is filled with -/

/-- What a value leaves in a template. -/
def shown : Cell → List Point
  | .atom _ .null => []
  | c => c.str?.getD []

/-- A value with a text becomes that text. -/
theorem exists_textCell {c : Cell} {ps : List Point} (b : Birth) (h : c.str? = some ps) :
    ∃ d, textCell b c = .ok d ∧ d.text? = some ps := by
  unfold textCell
  split
  · exact ⟨_, rfl, h⟩
  · next l t =>
    refine ⟨_, rfl, ?_⟩
    cases t <;> exact h
  · next qs hatom _ hrepr =>
    refine ⟨_, rfl, ?_⟩
    unfold Cell.str? at h
    split at h
    · exact absurd rfl (hatom _ _)
    · cases hrepr.symm.trans h
      rfl
  · next hatom _ hrepr =>
    unfold Cell.str? at h
    split at h
    · exact absurd rfl (hatom _ _)
    · cases hrepr.symm.trans h

/-- A slot is filled with what its value leaves. -/
theorem slotText_eq_ok {scope : Scope} {b : Birth} {s : Slot} {c : Cell} (hc : evaluate scope (b.part 0) s.code = .ok c)
    (htext : c.str? ≠ none) : slotText scope b (trim s.expression) = .ok (shown c) := by
  obtain ⟨ps, hps⟩ := Option.ne_none_iff_exists'.1 htext
  unfold slotText slotCell
  rw [show evaluate scope (b.part 0) (String.ofList (trim s.expression)) = .ok c from hc]
  split
  · next heq => cases heq
  · next heq =>
    cases heq
    rfl
  · next hnull heq =>
    cases heq
    have hshown : shown c = ps := by
      unfold shown
      split
      · exact (hnull _ rfl).elim
      · rw [hps, Option.getD_some]
    obtain ⟨d, hd, ht⟩ := exists_textCell b hps
    rw [hd, hshown]
    simp [Except.map, ht]

theorem slotText_eq_error {scope : Scope} {b : Birth} {s : Slot} {stop : Stop}
    (hstop : evaluate scope (b.part 0) s.code = .error stop) : slotText scope b (trim s.expression) = .error stop := by
  unfold slotText slotCell
  rw [show evaluate scope (b.part 0) (String.ofList (trim s.expression)) = .error stop from hstop]
  rfl

/-- What a slot puts in its place is a text. -/
theorem text?_of_slotCell {scope : Scope} {b : Birth} {inside : List Char} {c : Cell}
    (h : slotCell scope b inside = .ok c) : ∃ ps, c.text? = some ps := by
  unfold slotCell at h
  split at h
  · cases h
  · cases h
    exact ⟨[], rfl⟩
  · split at h
    · next d hd =>
      cases h
      unfold textCell at hd
      split at hd
      · cases hd
        exact ⟨_, rfl⟩
      · cases hd
        exact ⟨_, rfl⟩
      · cases hd
        exact ⟨_, rfl⟩
      · cases hd
    · cases h

/-- A template as a value has the text that the template has. -/
theorem text?_of_renderCell (scope : Scope) (b : Birth) (template : String) :
    (renderCell scope b template).map Cell.text? = (render scope b template).map some := by
  unfold renderCell
  split
  · next inside hslot =>
    unfold render
    cases hchars : template.toList with
    | nil => simp [hchars, slotAt?] at hslot
    | cons c cs =>
      rw [hchars] at hslot
      have hrest (fuel : Nat) : renderUpTo scope b fuel [] = .ok [] := by cases fuel <;> rfl
      rw [renderUpTo, hslot]
      dsimp only
      rw [hrest]
      unfold slotText
      cases hcell : slotCell scope b inside with
      | error stop => rfl
      | ok d =>
        obtain ⟨ps, hps⟩ := text?_of_slotCell hcell
        simp [Except.map, hps]
  · cases render scope b template <;> rfl

theorem slotAt?_eq_none {c : Char} {cs : List Char} (h : c = '\x7b' → ∀ inner, cs ≠ '\x7b' :: inner) :
    slotAt? (c :: cs) = none := by
  unfold slotAt?
  split
  · next inner heq =>
    obtain ⟨rfl, rfl⟩ := List.cons.inj heq
    exact (h rfl inner rfl).elim
  · rfl

/-- A text that opens no slot is left as it is. -/
theorem renderUpTo_append {scope : Scope} {b : Birth} {text tail : List Char} (fuel : Nat) (hopened : ¬ ['\x7b', '\x7b'] <:+: text)
    (hapart : tail = [] ∨ text.getLast? ≠ some '\x7b') :
    renderUpTo scope b (fuel + text.length) (text ++ tail) =
      (renderUpTo scope b fuel tail).map (points text ++ ·) := by
  induction text with
  | nil => cases h : renderUpTo scope b fuel tail <;> simp [Except.map, points, h]
  | cons c cs ih =>
    have hopened' : ¬ ['\x7b', '\x7b'] <:+: cs := fun h => hopened (h.trans (List.suffix_cons c cs).isInfix)
    have hapart' : tail = [] ∨ cs.getLast? ≠ some '\x7b' := by
      refine hapart.imp_right fun h => ?_
      cases cs with
      | nil => simp
      | cons d ds => simpa [List.getLast?_cons_cons] using h
    -- A brace of the text is not followed by another one, neither in the text nor behind it.
    have hnext : c = '\x7b' → ∀ inner, cs ++ tail ≠ '\x7b' :: inner := by
      rintro rfl inner heq
      cases cs with
      | nil => simp_all
      | cons d ds =>
        obtain ⟨rfl, -⟩ := List.cons.inj heq
        exact hopened ⟨[], ds, rfl⟩
    have hliteral : renderUpTo scope b (fuel + (c :: cs).length) (c :: cs ++ tail) =
        (renderUpTo scope b (fuel + cs.length) (cs ++ tail)).map (.char c :: ·) := by
      rw [List.length_cons, ← Nat.add_assoc, List.cons_append, renderUpTo, slotAt?_eq_none hnext]
    rw [hliteral, ih hopened' hapart']
    cases renderUpTo scope b fuel tail <;> rfl

/-- A slot is filled, and the rest of the template after it. -/
theorem renderUpTo_slot {scope : Scope} {b : Birth} {s : Slot} (h : s.IsApt) (fuel : Nat) (slots : List Slot) :
    renderUpTo scope b (fuel + 1) (source [] (s :: slots)) =
      match slotText scope b (trim s.expression) with
      | .error stop => .error stop
      | .ok ps => (renderUpTo scope b fuel (source s.after slots)).map (ps ++ ·) := by
  have hsource : source [] (s :: slots) =
      '\x7b' :: '\x7b' :: ' ' :: (s.expression ++ ' ' :: '\x7d' :: '\x7d' :: source s.after slots) := by
    simp [source, Slot.source]
  rw [hsource]
  cases htext : slotText scope b (trim s.expression) <;>
    simp [renderUpTo, slotAt?, takeSlot_source h, htext]

theorem IsApt.next {lead : List Char} {s : Slot} {slots : List Slot} (h : IsApt lead (s :: slots)) : IsApt s.after slots where
  eachApt t ht := h.eachApt t (List.mem_cons_of_mem s ht)
  notOpened text htext := h.notOpened text (List.mem_cons_of_mem lead htext)
  apart text htext := h.apart text (by simpa using Or.inr htext)

/-- The template that is left to fill, slot by slot. -/
def fill (scope : Scope) (b : Birth) : List Slot → Except Stop (List Point)
  | [] => .ok []
  | s :: slots =>
    match slotText scope b (trim s.expression) with
    | .error stop => .error stop
    | .ok ps => (fill scope b slots).map (ps ++ points s.after ++ ·)

/-- The slots that are found are the intended ones. -/
theorem renderUpTo_source {scope : Scope} {b : Birth} {lead : List Char} {slots : List Slot} (h : IsApt lead slots) {fuel : Nat}
    (hfuel : (source lead slots).length < fuel) :
    renderUpTo scope b fuel (source lead slots) = (fill scope b slots).map (points lead ++ ·) := by
  induction slots generalizing lead fuel with
  | nil =>
    obtain ⟨k, rfl⟩ : ∃ k, fuel = k + lead.length :=
      ⟨fuel - lead.length, by simp only [source, List.flatMap_nil, List.append_nil] at hfuel; omega⟩
    rw [source, List.flatMap_nil, renderUpTo_append k (h.notOpened lead List.mem_cons_self) (.inl rfl)]
    cases k <;> rfl
  | cons s slots ih =>
    have hlength : (source lead (s :: slots)).length =
        lead.length + 1 + (s.expression.length + 5 + (source s.after slots).length) := by
      simp [source, Slot.source]
      omega
    obtain ⟨k, rfl⟩ : ∃ k, fuel = k + 1 + lead.length := ⟨fuel - lead.length - 1, by omega⟩
    have hlead : lead.getLast? ≠ some '\x7b' := h.apart lead (by simp)
    have hsplit : source lead (s :: slots) = lead ++ source [] (s :: slots) := by simp [source]
    rw [hsplit, renderUpTo_append (k + 1) (h.notOpened lead List.mem_cons_self) (.inr hlead),
      renderUpTo_slot (h.eachApt s List.mem_cons_self), fill]
    cases slotText scope b (trim s.expression) with
    | error stop => rfl
    | ok ps =>
      dsimp only
      rw [ih h.next (by omega)]
      cases fill scope b slots with
      | error stop => rfl
      | ok filled => simp [Except.map]

/-- The values of the slots and the texts after them, in their order. -/
def filled (slots : List Slot) (values : List Cell) : List Point :=
  (List.zipWith (fun s c => shown c ++ points s.after) slots values).flatten

variable {scope : Scope} {b : Birth} {slots : List Slot}

/-- All slots have values. -/
def HaveValues (scope : Scope) (b : Birth) : List Slot → List Cell → Prop :=
  List.Forall₂ fun s c => evaluate scope (b.part 0) s.code = .ok c

/-- The evaluation of a slot fails, after slots that have values. -/
def FailsFirst (scope : Scope) (b : Birth) (slots : List Slot) (e : Error) : Prop :=
  ∃ before s after, slots = before ++ s :: after ∧ (∃ values, HaveValues scope b before values) ∧
    evaluate scope (b.part 0) s.code = .error (.refused e)

/-- The values of slots have texts. -/
def HaveTexts (scope : Scope) (b : Birth) (slots : List Slot) : Prop :=
  ∀ s ∈ slots, ∀ c, evaluate scope (b.part 0) s.code = .ok c → c.str? ≠ none

private theorem HaveTexts.next {s : Slot} (h : HaveTexts scope b (s :: slots)) : HaveTexts scope b slots :=
  fun t ht => h t (List.mem_cons_of_mem s ht)

theorem fill_eq_ok (htexts : HaveTexts scope b slots) {values : List Cell} (h : HaveValues scope b slots values) :
    fill scope b slots = .ok (filled slots values) := by
  induction h with
  | nil => rfl
  | cons hc _ ih =>
    simp [fill, slotText_eq_ok hc (htexts _ List.mem_cons_self _ hc), ih htexts.next, filled, Except.map]

theorem fill_eq_error (htexts : HaveTexts scope b slots) {e : Error} (h : FailsFirst scope b slots e) :
    fill scope b slots = .error (.refused e) := by
  obtain ⟨before, s, after, rfl, ⟨values, hvalues⟩, hs⟩ := h
  induction hvalues with
  | nil => simp [fill, slotText_eq_error hs]
  | cons hc _ ih =>
    simp [fill, slotText_eq_ok hc (htexts _ List.mem_cons_self _ hc), ih htexts.next, Except.map]

/-- Slots whose expressions can be read have values, or one of them fails first. -/
theorem haveValues_or_failsFirst (h : ∀ s ∈ slots, nul ∉ s.expression) :
    (∃ values, HaveValues scope b slots values) ∨ ∃ e, FailsFirst scope b slots e := by
  induction slots with
  | nil => exact .inl ⟨[], .nil⟩
  | cons s slots ih =>
    cases hs : evaluate scope (b.part 0) s.code with
    | error stop =>
      cases stop with
      | refused e => exact .inr ⟨e, [], s, slots, rfl, ⟨[], .nil⟩, hs⟩
      | crashed m =>
        have hnul := (nul_mem_of_evaluate hs).2
        exact absurd (mem_of_mem_trim (by simpa [Slot.code] using hnul)) (h s List.mem_cons_self)
    | ok c =>
      rcases ih fun t ht => h t (List.mem_cons_of_mem s ht) with ⟨values, hvalues⟩ | ⟨e, before, t, after, rfl, ⟨values, hvalues⟩, ht⟩
      · exact .inl ⟨c :: values, .cons hs hvalues⟩
      · exact .inr ⟨e, s :: before, t, after, rfl, ⟨c :: values, .cons hs hvalues⟩, ht⟩

theorem render_eq_fill {lead : List Char} (h : IsApt lead slots) :
    render scope b (String.ofList (source lead slots)) = (fill scope b slots).map (points lead ++ ·) := by
  rw [render, String.toList_ofList, renderUpTo_source h (by simp)]

/-- Rendering a template leaves its texts as they are and puts the values of the expressions, without the blanks around
them, in the places of the slots, or fails as the first slot without a value does. What a node makes of the template is
the text of it. -/
theorem render_source (scope : Scope) (b : Birth) (lead : List Char) (slots : List Slot) (h : IsApt lead slots)
    (htexts : HaveTexts scope b slots) :
    (∀ values, HaveValues scope b slots values →
      render scope b (String.ofList (source lead slots)) = .ok (points lead ++ filled slots values)) ∧
    (∀ e, FailsFirst scope b slots e → render scope b (String.ofList (source lead slots)) = .error (.refused e)) ∧
    ((∃ values, HaveValues scope b slots values) ∨ ∃ e, FailsFirst scope b slots e) ∧
    (∀ s ∈ slots, s.expression.length ≤ maxLength →
      ∀ b, evaluate scope b s.code = evaluate scope b (String.ofList s.expression)) ∧
    (renderCell scope b (String.ofList (source lead slots))).map Cell.text? =
      (render scope b (String.ofList (source lead slots))).map some := by
  refine ⟨fun values hvalues => ?_, fun e he => ?_, haveValues_or_failsFirst fun s hs => (h.eachApt s hs).readable,
    fun s hs hlength => evaluate_trim (h.eachApt s hs).notBlank hlength (h.eachApt s hs).readable scope,
    text?_of_renderCell scope b _⟩
  · rw [render_eq_fill h, fill_eq_ok htexts hvalues]
    rfl
  · rw [render_eq_fill h, fill_eq_error htexts he]
    rfl

/-- The evaluation gives a whole number. -/
private def givesInt (n : Int) : Except Stop Cell → Bool
  | .ok (.atom .only (.int m)) => m == n
  | _ => false

private theorem eq_ok_of_givesInt {n : Int} {r : Except Stop Cell} (h : givesInt n r = true) :
    r = .ok (.atom .only (.int n)) := by
  unfold givesInt at h
  split at h
  · rw [beq_iff_eq.1 h]
  · cases h

/-- Two slots among other braces. -/
def sums : List Slot := [⟨"1 + 2".toList, "\x7d \x7bb, ".toList⟩, ⟨" 3".toList, "\x7d\x7d".toList⟩]

theorem render_sums :
    IsApt "a \x7d ".toList sums ∧ HaveTexts [] ⟨0, []⟩ sums ∧
      render [] ⟨0, []⟩ "a \x7d \x7b\x7b 1 + 2 \x7d\x7d\x7d \x7bb, \x7b\x7b  3 \x7d\x7d\x7d\x7d" =
        .ok (points "a \x7d 3\x7d \x7bb, 3\x7d\x7d".toList) := by
  have hfirst : evaluate [] ⟨0, [.number 0]⟩ "1 + 2" = .ok (.atom .only (.int 3)) :=
    eq_ok_of_givesInt (by decide +kernel)
  have hsecond : evaluate [] ⟨0, [.number 0]⟩ "3" = .ok (.atom .only (.int 3)) :=
    eq_ok_of_givesInt (by decide +kernel)
  have hvalues : HaveValues [] ⟨0, []⟩ sums [.atom .only (.int 3), .atom .only (.int 3)] :=
    .cons hfirst (.cons hsecond .nil)
  have hapt : IsApt "a \x7d ".toList sums := by
    refine ⟨fun s hs => ?_, by decide +kernel, by decide +kernel⟩
    rcases List.mem_cons.1 hs with rfl | hs
    · exact ⟨by decide, by decide, by decide, by decide⟩
    · rw [List.mem_singleton.1 hs]
      exact ⟨by decide, by decide, by decide, by decide⟩
  have htexts : HaveTexts [] ⟨0, []⟩ sums := by
    intro s hs c hc
    obtain rfl : c = .atom .only (.int 3) := by
      rcases List.mem_cons.1 hs with rfl | hs
      · exact Except.ok.inj (hc.symm.trans hfirst)
      · rw [List.mem_singleton.1 hs] at hc
        exact Except.ok.inj (hc.symm.trans hsecond)
    decide
  refine ⟨hapt, htexts, ?_⟩
  exact (render_source [] ⟨0, []⟩ _ sums hapt htexts).1 _ hvalues

/-- An expression after blanks. -/
def padded (blanks : Nat) : Slot :=
  ⟨List.replicate blanks ' ' ++ ['1'], []⟩

/-- Blanks make an expression too long, but not the slot that holds them. -/
theorem render_padded (blanks : Nat) : IsApt [] [padded blanks] ∧
    (maxLength ≤ blanks →
      evaluate [] ⟨0, []⟩ (String.ofList (padded blanks).expression) = .error (.refused .tooLong)) ∧
      render [] ⟨0, []⟩ (String.ofList (source [] [padded blanks])) = .ok (points ['1']) := by
  set s := padded blanks with hs
  have hexpression : s.expression = List.replicate blanks ' ' ++ ['1'] := rfl
  have hmem (c : Char) (hc : c ∈ s.expression) : c = ' ' ∨ c = '1' := by
    rcases List.mem_append.1 (hexpression ▸ hc) with hc | hc
    · exact .inl (List.eq_of_mem_replicate hc)
    · exact .inr (List.mem_singleton.1 hc)
  have happens (c : Char) (h1 : c ≠ ' ') (h2 : c ≠ '1') : c ∉ s.expression := fun hc => (hmem c hc).elim h1 h2
  have hblank : isAllBlank s.expression = false := by
    rw [isAllBlank, List.all_eq_false]
    exact ⟨'1', by simp [hexpression], by decide⟩
  have hslot : s.IsApt := by
    refine ⟨hblank, happens _ (by decide) (by decide), fun hclosed => ?_, happens _ (by decide) (by decide)⟩
    exact happens '\x7d' (by decide) (by decide) (hclosed.subset List.mem_cons_self)
  have hapt : IsApt [] [s] := by
    refine ⟨fun t ht => List.mem_singleton.1 ht ▸ hslot, ?_, by simp⟩
    simp [hs, padded]
  have htrim : trim s.expression = ['1'] := by
    have hleft : trimLeft s.expression = ['1'] := by
      rw [hexpression]
      exact List.dropWhile_append_of_pos fun c hc => by rw [List.eq_of_mem_replicate hc]; decide
    rw [trim, hleft]
    decide
  have hone : evaluate [] (Birth.part ⟨0, []⟩ 0) s.code = .ok (.atom .only (.int 1)) := by
    rw [Slot.code, htrim]
    exact eq_ok_of_givesInt (by decide +kernel)
  refine ⟨hapt, fun hblanks => ?_, ?_⟩
  · have hlong : s.expression.length > maxLength := by
      rw [hexpression, List.length_append, List.length_replicate]
      exact Nat.lt_succ_of_le hblanks
    simp [evaluate, Expression.read, hblank, hlong]
  · rw [render_eq_fill hapt, fill, slotText_eq_ok hone (by decide)]
    rfl

/-- An expression that is too long with its blanks is not too long in a slot. -/
theorem render_longSlot : IsApt [] [padded maxLength] ∧
    evaluate [] ⟨0, []⟩ (String.ofList (padded maxLength).expression) = .error (.refused .tooLong) ∧
      render [] ⟨0, []⟩ (String.ofList (source [] [padded maxLength])) = .ok (points ['1']) :=
  ⟨(render_padded maxLength).1, (render_padded maxLength).2.1 le_rfl, (render_padded maxLength).2.2⟩

end Template

end IntegrationFlow
