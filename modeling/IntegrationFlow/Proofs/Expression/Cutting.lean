import IntegrationFlow.Expression.Alias
import IntegrationFlow.Proofs.Expression.Lexing

/-!
# The search for literals

The search cuts a text into stretches that make up the text (`Cuts.eq`). It goes through the lexemes of a text as the lexer
does (`Linked`).
-/

namespace IntegrationFlow.Expression

/-! ### Stretches -/

namespace Segment

/-- The characters of a stretch. -/
def source : Segment → List Char
  | .code cs => cs
  | .literal q => q.source

theorem push_literal (q : Quoted) (segments : List Segment) : (literal q).push segments = literal q :: segments :=
  rfl

theorem push_push (cs ds : List Char) (segments : List Segment) :
    (code cs).push ((code ds).push segments) = (code (cs ++ ds)).push segments := by
  rcases segments with _ | ⟨es | q, segments⟩
  · rfl
  · exact congrArg (code · :: segments) (List.append_assoc cs ds es).symm
  · rfl

theorem flatMap_source_push (s : Segment) (segments : List Segment) :
    (s.push segments).flatMap source = s.source ++ segments.flatMap source := by
  rcases s with cs | q
  · rcases segments with _ | ⟨ds | q, segments⟩
    · rfl
    · exact List.append_assoc cs ds _
    · rfl
  · rfl

end Segment

namespace Search

variable {s s' : Search} {mark c : Char} {cs rest : List Char} {segment : Segment}

theorem firstLine?_eq {line : List Char} (h : firstLine? mark cs = some (line, rest)) : cs = line ++ rest := by
  fun_induction firstLine? mark cs generalizing line rest with
  | case1 cs =>
    cases h
    rfl
  | case2 c cs hc ih =>
    obtain ⟨⟨body, _⟩, hbody, heq⟩ := Option.map_eq_some_iff.1 h
    cases heq
    rw [ih hbody]
    rfl
  | case3 => cases h
  | case4 c cs _ _ _ ih =>
    obtain ⟨⟨body, _⟩, hbody, heq⟩ := Option.map_eq_some_iff.1 h
    cases heq
    rw [ih hbody]
    rfl
  | case5 => cases h

theorem lastLine?_eq {body : List Char} (h : lastLine? mark cs = some (body, rest)) : cs = body ++ mark :: rest := by
  fun_induction lastLine? mark cs generalizing body rest with
  | case1 => cases h
  | case2 c cs hc ih =>
    obtain ⟨⟨body, _⟩, hbody, heq⟩ := Option.map_eq_some_iff.1 h
    cases heq
    rw [ih hbody]
    rfl
  | case3 c cs _ _ hmark =>
    cases h
    rw [beq_iff_eq.1 hmark]
    rfl
  | case4 => cases h
  | case5 c cs _ _ _ _ ih =>
    obtain ⟨⟨body, _⟩, hbody, heq⟩ := Option.map_eq_some_iff.1 h
    cases heq
    rw [ih hbody]
    rfl
  | case6 => cases h

theorem line_append_rest (cs : List Char) (p : Char → Bool) :
    cs.takeWhile p ++ (cs.dropWhile p).take 1 ++ (cs.dropWhile p).drop 1 = cs := by
  rw [List.append_assoc, List.take_append_drop, List.takeWhile_append_dropWhile]

theorem furtherLines_eq {fuel : Nat} {lines : List Char} {ended : Bool}
    (h : furtherLines fuel mark cs = some (lines, ended, rest)) :
    cs = lines ++ (if ended then [mark] else []) ++ rest := by
  induction fuel generalizing cs lines ended rest with
  | zero => cases cs <;> cases h
  | succ fuel ih =>
    cases cs with
    | nil => cases h
    | cons c cs =>
      rw [furtherLines] at h
      · split at h
        · next body rest' hlast =>
          cases h
          rw [lastLine?_eq hlast]
          simp
        · have hline := line_append_rest (c :: cs) (· != '\n')
          dsimp only at h
          split at h
          · obtain ⟨⟨body, ended', _⟩, hbody, heq⟩ := Option.map_eq_some_iff.1 h
            cases heq
            refine hline.symm.trans ?_
            rw [ih hbody]
            simp only [List.append_assoc]
          · cases h
            simpa using hline.symm
      · exact List.cons_ne_nil c cs

theorem atStrayMark_eq (h : s.atStrayMark mark cs = some (segment, s', rest)) :
    mark :: cs = segment.source ++ rest ∧ segment.source ≠ [] := by
  unfold atStrayMark at h
  split at h
  · cases h
  split at h
  · cases h
    exact ⟨rfl, List.cons_ne_nil _ _⟩
  · next line rest' hline =>
    obtain ⟨⟨lines, ended, _⟩, hlines, heq⟩ := Option.map_eq_some_iff.1 h
    have hcs := firstLine?_eq hline
    have hrest := furtherLines_eq hlines
    cases ended with
    | true =>
      cases heq
      rw [hcs, hrest]
      exact ⟨by simp [Segment.source, Quoted.source, Quoted.marks], by simp [Segment.source, Quoted.source, Quoted.marks]⟩
    | false =>
      cases heq
      rw [hcs, hrest]
      exact ⟨by simp [Segment.source], List.cons_ne_nil _ _⟩

theorem nextInLine_eq (h : s.nextInLine c cs = some (segment, s', rest)) :
    c :: cs = segment.source ++ rest ∧ segment.source ≠ [] := by
  unfold nextInLine at h
  split at h
  · next hquote =>
    split at h
    · next q rest' hq =>
      cases h
      obtain ⟨rfl, rfl, -⟩ := takeQuoted_eq_some hquote hq
      rw [Segment.source, Quoted.source_eq]
      exact ⟨rfl, List.cons_ne_nil _ _⟩
    · exact atStrayMark_eq h
  split at h
  · cases h
    exact ⟨congrArg (c :: ·) List.takeWhile_append_dropWhile.symm, List.cons_ne_nil _ _⟩
  split at h
  · cases h
    exact ⟨rfl, List.cons_ne_nil _ _⟩
  split at h
  · next hslash =>
    cases beq_iff_eq.1 hslash
    split at h
    · cases h
    · cases h
      exact ⟨rfl, List.cons_ne_nil _ _⟩
    · cases h
      exact ⟨rfl, List.cons_ne_nil _ _⟩
  split at h
  · cases h
    exact ⟨rfl, List.cons_ne_nil _ _⟩
  split at h
  · cases h
    exact ⟨rfl, List.cons_ne_nil _ _⟩
  · cases h
    exact ⟨rfl, List.cons_ne_nil _ _⟩

/-- A stretch and what follows it make up the text. -/
theorem next_eq (h : s.next c cs = some (segment, s', rest)) : c :: cs = segment.source ++ rest ∧ segment.source ≠ [] := by
  unfold next at h
  split at h
  · exact nextInLine_eq h
  split at h
  · cases h
    exact ⟨rfl, List.cons_ne_nil _ _⟩
  split at h
  · cases h
    exact ⟨rfl, List.cons_ne_nil _ _⟩
  split at h
  · cases h
    exact ⟨congrArg (c :: ·) List.takeWhile_append_dropWhile.symm, List.cons_ne_nil _ _⟩
  · obtain ⟨s₁, -, h⟩ := Option.bind_eq_some_iff.1 h
    exact nextInLine_eq h

/-- The search cuts the text into the stretches. -/
inductive Cuts : Search → List Char → List Segment → Prop
  | nil {s : Search} (h : s.depth = 0) : Cuts s [] []
  | cons {s s' : Search} {c : Char} {cs rest : List Char} {segment : Segment} {segments : List Segment}
    (hnext : s.next c cs = some (segment, s', rest)) (h : Cuts s' rest segments) : Cuts s (c :: cs) (segment.push segments)

variable {segments : List Segment}

/-- The stretches make up the text. -/
theorem Cuts.eq (h : Cuts s cs segments) : segments.flatMap Segment.source = cs := by
  induction h with
  | nil => rfl
  | cons hnext _ ih => rw [Segment.flatMap_source_push, ih, (next_eq hnext).1]

theorem cuts_of_end {fuel : Nat} (h : segmentsUpTo fuel s [] = some segments) : Cuts s [] segments := by
  have h : (if s.depth == 0 then some [] else none) = some segments := by
    cases fuel <;> exact h
  split at h
  · next hdepth =>
    cases h
    exact .nil (beq_iff_eq.1 hdepth)
  · cases h

theorem cuts_of_segmentsUpTo {fuel : Nat} (h : segmentsUpTo fuel s cs = some segments) : Cuts s cs segments := by
  induction fuel generalizing s cs segments with
  | zero =>
    cases cs with
    | nil => exact cuts_of_end h
    | cons c cs => cases h
  | succ fuel ih =>
    cases cs with
    | nil => exact cuts_of_end h
    | cons c cs =>
      obtain ⟨⟨segment, s', rest⟩, hnext, h⟩ := Option.bind_eq_some_iff.1 h
      obtain ⟨segments, hsegments, rfl⟩ := Option.map_eq_some_iff.1 h
      exact .cons hnext (ih hsegments)

theorem Cuts.segmentsUpTo (h : Cuts s cs segments) :
    ∀ fuel, cs.length ≤ fuel → segmentsUpTo fuel s cs = some segments := by
  induction h with
  | nil hdepth =>
    intro fuel _
    cases fuel <;> exact if_pos (beq_iff_eq.2 hdepth)
  | @cons s s' c cs rest segment segments hnext _ ih =>
    intro fuel hfuel
    have hshort : rest.length ≤ cs.length := by
      have hlength := congrArg List.length (next_eq hnext).1
      have hpos := List.length_pos_iff.2 (next_eq hnext).2
      rw [List.length_cons, List.length_append] at hlength
      omega
    rw [List.length_cons] at hfuel
    cases fuel with
    | zero => omega
    | succ fuel =>
      rw [Search.segmentsUpTo, hnext, Option.bind_some]
      dsimp only
      rw [ih fuel (by omega), Option.map_some]

/-! ### One stretch -/

theorem cuts_cons (hnext : s.next c cs = some (segment, s', rest)) :
    Cuts s (c :: cs) segments ↔ ∃ segments', Cuts s' rest segments' ∧ segments = segment.push segments' := by
  refine ⟨fun h => ?_, ?_⟩
  · cases h with
    | cons hnext' h =>
      rw [hnext] at hnext'
      cases hnext'
      exact ⟨_, h, rfl⟩
  · rintro ⟨segments', h, rfl⟩
    exact .cons hnext h

theorem not_cuts_cons (hnext : s.next c cs = none) : ¬Cuts s (c :: cs) segments := by
  rintro (_ | ⟨hnext', _⟩)
  rw [hnext] at hnext'
  cases hnext'

/-- The start of a line is left. -/
theorem enter_eq_some (h : s.enter = some s') : s'.line? = none ∧ s'.depth = s.depth := by
  unfold enter at h
  split at h
  · next hline =>
    cases h
    exact ⟨hline, rfl⟩
  · obtain ⟨indents, -, rfl⟩ := Option.map_eq_some_iff.1 h
    exact ⟨rfl, rfl⟩

theorem enter_of_line? (h : s.line? = none) : s.enter = some s := by
  rw [enter, h]

theorem next_of_line? (h : s.line? = none) : s.next c cs = s.nextInLine c cs := by
  rw [next, h]

/-- A character that is neither a blank nor the end of a line or a comment starts the line. -/
theorem next_eq_enter (hspacing : isSpacing c = false) (hline : c ≠ '\n') (hhash : c ≠ '#') (hreturn : c ≠ '\r') :
    s.next c cs = s.enter.bind fun s => s.nextInLine c cs := by
  unfold next
  split
  · next hline => rw [enter_of_line? hline, Option.bind_some]
  · next width hwidth =>
    rw [column?_eq_none_iff.2 hspacing]
    simp only [beq_false_of_ne hline, beq_false_of_ne hhash, beq_false_of_ne hreturn, Bool.or_self, Bool.false_eq_true,
      if_false]

theorem next_of_not_mem_marks (hc : c ∉ marks) : s.next c cs = s.enter.bind fun s => s.nextInLine c cs :=
  next_eq_enter (isSpacing_of_not_mem hc) (ne_of_not_mem hc (by decide)) (ne_of_not_mem hc (by decide))
    (ne_of_not_mem hc (by decide))

/-- A character of code that has no meaning of its own for the search. -/
def IsPlain (c : Char) : Prop :=
  c ∉ marks ∧ isQuote c = false

theorem nextInLine_of_isPlain (hc : IsPlain c) : s.nextInLine c cs = some (.code [c], s, cs) := by
  have hne (d : Char) (hd : d ∈ marks) : (c == d) = false := beq_false_of_ne (ne_of_not_mem hc.1 hd)
  simp only [nextInLine, hc.2, hne '#' (by decide), hne '\n' (by decide), hne '\\' (by decide),
    closing?_of_not_mem hc.1, isClosing_of_not_mem hc.1, Option.isSome_none, Bool.false_eq_true, if_false]

/-- Plain code starts the line and goes on to its end. -/
theorem cuts_plain {w : List Char} (hne : w ≠ []) (hplain : ∀ c ∈ w, IsPlain c) :
    Cuts s (w ++ rest) segments ↔ ∃ s₁ segments', s.enter = some s₁ ∧ Cuts s₁ rest segments' ∧
      segments = (Segment.code w).push segments' := by
  induction w generalizing s segments with
  | nil => exact (hne rfl).elim
  | cons c w ih =>
    have hc := hplain c List.mem_cons_self
    rcases henter : s.enter with _ | s₁
    · have hnext : s.next c (w ++ rest) = none := by rw [next_of_not_mem_marks hc.1, henter, Option.bind_none]
      refine ⟨fun h => (not_cuts_cons hnext h).elim, ?_⟩
      rintro ⟨_, _, heq, -⟩
      cases heq
    have hnext : s.next c (w ++ rest) = some (.code [c], s₁, w ++ rest) := by
      rw [next_of_not_mem_marks hc.1, henter, Option.bind_some, nextInLine_of_isPlain hc]
    rw [List.cons_append, cuts_cons hnext]
    cases w with
    | nil => simp
    | cons d w =>
      have hline := (enter_eq_some henter).1
      have hw := fun segments => @ih s₁ segments (List.cons_ne_nil d w) fun e he => hplain e (List.mem_cons_of_mem c he)
      simp only [hw, enter_of_line? hline]
      constructor
      · rintro ⟨_, ⟨_, segments', heq, hcuts, rfl⟩, rfl⟩
        exact ⟨_, segments', heq, hcuts, Segment.push_push _ _ _⟩
      · rintro ⟨_, segments', heq, hcuts, rfl⟩
        exact ⟨_, ⟨_, segments', heq, hcuts, rfl⟩, (Segment.push_push [c] (d :: w) segments').symm⟩

/-- A literal starts the line. -/
theorem cuts_literal {q : Quoted} (hq : q.IsRead rest) :
    Cuts s (q.source ++ rest) segments ↔ ∃ s₁ segments', s.enter = some s₁ ∧ Cuts s₁ rest segments' ∧
      segments = .literal q :: segments' := by
  have hmark : s.next q.mark (q.inner ++ rest) = s.enter.bind fun s => s.nextInLine q.mark (q.inner ++ rest) :=
    next_of_not_mem_marks (not_mem_marks_of_isQuote hq.1)
  rw [Quoted.source_eq, List.cons_append]
  rcases henter : s.enter with _ | s₁
  · rw [henter, Option.bind_none] at hmark
    refine ⟨fun h => (not_cuts_cons hmark h).elim, ?_⟩
    rintro ⟨_, _, heq, -⟩
    cases heq
  · have hnext : s.next q.mark (q.inner ++ rest) = some (.literal q, s₁, rest) := by
      rw [hmark, henter, Option.bind_some]
      unfold nextInLine
      rw [if_pos hq.1, hq.2]
    rw [cuts_cons hnext]
    simp [Segment.push_literal]

/-- The search goes over the code `w` from one state to another. -/
def Passes (s : Search) (w : List Char) (s' : Search) (rest : List Char) : Prop :=
  ∀ segments, Cuts s (w ++ rest) segments ↔ ∃ segments', Cuts s' rest segments' ∧ segments = (Segment.code w).push segments'

theorem passes_of_next {w : List Char} (h : s.next c (w ++ rest) = some (.code (c :: w), s', rest)) :
    Passes s (c :: w) s' rest := fun _ =>
  cuts_cons h

theorem passes_plain {w : List Char} (hne : w ≠ []) (hplain : ∀ c ∈ w, IsPlain c) (henter : s.enter = some s') :
    Passes s w s' rest := fun segments => by
  rw [cuts_plain hne hplain, henter]
  simp

/-! ### Along the lexemes -/

/-- The search stands where the lexer does. At the start of a line the search may already be within the line, behind a
backslash. -/
structure Linked (l : Lexer) (s : Search) : Prop where
  depth : s.depth = l.awaited.length
  line : s.line? ≠ none → l.line? ≠ none
  outside : l.line? ≠ none → l.awaited = []

theorem linked_default : Linked {} {} :=
  ⟨rfl, fun _ => nofun, fun _ => rfl⟩

variable {l l' : Lexer} {x : Lexeme}

/-- Within a line. -/
theorem linked_inLine {awaited : List Char} (hline : s.line? = none) (hdepth : s.depth = awaited.length) :
    Linked ⟨awaited, none⟩ s :=
  ⟨hdepth, fun h => (h hline).elim, fun h => (h rfl).elim⟩

/-- At the start of a line. -/
theorem linked_atLine {line : Nat × Nat} (hdepth : s.depth = 0) : Linked ⟨[], some line⟩ s :=
  ⟨hdepth, fun _ => nofun, fun _ => rfl⟩

theorem not_isQuote_of_mem_marks (hc : c ∈ marks) : isQuote c = false :=
  Bool.eq_false_iff.2 fun h => not_mem_marks_of_isQuote h hc

/-- Where the lexer is within a line, the search is. -/
theorem Linked.inLine (h : Linked l s) (hl : l.line? = none) : s.line? = none :=
  Decidable.byContradiction fun hs => h.line hs hl

theorem newLine_of_depth (h : s.depth ≠ 0) : s.newLine.line? = none :=
  if_neg (by simpa using h)

theorem depth_ne_zero {awaited : List Char} (h : s.depth = awaited.length) (hawaited : awaited ≠ []) : s.depth ≠ 0 := by
  have hlength := List.length_pos_iff.2 hawaited
  omega

/-- The place behind a blank. -/
def indent (s : Search) (c : Char) : Search :=
  { s with line? := s.line?.bind (column? · c) }

/-- A blank is passed over. -/
theorem next_spacing (hc : isSpacing c = true) (cs : List Char) : s.next c cs = some (.code [c], s.indent c, cs) := by
  rcases hline : s.line? with _ | width
  · rw [next_of_line? hline, indent, hline, Option.bind_none, ← hline]
    simp only [isSpacing, Bool.or_eq_true, beq_iff_eq] at hc
    rcases hc with (rfl | rfl) | rfl <;> rfl
  · rcases hwidth : column? width c with _ | width'
    · rw [column?_eq_none_iff.1 hwidth] at hc
      cases hc
    · simp only [next, indent, hline, hwidth, Option.bind_some]

/-- The end of a line leads to the start of the next one, outside of brackets. -/
theorem next_newline (hdepth : s.line? ≠ none → s.depth = 0) (cs : List Char) :
    s.next '\n' cs = some (.code ['\n'], s.newLine, cs) := by
  rcases hline : s.line? with _ | width
  · rw [next_of_line? hline]
    rfl
  · have hzero : s.depth = 0 := hdepth (by rw [hline]; exact nofun)
    have hnext : s.next '\n' cs = some (.code ['\n'], { s with line? := some 0 }, cs) := by
      simp only [next, hline]
      rfl
    rw [hnext, newLine, hzero]
    rfl

/-- A comment is passed over up to the end of its line. -/
theorem next_comment {body : List Char} (hbody : '\n' ∉ body) (hreturn : '\r' ∉ body) (hrest : Stops (· != '\n') rest) :
    s.next '#' (body ++ rest) = some (.code ('#' :: body), s, rest) := by
  have hbody' (d : Char) (hd : d ∈ body) : (d != '\n') = true := bne_iff_ne.2 fun h => hbody (h ▸ hd)
  rcases hline : s.line? with _ | width
  · have hinner (d : Char) (hd : d ∈ body) : (d != '\n' && d != '\r') = true := by
      rw [hbody' d hd, Bool.true_and]
      exact bne_iff_ne.2 fun h => hreturn (h ▸ hd)
    have hstops : Stops (fun d => d != '\n' && d != '\r') rest := fun d hd => by
      have hne : (d != '\n') = false := hrest d hd
      simp only [hne, Bool.false_and]
    have hnext : s.nextInLine '#' (body ++ rest) = some (.code ('#' :: (body ++ rest).takeWhile
        fun d => d != '\n' && d != '\r'), s, (body ++ rest).dropWhile fun d => d != '\n' && d != '\r') := rfl
    rw [next_of_line? hline, hnext, takeWhile_append_of_stops hinner hstops, dropWhile_append_of_stops hinner hstops]
  · have hnext : s.next '#' (body ++ rest) = some (.code ('#' :: (body ++ rest).takeWhile (· != '\n')), s,
        (body ++ rest).dropWhile (· != '\n')) := by
      simp only [next, hline]
      rfl
    rw [hnext, takeWhile_append_of_stops hbody' hrest, dropWhile_append_of_stops hbody' hrest]

theorem next_slash (cs : List Char) : s.next '\\' cs = s.enter.bind fun s => s.nextInLine '\\' cs :=
  next_eq_enter rfl (by decide) (by decide) (by decide)

/-- A backslash at the end of a line is passed over unless the text ends there. -/
theorem next_join (henter : s.enter = some s') (hrest : rest ≠ []) :
    s.next '\\' ('\n' :: rest) = some (.code ['\\', '\n'], s', rest) := by
  obtain ⟨d, rest, rfl⟩ := List.exists_cons_of_ne_nil hrest
  rw [next_slash, henter, Option.bind_some]
  rfl

theorem entered_of_join (hcuts : Cuts s ('\\' :: '\n' :: rest) segments) : (∃ s₁, s.enter = some s₁) ∧ rest ≠ [] := by
  rcases henter : s.enter with _ | s₁
  · exact (not_cuts_cons (by rw [next_slash, henter, Option.bind_none]) hcuts).elim
  refine ⟨⟨s₁, rfl⟩, ?_⟩
  rintro rfl
  refine not_cuts_cons ?_ hcuts
  rw [next_slash, henter, Option.bind_some]
  rfl

theorem next_of_bracket (hc : (closing? c).isSome = true ∨ isClosing c = true) (cs : List Char) :
    s.next c cs = s.enter.bind fun s => s.nextInLine c cs := by
  obtain ⟨hspacing, hhash, hline, -, hreturn⟩ := Lexer.bracket_facts hc
  exact next_eq_enter hspacing hline hhash hreturn

/-- The place behind a bracket. -/
def turn (s : Search) (c : Char) : Search :=
  { s with depth := if (closing? c).isSome then s.depth + 1 else s.depth - 1 }

/-- A bracket starts the line. -/
theorem next_bracket (hc : (closing? c).isSome = true ∨ isClosing c = true) (henter : s.enter = some s') (cs : List Char) :
    s.next c cs = some (.code [c], s'.turn c, cs) := by
  obtain ⟨-, hhash, hline, hslash, -⟩ := Lexer.bracket_facts hc
  have hquote : isQuote c = false := by
    rcases hc with hc | hc
    · obtain ⟨close, hclose⟩ := Option.isSome_iff_exists.1 hc
      exact not_isQuote_of_mem_marks (mem_marks_of_closing? hclose)
    · exact not_isQuote_of_mem_marks (mem_marks_of_isClosing hc)
  simp only [next_of_bracket hc, henter, Option.bind_some, nextInLine, hquote, beq_false_of_ne hline,
    beq_false_of_ne hhash, beq_false_of_ne hslash, Bool.false_eq_true, if_false, turn]
  split
  · rfl
  · next hopening => rw [if_pos (hc.resolve_left hopening)]

theorem entered_of_bracket (hc : (closing? c).isSome = true ∨ isClosing c = true) (hcuts : Cuts s (c :: rest) segments) :
    ∃ s₁, s.enter = some s₁ := by
  rcases henter : s.enter with _ | s₁
  · exact (not_cuts_cons (by rw [next_of_bracket hc, henter, Option.bind_none]) hcuts).elim
  · exact ⟨s₁, rfl⟩

/-- The search goes over a lexeme that is no literal, word or operator as the lexer does. -/
theorem passes_of_reads (h : Lexer.Reads l x l' rest) (hlinked : Linked l s) (hreturn : '\r' ∉ x.source)
    (hcuts : Cuts s (x.source ++ rest) segments) :
    (∃ s', Linked l' s' ∧ ∀ rest', HeadAlike rest rest' → Passes s x.source s' rest') ∨
      ∃ t, x.token? = some t ∧ Spelling t x.source rest ∧ l' = { l with line? := none } := by
  -- At the start of a line no bracket is open; elsewhere the search is within a line, too.
  cases h with
  | @indent awaited rest width width' held c hc =>
    obtain rfl : awaited = [] := hlinked.outside nofun
    exact .inl ⟨s.indent c, linked_atLine hlinked.depth, fun rest' _ =>
      passes_of_next (next_spacing (isSpacing_of_column? hc) rest')⟩
  | @bareJoin awaited rest width held =>
    obtain rfl : awaited = [] := hlinked.outside nofun
    obtain ⟨⟨s₁, henter⟩, hrest⟩ := entered_of_join hcuts
    refine .inl ⟨s₁, linked_atLine ?_, fun rest' halike => passes_of_next (next_join henter (halike.ne_nil hrest))⟩
    exact (enter_eq_some henter).2.trans hlinked.depth
  | @bareLine awaited rest width held =>
    obtain rfl : awaited = [] := hlinked.outside nofun
    exact .inl ⟨s.newLine, linked_atLine hlinked.depth, fun rest' _ =>
      passes_of_next (next_newline (fun _ => hlinked.depth) rest')⟩
  | comment hbody hrest =>
    refine .inl ⟨s, hlinked, fun rest' halike => passes_of_next ?_⟩
    exact next_comment hbody (fun h => hreturn (List.mem_cons_of_mem _ h)) (halike.stops_line hrest)
  | @spacing awaited rest c hc =>
    refine .inl ⟨s.indent c, linked_inLine ?_ hlinked.depth, fun rest' _ => passes_of_next (next_spacing hc rest')⟩
    rw [indent, hlinked.inLine rfl]
    rfl
  | newline =>
    have hinner := hlinked.inLine rfl
    exact .inl ⟨s.newLine, linked_atLine hlinked.depth, fun rest' _ =>
      passes_of_next (next_newline (fun h => (h hinner).elim) rest')⟩
  | @innerLine awaited rest hawaited =>
    have hinner := hlinked.inLine rfl
    refine .inl ⟨s.newLine, linked_inLine ?_ hlinked.depth, fun rest' _ =>
      passes_of_next (next_newline (fun h => (h hinner).elim) rest')⟩
    exact newLine_of_depth (depth_ne_zero hlinked.depth hawaited)
  | join hrest =>
    obtain ⟨⟨s₁, henter⟩, -⟩ := entered_of_join hcuts
    obtain ⟨hline, hdepth⟩ := enter_eq_some henter
    exact .inl ⟨s₁, linked_inLine hline (hdepth.trans hlinked.depth), fun rest' halike =>
      passes_of_next (next_join henter (halike.ne_nil hrest))⟩
  | @opening l rest c close hl hc hdepth =>
    have hbracket := Option.isSome_of_eq_some hc
    obtain ⟨s₁, henter⟩ := entered_of_bracket (.inl hbracket) hcuts
    obtain ⟨hline, hdepth'⟩ := enter_eq_some henter
    refine .inl ⟨s₁.turn c, linked_inLine hline ?_, fun rest' _ =>
      passes_of_next (next_bracket (.inl hbracket) henter rest')⟩
    rw [turn, if_pos hbracket, hdepth', hlinked.depth, List.length_cons]
    rfl
  | @closing l awaited rest c hl hc hawaited =>
    obtain ⟨s₁, henter⟩ := entered_of_bracket (.inr hc) hcuts
    obtain ⟨hline, hdepth'⟩ := enter_eq_some henter
    refine .inl ⟨s₁.turn c, linked_inLine hline ?_, fun rest' _ =>
      passes_of_next (next_bracket (.inr hc) henter rest')⟩
    rw [turn, Lexer.closing?_of_isClosing hc, hdepth', hlinked.depth, hawaited, List.length_cons]
    simp
  | token hl ht hspelling => exact .inr ⟨_, rfl, hspelling, rfl⟩

/-! ### Tokens -/

theorem isPlain_of_all {cs : List Char} (h : (cs.all fun c => !marks.contains c && !isQuote c) = true) :
    ∀ c ∈ cs, IsPlain c := fun c hc => by
  simpa [IsPlain] using List.all_eq_true.1 h c hc

theorem isPlain_of_isWordlike {c : Char} (hc : isWordlike c = true) : IsPlain c := by
  refine ⟨not_mem_marks_of_isWordlike hc, Bool.eq_false_iff.2 fun hquote => ?_⟩
  rcases isQuote_eq_true.1 hquote with rfl | rfl <;> cases hc

theorem isPlain_of_continuesName {c : Char} (hc : continuesName c = true) : IsPlain c :=
  isPlain_of_isWordlike (by simp [isWordlike, hc])

theorem isPlain_of_mem_symbols {u : String} {c : Char} (hu : u ∈ symbols) (hc : c ∈ u.toList) : IsPlain c := by
  have hall : (symbols.all fun u => u.toList.all fun c => !marks.contains c && !isQuote c) = true := by decide +kernel
  exact isPlain_of_all (List.all_eq_true.1 hall u hu) c hc

/-- What is cut behind the start of a line, with something in front, is cut at all when it is cut there. -/
private theorem exists_cuts_of_forall {w : List Char} {front : List Segment → List Segment}
    (h : ∀ segments, Cuts s (w ++ rest) segments ↔ ∃ s₁ segments', s.enter = some s₁ ∧ Cuts s₁ rest segments' ∧
      segments = front segments') :
    (∃ segments, Cuts s (w ++ rest) segments) ↔ ∃ s₁ segments, s.enter = some s₁ ∧ Cuts s₁ rest segments := by
  simp only [h]
  constructor
  · rintro ⟨_, s₁, segments, henter, hcuts, -⟩
    exact ⟨s₁, segments, henter, hcuts⟩
  · rintro ⟨s₁, segments, henter, hcuts⟩
    exact ⟨_, s₁, segments, henter, hcuts, rfl⟩

/-- A token that is no bracket starts the line, and the search stands behind it. -/
theorem exists_cuts_iff {t : Token} {source : List Char} (h : Spelling t source rest) :
    (∃ segments, Cuts s (source ++ rest) segments) ↔ ∃ s₁ segments, s.enter = some s₁ ∧ Cuts s₁ rest segments := by
  -- A stretch of plain characters enters the line, and so does a literal, whatever the search was before.
  have hcode {w : List Char} (hne : w ≠ []) (hplain : ∀ c ∈ w, IsPlain c) (rest : List Char) :
      (∃ segments, Cuts s (w ++ rest) segments) ↔ ∃ s₁ segments, s.enter = some s₁ ∧ Cuts s₁ rest segments :=
    exists_cuts_of_forall fun _ => cuts_plain hne hplain
  have hquoted {q : Quoted} (hq : q.IsRead rest) (s : Search) :
      (∃ segments, Cuts s (q.source ++ rest) segments) ↔ ∃ s₁ segments, s.enter = some s₁ ∧ Cuts s₁ rest segments :=
    exists_cuts_of_forall fun _ => cuts_literal hq
  cases h with
  | word hne hword => exact hcode hne (fun c hc => isPlain_of_isWordlike (hword c hc)) rest
  | @literal _ front _ q hfront ht hq =>
    cases front with
    | nil => exact hquoted hq s
    | cons c front =>
      rw [List.append_assoc, hcode (List.cons_ne_nil c front) fun d hd => isPlain_of_continuesName (hfront d hd)]
      constructor
      · rintro ⟨s₁, _, henter, hcuts⟩
        obtain ⟨s₂, segments, henter', hcuts⟩ := (hquoted hq s₁).1 ⟨_, hcuts⟩
        rw [enter_of_line? (enter_eq_some henter).1] at henter'
        cases henter'
        exact ⟨s₁, segments, henter, hcuts⟩
      · rintro ⟨s₁, segments, henter, hcuts⟩
        obtain ⟨_, hcuts'⟩ := (hquoted hq s₁).2 ⟨s₁, segments, enter_of_line? (enter_eq_some henter).1, hcuts⟩
        exact ⟨s₁, _, henter, hcuts'⟩
  | symbol hs => exact hcode (ne_nil_of_mem_symbols _ hs) (fun c hc => isPlain_of_mem_symbols hs hc) rest

/-! ### Texts in which the search succeeds -/

/-- The search stands where the lexer does, and no block is open. -/
structure Level (l : Lexer) (s : Search) : Prop where
  depth : s.depth = l.awaited.length
  indents : s.indents = [0]
  line : s.line? = l.line?.map Prod.fst
  unheld : ∀ width held, l.line? = some (width, held) → held = 0
  outside : l.line? ≠ none → l.awaited = []

theorem Level.enter (h : Level l s) (hl : l.Starts) : s.enter = some { s with line? := none } := by
  rcases hline : l.line? with _ | ⟨width, held⟩
  · have hs : s.line? = none := h.line.trans (by rw [hline]; rfl)
    rw [enter_of_line? hs, ← hs]
  · obtain rfl := h.unheld width held hline
    have hwidth : width = 0 := hl width 0 hline
    have hs : s.line? = some 0 := h.line.trans (by rw [hline, hwidth]; rfl)
    rw [Search.enter, hs, h.indents]
    simp [settle]

/-- The text goes up to the start of a line, or to blanks there. -/
def EndsAtLine (cs : List Char) : Prop :=
  ∃ before blanks, cs = before ++ blanks ∧ (∀ c ∈ blanks, isSpacing c = true) ∧
    (before = [] ∨ before.getLast? = some '\n')

theorem EndsAtLine.spacing (h : EndsAtLine cs) (hc : isSpacing c = true) : EndsAtLine (cs ++ [c]) := by
  obtain ⟨before, blanks, rfl, hblanks, hbefore⟩ := h
  refine ⟨before, blanks ++ [c], List.append_assoc .., fun d hd => ?_, hbefore⟩
  rcases List.mem_append.1 hd with hd | hd
  · exact hblanks d hd
  · rw [List.mem_singleton.1 hd]
    exact hc

end Search

end IntegrationFlow.Expression
