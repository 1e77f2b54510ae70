import Mathlib.Data.List.Forall2
import IntegrationFlow.Proofs.Expression.Apart
import IntegrationFlow.Proofs.Expression.Reading

/-!
# Blanks around words, and comments

The tokens of a text are the same whatever its comments say and whether there are blanks around its `and` and `or`
(`tokenize_padded`). `Reads` says what is read in one step, and `Lexes` which lexemes a text gives.
-/

namespace IntegrationFlow.Expression

/-! ### One step -/

namespace Lexer

/-- A token may be read: the line has started, or no blanks stand at its start. -/
def Starts (l : Lexer) : Prop :=
  ∀ width held, l.line? = some (width, held) → (if held == 0 then width else held) = 0

/-- What is read in one step in front of a rest, and where reading stands then. -/
inductive Reads : Lexer → Lexeme → Lexer → List Char → Prop
  /-- A blank at the start of a line. -/
  | indent {awaited rest : List Char} {width width' held : Nat} {c : Char} (hc : column? width c = some width') :
    Reads ⟨awaited, some (width, held)⟩ ⟨[c], none⟩ ⟨awaited, some (width', held)⟩ rest
  /-- A line that is no more than a backslash. -/
  | bareJoin {awaited rest : List Char} {width held : Nat} : Reads ⟨awaited, some (width, held)⟩ ⟨['\\', '\n'], none⟩
      ⟨awaited, some (width, if held == 0 then width else held)⟩ rest
  /-- The end of a line without tokens. -/
  | bareLine {awaited rest : List Char} {width held : Nat} :
    Reads ⟨awaited, some (width, held)⟩ ⟨['\n'], none⟩ ⟨awaited, some (0, 0)⟩ rest
  | comment {l : Lexer} {body rest : List Char} (hbody : '\n' ∉ body) (hrest : Stops (· != '\n') rest) :
    Reads l ⟨'#' :: body, none⟩ l rest
  | spacing {awaited rest : List Char} {c : Char} (hc : isSpacing c = true) :
    Reads ⟨awaited, none⟩ ⟨[c], none⟩ ⟨awaited, none⟩ rest
  /-- The end of a line with tokens. -/
  | newline {rest : List Char} : Reads ⟨[], none⟩ ⟨['\n'], some .newline⟩ ⟨[], some (0, 0)⟩ rest
  /-- The end of a line within brackets. -/
  | innerLine {awaited rest : List Char} (hawaited : awaited ≠ []) :
    Reads ⟨awaited, none⟩ ⟨['\n'], none⟩ ⟨awaited, none⟩ rest
  | join {awaited rest : List Char} (hrest : rest ≠ []) : Reads ⟨awaited, none⟩ ⟨['\\', '\n'], none⟩ ⟨awaited, none⟩ rest
  | opening {l : Lexer} {rest : List Char} {c close : Char} (hl : l.Starts) (hc : closing? c = some close)
    (hdepth : l.awaited.length < maxOpenBrackets) :
    Reads l ⟨[c], some (.symbol (String.singleton c))⟩ ⟨close :: l.awaited, none⟩ rest
  | closing {l : Lexer} {awaited rest : List Char} {c : Char} (hl : l.Starts) (hc : isClosing c = true)
    (hawaited : l.awaited = c :: awaited) : Reads l ⟨[c], some (.symbol (String.singleton c))⟩ ⟨awaited, none⟩ rest
  | token {l : Lexer} {source rest : List Char} {c : Char} {t : Token} (hl : l.Starts)
    (ht : takeToken c (source ++ rest) = some (t, rest)) (hspelling : Spelling t (c :: source) rest) :
    Reads l ⟨c :: source, some t⟩ { l with line? := none } rest

variable {l l' : Lexer} {x : Lexeme} {c : Char} {cs rest rest' : List Char}

theorem reads_of_nextToken (hl : l.Starts) (h : l.nextToken c cs = some (x, l', rest)) :
    ∃ source, x.source = c :: source ∧ cs = source ++ rest ∧ Reads l x l' rest := by
  unfold nextToken at h
  split at h
  · next close hc =>
    split at h
    · cases h
    · next hdepth =>
      cases h
      exact ⟨[], rfl, rfl, .opening hl hc (Nat.lt_of_not_le hdepth)⟩
  split at h
  · next hc =>
    split at h
    · next close awaited hawaited =>
      split at h
      · next heq =>
        cases h
        exact ⟨[], rfl, rfl, .closing hl hc (beq_iff_eq.1 heq ▸ hawaited)⟩
      · cases h
    · cases h
  · obtain ⟨⟨t, _⟩, ht, heq⟩ := Option.map_eq_some_iff.1 h
    cases heq
    obtain ⟨source, rfl, hspelling, -⟩ := takeToken_eq_some ht
    have hsource : (source ++ rest).take ((source ++ rest).length - rest.length) = source := by
      rw [List.length_append, Nat.add_sub_cancel, List.take_left]
    rw [hsource]
    exact ⟨source, rfl, rfl, .token hl ht hspelling⟩

theorem reads_comment (l : Lexer) (cs : List Char) :
    Reads l ⟨'#' :: cs.takeWhile (· != '\n'), none⟩ l (cs.dropWhile (· != '\n')) := by
  refine .comment (fun hmem => ?_) (stops_dropWhile _ cs)
  simpa using List.all_eq_true.1 List.all_takeWhile _ hmem

theorem reads_of_nextInLine (hl : l.line? = none) (h : l.nextInLine c cs = some (x, l', rest)) :
    ∃ source, x.source = c :: source ∧ cs = source ++ rest ∧ Reads l x l' rest := by
  obtain ⟨awaited, line?⟩ := l
  obtain rfl : line? = none := hl
  unfold nextInLine at h
  split at h
  · next hc =>
    cases h
    exact ⟨[], rfl, rfl, .spacing hc⟩
  split at h
  · next hc =>
    cases beq_iff_eq.1 hc
    cases h
    exact ⟨_, rfl, List.takeWhile_append_dropWhile.symm, reads_comment _ cs⟩
  split at h
  · next hc =>
    cases beq_iff_eq.1 hc
    split at h
    · next hawaited =>
      cases h
      cases List.isEmpty_iff.1 hawaited
      exact ⟨[], rfl, rfl, .newline⟩
    · next hawaited =>
      cases h
      exact ⟨[], rfl, rfl, .innerLine fun h => hawaited (List.isEmpty_iff.2 h)⟩
  split at h
  · next hc =>
    cases beq_iff_eq.1 hc
    split at h
    · cases h
      exact ⟨['\n'], rfl, rfl, .join (List.cons_ne_nil _ _)⟩
    · cases h
  · exact reads_of_nextToken nofun h

/-- What a step reads. -/
theorem reads_of_next (h : l.next c cs = some (x, l', rest)) :
    ∃ source, x.source = c :: source ∧ cs = source ++ rest ∧ Reads l x l' rest := by
  unfold next at h
  split at h
  · next hl => exact reads_of_nextInLine hl h
  · next width held hl =>
    obtain ⟨awaited, line?⟩ := l
    obtain rfl : line? = some (width, held) := hl
    dsimp only at h
    split at h
    · next hcolumn =>
      cases h
      exact ⟨[], rfl, rfl, .indent hcolumn⟩
    · cases h
      exact ⟨['\n'], rfl, rfl, .bareJoin⟩
    · cases h
      exact ⟨[], rfl, rfl, .bareLine⟩
    · cases h
      exact ⟨_, rfl, List.takeWhile_append_dropWhile.symm, reads_comment _ _⟩
    · by_cases hheld : ((if (held == 0) = true then width else held) == 0) = true
      · rw [if_pos hheld] at h
        refine reads_of_nextToken (fun width' held' heq => ?_) h
        cases heq
        exact beq_iff_eq.1 hheld
      · rw [if_neg hheld] at h
        cases h

theorem next_eq_nextToken (hl : l.Starts) (hspacing : isSpacing c = false) (hhash : c ≠ '#') (hline : c ≠ '\n')
    (hslash : c ≠ '\\') : l.next c cs = l.nextToken c cs := by
  obtain ⟨awaited, _ | ⟨width, held⟩⟩ := l
  · simp only [next, nextInLine, hspacing, beq_false_of_ne hhash, beq_false_of_ne hline, beq_false_of_ne hslash,
      Bool.false_eq_true, if_false]
  · unfold next
    dsimp only
    rw [column?_eq_none_iff.2 hspacing]
    split
    · next h => cases h
    · next h _ => exact (hslash rfl).elim
    · next h => exact (hline rfl).elim
    · next h => exact (hhash rfl).elim
    · rw [if_pos (beq_iff_eq.2 (hl width held rfl))]

theorem bracket_facts (hc : (closing? c).isSome = true ∨ isClosing c = true) :
    isSpacing c = false ∧ c ≠ '#' ∧ c ≠ '\n' ∧ c ≠ '\\' ∧ c ≠ '\r' := by
  rcases hc with hc | hc
  · unfold closing? at hc
    split at hc
    · decide
    · decide
    · decide
    · cases hc
  · simp only [isClosing, Bool.or_eq_true, beq_iff_eq] at hc
    rcases hc with (rfl | rfl) | rfl <;> decide

theorem closing?_of_isClosing (hc : isClosing c = true) : closing? c = none := by
  simp only [isClosing, Bool.or_eq_true, beq_iff_eq] at hc
  rcases hc with (rfl | rfl) | rfl <;> rfl

/-- The step that reads a lexeme. -/
theorem Reads.next (h : Reads l x l' rest) (hx : x.source = c :: cs) : l.next c (cs ++ rest) = some (x, l', rest) := by
  cases h with
  | indent hc =>
    cases hx
    simp only [Lexer.next, hc]
    rfl
  | bareJoin =>
    cases hx
    rfl
  | bareLine =>
    cases hx
    rfl
  | @comment l body rest hbody hrest =>
    cases hx
    have hbody' (d : Char) (hd : d ∈ cs) : (d != '\n') = true := bne_iff_ne.2 fun h => hbody (h ▸ hd)
    have hcomment : l.comment (cs ++ rest) = some (⟨'#' :: cs, none⟩, l, rest) := by
      rw [Lexer.comment, takeWhile_append_of_stops hbody' hrest, dropWhile_append_of_stops hbody' hrest]
      rfl
    obtain ⟨awaited, _ | ⟨width, held⟩⟩ := l
    · exact hcomment
    · exact hcomment
  | spacing hc =>
    cases hx
    simp only [Lexer.next, nextInLine, hc, if_true]
    rfl
  | newline =>
    cases hx
    rfl
  | innerLine hawaited =>
    cases hx
    obtain ⟨close, awaited, rfl⟩ := List.exists_cons_of_ne_nil hawaited
    rfl
  | join hrest =>
    cases hx
    obtain ⟨d, rest, rfl⟩ := List.exists_cons_of_ne_nil hrest
    rfl
  | opening hl hc hdepth =>
    cases hx
    obtain ⟨hspacing, hhash, hline, hslash, -⟩ := bracket_facts (.inl (Option.isSome_of_eq_some hc))
    rw [next_eq_nextToken hl hspacing hhash hline hslash, nextToken, hc]
    exact if_neg (Nat.not_le_of_lt hdepth)
  | @closing l awaited rest c hl hc hawaited =>
    cases hx
    obtain ⟨hspacing, hhash, hline, hslash, -⟩ := bracket_facts (.inr hc)
    rw [next_eq_nextToken hl hspacing hhash hline hslash, nextToken, closing?_of_isClosing hc]
    dsimp only
    rw [if_pos hc, hawaited]
    exact if_pos (beq_self_eq_true c)
  | @token l source rest c t hl ht hspelling =>
    cases hx
    -- A token begins with none of the marks for which the other branches look first.
    have hc := hspelling.not_mem_marks
    rw [next_eq_nextToken hl (isSpacing_of_not_mem hc) (ne_of_not_mem hc (by decide)) (ne_of_not_mem hc (by decide))
      (ne_of_not_mem hc (by decide)), nextToken, closing?_of_not_mem hc]
    dsimp only
    rw [if_neg (Bool.eq_false_iff.1 (isClosing_of_not_mem hc)), ht, Option.map_some, List.length_append,
      Nat.add_sub_cancel, List.take_left]

/-- A step does not depend on what follows as long as that is alike. -/
theorem Reads.of_alike (h : Reads l x l' rest) (halike : Alike rest rest') : Reads l x l' rest' := by
  cases h with
  | indent hc => exact .indent hc
  | bareJoin => exact .bareJoin
  | bareLine => exact .bareLine
  | comment hbody hrest => exact .comment hbody (halike.head.stops_line hrest)
  | spacing hc => exact .spacing hc
  | newline => exact .newline
  | innerLine hawaited => exact .innerLine hawaited
  | join hrest => exact .join (halike.head.ne_nil hrest)
  | opening hl hc hdepth => exact .opening hl hc hdepth
  | closing hl hc hawaited => exact .closing hl hc hawaited
  | @token l source rest c t hl ht hspelling =>
    obtain ⟨source', heq, hspelling', hagain⟩ := takeToken_eq_some ht
    obtain rfl : source = source' := List.append_cancel_right heq
    exact .token hl (hagain rest' halike).1 (hspelling.of_headAlike halike.head)

/-- A lexeme in front of what may follow a number may itself follow one as before. -/
theorem Reads.follow (h : Reads l x l' rest) (halike : Alike rest rest')
    (hfollow : mayFollowNumber (x.source ++ rest) = true) : mayFollowNumber (x.source ++ rest') = true := by
  cases h with
  | indent hc => exact mayFollowNumber_of_mem_marks (mem_marks_of_isSpacing (isSpacing_of_column? hc))
  | bareJoin => exact mayFollowNumber_of_mem_marks (by decide)
  | bareLine => exact mayFollowNumber_of_mem_marks (by decide)
  | comment hbody hrest => exact mayFollowNumber_of_mem_marks (by decide)
  | spacing hc => exact mayFollowNumber_of_mem_marks (mem_marks_of_isSpacing hc)
  | newline => exact mayFollowNumber_of_mem_marks (by decide)
  | innerLine hawaited => exact mayFollowNumber_of_mem_marks (by decide)
  | join hrest => exact mayFollowNumber_of_mem_marks (by decide)
  | opening hl hc hdepth => exact mayFollowNumber_of_mem_marks (mem_marks_of_closing? hc)
  | closing hl hc hawaited => exact mayFollowNumber_of_mem_marks (mem_marks_of_isClosing hc)
  | @token l source rest c t hl ht hspelling =>
    obtain ⟨source', heq, -, hagain⟩ := takeToken_eq_some ht
    obtain rfl : source = source' := List.append_cancel_right heq
    exact (hagain rest' halike).2 hfollow

theorem Reads.source_ne_nil (h : Reads l x l' rest) : x.source ≠ [] := by
  cases h <;> exact List.cons_ne_nil _ _

/-- The texts stay alike with a lexeme in front of them. -/
theorem Reads.alike (h : Reads l x l' rest) (halike : Alike rest rest') : Alike (x.source ++ rest) (x.source ++ rest') where
  head := halike.head.append x.source
  follow := h.follow halike
  points hpoints := by
    obtain ⟨c, source, hsource⟩ := List.exists_cons_of_ne_nil h.source_ne_nil
    rw [hsource] at hpoints ⊢
    cases source with
    | cons d source =>
      rw [List.cons_append, List.cons_append, List.cons_prefix_cons, List.cons_prefix_cons] at hpoints ⊢
      exact ⟨hpoints.1, hpoints.2.1, List.nil_prefix⟩
    | nil =>
      obtain ⟨more, hmore⟩ := hpoints
      obtain ⟨rfl, rfl⟩ := List.cons.inj hmore
      have hhead : rest.head? = some '.' := Decidable.byContradiction fun hne =>
        halike.head.ne_of_ne hne (by decide) (by decide) (by decide) rfl
      obtain ⟨more', rfl⟩ := List.head?_eq_some_iff.1 hhead
      exact List.prefix_append ['.', '.'] more'

/-- The text gives the lexemes. -/
inductive Lexes : Lexer → List Char → List Lexeme → Prop
  | nil {l : Lexer} (h : l.awaited = []) : Lexes l [] []
  | cons {l l' : Lexer} {x : Lexeme} {xs : List Lexeme} {rest : List Char} (h : Reads l x l' rest)
    (hrest : Lexes l' rest xs) : Lexes l (x.source ++ rest) (x :: xs)

theorem lexes_of_end {fuel : Nat} {xs : List Lexeme} (h : lexemesUpTo fuel l [] = some xs) : Lexes l [] xs := by
  have h : (if l.awaited.isEmpty then some [] else none) = some xs := by
    cases fuel <;> exact h
  split at h
  · next hawaited =>
    cases h
    exact .nil (List.isEmpty_iff.1 hawaited)
  · cases h

theorem lexemesUpTo_eq_some {fuel : Nat} {xs : List Lexeme} (h : lexemesUpTo fuel l cs = some xs) : Lexes l cs xs := by
  induction fuel generalizing l cs xs with
  | zero =>
    cases cs with
    | nil => exact lexes_of_end h
    | cons c cs => cases h
  | succ fuel ih =>
    cases cs with
    | nil => exact lexes_of_end h
    | cons c cs =>
      obtain ⟨⟨x, l', rest⟩, hnext, h⟩ := Option.bind_eq_some_iff.1 h
      obtain ⟨xs, hxs, rfl⟩ := Option.map_eq_some_iff.1 h
      obtain ⟨source, hsource, rfl, hreads⟩ := reads_of_next hnext
      rw [← List.cons_append, ← hsource]
      exact .cons hreads (ih hxs)

theorem Lexes.lexemesUpTo {xs : List Lexeme} (h : Lexes l cs xs) :
    ∀ fuel, cs.length ≤ fuel → lexemesUpTo fuel l cs = some xs := by
  induction h with
  | nil hawaited =>
    intro fuel _
    cases fuel <;> exact if_pos (List.isEmpty_iff.2 hawaited)
  | @cons l l' x xs rest h hrest ih =>
    intro fuel hfuel
    obtain ⟨c, source, hsource⟩ := List.exists_cons_of_ne_nil h.source_ne_nil
    rw [hsource, List.cons_append, List.length_cons, List.length_append] at hfuel
    cases fuel with
    | zero => omega
    | succ fuel =>
      rw [hsource, List.cons_append, Lexer.lexemesUpTo, h.next hsource, Option.bind_some]
      dsimp only
      rw [ih fuel (by omega), Option.map_some]

end Lexer

/-! ### Blanks and comments -/

/-- A lexeme with other blanks around it or another comment. -/
inductive Padded : Lexeme → List Char → Prop
  | same (x : Lexeme) : Padded x x.source
  | comment {body body' : List Char} (hbody : '\n' ∉ body') : Padded ⟨'#' :: body, none⟩ ('#' :: body')
  | word {source : List Char} {s : String} (hs : s = "and" ∨ s = "or") :
    Padded ⟨source, some (.keyword s)⟩ (' ' :: source ++ [' '])

/-- A word is read in front of a blank. -/
theorem takeToken_word {s : String} (hs : s = "and" ∨ s = "or") {c : Char} {source : List Char} (cs : List Char)
    (hsource : s.toList = c :: source) : takeToken c (source ++ ' ' :: cs) = some (.keyword s, ' ' :: cs) := by
  rcases hs with rfl | rfl
  · cases hsource
    rfl
  · cases hsource
    rfl

namespace Lexer

variable {l : Lexer} {cs : List Char} {xs : List Lexeme} {us : List (List Char)}

/-- Where a line may start an operand has to stand, and this holds on behind a lexeme. -/
theorem Reads.apart {l' : Lexer} {x : Lexeme} {rest : List Char} {needed : Bool} (h : Reads l x l' rest)
    (hline : l.line? ≠ none → needed = true) (happart : Apart needed ((x :: xs).filterMap Lexeme.token?)) :
    ∃ needed', (l'.line? ≠ none → needed' = true) ∧ Apart needed' (xs.filterMap Lexeme.token?) := by
  cases h with
  | indent hc => exact ⟨needed, fun _ => hline nofun, happart⟩
  | bareJoin => exact ⟨needed, fun _ => hline nofun, happart⟩
  | bareLine => exact ⟨needed, fun _ => hline nofun, happart⟩
  | comment hbody hrest => exact ⟨needed, hline, happart⟩
  | spacing hc => exact ⟨needed, hline, happart⟩
  | newline => exact ⟨true, fun _ => rfl, happart.2⟩
  | innerLine hawaited => exact ⟨needed, hline, happart⟩
  | join hrest => exact ⟨needed, hline, happart⟩
  | opening hl hc hdepth => exact ⟨_, fun h => (h rfl).elim, happart.2⟩
  | closing hl hc hawaited => exact ⟨_, fun h => (h rfl).elim, happart.2⟩
  | token hl ht hspelling => exact ⟨_, fun h => (h rfl).elim, happart.2⟩

theorem Reads.eq_of_comment {l' : Lexer} {body rest : List Char} (h : Reads l ⟨'#' :: body, none⟩ l' rest) :
    l' = l ∧ Stops (· != '\n') rest := by
  cases h with
  | indent hc => cases hc
  | comment hbody hrest => exact ⟨rfl, hrest⟩
  | spacing hc => cases hc

theorem Reads.eq_of_keyword {l' : Lexer} {source rest : List Char} {s : String}
    (h : Reads l ⟨source, some (.keyword s)⟩ l' rest) : source = s.toList := by
  cases h with
  | token hl ht hspelling => exact hspelling.keyword

/-- A blank may stand in front of a word of an operator and behind it. -/
theorem Lexes.word {l' : Lexer} {source rest : List Char} {s : String} {ys : List Lexeme} (hs : s = "and" ∨ s = "or")
    (h : Reads l ⟨source, some (.keyword s)⟩ l' rest) (hline : l.line? = none) (hys : Lexes l' cs ys) :
    Lexes l (' ' :: source ++ [' '] ++ cs) (⟨[' '], none⟩ :: ⟨source, some (.keyword s)⟩ :: ⟨[' '], none⟩ :: ys) := by
  obtain ⟨awaited, line?⟩ := l
  obtain rfl : line? = none := hline
  cases h with
  | token hl ht hspelling =>
    rename_i source c
    have hsource := hspelling.keyword
    have hwords : ∀ c ∈ s.toList, isWordlike c = true := by
      rcases hs with rfl | rfl <;> exact List.all_eq_true.1 rfl
    have htoken := takeToken_word hs cs hsource.symm
    have hspelling' : Spelling (.keyword s) (c :: source) (' ' :: cs) :=
      .word (List.cons_ne_nil c source) (hsource ▸ hwords) nofun nofun fun s' heq => by
        cases heq
        exact hsource
    have hblank {rest : List Char} : Reads ⟨awaited, none⟩ ⟨[' '], none⟩ ⟨awaited, none⟩ rest := .spacing rfl
    have h := Lexes.cons hblank (.cons (.token hl htoken hspelling') (.cons hblank hys))
    simpa using h

/-- Other blanks and comments leave the tokens as they are, and the texts are alike. -/
theorem Lexes.padded (h : Lexes l cs xs) {needed : Bool} (hline : l.line? ≠ none → needed = true)
    (happart : Apart needed (xs.filterMap Lexeme.token?)) (hus : List.Forall₂ Padded xs us) :
    Alike cs us.flatten ∧ ∃ ys, Lexes l us.flatten ys ∧ ys.filterMap Lexeme.token? = xs.filterMap Lexeme.token? := by
  induction h generalizing needed us with
  | nil hawaited =>
    cases hus
    exact ⟨.refl [], [], .nil hawaited, rfl⟩
  | @cons l l' x xs rest hreads hrest ih =>
    obtain _ | ⟨hpadded, hus⟩ := hus
    rename_i u us
    obtain ⟨needed', hline', happart'⟩ := hreads.apart hline happart
    obtain ⟨halike, ys, hys, htokens⟩ := ih hline' happart' hus
    rw [List.flatten_cons]
    cases hpadded with
    | same =>
      refine ⟨hreads.alike halike, x :: ys, .cons (hreads.of_alike halike) hys, ?_⟩
      rw [List.filterMap_cons, List.filterMap_cons, htokens]
    | @comment body body' hbody =>
      obtain ⟨rfl, hrest'⟩ := (hreads.of_alike halike).eq_of_comment
      refine ⟨⟨.inl rfl, fun _ => mayFollowNumber_of_mem_marks (by decide), fun h => ?_⟩, ⟨'#' :: body', none⟩ :: ys,
        .cons (.comment hbody hrest') hys, htokens⟩
      exact absurd (List.cons_prefix_cons.1 h).1 (by decide)
    | @word source s hs =>
      have hinner : l.line? = none := Decidable.byContradiction fun hne => by
        have hdyadic : (Token.keyword s).isDyadic = false := happart.1 (hline hne)
        rcases hs with rfl | rfl <;> cases hdyadic
      refine ⟨⟨?_, fun _ => mayFollowNumber_of_mem_marks (by decide), fun h => ?_⟩, _, .word hs hreads hinner hys, ?_⟩
      · have hsource : source = s.toList := hreads.eq_of_keyword
        rcases hs with rfl | rfl
        · exact .inr ⟨.inl (by rw [hsource]; rfl), .inl rfl⟩
        · exact .inr ⟨.inr (by rw [hsource]; rfl), .inl rfl⟩
      · exact absurd (List.cons_prefix_cons.1 h).1 (by decide)
      · simp [htokens]

end Lexer

/-- The tokens of a text are the same with other comments and with blanks around its `and` and `or`. -/
theorem tokenize_padded {cs : List Char} {xs : List Lexeme} {us : List (List Char)} (h : lexemes cs = some xs)
    (happart : Apart true (xs.filterMap Lexeme.token?)) (hus : List.Forall₂ Padded xs us) :
    tokenize us.flatten = some (xs.filterMap Lexeme.token?) := by
  obtain ⟨-, ys, hys, htokens⟩ := (Lexer.lexemesUpTo_eq_some h).padded (fun _ => rfl) happart hus
  rw [tokenize, lexemes, hys.lexemesUpTo _ (Nat.le_refl _), Option.map_some, htokens]

end IntegrationFlow.Expression
