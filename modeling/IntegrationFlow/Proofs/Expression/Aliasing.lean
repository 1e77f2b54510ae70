import IntegrationFlow.Expression.Evaluate
import IntegrationFlow.Proofs.Expression.Cutting
import IntegrationFlow.Proofs.Text.Trim

/-!
# Operators with aliases

An expression means the same when some of its operators `and`, `or`, `==` and `!=` are written as `&&`, `||`, `===` and
`!==` (`evaluate_respelled`). The aliases are replaced stretch by stretch; since no operator between operands follows
another one directly (`Apart`), no alias is made of characters of two tokens, and each is replaced by itself.
-/

namespace IntegrationFlow.Expression

/-! ### Replacing in parts -/

/-- No alias goes over the border of two texts: the first one does not end with a character of aliases, or the second one
does not begin with one. -/
def Clear (cs ds : List Char) : Prop :=
  (∀ c, cs.getLast? = some c → isAliasChar c = false) ∨ Stops isAliasChar ds

variable {cs ds old new : List Char}

theorem clear_of_forall (h : ∀ c ∈ cs, isAliasChar c = false) : Clear cs ds :=
  .inl fun c hc => h c (List.mem_of_getLast? hc)

theorem Clear.tail {c : Char} (h : Clear (c :: cs) ds) : Clear cs ds := by
  refine h.imp (fun h d hd => h d ?_) id
  cases cs with
  | nil => cases hd
  | cons e cs => rwa [List.getLast?_cons_cons]

/-- A word of alias characters does not begin at the end of one text to go on in the other. -/
theorem isPrefixOf_append_of_clear {c : Char} (hold : ∀ c ∈ old, isAliasChar c = true) (h : Clear (c :: cs) ds) :
    old.isPrefixOf (c :: cs ++ ds) = old.isPrefixOf (c :: cs) := by
  rw [Bool.eq_iff_iff, List.isPrefixOf_iff_prefix, List.isPrefixOf_iff_prefix]
  refine ⟨fun hprefix => ?_, fun hprefix => hprefix.trans (List.prefix_append _ _)⟩
  rcases List.prefix_or_prefix_of_prefix hprefix (List.prefix_append (c :: cs) ds) with hshort | ⟨tail, rfl⟩
  · exact hshort
  · have hlast : ∃ d, (c :: cs).getLast? = some d := ⟨_, List.getLast?_eq_some_getLast (List.cons_ne_nil c cs)⟩
    obtain ⟨d, hd⟩ := hlast
    rcases h with hleft | hright
    · have halias := hold d (List.mem_append_left _ (List.mem_of_getLast? hd))
      exact (Bool.false_ne_true ((hleft d hd).symm.trans halias)).elim
    · cases tail with
      | nil => exact ⟨[], by simp⟩
      | cons e tail =>
        obtain ⟨more, rfl⟩ := (List.prefix_append_right_inj _).1 hprefix
        have halias := hold e (List.mem_append_right _ List.mem_cons_self)
        exact (Bool.false_ne_true ((hright e rfl).symm.trans halias)).elim

theorem substitute_append (hold : ∀ c ∈ old, isAliasChar c = true) {n : Nat} (hn : n ≤ cs.length) (h : Clear cs ds) :
    substitute old new n (cs ++ ds) = substitute old new n cs ++ substitute old new 0 ds := by
  induction cs generalizing n with
  | nil =>
    obtain rfl : n = 0 := Nat.le_zero.1 hn
    rfl
  | cons c cs ih =>
    cases n with
    | succ n => exact ih (Nat.le_of_succ_le_succ hn) h.tail
    | zero =>
      have hprefix := isPrefixOf_append_of_clear hold h
      rw [List.cons_append] at hprefix ⊢
      rw [substitute, substitute, hprefix]
      split
      · next hocc =>
        have hlength := (List.isPrefixOf_iff_prefix.1 hocc).length_le
        rw [List.length_cons] at hlength
        rw [ih (by omega) h.tail, List.append_assoc]
      · rw [ih (Nat.zero_le _) h.tail, List.cons_append]

theorem substitute_cons {c : Char} (hne : old ≠ []) (hold : ∀ c ∈ old, isAliasChar c = true) (hc : isAliasChar c = false) :
    substitute old new 0 (c :: cs) = c :: substitute old new 0 cs := by
  rw [substitute, if_neg]
  intro hprefix
  obtain ⟨d, tail, rfl⟩ := List.exists_cons_of_ne_nil hne
  have hd := (List.cons_prefix_cons.1 (List.isPrefixOf_iff_prefix.1 hprefix)).1
  exact Bool.false_ne_true (hc.symm.trans (hd ▸ hold d List.mem_cons_self))

theorem Clear.substitute (hne : old ≠ []) (hold : ∀ c ∈ old, isAliasChar c = true) (h : Clear cs ds) :
    Clear (substitute old new 0 cs) (substitute old new 0 ds) := by
  rcases h with hleft | hright
  · left
    rcases List.eq_nil_or_concat cs with rfl | ⟨cs, c, rfl⟩
    · exact nofun
    · rw [List.concat_eq_append] at hleft ⊢
      have hc : isAliasChar c = false := hleft c List.getLast?_concat
      rw [substitute_append hold (Nat.zero_le _) (.inr (stops_cons.2 hc)), substitute_cons hne hold hc]
      intro d hd
      rw [Expression.substitute, List.getLast?_concat] at hd
      cases hd
      exact hc
  · right
    cases ds with
    | nil => exact stops_nil _
    | cons d ds =>
      rw [substitute_cons hne hold (stops_cons.1 hright)]
      exact stops_cons.2 (stops_cons.1 hright)

/-- The aliases are made of alias characters. -/
theorem isAliasChar_of_mem_aliases {a : List Char × List Char} (ha : a ∈ aliases) :
    a.1 ≠ [] ∧ ∀ c ∈ a.1, isAliasChar c = true := by
  have hall : (aliases.all fun a => !a.1.isEmpty && a.1.all isAliasChar) = true := rfl
  simpa using List.all_eq_true.1 hall a ha

/-- Texts are replaced one by one where no alias goes over their border. -/
theorem replaceAliases_append (h : Clear cs ds) : replaceAliases (cs ++ ds) = replaceAliases cs ++ replaceAliases ds := by
  have hfold (as : List (List Char × List Char)) (has : ∀ a ∈ as, a ∈ aliases) :
      as.foldl (fun cs a => substitute a.1 a.2 0 cs) (cs ++ ds) =
        as.foldl (fun cs a => substitute a.1 a.2 0 cs) cs ++ as.foldl (fun cs a => substitute a.1 a.2 0 cs) ds := by
    induction as generalizing cs ds with
    | nil => rfl
    | cons a as ih =>
      obtain ⟨hne, hold⟩ := isAliasChar_of_mem_aliases (has a List.mem_cons_self)
      rw [List.foldl_cons, substitute_append hold (Nat.zero_le _) h,
        ih (h.substitute hne hold) fun b hb => has b (List.mem_cons_of_mem a hb)]
      rfl
  exact hfold aliases fun _ => id

theorem replaceAliases_cons {c : Char} (hc : isAliasChar c = false) : replaceAliases (c :: cs) = c :: replaceAliases cs := by
  refine List.foldl_rel (r := fun cs' ds' => cs' = c :: ds') rfl fun a ha cs' ds' h => ?_
  obtain ⟨hne, hold⟩ := isAliasChar_of_mem_aliases ha
  rw [h, substitute_cons hne hold hc]

theorem replaceAliases_of_forall (h : ∀ c ∈ cs, isAliasChar c = false) : replaceAliases cs = cs := by
  induction cs with
  | nil => rfl
  | cons c cs ih =>
    rw [replaceAliases_cons (h c List.mem_cons_self), ih fun d hd => h d (List.mem_cons_of_mem c hd)]

theorem forall_mem_substitute {p : Char → Prop} (hnew : ∀ c ∈ new, p c) {n : Nat} (h : ∀ c ∈ cs, p c) :
    ∀ c ∈ substitute old new n cs, p c := by
  fun_induction substitute old new n cs with
  | case1 => exact nofun
  | case2 n c cs ih => exact ih fun d hd => h d (List.mem_cons_of_mem c hd)
  | case3 c cs hocc ih =>
    rw [List.forall_mem_append]
    exact ⟨hnew, ih fun d hd => h d (List.mem_cons_of_mem c hd)⟩
  | case4 c cs hocc ih =>
    rw [List.forall_mem_cons] at h ⊢
    exact ⟨h.1, ih h.2⟩

/-- Replacing brings in the characters of the operators only. -/
theorem forall_mem_replaceAliases {p : Char → Prop} (hnew : ∀ a ∈ aliases, ∀ c ∈ a.2, p c) (h : ∀ c ∈ cs, p c) :
    ∀ c ∈ replaceAliases cs, p c :=
  List.foldlRecOn (motive := fun ds => ∀ c ∈ ds, p c) aliases _ h fun _ hds a ha => forall_mem_substitute (hnew a ha) hds

theorem not_mem_replaceAliases {c : Char} (hc : ∀ a ∈ aliases, c ∉ a.2) (h : c ∉ cs) : c ∉ replaceAliases cs := fun hmem =>
  forall_mem_replaceAliases (p := (· ≠ c)) (fun a ha _ hd heq => hc a ha (heq ▸ hd)) (fun _ hd heq => h (heq ▸ hd)) c hmem rfl

/-! ### What is replaced in a lexeme -/

theorem not_isAliasChar_of {p : Char → Bool} (hp : (['=', '!', '&', '|'].all fun d => !p d) = true) {c : Char}
    (hc : p c = true) : isAliasChar c = false := by
  refine Bool.eq_false_iff.2 fun halias => ?_
  have hmem : c ∈ ['=', '!', '&', '|'] := by simpa [isAliasChar, or_assoc] using halias
  have hnot := List.all_eq_true.1 hp c hmem
  rw [hc] at hnot
  cases hnot

theorem not_isAliasChar_of_mem_marks {c : Char} (hc : c ∈ marks) : isAliasChar c = false :=
  not_isAliasChar_of (p := marks.contains) rfl (List.contains_iff_mem.2 hc)

theorem not_isAliasChar_of_isWordlike {c : Char} (hc : isWordlike c = true) : isAliasChar c = false :=
  not_isAliasChar_of rfl hc

theorem not_isAliasChar_of_isQuote {c : Char} (hc : isQuote c = true) : isAliasChar c = false :=
  not_isAliasChar_of rfl hc

/-- Operators that are no aliases stay as they are. -/
theorem replaceAliases_symbol {s : String} (hs : s ∈ symbols) : replaceAliases s.toList = s.toList := by
  have hall : (symbols.all fun s => replaceAliases s.toList == s.toList) = true := by decide +kernel
  exact beq_iff_eq.1 (List.all_eq_true.1 hall s hs)

/-- The characters of a lexeme, or an alias in place of its operator. -/
inductive Respelled : Lexeme → List Char → Prop
  | same (x : Lexeme) : Respelled x x.source
  | and (source : List Char) : Respelled ⟨source, some (.keyword "and")⟩ "&&".toList
  | or (source : List Char) : Respelled ⟨source, some (.keyword "or")⟩ "||".toList
  | equal (source : List Char) : Respelled ⟨source, some (.symbol "==")⟩ "===".toList
  | unequal (source : List Char) : Respelled ⟨source, some (.symbol "!=")⟩ "!==".toList

/-- Only operators between operands have aliases. -/
theorem Respelled.eq_source {x : Lexeme} {piece : List Char} (h : Respelled x piece)
    (hx : ∀ t, x.token? = some t → t.isDyadic = false) : piece = x.source := by
  cases h with
  | same => rfl
  | and => cases hx _ rfl
  | or => cases hx _ rfl
  | equal => cases hx _ rfl
  | unequal => cases hx _ rfl

/-- A lexeme is made of marks, or it is a comment, or a token that is no bracket. -/
theorem Lexer.Reads.kind {l l' : Lexer} {x : Lexeme} {rest : List Char} (h : Lexer.Reads l x l' rest) :
    ((∀ c ∈ x.source, c ∈ marks) ∧ ∀ t, x.token? = some t → t.isDyadic = false) ∨
      (∃ body, x = ⟨'#' :: body, none⟩ ∧ '\n' ∉ body ∧ Stops (· != '\n') rest) ∨
        ∃ t, x.token? = some t ∧ Spelling t x.source rest ∧ l' = { l with line? := none } := by
  have hmarks {cs : List Char} (h : cs.all marks.contains = true) : ∀ c ∈ cs, c ∈ marks := fun c hc =>
    List.contains_iff_mem.1 (List.all_eq_true.1 h c hc)
  have hsingle {c : Char} (hc : c ∈ marks) (t : Token) (ht : some (Token.symbol (String.singleton c)) = some t) :
      t.isDyadic = false := by
    cases ht
    simpa [Token.isDyadic] using not_isAliasChar_of_mem_marks hc
  cases h with
  | indent hc => exact .inl ⟨by simpa using mem_marks_of_isSpacing (isSpacing_of_column? hc), nofun⟩
  | bareJoin => exact .inl ⟨hmarks rfl, nofun⟩
  | bareLine => exact .inl ⟨hmarks rfl, nofun⟩
  | comment hbody hrest => exact .inr (.inl ⟨_, rfl, hbody, hrest⟩)
  | spacing hc => exact .inl ⟨by simpa using mem_marks_of_isSpacing hc, nofun⟩
  | newline => exact .inl ⟨hmarks rfl, fun t ht => by cases ht; rfl⟩
  | innerLine hawaited => exact .inl ⟨hmarks rfl, nofun⟩
  | join hrest => exact .inl ⟨hmarks rfl, nofun⟩
  | opening hl hc hdepth =>
    exact .inl ⟨by simpa using mem_marks_of_closing? hc, hsingle (mem_marks_of_closing? hc)⟩
  | closing hl hc hawaited =>
    exact .inl ⟨by simpa using mem_marks_of_isClosing hc, hsingle (mem_marks_of_isClosing hc)⟩
  | token hl ht hspelling => exact .inr (.inr ⟨_, rfl, hspelling, rfl⟩)

namespace Search

variable {s s' : Search} {l l' : Lexer} {x : Lexeme} {rest rest' piece : List Char} {segments : List Segment}

theorem expand_push (hcuts : Cuts s rest segments) (h : Clear piece rest) :
    ((Segment.code piece).push segments).flatMap Segment.expand =
      replaceAliases piece ++ segments.flatMap Segment.expand := by
  rcases segments with _ | ⟨ds | q, segments⟩
  · rfl
  · have hclear : Clear piece ds := by
      refine h.imp id fun hstops c hc => hstops c ?_
      rw [← hcuts.eq]
      obtain ⟨tail, rfl⟩ := List.head?_eq_some_iff.1 hc
      rfl
    simp only [Segment.push, List.flatMap_cons, Segment.expand, replaceAliases_append hclear, List.append_assoc]
  · rfl

/-- The lexeme is an operator between operands. -/
def IsOperator (x : Lexeme) : Prop :=
  ∃ t, x.token? = some t ∧ t.isDyadic = true

/-- Over each spelling of a lexeme the search goes from one state to another, and the aliases in it are replaced. -/
def Carries (s : Search) (x : Lexeme) (s' : Search) (rest : List Char) : Prop :=
  ∀ piece rest' segments, Respelled x piece → HeadAlike rest rest' → (IsOperator x → Stops isAliasChar rest') →
    Cuts s' rest' segments → ∃ segments' u, Cuts s (piece ++ rest') segments' ∧
      segments'.flatMap Segment.expand = u ++ segments.flatMap Segment.expand ∧ Padded x u ∧ '\r' ∉ u

theorem carries_of_passes
    (hpasses : ∀ piece rest', Respelled x piece → HeadAlike rest rest' → (IsOperator x → Stops isAliasChar rest') →
      Passes s piece s' rest' ∧ Clear piece rest')
    (hpadded : ∀ piece, Respelled x piece → Padded x (replaceAliases piece) ∧ '\r' ∉ replaceAliases piece) :
    Carries s x s' rest := fun piece rest' segments hpiece halike hoperator hcuts => by
  obtain ⟨hpass, hclear⟩ := hpasses piece rest' hpiece halike hoperator
  obtain ⟨hu, hreturn⟩ := hpadded piece hpiece
  exact ⟨_, _, (hpass _).2 ⟨segments, hcuts, rfl⟩, expand_push hcuts hclear, hu, hreturn⟩

/-- A spelling is the characters of the lexeme, or an alias: plain code that is replaced by the operator. -/
theorem eq_or_of_respelled (h : Respelled x piece)
    (hspelled : ∀ u, x.token? = some (.keyword u) ∨ x.token? = some (.symbol u) → x.source = u.toList) :
    piece = x.source ∨ IsOperator x ∧ piece ≠ [] ∧ (∀ c ∈ piece, IsPlain c) ∧ Padded x (replaceAliases piece) ∧
      '\r' ∉ replaceAliases piece := by
  cases h with
  | same => exact .inl rfl
  | and source =>
    obtain rfl : source = "and".toList := hspelled _ (.inl rfl)
    have hpadded : replaceAliases "&&".toList = ' ' :: "and".toList ++ [' '] := by decide
    rw [hpadded]
    exact .inr ⟨⟨_, rfl, rfl⟩, by decide, isPlain_of_all rfl, .word (.inl rfl), by decide⟩
  | or source =>
    obtain rfl : source = "or".toList := hspelled _ (.inl rfl)
    have hpadded : replaceAliases "||".toList = ' ' :: "or".toList ++ [' '] := by decide
    rw [hpadded]
    exact .inr ⟨⟨_, rfl, rfl⟩, by decide, isPlain_of_all rfl, .word (.inr rfl), by decide⟩
  | equal source =>
    obtain rfl : source = "==".toList := hspelled _ (.inr rfl)
    have hpadded : replaceAliases "===".toList = "==".toList := by decide
    rw [hpadded]
    exact .inr ⟨⟨_, rfl, rfl⟩, by decide, isPlain_of_all rfl, .same _, by decide⟩
  | unequal source =>
    obtain rfl : source = "!=".toList := hspelled _ (.inr rfl)
    have hpadded : replaceAliases "!==".toList = "!=".toList := by decide
    rw [hpadded]
    exact .inr ⟨⟨_, rfl, rfl⟩, by decide, isPlain_of_all rfl, .same _, by decide⟩

/-- The search goes over words and operators in any spelling. -/
theorem carries_of_plain (hne : x.source ≠ []) (hplain : ∀ c ∈ x.source, IsPlain c)
    (hclear : ¬IsOperator x → ∀ c ∈ x.source, isAliasChar c = false) (hsame : replaceAliases x.source = x.source)
    (hspelled : ∀ u, x.token? = some (.keyword u) ∨ x.token? = some (.symbol u) → x.source = u.toList)
    (hreturn : '\r' ∉ x.source) (henter : s.enter = some s') : Carries s x s' rest := by
  refine carries_of_passes (fun piece rest' hpiece _ hoperator => ?_) fun piece hpiece => ?_
  · rcases eq_or_of_respelled hpiece hspelled with rfl | ⟨hx, hne, hplain, -⟩
    · refine ⟨passes_plain hne hplain henter, ?_⟩
      by_cases hx : IsOperator x
      · exact .inr (hoperator hx)
      · exact clear_of_forall (hclear hx)
    · exact ⟨passes_plain hne hplain henter, .inr (hoperator hx)⟩
  · rcases eq_or_of_respelled hpiece hspelled with rfl | ⟨-, -, -, hpadded, hreturn⟩
    · rw [hsame]
      exact ⟨.same x, hreturn⟩
    · exact ⟨hpadded, hreturn⟩

/-- The search finds each literal of the text. -/
theorem carries_of_literal {front : List Char} {q : Quoted} {t : Token} (ht : x.token? = some t)
    (hsource : x.source = front ++ q.source) (hliteral : literalToken? front q = some t)
    (hfront : ∀ c ∈ front, continuesName c = true) (hq : q.IsRead rest) (hreturn : '\r' ∉ x.source)
    (henter : s.enter = some s') : Carries s x s' rest := fun piece rest' segments hpiece halike _ hcuts => by
  have hpiece : piece = x.source := hpiece.eq_source fun t' ht' => by
    rw [ht] at ht'
    cases ht'
    obtain ⟨_, rfl⟩ | ⟨_, rfl⟩ | ⟨_, rfl⟩ := literalToken?_eq_some hliteral <;> rfl
  have hline := (enter_eq_some henter).1
  have hword (c : Char) (hc : c ∈ front) : isWordlike c = true := by simp [isWordlike, hfront c hc]
  rw [hpiece, hsource, List.append_assoc]
  cases front with
  | nil =>
    refine ⟨.literal q :: segments, x.source, ?_, ?_, .same x, hreturn⟩
    · exact (cuts_literal (hq.of_headAlike halike)).2 ⟨s', segments, henter, hcuts, rfl⟩
    · rw [List.flatMap_cons, Segment.expand, hsource]
      rfl
  | cons c front =>
    have hliteral' := (cuts_literal (hq.of_headAlike halike)).2 ⟨s', segments, enter_of_line? hline, hcuts, rfl⟩
    refine ⟨.code (c :: front) :: .literal q :: segments, x.source, ?_, ?_, .same x, hreturn⟩
    · exact (cuts_plain (List.cons_ne_nil c front) fun d hd => isPlain_of_isWordlike (hword d hd)).2
        ⟨s', _, henter, hliteral', rfl⟩
    · rw [List.flatMap_cons, List.flatMap_cons, Segment.expand, Segment.expand, hsource,
        replaceAliases_of_forall fun d hd => not_isAliasChar_of_isWordlike (hword d hd), List.append_assoc]

theorem carries_of_spelling {t : Token} (ht : x.token? = some t) (h : Spelling t x.source rest) (hreturn : '\r' ∉ x.source)
    (henter : s.enter = some s') : Carries s x s' rest := by
  generalize hsource : x.source = source at h
  cases h with
  | word hne hword hsymbol hline hkeyword =>
    subst hsource
    have hclear (c : Char) (hc : c ∈ x.source) := not_isAliasChar_of_isWordlike (hword c hc)
    refine carries_of_plain hne (fun c hc => isPlain_of_isWordlike (hword c hc)) (fun _ => hclear)
      (replaceAliases_of_forall hclear) (fun u hu => ?_) hreturn henter
    rcases hu with hu | hu
    · exact hkeyword u (Option.some.inj (ht.symm.trans hu))
    · exact (hsymbol u (Option.some.inj (ht.symm.trans hu))).elim
  | literal hfront hliteral hq => exact carries_of_literal ht hsource hliteral hfront hq hreturn henter
  | @symbol u _ hs =>
    refine carries_of_plain (hsource ▸ ne_nil_of_mem_symbols _ hs)
      (fun c hc => isPlain_of_mem_symbols hs (hsource ▸ hc)) (fun hx => ?_) (hsource ▸ replaceAliases_symbol hs)
      (fun u hu => ?_) hreturn henter
    · exact fun c hc => Bool.eq_false_iff.2 fun halias =>
        hx ⟨_, ht, List.any_eq_true.2 ⟨c, hsource ▸ hc, halias⟩⟩
    · rcases hu with hu | hu
      · cases ht.symm.trans hu
      · cases ht.symm.trans hu
        exact hsource

/-- The search goes over each lexeme in any spelling as the lexer does. -/
theorem exists_carries (h : Lexer.Reads l x l' rest) (hlinked : Linked l s) (hreturn : '\r' ∉ x.source)
    (hcuts : Cuts s (x.source ++ rest) segments) :
    ∃ s' segments', Linked l' s' ∧ Cuts s' rest segments' ∧ Carries s x s' rest := by
  rcases h.kind with ⟨hmarks, hdyadic⟩ | ⟨body, rfl, hbody, hrest⟩ | ⟨t, ht, hspelling, rfl⟩
  · rcases passes_of_reads h hlinked hreturn hcuts with ⟨s', hlinked', hpasses⟩ | ⟨t, -, hspelling, -⟩
    · obtain ⟨segments', hcuts', -⟩ := (hpasses rest (.refl rest) segments).1 hcuts
      have hclear (c : Char) (hc : c ∈ x.source) := not_isAliasChar_of_mem_marks (hmarks c hc)
      refine ⟨s', segments', hlinked', hcuts', carries_of_passes (fun piece rest' hpiece halike _ => ?_)
        fun piece hpiece => ?_⟩
      · rw [hpiece.eq_source hdyadic]
        exact ⟨hpasses rest' halike, clear_of_forall hclear⟩
      · rw [hpiece.eq_source hdyadic, replaceAliases_of_forall hclear]
        exact ⟨.same x, hreturn⟩
    · obtain ⟨c, source, hsource⟩ := List.exists_cons_of_ne_nil h.source_ne_nil
      rw [hsource] at hspelling hmarks
      exact (hspelling.not_mem_marks (hmarks c List.mem_cons_self)).elim
  · rcases passes_of_reads h hlinked hreturn hcuts with ⟨s', hlinked', hpasses⟩ | ⟨t, ht, -⟩
    · obtain ⟨segments', hcuts', -⟩ := (hpasses rest (.refl rest) segments).1 hcuts
      refine ⟨s', segments', hlinked', hcuts', carries_of_passes (fun piece rest' hpiece halike _ => ?_)
        fun piece hpiece => ?_⟩
      · rw [hpiece.eq_source nofun]
        refine ⟨hpasses rest' halike, .inr fun c hc => ?_⟩
        obtain rfl : c = '\n' := by simpa using halike.stops_line hrest c hc
        rfl
      · rw [hpiece.eq_source nofun, replaceAliases_cons rfl]
        exact ⟨.comment (not_mem_replaceAliases (by decide) hbody), fun h => (List.mem_cons.1 h).elim (by decide)
          (not_mem_replaceAliases (by decide) fun h => hreturn (List.mem_cons_of_mem _ h))⟩
    · cases ht
  · obtain ⟨s₁, segments', henter, hcuts'⟩ := (exists_cuts_iff hspelling).1 ⟨_, hcuts⟩
    obtain ⟨hline, hdepth⟩ := enter_eq_some henter
    exact ⟨s₁, segments', linked_inLine hline (hdepth.trans hlinked.depth), hcuts',
      carries_of_spelling ht hspelling hreturn henter⟩

end Search

/-! ### Whole texts -/

open Search (IsOperator)

namespace Lexer

variable {l l' : Lexer} {x : Lexeme} {rest rest' piece : List Char}

/-- Words and operators are written as they are. -/
theorem Reads.eq_of_operator (h : Reads l x l' rest) (u : String)
    (hx : x.token? = some (.keyword u) ∨ x.token? = some (.symbol u)) : x.source = u.toList := by
  have hsingle {c : Char} (h : some (Token.symbol (String.singleton c)) = some (.keyword u) ∨
      some (Token.symbol (String.singleton c)) = some (.symbol u)) : [c] = u.toList := by
    rcases h with h | h <;> cases h
    simp
  cases h with
  | opening => exact hsingle hx
  | closing => exact hsingle hx
  | token hl ht hspelling =>
    obtain ⟨⟨⟩⟩ | ⟨⟨⟩⟩ := hx
    · exact hspelling.keyword
    · exact hspelling.symbol_eq
  | _ => rcases hx with hx | hx <;> cases hx

theorem Reads.headAlike (h : Reads l x l' rest) (hpiece : Respelled x piece) (halike : HeadAlike rest rest') :
    HeadAlike (x.source ++ rest) (piece ++ rest') := by
  have hspelled := h.eq_of_operator
  cases hpiece with
  | same => exact halike.append x.source
  | and source =>
    obtain rfl : source = "and".toList := hspelled _ (.inl rfl)
    exact .inr ⟨.inl rfl, .inr (.inl rfl)⟩
  | or source =>
    obtain rfl : source = "or".toList := hspelled _ (.inl rfl)
    exact .inr ⟨.inr rfl, .inr (.inr rfl)⟩
  | equal source =>
    obtain rfl : source = "==".toList := hspelled _ (.inr rfl)
    exact .inl rfl
  | unequal source =>
    obtain rfl : source = "!=".toList := hspelled _ (.inr rfl)
    exact .inl rfl

/-- Only operators between operands begin with characters of aliases. -/
theorem Reads.stops_isAliasChar (h : Reads l x l' rest) (hx : ¬IsOperator x) (rest' : List Char) :
    Stops isAliasChar (x.source ++ rest') := by
  obtain ⟨c, source, hsource⟩ := List.exists_cons_of_ne_nil h.source_ne_nil
  suffices isAliasChar c = false by
    rw [hsource]
    exact stops_cons.2 this
  rcases h.kind with ⟨hmarks, -⟩ | ⟨body, rfl, -⟩ | ⟨t, ht, hspelling, -⟩
  · exact not_isAliasChar_of_mem_marks (hmarks c (hsource ▸ List.mem_cons_self))
  · cases hsource
    rfl
  · generalize x.source = source' at hspelling hsource
    cases hspelling with
    | word hne hword => exact not_isAliasChar_of_isWordlike (hword c (hsource ▸ List.mem_cons_self))
    | @literal _ front _ q hfront hliteral hq =>
      cases front with
      | nil =>
        rw [List.nil_append, Quoted.source_eq, List.cons.injEq] at hsource
        exact hsource.1 ▸ not_isAliasChar_of_isQuote hq.1
      | cons d front =>
        rw [List.cons_append, List.cons.injEq] at hsource
        have hd := hfront d List.mem_cons_self
        exact hsource.1 ▸ not_isAliasChar_of_isWordlike (by simp [isWordlike, hd])
    | @symbol u _ hs =>
      exact Bool.eq_false_iff.2 fun halias => hx ⟨_, ht, List.any_eq_true.2 ⟨c, hsource ▸ List.mem_cons_self, halias⟩⟩

/-- In any spelling of its lexemes a text is cut into stretches that give, with their aliases replaced, the lexemes with
other blanks and comments. -/
theorem Lexes.respelled {cs : List Char} {xs : List Lexeme} (h : Lexes l cs xs) {s : Search} {segments : List Segment}
    {needed : Bool} {pieces : List (List Char)} (hlinked : Search.Linked l s) (hreturn : '\r' ∉ cs)
    (hcuts : Search.Cuts s cs segments) (happart : Apart needed (xs.filterMap Lexeme.token?))
    (hpieces : List.Forall₂ Respelled xs pieces) :
    HeadAlike cs pieces.flatten ∧ (needed = true → Stops isAliasChar pieces.flatten) ∧
      ∃ found us, Search.Cuts s pieces.flatten found ∧ found.flatMap Segment.expand = us.flatten ∧
        List.Forall₂ Padded xs us ∧ '\r' ∉ us.flatten := by
  induction h generalizing s segments needed pieces with
  | nil =>
    cases hpieces
    refine ⟨.refl [], fun _ => stops_nil _, segments, [], hcuts, ?_, .nil, List.not_mem_nil⟩
    cases hcuts
    rfl
  | @cons l l' x xs rest hreads hrest ih =>
    obtain _ | ⟨hpiece, hpieces⟩ := hpieces
    rename_i piece pieces
    rw [List.mem_append, not_or] at hreturn
    obtain ⟨s', segments', hlinked', hcuts', hcarries⟩ := Search.exists_carries hreads hlinked hreturn.1 hcuts
    -- Behind an operator an operand has to stand, which does not begin like the rest of an alias.
    obtain ⟨needed', hneeded, happart'⟩ : ∃ needed', (IsOperator x → needed' = true) ∧
        Apart needed' (xs.filterMap Lexeme.token?) := by
      obtain ⟨source, _ | t⟩ := x
      · refine ⟨needed, fun hx => ?_, happart⟩
        obtain ⟨_, ht, -⟩ := hx
        cases ht
      · refine ⟨_, fun hx => ?_, happart.2⟩
        obtain ⟨_, ht, hdyadic⟩ := hx
        cases ht
        rw [hdyadic, Bool.true_or]
    obtain ⟨halike, hstops, found, us, hfound, hus, hpadded, hplain⟩ := ih hlinked' hreturn.2 hcuts' happart' hpieces
    obtain ⟨found', u, hfound', hu, hpadded', hplain'⟩ :=
      hcarries piece _ found hpiece halike (fun hx => hstops (hneeded hx)) hfound
    refine ⟨hreads.headAlike hpiece halike, fun hneeds => ?_, found', u :: us, hfound', ?_, .cons hpadded' hpadded, ?_⟩
    · have hx : ∀ t, x.token? = some t → t.isDyadic = false := by
        obtain ⟨source, _ | t⟩ := x
        · exact nofun
        · intro t' ht'
          cases ht'
          exact happart.1 hneeds
      rw [List.flatten_cons, hpiece.eq_source hx]
      refine hreads.stops_isAliasChar (fun ⟨t, ht, hdyadic⟩ => ?_) _
      rw [hx t ht] at hdyadic
      cases hdyadic
    · rw [hu, hus, List.flatten_cons]
    · rw [List.flatten_cons, List.mem_append, not_or]
      exact ⟨hplain', hplain⟩

end Lexer

/-! ### Whole expressions -/

/-- The characters of a text that are read: the blanks around them are dropped, and pairs of line breaks are joined. -/
def stripped (text : String) : List Char :=
  joinBreaks (Text.trim text.toList)

/-- A text writes an expression without any aliases: its lexemes, and the expression that their tokens write. -/
structure Writes (text : String) (xs : List Lexeme) (e : Expr) : Prop where
  lexemes : lexemes (stripped text) = some xs
  expression : ofTokens? (xs.filterMap Lexeme.token?) = some e
  readable : Char.ofNat 0 ∉ text.toList

/-- A text has the lexemes, with aliases in place of some of the operators. -/
def Respells (text : String) (xs : List Lexeme) : Prop :=
  ∃ pieces, List.Forall₂ Respelled xs pieces ∧ stripped text = pieces.flatten

/-- The search finds its way through a text, in which every line is ended by a line feed. -/
structure Searchable (text : String) : Prop where
  fed : '\r' ∉ stripped text
  found : (segments (stripped text)).isSome = true

theorem mem_joinBreaks {c : Char} {cs : List Char} (hc : c ≠ '\r') : c ∈ joinBreaks cs ↔ c ∈ cs := by
  fun_induction joinBreaks cs with
  | case1 cs ih => simp [ih, hc]
  | case2 d cs hpair ih => simp [ih]
  | case3 => rfl

theorem Lexer.Lexes.flatMap_source {l : Lexer} {cs : List Char} {xs : List Lexeme} (h : Lexer.Lexes l cs xs) :
    xs.flatMap Lexeme.source = cs := by
  induction h with
  | nil => rfl
  | cons h hrest ih => rw [List.flatMap_cons, ih]

/-- The aliases bring in no other characters than their own. -/
theorem mem_of_mem_pieces {xs : List Lexeme} {pieces : List (List Char)} (h : List.Forall₂ Respelled xs pieces) {c : Char}
    (hc : isAliasChar c = false) (hmem : c ∈ pieces.flatten) : c ∈ xs.flatMap Lexeme.source := by
  induction h with
  | nil => exact hmem
  | @cons x piece xs pieces hpiece hpieces ih =>
    rw [List.flatten_cons, List.mem_append] at hmem
    rw [List.flatMap_cons, List.mem_append]
    refine hmem.imp (fun hmem => ?_) ih
    have halias {cs : List Char} (hcs : cs.all isAliasChar = true) (hmem : c ∈ cs) : c ∈ x.source :=
      (Bool.false_ne_true (hc.symm.trans (List.all_eq_true.1 hcs c hmem))).elim
    cases hpiece with
    | same => exact hmem
    | and => exact halias rfl hmem
    | or => exact halias rfl hmem
    | equal => exact halias rfl hmem
    | unequal => exact halias rfl hmem

variable {text text' : String} {xs : List Lexeme} {e : Expr}

/-- The tokens of a text with aliases are those of the text without them. -/
theorem Respells.tokenize (h' : Respells text' xs) (h : Writes text xs e) (hsearch : Searchable text) :
    HeadAlike (stripped text) (stripped text') ∧
      tokenize (feedReturns (expandAliases (stripped text'))) = some (xs.filterMap Lexeme.token?) := by
  obtain ⟨pieces, hpieces, htext'⟩ := h'
  obtain ⟨segs, hsegs⟩ := Option.isSome_iff_exists.1 hsearch.found
  have hapart := apart_of_ofTokens? h.expression
  obtain ⟨halike, -, found, us, hfound, hus, hpadded, hreturn⟩ := (Lexer.lexemesUpTo_eq_some h.lexemes).respelled
    Search.linked_default hsearch.fed (Search.cuts_of_segmentsUpTo hsegs) hapart hpieces
  rw [htext']
  refine ⟨halike, ?_⟩
  have hexpand : expandAliases pieces.flatten = us.flatten := by
    rw [expandAliases, segments, hfound.segmentsUpTo _ (Nat.le_refl _)]
    exact hus
  rw [hexpand, feedReturns_eq_self hreturn]
  exact tokenize_padded h.lexemes hapart hpadded

/-- A text with aliases is read as the text without them. -/
theorem Respells.read (h' : Respells text' xs) (h : Writes text xs e) (hsearch : Searchable text)
    (hlength : text'.length ≤ maxLength) : read text' = .ok e := by
  obtain ⟨halike, htokens⟩ := h'.tokenize h hsearch
  have hne : stripped text ≠ [] := by
    intro hnil
    have hxs := h.lexemes
    rw [hnil] at hxs
    cases hxs
    cases h.expression
  have hblank : Text.isAllBlank text'.toList = false := Bool.eq_false_iff.2 fun hblank => by
    refine halike.ne_nil hne ?_
    rw [stripped, Text.trim_eq_nil hblank]
    rfl
  have hreadable : Char.ofNat 0 ∉ text'.toList := by
    intro hmem
    obtain ⟨pieces, hpieces, htext'⟩ := h'
    have hstripped : Char.ofNat 0 ∈ stripped text' :=
      (mem_joinBreaks (by decide)).2 (Text.mem_trim hmem (by decide))
    have hsource := mem_of_mem_pieces hpieces rfl (htext' ▸ hstripped)
    rw [(Lexer.lexemesUpTo_eq_some h.lexemes).flatMap_source] at hsource
    exact h.readable (Text.mem_of_mem_trim ((mem_joinBreaks (by decide)).1 hsource))
  have hparse : parse (Text.trim text'.toList) = some e := by
    rw [parse, parsePlain]
    exact (congrArg (·.bind ofTokens?) htokens).trans h.expression
  unfold Expression.read
  rw [if_neg (by rw [hblank]; exact Bool.false_ne_true), if_neg (Nat.not_lt.2 hlength),
    if_neg (by simpa using hreadable), hparse]

/-- The lexemes of two comparisons, one with an alias in a literal. -/
def comparisons : List Lexeme :=
  [⟨['1'], some (.number (.int 1))⟩, ⟨[' '], none⟩, ⟨"==".toList, some (.symbol "==")⟩, ⟨[' '], none⟩,
    ⟨['1'], some (.number (.int 1))⟩, ⟨[' '], none⟩, ⟨"and".toList, some (.keyword "and")⟩, ⟨[' '], none⟩,
    ⟨"'a&&b'".toList, some (.text (Text.points "a&&b".toList))⟩, ⟨[' '], none⟩, ⟨"!=".toList, some (.symbol "!=")⟩,
    ⟨[' '], none⟩, ⟨"'a and b'".toList, some (.text (Text.points "a and b".toList))⟩]

end IntegrationFlow.Expression
