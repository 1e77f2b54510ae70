import IntegrationFlow.Json.Reader
import IntegrationFlow.Proofs.Json.Number
import IntegrationFlow.Proofs.Json.Plain

/-!
# The tokens of a written value

A value that is written with indentation is read as its tokens (`lex_pretty`). `Lexes` says which tokens a text gives; each
kind of value puts its own tokens in front of those of the text that follows.
-/

namespace IntegrationFlow.Json

/-! ### Texts -/

/-- The code of a control character as four hexadecimal digits. -/
private theorem exists_hexText {n : Nat} (h : n < 32) :
    ∃ a b c d, hexText 4 n = [a, b, c, d] ∧ hex4? a b c d = some n := by
  interval_cases n <;> exact ⟨_, _, _, _, rfl, rfl⟩

/-- A text that is written between quotes is read character by character. -/
private theorem lexText_escapeChar (c : Char) (cs : List Char) :
    lexText (escapeChar c ++ cs) = consRead c (lexText cs) := by
  unfold escapeChar
  split
  · next h =>
    simp only [Bool.or_eq_true, beq_iff_eq] at h
    rcases h with rfl | rfl <;> rfl
  split
  · next h => rw [beq_iff_eq.1 h]; rfl
  split
  · next h => rw [beq_iff_eq.1 h]; rfl
  split
  · next h => rw [beq_iff_eq.1 h]; rfl
  split
  · next h => rw [beq_iff_eq.1 h]; rfl
  split
  · next h => rw [beq_iff_eq.1 h]; rfl
  split
  · next h =>
    obtain ⟨a, b, d, e, hhex, hvalue⟩ := exists_hexText h
    rw [hhex]
    simp only [List.cons_append, List.nil_append]
    rw [lexText, hvalue]
    dsimp only
    rw [if_neg (by omega), if_neg (by omega), Char.ofNat_toNat]
  · next hquote _ _ _ _ _ hlarge =>
    simp only [Bool.or_eq_true, beq_iff_eq, not_or] at hquote
    rw [List.singleton_append, lexText, if_neg hlarge]
    · exact hquote.1
    · rintro a b d e rest rfl
      exact absurd rfl hquote.2
    · rintro d rest rfl
      exact absurd rfl hquote.2

theorem lexText_flatMap (cs rest : List Char) : lexText (cs.flatMap escapeChar ++ '"' :: rest) = some (cs, rest) := by
  induction cs with
  | nil => rfl
  | cons c cs ih =>
    rw [List.flatMap_cons, List.append_assoc, lexText_escapeChar, ih]
    rfl

theorem lexToken_quote (s : String) (rest : List Char) : lexToken ((quote s).toList ++ rest) = some (.text s, rest) := by
  have htext := lexText_flatMap s.toList rest
  unfold quote
  simp only [String.toList_ofList, List.cons_append, List.append_assoc, List.nil_append, lexToken, htext, Option.map_some,
    String.ofList_toList]

/-! ### Token lists -/

/-- The text gives the tokens. -/
inductive Lexes : List Char → List Token → Prop
  | nil : Lexes [] []
  | space {c : Char} {cs : List Char} {ts : List Token} (hc : isSpace c = true) (h : Lexes cs ts) : Lexes (c :: cs) ts
  | token {cs rest : List Char} {t : Token} {ts : List Token} (ht : lexToken cs = some (t, rest))
    (hshort : rest.length < cs.length) (h : Lexes rest ts) : Lexes cs (t :: ts)

/-- No token begins with white space. -/
theorem isSpace_of_lexToken {c : Char} {cs : List Char} {r : Token × List Char} (h : lexToken (c :: cs) = some r) :
    isSpace c = false := by
  by_contra hc
  rw [Bool.not_eq_false] at hc
  simp only [isSpace, Bool.or_eq_true, beq_iff_eq, or_assoc] at hc
  rcases hc with rfl | rfl | rfl | rfl <;>
    simp [lexToken, lexWord, words, dropWord?, lexUnsigned, takeAsciiDigits] at h

theorem Lexes.lexUpTo {cs : List Char} {ts : List Token} (h : Lexes cs ts) :
    ∀ fuel, cs.length < fuel → lexUpTo fuel cs = some ts := by
  induction h with
  | nil =>
    rintro (_ | fuel) hfuel
    · cases hfuel
    · rfl
  | space hc h ih =>
    rintro (_ | fuel) hfuel
    · cases hfuel
    · rw [← ih (fuel + 1) (by rw [List.length_cons] at hfuel; omega), Json.lexUpTo, Json.lexUpTo,
        List.dropWhile_cons_of_pos hc]
  | @token cs rest t ts ht hshort h ih =>
    rintro (_ | fuel) hfuel
    · cases hfuel
    · cases cs with
      | nil => cases hshort
      | cons c cs =>
        rw [Json.lexUpTo, List.dropWhile_cons_of_neg (by simp [isSpace_of_lexToken ht])]
        simp only [ht, Option.bind_some, ih fuel (by omega), Option.map_some]

theorem Lexes.lex {s : String} {ts : List Token} (h : Lexes s.toList ts) : lex s = some ts :=
  h.lexUpTo _ (by rw [String.length_toList]; omega)

/-- White space gives no tokens. -/
theorem Lexes.spaces {cs rest : List Char} {ts : List Token} (hcs : ∀ c ∈ cs, isSpace c = true) (h : Lexes rest ts) :
    Lexes (cs ++ rest) ts := by
  induction cs with
  | nil => exact h
  | cons c cs ih => exact .space (hcs c List.mem_cons_self) (ih fun d hd => hcs d (List.mem_cons_of_mem c hd))

theorem Lexes.indentation {rest : List Char} {ts : List Token} (level : Nat) (h : Lexes rest ts) :
    Lexes ((indentation level).toList ++ rest) ts := by
  refine .spaces (fun c hc => ?_) h
  unfold Json.indentation at hc
  rw [String.toList_append, List.mem_append] at hc
  rcases hc with hc | hc
  · rw [List.mem_singleton.1 hc]; rfl
  rw [String.toList_ofList] at hc
  rw [List.eq_of_mem_replicate hc]; rfl

/-! ### Values -/

/-- The tokens of a key. -/
def keyToken : Key → Token
  | .text s => .text s
  | _ => .null

mutual

/-- The tokens that write a value. -/
def tokens : Value → List Token
  | .bool b => [.bool b]
  | .int n => [.int n]
  | .float x => [.float x]
  | .text s => [.text s]
  | .list [] => [.leftBracket, .rightBracket]
  | .list (v :: vs) => .leftBracket :: (tokens v ++ (moreItems vs ++ [.rightBracket]))
  | .object [] => [.leftBrace, .rightBrace]
  | .object (e :: es) => .leftBrace :: keyToken e.1 :: .colon :: (tokens e.2 ++ (moreFields es ++ [.rightBrace]))
  | _ => [.null]

/-- The tokens that write the further items of an array. -/
def moreItems : List Value → List Token
  | [] => []
  | v :: vs => .comma :: (tokens v ++ moreItems vs)

/-- The tokens that write the further fields of an object. -/
def moreFields : Entries → List Token
  | [] => []
  | e :: es => .comma :: keyToken e.1 :: .colon :: (tokens e.2 ++ moreFields es)

end

/-- The text that is written for a value gives its tokens, whatever follows. -/
def LexesAt (level : Nat) (v : Value) : Prop :=
  ∀ rest ts, EndsNumber rest → Lexes rest ts → Lexes ((prettyAt level v).toList ++ rest) (tokens v ++ ts)

section

variable {rest : List Char} {ts : List Token}

/-- A text that begins with a token. -/
theorem Lexes.append (word : List Char) {t : Token} (hne : word ≠ []) (ht : lexToken (word ++ rest) = some (t, rest))
    (h : Lexes rest ts) : Lexes (word ++ rest) (t :: ts) := by
  refine .token ht ?_ h
  rw [List.length_append]
  have hpos := List.length_pos_of_ne_nil hne
  omega

private theorem endsNumber_cons {c : Char} (hc : c = ',' ∨ c = '\n') : EndsNumber (c :: rest) := by
  rintro d hd
  obtain rfl : c = d := Option.some.inj hd
  rcases hc with rfl | rfl <;> decide

theorem endsNumber_indentation (level : Nat) : EndsNumber ((Json.indentation level).toList ++ rest) := by
  unfold Json.indentation
  rw [String.toList_append]
  exact endsNumber_cons (.inr rfl)

/-- The comma and the indentation in front of a further item. -/
theorem Lexes.comma (level : Nat) (h : Lexes rest ts) :
    Lexes (("," ++ Json.indentation level).toList ++ rest) (.comma :: ts) := by
  rw [String.toList_append, List.append_assoc]
  exact .append [','] (by decide) rfl (h.indentation level)

private theorem endsNumber_comma (level : Nat) : EndsNumber (("," ++ Json.indentation level).toList ++ rest) := by
  rw [String.toList_append]
  exact endsNumber_cons (.inl rfl)

/-- Items on lines of their own. -/
private theorem lexes_items {level : Nat} {v : Value} {vs : List Value} (hitems : ∀ w ∈ v :: vs, LexesAt level w)
    (hrest : EndsNumber rest) (h : Lexes rest ts) :
    Lexes ((("," ++ Json.indentation level).intercalate (prettyItems level (v :: vs))).toList ++ rest)
      (tokens v ++ (moreItems vs ++ ts)) := by
  induction vs generalizing v with
  | nil => exact hitems v List.mem_cons_self rest ts hrest h
  | cons w ws ih =>
    have hlater := (ih fun x hx => hitems x (List.mem_cons_of_mem v hx)).comma level
    have hfirst := hitems v List.mem_cons_self _ _ (endsNumber_comma level) hlater
    rw [prettyItems, prettyItems, String.intercalate_cons_cons, ← prettyItems, String.toList_append, String.toList_append]
    rw [moreItems]
    simpa only [List.append_assoc, List.cons_append] using hfirst

/-- A field with its name. -/
private theorem lexes_field {level : Nat} {e : Key × Value} (hkey : ∃ name, e.1 = .text name)
    (hvalue : LexesAt level e.2) (hrest : EndsNumber rest) (h : Lexes rest ts) :
    Lexes ((fieldName e.1 ++ ": " ++ prettyAt level e.2).toList ++ rest)
      (keyToken e.1 :: .colon :: (tokens e.2 ++ ts)) := by
  obtain ⟨name, hname⟩ := hkey
  have hcolon : Lexes ([':', ' '] ++ ((prettyAt level e.2).toList ++ rest)) (.colon :: (tokens e.2 ++ ts)) :=
    .append [':'] (by decide) rfl (.space rfl (hvalue rest ts hrest h))
  have hquote : (quote name).toList ≠ [] := by
    unfold quote
    simp
  rw [hname, String.toList_append, String.toList_append, List.append_assoc, List.append_assoc]
  exact .append _ hquote (lexToken_quote name _) hcolon

/-- Fields on lines of their own. -/
private theorem lexes_fields {level : Nat} {e : Key × Value} {es : Entries}
    (hkeys : ∀ d ∈ e :: es, ∃ name, d.1 = .text name) (hvalues : ∀ d ∈ e :: es, LexesAt level d.2)
    (hrest : EndsNumber rest) (h : Lexes rest ts) :
    Lexes ((("," ++ Json.indentation level).intercalate (prettyEntries level (e :: es))).toList ++ rest)
      (keyToken e.1 :: .colon :: (tokens e.2 ++ (moreFields es ++ ts))) := by
  induction es generalizing e with
  | nil => exact lexes_field (hkeys e List.mem_cons_self) (hvalues e List.mem_cons_self) hrest h
  | cons d ds ih =>
    have hlater := (ih (fun x hx => hkeys x (List.mem_cons_of_mem e hx))
      fun x hx => hvalues x (List.mem_cons_of_mem e hx)).comma level
    have hfirst := lexes_field (hkeys e List.mem_cons_self) (hvalues e List.mem_cons_self) (endsNumber_comma level) hlater
    rw [prettyEntries, prettyEntries, String.intercalate_cons_cons, ← prettyEntries, String.toList_append (s := _ ++ _),
      String.toList_append (t := _ ++ _)]
    rw [moreFields]
    simpa only [List.append_assoc, List.cons_append] using hfirst

/-- Items between brackets. -/
private theorem lexes_block (level : Nat) (left right : String) {open_ close : Token} {items : List String}
    {inner : List Token} (hitems : items ≠ []) (hleft : left.toList ≠ []) (hright : right.toList ≠ [])
    (hopen : ∀ cs, lexToken (left.toList ++ cs) = some (open_, cs))
    (hclose : ∀ cs, lexToken (right.toList ++ cs) = some (close, cs))
    (hinner : ∀ rest ts, EndsNumber rest → Lexes rest ts →
      Lexes ((("," ++ Json.indentation (level + 1)).intercalate items).toList ++ rest) (inner ++ ts))
    (h : Lexes rest ts) :
    Lexes ((block level left right items).toList ++ rest) (open_ :: (inner ++ close :: ts)) := by
  have hlast := (Lexes.append _ hright (hclose rest) h).indentation level
  have hall := (hinner _ _ (endsNumber_indentation level) hlast).indentation (level + 1)
  unfold block
  rw [if_neg (by simpa using hitems)]
  simp only [String.toList_append, List.append_assoc] at hall ⊢
  exact .append _ hleft (hopen _) hall

private theorem ne_nil_of_lexToken {word : List Char} {t : Token} (h : lexToken (word ++ []) = some (t, [])) :
    word ≠ [] := by
  rintro rfl
  cases h

private theorem endsNumber_nil : EndsNumber [] := by
  rintro c ⟨⟩

private theorem prettyItems_ne_nil (level : Nat) (v : Value) (vs : List Value) : prettyItems level (v :: vs) ≠ [] := by
  simp [prettyItems]

private theorem prettyEntries_ne_nil (level : Nat) (e : Key × Value) (es : Entries) :
    prettyEntries level (e :: es) ≠ [] := by
  simp [prettyEntries]

/-- A value that is written with indentation gives its tokens. -/
theorem lexesAt_of_isJson {v : Value} (h : v.IsJson) (hv : v.isFinite = true) (level : Nat) : LexesAt level v := by
  induction h generalizing level with
  | null => exact fun rest ts _ hts => .append "null".toList (by decide) rfl hts
  | bool b =>
    cases b with
    | false => exact fun rest ts _ hts => .append "false".toList (by decide) rfl hts
    | true => exact fun rest ts _ hts => .append "true".toList (by decide) rfl hts
  | int n hn =>
    exact fun rest ts hrest hts =>
      .append _ (ne_nil_of_lexToken (lexToken_showInt hn endsNumber_nil)) (lexToken_showInt hn hrest) hts
  | float x =>
    intro rest ts hrest hts
    have hrender : prettyAt level (.float x) = Decimal.render x := if_pos hv
    rw [hrender]
    exact .append _ (ne_nil_of_lexToken (lexToken_render hv endsNumber_nil)) (lexToken_render hv hrest) hts
  | text s =>
    exact fun rest ts _ hts => .append _ (ne_nil_of_lexToken (lexToken_quote s [])) (lexToken_quote s rest) hts
  | @list items h ih =>
    intro rest ts hrest hts
    rw [Value.isFinite, Value.areFinite_iff] at hv
    cases items with
    | nil =>
      have hempty : prettyAt level (.list []) = "[]" := rfl
      rw [hempty]
      exact .append ['['] (by decide) rfl (.append [']'] (by decide) rfl hts)
    | cons w ws =>
      -- The items stand between the brackets and are read in front of whatever closes them.
      have hitems (rest : List Char) (ts : List Token) (hrest : EndsNumber rest) (hts : Lexes rest ts) :
          Lexes ((("," ++ Json.indentation (level + 1)).intercalate (prettyItems (level + 1) (w :: ws))).toList ++ rest)
            ((tokens w ++ moreItems ws) ++ ts) := by
        rw [List.append_assoc]
        exact lexes_items (fun x hx => ih x hx (hv x hx) (level + 1)) hrest hts
      have hblock := lexes_block level "[" "]" (prettyItems_ne_nil (level + 1) w ws)
        (by decide) (by decide) (fun _ => rfl) (fun _ => rfl) hitems hts
      rw [tokens]
      simpa only [prettyAt, List.cons_append, List.append_assoc, List.nil_append] using hblock
  | @object es hkeys hdistinct h ih =>
    intro rest ts hrest hts
    rw [Value.isFinite, Value.holdFinite_iff] at hv
    cases es with
    | nil =>
      have hempty : prettyAt level (.object []) = "\x7b\x7d" := rfl
      rw [hempty]
      exact .append ['\x7b'] (by decide) rfl (.append ['\x7d'] (by decide) rfl hts)
    | cons e es =>
      have hfields (rest : List Char) (ts : List Token) (hrest : EndsNumber rest) (hts : Lexes rest ts) :
          Lexes ((("," ++ Json.indentation (level + 1)).intercalate (prettyEntries (level + 1) (e :: es))).toList ++ rest)
            ((keyToken e.1 :: .colon :: (tokens e.2 ++ moreFields es)) ++ ts) := by
        simp only [List.cons_append, List.append_assoc]
        exact lexes_fields hkeys (fun x hx => ih x hx (hv x hx) (level + 1)) hrest hts
      have hblock := lexes_block level "\x7b" "\x7d"
        (prettyEntries_ne_nil (level + 1) e es) (by decide) (by decide) (fun _ => rfl) (fun _ => rfl) hfields hts
      rw [tokens]
      simpa only [prettyAt, List.cons_append, List.append_assoc, List.nil_append] using hblock

end

/-- A value that is written with indentation is read as its tokens. -/
theorem lex_pretty {v : Value} (h : v.IsJson) (hv : v.isFinite = true) : lex (pretty v) = some (tokens v) := by
  have hlexes := lexesAt_of_isJson h hv 0 [] [] endsNumber_nil .nil
  rw [List.append_nil, List.append_nil] at hlexes
  exact hlexes.lex

end IntegrationFlow.Json
