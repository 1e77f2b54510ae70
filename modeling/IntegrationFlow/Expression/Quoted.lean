/-!
# The extent of quoted literals

A literal is enclosed in single or double quotes, one or three of them. A backslash keeps the next character from
ending it; a literal in one pair of quotes does not go over the end of a line.
-/

namespace IntegrationFlow.Expression

/-- The two characters that open a literal. -/
def isQuote (c : Char) : Bool :=
  c == '\'' || c == '"'

/-- Put characters in front of the body that was found. -/
def consBody (front : List Char) (found : Option (List Char × List Char)) : Option (List Char × List Char) :=
  found.map fun (body, rest) => (front ++ body, rest)

/-- The body of a literal in single marks, and what follows its closing mark. -/
def takeShort (mark : Char) : List Char → Option (List Char × List Char)
  | [] => none
  | '\\' :: c :: cs => consBody ['\\', c] (takeShort mark cs)
  | c :: cs =>
    if c == mark then some ([], cs) else if c == '\n' then none else consBody [c] (takeShort mark cs)

/-- The body of a literal in triple marks, and what follows its closing marks. -/
def takeLong (mark : Char) : List Char → Option (List Char × List Char)
  | '\\' :: c :: cs => consBody ['\\', c] (takeLong mark cs)
  | a :: b :: c :: cs =>
    if a == mark && b == mark && c == mark then some ([], cs) else consBody [a] (takeLong mark (b :: c :: cs))
  | _ => none

/-- A literal as it stands in a text. -/
structure Quoted where
  mark : Char
  triple : Bool
  body : List Char

/-- The marks at one end of a literal. -/
def Quoted.marks (q : Quoted) : List Char :=
  if q.triple then [q.mark, q.mark, q.mark] else [q.mark]

/-- The characters of the literal, marks included. -/
def Quoted.source (q : Quoted) : List Char :=
  q.marks ++ q.body ++ q.marks

/-- Read the literal that starts with the mark in front of the text. -/
def takeQuoted (mark : Char) (cs : List Char) : Option (Quoted × List Char) :=
  match cs with
  | b :: c :: rest =>
    if b == mark && c == mark then (takeLong mark rest).map fun (body, rest) => (⟨mark, true, body⟩, rest)
    else (takeShort mark cs).map fun (body, rest) => (⟨mark, false, body⟩, rest)
  | _ => (takeShort mark cs).map fun (body, rest) => (⟨mark, false, body⟩, rest)

/-- A literal in single marks and the rest make up the text. -/
theorem takeShort_eq {mark : Char} {cs body rest : List Char} (h : takeShort mark cs = some (body, rest)) :
    cs = body ++ mark :: rest := by
  fun_induction takeShort mark cs generalizing body rest with
  | case1 => simp at h
  | case2 c cs ih =>
    simp only [consBody, Option.map_eq_some_iff] at h
    obtain ⟨⟨b, r⟩, hb, he⟩ := h
    simp only [Prod.mk.injEq] at he
    obtain ⟨rfl, rfl⟩ := he
    simp [ih hb]
  | case3 c cs _ hc =>
    simp only [Option.some.injEq, Prod.mk.injEq] at h
    obtain ⟨rfl, rfl⟩ := h
    simpa using hc
  | case4 => simp at h
  | case5 c cs _ _ _ ih =>
    simp only [consBody, Option.map_eq_some_iff] at h
    obtain ⟨⟨b, r⟩, hb, he⟩ := h
    simp only [Prod.mk.injEq] at he
    obtain ⟨rfl, rfl⟩ := he
    simp [ih hb]

/-- A literal in triple marks and the rest make up the text. -/
theorem takeLong_eq {mark : Char} {cs body rest : List Char} (h : takeLong mark cs = some (body, rest)) :
    cs = body ++ mark :: mark :: mark :: rest := by
  fun_induction takeLong mark cs generalizing body rest with
  | case1 c cs ih =>
    simp only [consBody, Option.map_eq_some_iff] at h
    obtain ⟨⟨b, r⟩, hb, he⟩ := h
    simp only [Prod.mk.injEq] at he
    obtain ⟨rfl, rfl⟩ := he
    simp [ih hb]
  | case2 a b c cs _ hm =>
    simp only [Option.some.injEq, Prod.mk.injEq] at h
    obtain ⟨rfl, rfl⟩ := h
    simp only [Bool.and_eq_true, beq_iff_eq] at hm
    simp [hm]
  | case3 a b c cs _ _ ih =>
    simp only [consBody, Option.map_eq_some_iff] at h
    obtain ⟨⟨b', r⟩, hb, he⟩ := h
    simp only [Prod.mk.injEq] at he
    obtain ⟨rfl, rfl⟩ := he
    simp [ih hb]
  | case4 => simp at h

end IntegrationFlow.Expression
