import IntegrationFlow.Expression.Evaluate

/-!
# Templates

A template is a text with slots: an expression between double braces. `render` puts the value of each expression in
the place of its slot; a slot whose value is null leaves nothing.
-/

namespace IntegrationFlow.Template

open Expression
open Text (Point)

/-- The shortest stretch of one line, at least one character long, behind which, blanks apart, the slot is closed; and
what follows the slot. -/
def takeInside : List Char → Option (List Char × List Char)
  | [] => none
  | c :: cs =>
    if c == '\n' then none
    else
      match cs.dropWhile Text.isBlank with
      | '\x7d' :: '\x7d' :: rest => some ([c], rest)
      | _ => (takeInside cs).map fun (inside, rest) => (c :: inside, rest)

/-- The first result among those from `n` down to zero. -/
def firstFrom {α : Type} (f : Nat → Option α) : Nat → Option α
  | 0 => f 0
  | n + 1 =>
    match f (n + 1) with
    | some a => some a
    | none => firstFrom f n

/-- The expression of a slot behind its opening braces, and what follows the slot. As many of the blanks in front as
possible are left out. -/
def takeSlot (cs : List Char) : Option (List Char × List Char) :=
  firstFrom (fun n => takeInside (cs.drop n)) (cs.takeWhile Text.isBlank).length

/-- The expression of the slot with which a text begins, and what follows the slot. -/
def slotAt? : List Char → Option (List Char × List Char)
  | '\x7b' :: '\x7b' :: inner => takeSlot inner
  | _ => none

/-- What a slot puts in its place, as a value. -/
def slotCell (scope : Scope) (b : Birth) (inside : List Char) : Except Stop Cell :=
  match evaluate scope (b.part 0) (String.ofList inside) with
  | .error stop => .error stop
  | .ok (.atom _ .null) => .ok (b.atom (.text []))
  | .ok c =>
    match textCell b c with
    | .ok c => .ok c
    | .error m => .error (.crashed m)

/-- What a slot puts in its place. -/
def slotText (scope : Scope) (b : Birth) (inside : List Char) : Except Stop (List Point) :=
  (slotCell scope b inside).map fun c => (c.text?).getD []

/-- Fill the slots of a template in at most `fuel` steps. -/
def renderUpTo (scope : Scope) (b : Birth) : Nat → List Char → Except Stop (List Point)
  | 0, cs => .ok (Text.points cs)
  | _ + 1, [] => .ok []
  | fuel + 1, c :: cs =>
    match slotAt? (c :: cs) with
    | none => (renderUpTo scope b fuel cs).map (.char c :: ·)
    | some (inside, rest) =>
      match slotText scope b inside with
      | .error stop => .error stop
      | .ok ps => (renderUpTo scope b fuel rest).map (ps ++ ·)

/-- Fill the slots of a template, from left to right. -/
def render (scope : Scope) (b : Birth) (template : String) : Except Stop (List Point) :=
  renderUpTo scope b (template.length + 1) template.toList

/-- The text of a template as a value; a template that is no more than one slot gives what its slot puts in its place. -/
def renderCell (scope : Scope) (b : Birth) (template : String) : Except Stop Cell :=
  match slotAt? template.toList with
  | some (inside, []) => slotCell scope b inside
  | _ => (render scope b template).map fun ps => b.atom (.text ps)

end IntegrationFlow.Template
