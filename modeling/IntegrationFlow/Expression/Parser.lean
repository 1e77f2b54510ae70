import IntegrationFlow.Expression.Expr
import IntegrationFlow.Expression.Token
import IntegrationFlow.Expression.Alias
import IntegrationFlow.Expression.Newline

/-!
# Parsing expressions

`parse` reads a text as an expression. The grammar is larger than what can be evaluated: comprehensions, lambdas,
formatted texts and the like are recognised, so that they are told apart from malformed texts, and then kept as their
name. Each function takes the tokens that are left and gives those that remain; its first argument bounds the depth
of the recursion.
-/

namespace IntegrationFlow.Expression

/-- An expression that was read, and whether it could be assigned to. -/
structure Parsed where
  expr : Expr
  assignable : Bool

/-- An expression that cannot be assigned to. -/
def Parsed.value (e : Expr) : Parsed :=
  ⟨e, false⟩

/-- What reading gives: a result and the tokens that remain. -/
abbrev Reading (α : Type) := Option (α × List Token)

/-- Drop the stated symbol. -/
def expect (s : String) : List Token → Option (List Token)
  | .symbol t :: ts => if s == t then some ts else none
  | _ => none

/-- The next token is the stated symbol. -/
def atSymbol (s : String) : List Token → Bool
  | .symbol t :: _ => s == t
  | _ => false

/-- The next token is the stated keyword. -/
def atKeyword (s : String) : List Token → Bool
  | .keyword t :: _ => s == t
  | _ => false

/-- A `for` clause starts here. -/
def atClause (ts : List Token) : Bool :=
  atKeyword "for" ts || (atKeyword "async" ts && atKeyword "for" (ts.drop 1))

/-- A name is given here. -/
def atNaming : List Token → Bool
  | .name _ :: .symbol ":=" :: _ => true
  | _ => false

/-- The operators between operands, by level: the loosest first. -/
def binaryLevels : List (List (String × BinaryOp)) :=
  [[("|", .bitOr)], [("^", .bitXor)], [("&", .bitAnd)], [("<<", .shiftLeft), (">>", .shiftRight)],
    [("+", .add), ("-", .subtract)],
    [("*", .multiply), ("/", .divide), ("//", .floorDivide), ("%", .modulo), ("@", .matrixMultiply)]]

/-- The operator of a level at the front of the tokens. -/
def binaryOp? (level : Nat) : List Token → Option (BinaryOp × List Token)
  | .symbol s :: ts => (((binaryLevels[level]?).getD []).lookup s).map fun op => (op, ts)
  | _ => none

/-- The comparison at the front of the tokens. -/
def comparison? : List Token → Option (Comparison × List Token)
  | .symbol "==" :: ts => some (.equal, ts)
  | .symbol "!=" :: ts => some (.notEqual, ts)
  | .symbol "<" :: ts => some (.order .less, ts)
  | .symbol "<=" :: ts => some (.order .lessEqual, ts)
  | .symbol ">" :: ts => some (.order .greater, ts)
  | .symbol ">=" :: ts => some (.order .greaterEqual, ts)
  | .keyword "in" :: ts => some (.isIn, ts)
  | .keyword "not" :: .keyword "in" :: ts => some (.notIn, ts)
  | .keyword "is" :: .keyword "not" :: ts => some (.notSame, ts)
  | .keyword "is" :: ts => some (.same, ts)
  | _ => none

/-- The operator in front of an operand. -/
def unaryOp? : List Token → Option (UnaryOp × List Token)
  | .symbol "-" :: ts => some (.negate, ts)
  | .symbol "+" :: ts => some (.plus, ts)
  | .symbol "~" :: ts => some (.invert, ts)
  | _ => none

/-- Adjacent literals, joined into one. -/
inductive Joined where
  | text (ps : List Text.Point)
  | bytes (data : List UInt8)
  | formatted (slots : List (List Char))

/-- Join two adjacent literals; texts and byte strings do not mix. -/
def Joined.append : Joined → Joined → Option Joined
  | .text s, .text t => some (.text (s ++ t))
  | .bytes a, .bytes b => some (.bytes (a ++ b))
  | .text _, .formatted slots => some (.formatted slots)
  | .formatted slots, .text _ => some (.formatted slots)
  | .formatted a, .formatted b => some (.formatted (a ++ b))
  | _, _ => none

/-- The literals at the front of the tokens, joined. -/
def takeJoined (done : Option Joined) : List Token → Option (Option Joined × List Token)
  | [] => some (done, [])
  | t :: ts =>
    let next? : Option Joined := match t with
      | .text s => some (.text s)
      | .bytes data => some (.bytes data)
      | .formatted slots => some (.formatted slots)
      | _ => none
    match next?, done with
    | none, _ => some (done, t :: ts)
    | some j, none => takeJoined (some j) ts
    | some j, some d => (d.append j).bind fun d => takeJoined (some d) ts

/-- What the parameters of a lambda have shown so far. -/
structure ParamState where
  /-- A parameter was read. -/
  anyRead : Bool := false
  /-- A parameter with a default was read, so that further ones need one too. -/
  defaulted : Bool := false
  /-- The mark for positional parameters was read. -/
  slash : Bool := false
  /-- A star was read. -/
  star : Bool := false
  /-- A bare star was read and no parameter since. -/
  starBare : Bool := false

/-- What the arguments of a call have shown so far. -/
structure ArgState where
  arguments : List Expr := []
  keywords : List (Option String × Expr) := []
  /-- A keyword spread was read. -/
  spread : Bool := false

mutual

/-- An expression: a lambda, or a disjunction with an optional condition. -/
def parseExpression : Nat → List Token → Reading Parsed
  | 0, _ => none
  | fuel + 1, ts =>
    match ts with
    | .keyword "lambda" :: ts =>
      (parseParams fuel {} ts).bind fun ts => (parseExpression fuel ts).map fun (_, ts) =>
        (.value (.unsupported .lambda), ts)
    | ts =>
      (parseOr fuel ts).bind fun (body, ts) =>
        match ts with
        | .keyword "if" :: ts =>
          (parseOr fuel ts).bind fun (test, ts) =>
            match ts with
            | .keyword "else" :: ts =>
              (parseExpression fuel ts).map fun (other, ts) =>
                (.value (.choose test.expr body.expr other.expr), ts)
            | _ => none
        | ts => some (body, ts)

/-- The parameters of a lambda up to its colon. -/
def parseParams : Nat → ParamState → List Token → Option (List Token)
  | 0, _, _ => none
  | fuel + 1, st, ts =>
    let next (st : ParamState) (ts : List Token) : Option (List Token) :=
      match ts with
      | .symbol "," :: ts => parseParams fuel st ts
      | .symbol ":" :: ts => if st.starBare then none else some ts
      | _ => none
    match ts with
    | .symbol ":" :: ts => if st.starBare then none else some ts
    | .name _ :: .symbol "=" :: ts =>
      (parseExpression fuel ts).bind fun (_, ts) =>
        next { st with anyRead := true, defaulted := true, starBare := false } ts
    | .name _ :: ts =>
      if st.defaulted && !st.star then none else next { st with anyRead := true, starBare := false } ts
    | .symbol "/" :: ts =>
      if st.slash || st.star || !st.anyRead then none else next { st with slash := true } ts
    | .symbol "*" :: .name _ :: ts => if st.star then none else next { st with star := true } ts
    | .symbol "*" :: .symbol "," :: ts =>
      if st.star then none else parseParams fuel { st with star := true, starBare := true } ts
    | .symbol "**" :: .name _ :: ts =>
      if st.starBare then none
      else
        match ts with
        | .symbol "," :: .symbol ":" :: ts => some ts
        | .symbol ":" :: ts => some ts
        | _ => none
    | _ => none

/-- Operands of `or`. -/
def parseOr : Nat → List Token → Reading Parsed
  | 0, _ => none
  | fuel + 1, ts =>
    (parseAnd fuel ts).bind fun (first, ts) =>
      if atKeyword "or" ts then
        (parseOrRest fuel ts).map fun (rest, ts) => (.value (.any (first.expr :: rest)), ts)
      else some (first, ts)

/-- Further operands of `or`. -/
def parseOrRest : Nat → List Token → Reading (List Expr)
  | 0, _ => none
  | fuel + 1, ts =>
    match ts with
    | .keyword "or" :: ts =>
      (parseAnd fuel ts).bind fun (e, ts) => (parseOrRest fuel ts).map fun (es, ts) => (e.expr :: es, ts)
    | ts => some ([], ts)

/-- Operands of `and`. -/
def parseAnd : Nat → List Token → Reading Parsed
  | 0, _ => none
  | fuel + 1, ts =>
    (parseNot fuel ts).bind fun (first, ts) =>
      if atKeyword "and" ts then
        (parseAndRest fuel ts).map fun (rest, ts) => (.value (.all (first.expr :: rest)), ts)
      else some (first, ts)

/-- Further operands of `and`. -/
def parseAndRest : Nat → List Token → Reading (List Expr)
  | 0, _ => none
  | fuel + 1, ts =>
    match ts with
    | .keyword "and" :: ts =>
      (parseNot fuel ts).bind fun (e, ts) => (parseAndRest fuel ts).map fun (es, ts) => (e.expr :: es, ts)
    | ts => some ([], ts)

/-- An operand of `and`. -/
def parseNot : Nat → List Token → Reading Parsed
  | 0, _ => none
  | fuel + 1, ts =>
    match ts with
    | .keyword "not" :: ts => (parseNot fuel ts).map fun (e, ts) => (.value (.unary .not e.expr), ts)
    | ts =>
      (parseBinary fuel 0 ts).bind fun (first, ts) =>
        if (comparison? ts).isSome then
          (parseComparisons fuel ts).map fun (rest, ts) => (.value (.compare first.expr rest), ts)
        else some (first, ts)

/-- The further operands of a comparison. -/
def parseComparisons : Nat → List Token → Reading (List (Comparison × Expr))
  | 0, _ => none
  | fuel + 1, ts =>
    match comparison? ts with
    | some (op, ts) =>
      (parseBinary fuel 0 ts).bind fun (e, ts) =>
        (parseComparisons fuel ts).map fun (es, ts) => ((op, e.expr) :: es, ts)
    | none => some ([], ts)

/-- Operands joined by the operators of a level. -/
def parseBinary : Nat → Nat → List Token → Reading Parsed
  | 0, _, _ => none
  | fuel + 1, level, ts =>
    if level < binaryLevels.length then
      (parseBinary fuel (level + 1) ts).bind fun (left, ts) => parseBinaryRest fuel level left ts
    else parseFactor fuel ts

/-- The further operands of a level; operators group to the left. -/
def parseBinaryRest : Nat → Nat → Parsed → List Token → Reading Parsed
  | 0, _, _, _ => none
  | fuel + 1, level, left, ts =>
    match binaryOp? level ts with
    | some (op, ts) =>
      (parseBinary fuel (level + 1) ts).bind fun (right, ts) =>
        parseBinaryRest fuel level (.value (.binary op left.expr right.expr)) ts
    | none => some (left, ts)

/-- A signed operand, or a power. -/
def parseFactor : Nat → List Token → Reading Parsed
  | 0, _ => none
  | fuel + 1, ts =>
    match unaryOp? ts with
    | some (op, ts) => (parseFactor fuel ts).map fun (e, ts) => (.value (.unary op e.expr), ts)
    | none =>
      (parseAwait fuel ts).bind fun (base, ts) =>
        match ts with
        | .symbol "**" :: ts =>
          (parseFactor fuel ts).map fun (e, ts) => (.value (.binary .power base.expr e.expr), ts)
        | ts => some (base, ts)

/-- A primary, or one that is awaited. -/
def parseAwait : Nat → List Token → Reading Parsed
  | 0, _ => none
  | fuel + 1, ts =>
    match ts with
    | .keyword "await" :: ts =>
      (parsePrimary fuel ts).map fun (_, ts) => (.value (.unsupported .awaiting), ts)
    | ts => parsePrimary fuel ts

/-- An atom with attributes, items and calls. -/
def parsePrimary : Nat → List Token → Reading Parsed
  | 0, _ => none
  | fuel + 1, ts => (parseAtom fuel ts).bind fun (atom, ts) => parseTrailers fuel atom ts

/-- The attributes, items and calls behind an atom. -/
def parseTrailers : Nat → Parsed → List Token → Reading Parsed
  | 0, _, _ => none
  | fuel + 1, e, ts =>
    match ts with
    | .symbol "." :: .name field :: ts => parseTrailers fuel ⟨.attribute e.expr field, true⟩ ts
    | .symbol "[" :: ts => (parseItem fuel e.expr ts).bind fun (item, ts) => parseTrailers fuel ⟨item, true⟩ ts
    | .symbol "(" :: ts =>
      (parseArguments fuel {} ts).bind fun (args, ts) =>
        parseTrailers fuel (.value (.call e.expr args.arguments args.keywords)) ts
    | ts => some (e, ts)

/-- What stands between square brackets behind an expression. -/
def parseItem : Nat → Expr → List Token → Reading Expr
  | 0, _, _ => none
  | fuel + 1, target, ts =>
    (parseIndex fuel ts).bind fun (first, ts) =>
      match first with
      | (.inl key, starred) =>
        match ts with
        | .symbol "]" :: ts => if starred then some (.item target (.tuple [key]), ts) else some (.item target key, ts)
        | .symbol "," :: ts =>
          (parseIndexRest fuel ts).map fun (rest, ts) => (.item target (.tuple (key :: rest)), ts)
        | _ => none
      | (.inr (lower, upper, stepped), _) =>
        match ts with
        | .symbol "]" :: ts => some (.slice target lower upper stepped, ts)
        | .symbol "," :: ts =>
          (parseIndexRest fuel ts).map fun (rest, ts) => (.item target (.tuple (.unsupported .slice :: rest)), ts)
        | _ => none

/-- The further parts of an index, up to the closing bracket. -/
def parseIndexRest : Nat → List Token → Reading (List Expr)
  | 0, _ => none
  | fuel + 1, ts =>
    match ts with
    | .symbol "]" :: ts => some ([], ts)
    | ts =>
      (parseIndex fuel ts).bind fun ((part, _), ts) =>
        let e := match part with
          | .inl key => key
          | .inr _ => .unsupported .slice
        match ts with
        | .symbol "]" :: ts => some ([e], ts)
        | .symbol "," :: ts => (parseIndexRest fuel ts).map fun (es, ts) => (e :: es, ts)
        | _ => none

/-- One part of an index: a key, which may be starred, or the bounds of a slice and whether it has a step. -/
def parseIndex : Nat → List Token → Reading ((Expr ⊕ (Option Expr × Option Expr × Bool)) × Bool)
  | 0, _ => none
  | fuel + 1, ts =>
    match ts with
    | .symbol "*" :: ts =>
      (parseExpression fuel ts).map fun (_, ts) => ((.inl (.unsupported .starred), true), ts)
    | .symbol ":" :: ts => (parseBounds fuel none ts).map fun (s, ts) => ((.inr s, false), ts)
    | ts =>
      (parseNamed fuel ts).bind fun (key, ts) =>
        match ts with
        | .symbol ":" :: rest =>
          match key.expr with
          | .unsupported .naming => none
          | _ => (parseBounds fuel (some key.expr) rest).map fun (s, ts) => ((.inr s, false), ts)
        | ts => some ((.inl key.expr, false), ts)

/-- The parts of a slice behind its first colon. -/
def parseBounds : Nat → Option Expr → List Token → Reading (Option Expr × Option Expr × Bool)
  | 0, _, _ => none
  | fuel + 1, lower, ts =>
    let upper : Reading (Option Expr) :=
      if atSymbol "]" ts || atSymbol "," ts || atSymbol ":" ts then some (none, ts)
      else (parseExpression fuel ts).map fun (e, ts) => (some e.expr, ts)
    upper.bind fun (upper, ts) =>
      match ts with
      | .symbol ":" :: ts =>
        if atSymbol "]" ts || atSymbol "," ts then some ((lower, upper, false), ts)
        else (parseExpression fuel ts).map fun (_, ts) => ((lower, upper, true), ts)
      | ts => some ((lower, upper, false), ts)

/-- The arguments of a call, up to the closing parenthesis. -/
def parseArguments : Nat → ArgState → List Token → Reading ArgState
  | 0, _, _ => none
  | fuel + 1, st, ts =>
    let next (st : ArgState) (ts : List Token) : Reading ArgState :=
      match ts with
      | .symbol "," :: ts => parseArguments fuel st ts
      | .symbol ")" :: ts => some (st, ts)
      | _ => none
    match ts with
    | .symbol ")" :: ts => some (st, ts)
    | .symbol "**" :: ts =>
      (parseExpression fuel ts).bind fun (e, ts) =>
        next { st with keywords := st.keywords ++ [(none, e.expr)], spread := true } ts
    | .symbol "*" :: ts =>
      if st.spread then none
      else
        (parseExpression fuel ts).bind fun (_, ts) =>
          next { st with arguments := st.arguments ++ [.unsupported .starred] } ts
    | .name n :: .symbol "=" :: ts =>
      (parseExpression fuel ts).bind fun (e, ts) =>
        next { st with keywords := st.keywords ++ [(some n, e.expr)] } ts
    | ts =>
      if !st.keywords.isEmpty then none
      else
        (parseNamed fuel ts).bind fun (e, ts) =>
          if atClause ts then
            if st.arguments.isEmpty then
              (parseClauses fuel ts).bind fun ts => (expect ")" ts).map fun ts =>
                ({ st with arguments := [.unsupported .generator] }, ts)
            else none
          else next { st with arguments := st.arguments ++ [e.expr] } ts

/-- An atom. -/
def parseAtom : Nat → List Token → Reading Parsed
  | 0, _ => none
  | fuel + 1, ts =>
    match ts with
    | .name s :: ts => some (⟨.name s, true⟩, ts)
    | .keyword "True" :: ts => some (.value (.constant (.bool true)), ts)
    | .keyword "False" :: ts => some (.value (.constant (.bool false)), ts)
    | .keyword "None" :: ts => some (.value (.constant .null), ts)
    | .number n :: ts => some (.value (.constant n.atom), ts)
    | .symbol "..." :: ts => some (.value (.constant .ellipsis), ts)
    | .symbol "(" :: ts => parseParenthesis fuel ts
    | .symbol "[" :: ts => parseBracket fuel ts
    | .symbol "\x7b" :: ts => parseBrace fuel ts
    | ts =>
      (takeJoined none ts).bind fun (joined, ts) =>
        match joined with
        | none => none
        | some (.text s) => some (.value (.constant (.text s)), ts)
        | some (.bytes data) => some (.value (.constant (.bytes data)), ts)
        | some (.formatted slots) =>
          if checkSlots fuel slots then some (.value (.unsupported .formattedText), ts) else none

/-- Every slot of a formatted text holds an expression. -/
def checkSlots : Nat → List (List Char) → Bool
  | 0, _ => false
  | _ + 1, [] => true
  | fuel + 1, slot :: slots =>
    (match tokenize ('(' :: slot ++ [')']) with
      | some (.symbol "(" :: ts) =>
        match parseParenthesis fuel ts with
        | some (_, []) => true
        | _ => false
      | _ => false) && checkSlots fuel slots

/-- What follows an opening parenthesis: a tuple, a group or a generator. -/
def parseParenthesis : Nat → List Token → Reading Parsed
  | 0, _ => none
  | fuel + 1, ts =>
    match ts with
    | .symbol ")" :: ts => some (⟨.tuple [], true⟩, ts)
    | .keyword "yield" :: .keyword "from" :: ts =>
      (parseExpression fuel ts).bind fun (_, ts) => (expect ")" ts).map fun ts =>
        (.value (.unsupported .yieldingFrom), ts)
    | .keyword "yield" :: .symbol ")" :: ts => some (.value (.unsupported .yielding), ts)
    | .keyword "yield" :: ts =>
      (parseStarExpressions fuel ts).bind fun ts => (expect ")" ts).map fun ts =>
        (.value (.unsupported .yielding), ts)
    | ts =>
      (parseStarNamed fuel ts).bind fun ((first, starred), ts) =>
        match ts with
        | .symbol ")" :: ts => if starred then none else some (first, ts)
        | .symbol "," :: ts =>
          (parseElements fuel ")" ts).map fun (rest, ts) =>
            (⟨.tuple (first.expr :: rest.map Parsed.expr), first.assignable && rest.all Parsed.assignable⟩, ts)
        | ts =>
          if atClause ts && !starred then
            (parseClauses fuel ts).bind fun ts => (expect ")" ts).map fun ts =>
              (.value (.unsupported .generator), ts)
          else none

/-- What follows an opening bracket: a list or a comprehension. -/
def parseBracket : Nat → List Token → Reading Parsed
  | 0, _ => none
  | fuel + 1, ts =>
    match ts with
    | .symbol "]" :: ts => some (⟨.list [], true⟩, ts)
    | ts =>
      (parseStarNamed fuel ts).bind fun ((first, starred), ts) =>
        match ts with
        | .symbol "]" :: ts => some (⟨.list [first.expr], first.assignable⟩, ts)
        | .symbol "," :: ts =>
          (parseElements fuel "]" ts).map fun (rest, ts) =>
            (⟨.list (first.expr :: rest.map Parsed.expr), first.assignable && rest.all Parsed.assignable⟩, ts)
        | ts =>
          if atClause ts && !starred then
            (parseClauses fuel ts).bind fun ts => (expect "]" ts).map fun ts =>
              (.value (.unsupported .listComprehension), ts)
          else none

/-- The elements behind a comma, up to the closing bracket. -/
def parseElements : Nat → String → List Token → Reading (List Parsed)
  | 0, _, _ => none
  | fuel + 1, close, ts =>
    if atSymbol close ts then some ([], ts.drop 1)
    else
      (parseStarNamed fuel ts).bind fun ((e, _), ts) =>
        if atSymbol close ts then some ([e], ts.drop 1)
        else (expect "," ts).bind fun ts => (parseElements fuel close ts).map fun (es, ts) => (e :: es, ts)

/-- What follows an opening brace: an object, a set or a comprehension of one of them. -/
def parseBrace : Nat → List Token → Reading Parsed
  | 0, _ => none
  | fuel + 1, ts =>
    match ts with
    | .symbol "\x7d" :: ts => some (.value (.object []), ts)
    | .symbol "**" :: _ =>
      (parseEntries fuel ts).map fun (entries, ts) => (.value (.object entries), ts)
    | ts =>
      (parseStarNamed fuel ts).bind fun ((first, starred), rest) =>
        match rest with
        | .symbol ":" :: rest =>
          if starred || atNaming ts then none
          else
            (parseExpression fuel rest).bind fun (value, rest) =>
              if atClause rest then
                (parseClauses fuel rest).bind fun ts => (expect "\x7d" ts).map fun ts =>
                  (.value (.unsupported .objectComprehension), ts)
              else
                (parseEntriesAfter fuel (some first.expr, value.expr) rest).map fun (entries, ts) =>
                  (.value (.object entries), ts)
        | .symbol "\x7d" :: ts => some (.value (.unsupported .set), ts)
        | .symbol "," :: ts =>
          (parseElements fuel "\x7d" ts).map fun (_, ts) => (.value (.unsupported .set), ts)
        | rest =>
          if atClause rest && !starred then
            (parseClauses fuel rest).bind fun ts => (expect "\x7d" ts).map fun ts =>
              (.value (.unsupported .setComprehension), ts)
          else none

/-- The entries of an object, up to the closing brace. -/
def parseEntries : Nat → List Token → Reading (List (Option Expr × Expr))
  | 0, _ => none
  | fuel + 1, ts =>
    match ts with
    | .symbol "\x7d" :: ts => some ([], ts)
    | .symbol "**" :: ts => (parseBinary fuel 0 ts).bind fun (e, ts) => parseEntriesAfter fuel (none, e.expr) ts
    | ts =>
      (parseExpression fuel ts).bind fun (key, ts) =>
        (expect ":" ts).bind fun ts =>
          (parseExpression fuel ts).bind fun (value, ts) => parseEntriesAfter fuel (some key.expr, value.expr) ts

/-- An entry that was read and those behind it, up to the closing brace. -/
def parseEntriesAfter : Nat → Option Expr × Expr → List Token → Reading (List (Option Expr × Expr))
  | 0, _, _ => none
  | fuel + 1, entry, ts =>
    match ts with
    | .symbol "\x7d" :: ts => some ([entry], ts)
    | .symbol "," :: ts => (parseEntries fuel ts).map fun (entries, ts) => (entry :: entries, ts)
    | _ => none

/-- An element that may be starred or named; the flag says that it is starred. -/
def parseStarNamed : Nat → List Token → Reading (Parsed × Bool)
  | 0, _ => none
  | fuel + 1, ts =>
    match ts with
    | .symbol "*" :: ts =>
      (parseBinary fuel 0 ts).map fun (e, ts) => ((⟨.unsupported .starred, e.assignable⟩, true), ts)
    | ts => (parseNamed fuel ts).map fun (e, ts) => ((e, false), ts)

/-- An expression that may be given a name. -/
def parseNamed : Nat → List Token → Reading Parsed
  | 0, _ => none
  | fuel + 1, ts =>
    match ts with
    | .name _ :: .symbol ":=" :: ts =>
      (parseExpression fuel ts).map fun (_, ts) => (.value (.unsupported .naming), ts)
    | ts => parseExpression fuel ts

/-- Expressions that may be starred, separated by commas; only the tokens behind them are given. -/
def parseStarExpressions : Nat → List Token → Option (List Token)
  | 0, _ => none
  | fuel + 1, ts =>
    let next (ts : List Token) : Option (List Token) :=
      match ts with
      | .symbol "," :: rest => if atSymbol ")" rest then some rest else parseStarExpressions fuel rest
      | ts => some ts
    match ts with
    | .symbol "*" :: ts => (parseBinary fuel 0 ts).bind fun (_, ts) => next ts
    | ts => (parseExpression fuel ts).bind fun (_, ts) => next ts

/-- The clauses of a comprehension; only the tokens behind them are given. -/
def parseClauses : Nat → List Token → Option (List Token)
  | 0, _ => none
  | fuel + 1, ts =>
    let ts := if atKeyword "async" ts then ts.drop 1 else ts
    match ts with
    | .keyword "for" :: ts =>
      (parseTargets fuel ts).bind fun ts =>
        match ts with
        | .keyword "in" :: ts =>
          (parseOr fuel ts).bind fun (_, ts) => (parseConditions fuel ts).bind fun ts =>
            if atClause ts then parseClauses fuel ts else some ts
        | _ => none
    | _ => none

/-- The conditions of a clause. -/
def parseConditions : Nat → List Token → Option (List Token)
  | 0, _ => none
  | fuel + 1, ts =>
    match ts with
    | .keyword "if" :: ts => (parseOr fuel ts).bind fun (_, ts) => parseConditions fuel ts
    | ts => some ts

/-- The targets of a clause, up to its `in`. -/
def parseTargets : Nat → List Token → Option (List Token)
  | 0, _ => none
  | fuel + 1, ts =>
    let ts := if atSymbol "*" ts then ts.drop 1 else ts
    (parsePrimary fuel ts).bind fun (target, ts) =>
      if !target.assignable then none
      else
        match ts with
        | .symbol "," :: ts => if atKeyword "in" ts then some ts else parseTargets fuel ts
        | ts => some ts

/-- Expressions separated by commas; more than one, or a comma behind one, make a tuple. -/
def parseExpressions : Nat → List Token → Reading Expr
  | 0, _ => none
  | fuel + 1, ts =>
    (parseExpression fuel ts).bind fun (first, ts) =>
      match ts with
      | .symbol "," :: ts => (parseMore fuel ts).map fun (rest, ts) => (.tuple (first.expr :: rest), ts)
      | ts => some (first.expr, ts)

/-- The expressions behind a comma, up to the end. -/
def parseMore : Nat → List Token → Reading (List Expr)
  | 0, _ => none
  | fuel + 1, ts =>
    match ts with
    | [] => some ([], [])
    | .newline :: ts => some ([], .newline :: ts)
    | ts =>
      (parseExpression fuel ts).bind fun (e, ts) =>
        match ts with
        | .symbol "," :: ts => (parseMore fuel ts).map fun (es, ts) => (e.expr :: es, ts)
        | ts => some ([e.expr], ts)

end

/-- How many tokens a token may hold. -/
def Token.weight : Token → Nat
  | .formatted slots => slots.foldl (fun n slot => n + (slot.length + 3)) 1
  | _ => 1

/-- A bound for the depth of the recursion on a token list: every call but a fixed number between two tokens drops a
token. -/
def parseFuel (ts : List Token) : Nat :=
  64 * ts.foldl (fun n t => n + t.weight) 2

/-- The expression that a token list writes. -/
def ofTokens? (ts : List Token) : Option Expr :=
  match parseExpressions (parseFuel ts) ts with
  | some (e, ts) =>
    if ts.all fun
        | .newline => true
        | _ => false
    then some e else none
  | none => none

/-- The expression that a text writes in which pairs of line breaks are joined. -/
def parsePlain (cs : List Char) : Option Expr :=
  (tokenize (feedReturns cs)).bind ofTokens?

/-- The expression that a text writes, its operator aliases replaced. -/
def parse (cs : List Char) : Option Expr :=
  parsePlain (expandAliases (joinBreaks cs))

end IntegrationFlow.Expression
