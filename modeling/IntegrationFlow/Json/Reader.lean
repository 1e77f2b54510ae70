import IntegrationFlow.Json.Token

/-!
# Reading JSON

`parse` reads one value that makes up the whole text. When an object names a key twice, the later value stands in the
place of the earlier one.
-/

namespace IntegrationFlow.Json

mutual

/-- Read a value at the front of the tokens. -/
def readValue : Nat → List Token → Option (Value × List Token)
  | 0, _ => none
  | fuel + 1, tokens =>
    match tokens with
    | .null :: rest => some (.null, rest)
    | .bool b :: rest => some (.bool b, rest)
    | .int n :: rest => some (.int n, rest)
    | .float x :: rest => some (.float x, rest)
    | .text s :: rest => some (.text s, rest)
    | .leftBracket :: .rightBracket :: rest => some (.list [], rest)
    | .leftBracket :: rest => (readItems fuel rest).map fun (items, rest) => (.list items, rest)
    | .leftBrace :: .rightBrace :: rest => some (.object [], rest)
    | .leftBrace :: rest => (readFields fuel [] rest).map fun (fields, rest) => (.object fields, rest)
    | _ => none

/-- Read the items of an array up to its end. -/
def readItems : Nat → List Token → Option (List Value × List Token)
  | 0, _ => none
  | fuel + 1, tokens =>
    match readValue fuel tokens with
    | some (v, .rightBracket :: rest) => some ([v], rest)
    | some (v, .comma :: rest) => (readItems fuel rest).map fun (vs, rest) => (v :: vs, rest)
    | _ => none

/-- Read the fields of an object up to its end, after those already read. -/
def readFields : Nat → Entries → List Token → Option (Entries × List Token)
  | 0, _, _ => none
  | fuel + 1, done, tokens =>
    match tokens with
    | .text name :: .colon :: rest =>
      match readValue fuel rest with
      | some (v, .rightBrace :: rest) => some (Entries.put (.text name) v done, rest)
      | some (v, .comma :: rest) => readFields fuel (Entries.put (.text name) v done) rest
      | _ => none
    | _ => none

end

/-- How deeply brackets and braces are nested. -/
def nesting : List Token → Nat
  | tokens => (tokens.foldl (fun (now, most) t =>
      match t with
      | .leftBracket | .leftBrace => (now + 1, max most (now + 1))
      | .rightBracket | .rightBrace => (now - 1, most)
      | _ => (now, most)) (0, 0)).2

/-- The value of a token list that writes exactly one. -/
def ofTokens? (tokens : List Token) : Option Value :=
  match readValue (tokens.length + 1) tokens with
  | some (v, []) => some v
  | _ => none

/-- Read a JSON text, nested at most as deeply as `limit` says. -/
def parseWithin (limit : Nat) (s : String) : Option Value :=
  (lex s).bind fun tokens => if nesting tokens ≤ limit then ofTokens? tokens else none

/-- Read a JSON text of any depth. -/
def parse (s : String) : Option Value :=
  (lex s).bind ofTokens?

end IntegrationFlow.Json
