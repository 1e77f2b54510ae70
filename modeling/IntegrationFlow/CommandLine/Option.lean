import IntegrationFlow.Value.Basic

/-!
# Options of a command line

A grammar lists the options of a command; beside them, the command takes one argument, takes another command with all that
follows, or takes nothing. An option may be shortened as long as it is the only one that begins so, its value may follow
after an equals sign, and one-letter options may be run together. What follows `--` is never an option.
`Grammar.parse` reads a command line from left to right; the first thing that is wrong, or a wish for help, decides.
-/

namespace IntegrationFlow.CommandLine

/-- An option. -/
structure Flag where
  /-- By which name the option is reported. -/
  key : String
  names : List String
  takesValue : Bool := false
  /-- The values that the option may have. -/
  allows : String → Bool := fun _ => true

/-- What a command takes beside its options. -/
inductive Operand where
  | nothing
  | argument
  | command
deriving DecidableEq

/-- The options and the operand of a command. -/
structure Grammar where
  flags : List Flag
  operand : Operand

/-- The option that asks for help. -/
def helpFlag : Flag :=
  ⟨"help", ["-h", "--help"], false, fun _ => true⟩

/-- Why a command line is not carried out. -/
inductive Stop where
  | help
  | misuse
deriving DecidableEq

/-- What one word of a command line is. -/
inductive Word where
  | plain (text : String)
  /-- What follows is not an option. -/
  | separator
  /-- An option, as it is written in full, and what is written behind it. -/
  | option (flag : Flag) (name : String) (attached? : Option String)
  | unknownOption (text : String)

/-- An option that was given, and its value. -/
structure Given where
  key : String
  value : String := ""
deriving DecidableEq

/-- What a command line says. -/
structure Reading where
  given : List Given := []
  /-- The operand: an argument, or a command with what follows it. -/
  operand : List String := []
  /-- There are words that the command does not take. -/
  excess : Bool := false

namespace Grammar

/-- The options under their names. -/
def table (g : Grammar) : List (String × Flag) :=
  g.flags.flatMap fun f => f.names.map fun n => (n, f)

/-- The option with a name. -/
def flag? (g : Grammar) (name : String) : Option Flag :=
  g.table.lookup name

/-- Cut a text at its first equals sign. -/
def cutAtEquals? (text : String) : Option (String × String) :=
  let cs := text.toList
  match cs.dropWhile (· != '=') with
  | [] => none
  | _ :: value => some (String.ofList (cs.takeWhile (· != '=')), String.ofList value)

/-- One text begins with another. -/
def beginsWith (text start : String) : Bool :=
  start.toList.isPrefixOf text.toList

/-- The options that a shortened long option can mean. -/
def longCandidates (g : Grammar) (text : String) : List Word :=
  let (start, attached?) := match cutAtEquals? text with
    | some (start, value) => (start, some value)
    | none => (text, none)
  (g.table.filter fun e => beginsWith e.1 start).map fun e => .option e.2 e.1 attached?

/-- The options that a text with one dash can mean: a letter with something attached to it, or a shortened name. -/
def shortCandidates (g : Grammar) (text : String) : List Word :=
  let cs := text.toList
  g.table.filterMap fun e =>
    if e.1 == String.ofList (cs.take 2) then some (.option e.2 e.1 (some (String.ofList (cs.drop 2))))
    else if beginsWith e.1 text then some (.option e.2 e.1 none)
    else none

/-- The text is a negative number. -/
def isNegativeNumber : List Char → Bool
  | '-' :: cs =>
    match cs.dropWhile Char.isDigit with
    | [] => !cs.isEmpty
    | '.' :: ds => !ds.isEmpty && ds.all Char.isDigit
    | _ => false
  | _ => false

/-- What a word is when its name is no option written in full. -/
def guess (g : Grammar) (text : String) : Except Stop Word :=
  let candidates := if beginsWith text "--" then g.longCandidates text else g.shortCandidates text
  match candidates with
  | [w] => .ok w
  | _ :: _ :: _ => .error .misuse
  | [] => .ok (if isNegativeNumber text.toList || text.toList.contains ' ' then .plain text else .unknownOption text)

/-- What a word is. -/
def classify (g : Grammar) (text : String) : Except Stop Word :=
  if !beginsWith text "-" || text == "-" then .ok (.plain text)
  else
    match g.flag? text, cutAtEquals? text with
    | some f, _ => .ok (.option f text none)
    | none, some (name, value) =>
      match g.flag? name with
      | some f => .ok (.option f name (some value))
      | none => g.guess text
    | none, none => g.guess text

/-- What the words are. -/
def classifyAll (g : Grammar) : List String → Except Stop (List Word)
  | [] => .ok []
  | t :: ts =>
    if t == "--" then .ok (.separator :: ts.map .plain)
    else do
      let w ← g.classify t
      return w :: (← g.classifyAll ts)

/-- One-letter options that are run together, from the first one with the rest of the letters on. -/
def cluster (g : Grammar) (f : Flag) : List Char → Except Stop (List Flag × Option String)
  | [] => .ok ([f], none)
  | c :: cs =>
    if f.takesValue then .ok ([f], some (String.ofList (c :: cs)))
    else
      match g.flag? (String.ofList ['-', c]) with
      | some next => do
        let (fs, value?) ← g.cluster next cs
        return (f :: fs, value?)
      | none => .error .misuse

/-- The options that a word stands for, and the value that is attached to the last of them. -/
def spread (g : Grammar) (f : Flag) (name : String) (attached? : Option String) : Except Stop (List Flag × Option String) :=
  match attached? with
  | none => .ok ([f], none)
  | some value =>
    if f.takesValue then .ok ([f], some value)
    else if beginsWith name "--" || value.isEmpty then .error .misuse
    else g.cluster f value.toList

/-- Take note of options, the last of which has a value. -/
def record (value : String) : List Flag → Except Stop (List Given)
  | [] => .ok []
  | f :: fs =>
    if f.key == helpFlag.key then .error .help
    else if f.takesValue && !f.allows value then .error .misuse
    else do return ⟨f.key, value⟩ :: (← record value fs)

/-- The last of the options takes a value. -/
def wantsValue (fs : List Flag) : Bool :=
  fs.getLast?.any (·.takesValue)

/-- Read the words of a command that takes no other command. -/
def readWords (g : Grammar) (r : Reading) : List Word → Except Stop Reading
  | [] => .ok r
  | .plain text :: ws =>
    if g.operand = .argument && r.operand.isEmpty then
      match ws with
      | .separator :: ws => g.readWords { r with operand := [text] } ws
      | ws => g.readWords { r with operand := [text] } ws
    else g.readWords { r with excess := true } ws
  | .separator :: ws =>
    match ws with
    | .plain text :: ws =>
      if g.operand = .argument && r.operand.isEmpty then g.readWords { r with operand := [text] } ws
      else g.readWords { r with excess := true } ws
    | ws => g.readWords { r with excess := true } ws
  | .unknownOption _ :: ws => g.readWords { r with excess := true } ws
  | .option f name attached? :: ws => do
    let (fs, value?) ← g.spread f name attached?
    match value? with
    | some value => g.readWords { r with given := r.given ++ (← record value fs) } ws
    | none =>
      if wantsValue fs then
        match ws with
        | .plain value :: ws => g.readWords { r with given := r.given ++ (← record value fs) } ws
        | _ => throw .misuse
      else g.readWords { r with given := r.given ++ (← record "" fs) } ws

/-- Read the words in front of another command; `texts` are the words as they were written. The command takes all that
follows it. -/
def readToCommand (g : Grammar) (r : Reading) : List Word → List String → Except Stop Reading
  | .plain _ :: _, texts => .ok { r with operand := texts }
  | .separator :: .plain _ :: _, _ => .error .misuse
  | .unknownOption _ :: ws, _ :: texts => g.readToCommand { r with excess := true } ws texts
  | .option f name attached? :: ws, _ :: texts => do
    let (fs, value?) ← g.spread f name attached?
    match value? with
    | some value => g.readToCommand { r with given := r.given ++ (← record value fs) } ws texts
    | none =>
      if wantsValue fs then
        match ws, texts with
        | .plain value :: ws, _ :: texts => g.readToCommand { r with given := r.given ++ (← record value fs) } ws texts
        | _, _ => throw .misuse
      else g.readToCommand { r with given := r.given ++ (← record "" fs) } ws texts
  | _, _ => .ok r

/-- Read a command line. -/
def parse (g : Grammar) (args : List String) : Except Stop Reading := do
  let words ← g.classifyAll args
  if g.operand = .command then g.readToCommand {} words args else g.readWords {} words

end Grammar

namespace Reading

/-- An option was given. -/
def has (r : Reading) (key : String) : Bool :=
  r.given.any (·.key == key)

/-- The values of an option, in order. -/
def values (r : Reading) (key : String) : List String :=
  (r.given.filter (·.key == key)).map (·.value)

/-- The last value of an option. -/
def value? (r : Reading) (key : String) : Option String :=
  (r.values key).getLast?

end Reading

end IntegrationFlow.CommandLine
