import IntegrationFlow.Text.Blank

/-!
# Keys of the store

A flow is stored in a file that is named after the flow's id. `keyProblem?` refuses ids that would lead out of the
store's directory or that are unfit for file names.
-/

namespace IntegrationFlow.Store

/-- Why an id cannot be a key. -/
inductive KeyProblem where
  | empty
  | separator (key : String)
  | traversal (key : String)
  | drive (key : String)
  | nullByte
  | dangerous (key : String)
deriving DecidableEq

/-- The wording of a problem. -/
def KeyProblem.message : KeyProblem → String
  | .empty => "Flow id cannot be empty"
  | .separator key => "Invalid flow id: path separators not allowed in '" ++ key ++ "'"
  | .traversal key => "Invalid flow id: path traversal detected in '" ++ key ++ "'"
  | .drive key => "Invalid flow id: absolute paths not allowed in '" ++ key ++ "'"
  | .nullByte => "Invalid flow id: null bytes not allowed"
  | .dangerous key => "Invalid flow id: contains dangerous characters in '" ++ key ++ "'"

/-- The characters that have a meaning for a command shell. -/
def dangerousChars : List Char :=
  "<>|&$`'\"".toList

/-- Two points stand next to each other. -/
def hasTwoPoints : List Char → Bool
  | '.' :: '.' :: _ => true
  | _ :: cs => hasTwoPoints cs
  | [] => false

/-- Why a text cannot be a key. -/
def keyProblem? (key : String) : Option KeyProblem :=
  let cs := key.toList
  if Text.isAllBlank cs then some .empty
  else if cs.contains '/' || cs.contains '\\' then some (.separator key)
  else if hasTwoPoints cs || cs.head? == some '.' then some (.traversal key)
  else if (cs.drop 1).head? == some ':' then some (.drive key)
  else if cs.contains (Char.ofNat 0) then some .nullByte
  else if cs.any dangerousChars.contains then some (.dangerous key)
  else none

/-- The name of the file in which the flow with an id is stored. -/
def fileName (key : String) : String :=
  key ++ ".json"

/-- The file name can be one of a stored flow. -/
def isFlowFile (name : String) : Bool :=
  ".json".toList.isSuffixOf name.toList

/-- Flows are stored in such files. -/
theorem isFlowFile_fileName (key : String) : isFlowFile (fileName key) = true := by
  simp [isFlowFile, fileName]

/-- Different ids have different files. -/
theorem fileName_injective {a b : String} (h : fileName a = fileName b) : a = b := by
  have := congrArg String.toList h
  simp only [fileName, String.toList_append, List.append_cancel_right_eq] at this
  exact String.toList_injective this

end IntegrationFlow.Store
