import IntegrationFlow.Store.Key
import IntegrationFlow.Table
import IntegrationFlow.Validator

/-!
# The store of flows

The store is a directory of files. A stored flow is a file that holds the flow's document; other files may lie beside it,
and files that hold no flow are passed over when flows are listed. `file?_save` says that a flow that is saved can be
found, and `file?_delete` that a deleted one cannot.
-/

namespace IntegrationFlow

open Store

/-- A directory: the names and the texts of its files. -/
structure Store where
  files : List (String × String) := []

namespace Store

/-- Why a request to the store fails. -/
inductive Failure where
  | badKey (problem : KeyProblem)
  | refused (error : GraphError)
  | unwritable (why : Json.Unwritable)

/-- The text of a file. -/
def file? (s : Store) (name : String) : Option String :=
  s.files.lookup name

/-- Write a file, in place of a file of the same name. -/
def write (s : Store) (name text : String) : Store :=
  ⟨s.files.filter (·.1 != name) ++ [(name, text)]⟩

/-- Remove a file. -/
def remove (s : Store) (name : String) : Store :=
  ⟨s.files.filter (·.1 != name)⟩

/-- The names of the files in order. -/
def fileNames (s : Store) : List String :=
  (s.files.map (·.1)).mergeSort (· ≤ ·)

/-- The file name that belongs to an id. -/
def nameFor (id : String) : Except Failure String :=
  match keyProblem? id with
  | some problem => .error (.badKey problem)
  | none => .ok (fileName id)

/-- Store a flow. -/
def save (s : Store) (f : Flow) : Except Failure Store := do
  let name ← nameFor f.id
  match f.exportText with
  | .ok text => return s.write name text
  | .error why => throw (.unwritable why)

/-- A flow is stored under an id. -/
def contains (s : Store) (id : String) : Except Failure Bool := do
  return (s.file? (← nameFor id)).isSome

/-- The flow that is stored under an id. Its structure is checked. -/
def load (s : Store) (r : Registry) (now : Time.Timestamp) (id : String) : Except Failure Flow := do
  match s.file? (← nameFor id) with
  | none => throw (.refused (.flowNotFound id))
  | some text => (Flow.importText r now text).mapError .refused

/-- Remove the flow that is stored under an id; whether there was one. -/
def delete (s : Store) (id : String) : Except Failure (Bool × Store) := do
  let name ← nameFor id
  return ((s.file? name).isSome, s.remove name)

/-- The flows in the files, in the order of the file names. Their structure is not checked. -/
def flows (s : Store) (now : Time.Timestamp) : List Flow :=
  (s.fileNames.filter isFlowFile).filterMap fun name =>
    (s.file? name).bind fun text => (Flow.parse now text).toOption

/-- Any two of the flows can be put in order by their times. -/
def areComparable : List Flow → Bool
  | [] => true
  | f :: fs => fs.all fun g => f.updatedAt.comparable g.updatedAt

/-- The flows, those that were changed last at the front; flows of equal times in the order of their file names. There is no
such order when the offset of some of the times, but not of all, is known. -/
def list? (s : Store) (now : Time.Timestamp) : Option (List Flow) :=
  let found := s.flows now
  if areComparable found then some (found.mergeSort fun f g => decide (g.updatedAt.instant ≤ f.updatedAt.instant)) else none

/-- A file that has been written is found. -/
theorem file?_write (s : Store) (name text : String) : (s.write name text).file? name = some text := by
  unfold file? write
  rw [List.lookup_append, Table.lookup_without, if_pos rfl]
  simp

/-- A flow that has been saved is found under its id. -/
theorem file?_save {s t : Store} {f : Flow} (h : s.save f = .ok t) :
    ∃ text, f.exportText = .ok text ∧ t.file? (fileName f.id) = some text := by
  unfold save nameFor at h
  split at h
  · cases h
  · simp only [bind, Except.bind] at h
    split at h
    · next text ht =>
      cases h
      exact ⟨text, ht, file?_write s _ text⟩
    · cases h

/-- A flow that has been deleted is not found. -/
theorem file?_delete {s t : Store} {id : String} {found : Bool} (h : s.delete id = .ok (found, t)) :
    t.file? (fileName id) = none := by
  unfold delete nameFor at h
  split at h
  · cases h
  · cases h
    exact (Table.lookup_without _ _ s.files).trans (if_pos rfl)

end Store

end IntegrationFlow
