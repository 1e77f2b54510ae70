/-!
# Routes

Which action a method and a path ask for. A path may stand for several actions, one for each method; a path that stands for
none is unknown.
-/

namespace IntegrationFlow.Server

/-- The methods of requests that some path allows. -/
inductive Method where
  | get
  | put
  | post
  | delete
deriving DecidableEq

/-- The method with a name. What may be got may also be asked for with `HEAD`. -/
def Method.ofName? : String → Option Method
  | "GET" => some .get
  | "HEAD" => some .get
  | "PUT" => some .put
  | "POST" => some .post
  | "DELETE" => some .delete
  | _ => none

/-- What can be asked for. -/
inductive Action where
  | catalog
  | listFlows
  | validate
  | run
  | loadFlow (id : String)
  | saveFlow (id : String)
  | deleteFlow (id : String)
  | cancel (id : String)
deriving DecidableEq

/-- The parts of a path between its slashes. -/
def segments (path : String) : List String :=
  (path.toList.splitOn '/').map String.ofList

/-- A part of a path can be an id: it is not empty and has no braces. -/
def canBeId (segment : String) : Bool :=
  !segment.isEmpty && segment.toList.all fun c => c != '\x7b' && c != '\x7d'

/-- The actions that a path stands for, with their methods. A path of fixed parts comes before one with an id. -/
def actionsAt (path : String) : List (Method × Action) :=
  match segments path with
  | ["", "api", "node-types"] => [(.get, .catalog)]
  | ["", "api", "flows"] => [(.get, .listFlows)]
  | ["", "api", "flows", id] =>
    (if id == "validate" then [(Method.post, Action.validate)] else if id == "run" then [(.post, .run)] else []) ++
      if canBeId id then [(.get, .loadFlow id), (.put, .saveFlow id), (.delete, .deleteFlow id)] else []
  | ["", "api", "flows", id, "cancel"] => if canBeId id then [(.post, .cancel id)] else []
  | _ => []

/-- Where a request leads. -/
inductive Destination where
  | found (action : Action)
  | wrongMethod
  | unknownPath
deriving DecidableEq

/-- Where a request with a method and a path leads. -/
def destination (method path : String) : Destination :=
  match actionsAt path with
  | [] => .unknownPath
  | actions =>
    match (Method.ofName? method).bind fun m => actions.lookup m with
    | some a => .found a
    | none => .wrongMethod

end IntegrationFlow.Server
