import IntegrationFlow.Proofs.Flow.RoundTrip
import IntegrationFlow.Proofs.Server.Verdict

/-!
# The stored flows

A service begins with an empty store and answers one request after another. `store_of_requests` says what becomes of
the stored flows: an id gets the export of the flow in the body of a request to save it, an id is removed by a request
to delete it, and every other request, each that is refused among them, leaves all stored flows as they are. It says as
well what a request for an id is answered, and that what is stored under an id is a flow with that id.

`Store.stored?_write` and `Store.stored?_remove` give the store by ids, `Service.change_answer` says what one request
does to it, and `Service.sound_after` carries over all requests what is true of each file.
-/

namespace IntegrationFlow

open Store Time

namespace Store

variable {s t : Store} {f : Flow} {id : String}

/-- The text that is stored under an id. -/
def stored? (s : Store) (id : String) : Option String :=
  s.file? (fileName id)

/-- Writing the file of an id changes what is stored under this id alone. -/
theorem stored?_write (s : Store) (id text other : String) :
    (s.write (fileName id) text).stored? other = if other = id then some text else s.stored? other := by
  split
  · next h =>
    subst h
    exact file?_write s _ text
  · next h =>
    have hname : fileName other ≠ fileName id := mt fileName_injective h
    have hbeq : (fileName other == fileName id) = false := by simpa using hname
    unfold stored? file? write
    rw [List.lookup_append, Table.lookup_without, if_neg hname]
    simp [List.lookup_cons, hbeq]

/-- Removing the file of an id changes what is stored under this id alone. -/
theorem stored?_remove (s : Store) (id other : String) :
    (s.remove (fileName id)).stored? other = if other = id then none else s.stored? other := by
  have hname : fileName other = fileName id ↔ other = id := ⟨fileName_injective, congrArg fileName⟩
  exact (Table.lookup_without _ _ s.files).trans (by simp only [hname]; rfl)

theorem save_eq_ok_iff : s.save f = .ok t ↔
    keyProblem? f.id = none ∧ ∃ text, f.exportText = .ok text ∧ t = s.write (fileName f.id) text := by
  unfold save nameFor
  cases keyProblem? f.id with
  | some problem => simp [bind, Except.bind]
  | none =>
    cases f.exportText with
    | error why => simp [bind, Except.bind, throw, throwThe, MonadExceptOf.throw]
    | ok text => simp [bind, Except.bind, pure, Except.pure, eq_comm]

theorem delete_eq (s : Store) (id : String) : s.delete id =
    match keyProblem? id with
    | some problem => .error (.badKey problem)
    | none => .ok ((s.stored? id).isSome, s.remove (fileName id)) := by
  unfold delete nameFor
  cases keyProblem? id <;> rfl

theorem load_eq (s : Store) (r : Registry) (now : Timestamp) (id : String) : s.load r now id =
    match keyProblem? id, s.stored? id with
    | some problem, _ => .error (.badKey problem)
    | none, none => .error (.refused (.flowNotFound id))
    | none, some text => (Flow.importText r now text).mapError .refused := by
  unfold load nameFor
  cases keyProblem? id with
  | some problem => rfl
  | none =>
    unfold stored?
    dsimp only [bind, Except.bind]
    cases s.file? (fileName id) <;> rfl

end Store

/-! ### The id in what is exported -/

namespace Flow

variable {now : Timestamp} {f : Flow}

/-- What is exported of a flow that was read is the text of an object with the flow's id. -/
theorem id_of_exportText {document : String} (h : parse now document = .fits f) {text : String}
    (htext : f.exportText = .ok text) :
    ∃ fields, Json.parse text = some (.object fields) ∧ Entries.field? "id" fields = some (.text f.id) := by
  have hjson := isJsonWithin_toValue_of_parse h
  have hparse := Json.parseWithin_pretty hjson.isJson.damped hjson.isJson.isFinite_damped
    (hjson.isJson.depth_damped.trans_le hjson.depth_le)
  have hread : Json.parse (Json.pretty f.toValue.damped) = some f.toValue.damped := by
    unfold Json.parseWithin at hparse
    obtain ⟨tokens, hlex, htokens⟩ := Option.bind_eq_some_iff.1 hparse
    rw [Json.parse, hlex, Option.bind_some]
    split at htokens
    · exact htokens
    · cases htokens
  unfold exportText toJson at htext
  rw [Json.writable_eq hjson.isJson] at htext
  obtain rfl := Except.ok.inj htext
  rw [hread, toValue, Value.damped_ofFields]
  exact ⟨_, rfl, Entries.field?_text_cons "id" "id" _ _⟩

/-- A flow that is read from the export of a flow that was read has its id. -/
theorem id_eq_of_parse_exportText {document : String} (h : parse now document = .fits f) {text : String}
    (htext : f.exportText = .ok text) {later : Timestamp} {g : Flow} (hg : parse later text = .fits g) :
    g.id = f.id := by
  obtain ⟨text', htext', hagain⟩ := exists_exportText (isJsonWithin_toValue_of_parse h)
  obtain rfl : text' = text := Except.ok.inj (htext'.symm.trans htext)
  rw [hagain, read, toValue, Value.damped_ofFields, record_ofFields] at hg
  simp only [Schema.Checked.seq_eq_fits_iff, Schema.Checked.map_eq_fits_iff] at hg
  obtain ⟨_, ⟨_, ⟨_, ⟨_, ⟨_, ⟨_, ⟨_, ⟨_, ⟨id, hid, rfl⟩, _, -, rfl⟩, _, -, rfl⟩, _, -, rfl⟩, _, -, rfl⟩, _, -, rfl⟩,
    _, -, rfl⟩, _, -, rfl⟩, _, -, rfl⟩ := hg
  have hfield := Schema.Checked.under_eq_fits_iff.1
    ((Schema.requiredField_eq (Entries.field?_text_cons "id" "id" (.text f.id) _)).symm.trans hid)
  cases hfield
  rfl

end Flow

namespace Server

/-! ### Where a request for an id leads -/

/-- A request has a method, and its path is that of the flow with an id. -/
def Request.Addresses (r : Request) (m : Method) (id : String) : Prop :=
  Method.ofName? r.method = some m ∧ segments r.path = ["", "api", "flows", id] ∧ canBeId id = true

/-- What a method asks to be done about the flow with an id. -/
def Method.action? (id : String) : Method → Option Action
  | .get => some (.loadFlow id)
  | .put => some (.saveFlow id)
  | .delete => some (.deleteFlow id)
  | .post => none

theorem destination_eq_found_iff {method path : String} {a : Action} : destination method path = .found a ↔
    ∃ m, Method.ofName? method = some m ∧ (actionsAt path).lookup m = some a := by
  rw [← Option.bind_eq_some_iff]
  unfold destination
  generalize actionsAt path = actions
  cases actions with
  | nil => simp
  | cons first others =>
    dsimp only
    generalize (Method.ofName? method).bind (fun m => (first :: others).lookup m) = found
    cases found <;> simp

/-- A path of an id stands for what each method asks for, also when the id is the name of a fixed path. -/
theorem lookup_actionsAt_of_segments {path id : String} (hpath : segments path = ["", "api", "flows", id])
    (hid : canBeId id = true) {m : Method} {a : Action} (ha : m.action? id = some a) :
    (actionsAt path).lookup m = some a := by
  unfold actionsAt
  rw [hpath]
  simp only [hid, if_true]
  -- what the fixed paths allow is found under the method `post` alone
  cases m <;> cases ha
  all_goals
    split
    · rfl
    · split <;> rfl

/-- Only its path stands for what is asked about the flow with an id. -/
theorem segments_of_mem_actionsAt {path id : String} {m m' : Method} {a : Action} (ha : m.action? id = some a)
    (h : (m', a) ∈ actionsAt path) : m' = m ∧ segments path = ["", "api", "flows", id] ∧ canBeId id = true := by
  unfold actionsAt at h
  cases m <;> cases ha
  all_goals
    split at h <;> grind

/-- A request addresses an id exactly when it leads to what its method asks for. -/
theorem Request.addresses_iff {r : Request} {m : Method} {id : String} {a : Action} (ha : m.action? id = some a) :
    r.Addresses m id ↔ destination r.method r.path = .found a := by
  rw [destination_eq_found_iff]
  constructor
  · rintro ⟨hmethod, hpath, hid⟩
    exact ⟨m, hmethod, lookup_actionsAt_of_segments hpath hid ha⟩
  · rintro ⟨m', hmethod, hlookup⟩
    obtain ⟨before, after, heq, -⟩ := List.lookup_eq_some_iff.1 hlookup
    have hmem : (m', a) ∈ actionsAt r.path := heq ▸ List.mem_append_right before List.mem_cons_self
    obtain ⟨rfl, hpath, hid⟩ := segments_of_mem_actionsAt ha hmem
    exact ⟨hmethod, hpath, hid⟩

example : destination "DELETE" "/api/flows/run" = .found (.deleteFlow "run") := by decide +kernel

/-! ### What is answered -/

/-- The code of the error in an answer. -/
def Response.code? (r : Response) : Option String :=
  (((r.field? "error").bind Value.entries?).bind (Entries.field? "code")).bind Value.text?

theorem code?_failed_toValue (status : Nat) (e : GraphError) : (failed status e.toValue).code? = some e.code := by
  simp [failed, Response.code?, Response.field?, GraphError.toValue, Value.ofFields, Value.entries?, Value.text?]

/-- A request is answered, and the answer has a status. -/
def HasStatus (answer : Except Refusal Response) (status : Nat) : Prop :=
  ∃ r, answer = .ok r ∧ r.status = status

/-- A request is answered with an error. -/
def Reports (answer : Except Refusal Response) (status : Nat) (code : String) : Prop :=
  ∃ r, answer = .ok r ∧ r.status = status ∧ r.code? = some code

namespace Service

variable {s t : Service} {now : Timestamp} {body : List UInt8} {id : String} {f : Flow}

theorem hasStatus_respond_ok {v : Value} {status : Nat} : HasStatus (respond (.ok v)) status ↔ status = 200 := by
  simp [HasStatus, respond, success, eq_comm]

theorem not_hasStatus_respond_error (why : Refusal) : ¬ HasStatus (respond (.error why)) 200 := by
  rintro ⟨r, hr, hstatus⟩
  unfold respond at hr
  cases why with
  | notAllowed e =>
    cases hr
    cases e <;> cases hstatus
  | unordered => cases hr
  | crashed m =>
    cases m <;> cases hr
    cases hstatus
  | _ =>
    cases hr
    cases hstatus

theorem reports_respond_badKey {problem : KeyProblem} {status : Nat} {code : String} :
    Reports (respond (.error (.badKey problem))) status code ↔ status = 400 ∧ code = "BadRequest" := by
  simp [Reports, respond, Refusal.response?, badRequest, failed, Response.code?, Response.field?, Value.ofFields,
    Value.entries?, Value.text?, eq_comm]

theorem reports_respond_notAllowed {e : GraphError} {status : Nat} {code : String} :
    Reports (respond (.error (.notAllowed e))) status code ↔
      (match e with
        | .flowNotFound _ => 404
        | _ => 400) = status ∧ e.code = code := by
  constructor
  · rintro ⟨r, hr, hstatus, hcode⟩
    cases hr
    exact ⟨hstatus, Option.some.inj ((code?_failed_toValue _ e).symm.trans hcode)⟩
  · rintro ⟨hstatus, rfl⟩
    exact ⟨_, rfl, hstatus, code?_failed_toValue _ e⟩

theorem not_reports_respond_ok {v : Value} {status : Nat} {code : String} (h : status ≠ 200) :
    ¬ Reports (respond (.ok v)) status code := fun ⟨r, hr, hstatus, _⟩ =>
  h (hasStatus_respond_ok.1 ⟨r, hr, hstatus⟩)

/-! ### What an action does to the stored flows -/

theorem answer_eq_of_found {r : Request} {a : Action} (h : destination r.method r.path = .found a) :
    s.answer now r = ((s.perform now r.body a).1, respond (s.perform now r.body a).2) := by
  unfold answer respond
  rw [h]
  dsimp only
  rcases s.perform now r.body a with ⟨t, why | v⟩
  · rfl
  · rfl

/-- A flow is saved when it can be imported, has the id that the path gives and a key of the store for an id, and can be
exported. -/
theorem saveFlow_eq_ok {v : Value} (h : s.saveFlow now id body = .ok (t, v)) :
    ∃ f text, importBody s.registry now body = .ok f ∧ f.id = id ∧ keyProblem? id = none ∧ f.exportText = .ok text ∧
      t.store = s.store.write (fileName id) text := by
  unfold saveFlow at h
  cases himport : importBody s.registry now body with
  | error why =>
    rw [himport] at h
    cases h
  | ok f =>
    rw [himport] at h
    dsimp only [bind, Except.bind] at h
    split at h
    · cases h
    · next hid =>
      obtain rfl : f.id = id := by simpa using hid
      cases hsave : s.store.save f with
      | error why =>
        rw [hsave] at h
        cases h
      | ok store =>
        rw [hsave] at h
        cases h
        obtain ⟨hkey, text, htext, hstore⟩ := save_eq_ok_iff.1 hsave
        exact ⟨f, text, rfl, rfl, hkey, htext, hstore⟩

/-- Nothing else keeps a flow from being saved. -/
theorem exists_saveFlow {text : String} (himport : importBody s.registry now body = .ok f) (hid : f.id = id)
    (hkey : keyProblem? id = none) (htext : f.exportText = .ok text) : ∃ t v, s.saveFlow now id body = .ok (t, v) := by
  have hsave : s.store.save f = .ok (s.store.write (fileName f.id) text) :=
    save_eq_ok_iff.2 ⟨hid ▸ hkey, text, htext, rfl⟩
  unfold saveFlow
  rw [himport]
  dsimp only [bind, Except.bind]
  rw [if_neg (by simpa using hid), hsave]
  exact ⟨_, _, rfl⟩

/-- A flow is deleted when one is stored under an id that can be a key of the store; else the request is refused. -/
theorem deleteFlow_eq (s : Service) (id : String) : s.deleteFlow id =
    match keyProblem? id, s.store.stored? id with
    | some problem, _ => .error (.badKey problem)
    | none, none => .error (.notAllowed (.flowNotFound id))
    | none, some _ => .ok ({ s with store := s.store.remove (fileName id) },
        .ofFields [("id", .text id), ("deleted", .bool true)]) := by
  unfold deleteFlow
  rw [delete_eq]
  cases keyProblem? id with
  | some problem => rfl
  | none => cases s.store.stored? id <;> rfl

/-- What a request does to the stored flows. -/
inductive Change (s : Service) (now : Timestamp) (r : Request) : Prop where
  | saved (id : String) (f : Flow) (text : String) (haddress : r.Addresses .put id)
      (hstatus : HasStatus (s.answer now r).2 200) (himport : importBody s.registry now r.body = .ok f)
      (hid : f.id = id) (hkey : keyProblem? id = none) (htext : f.exportText = .ok text)
      (hstore : (s.answer now r).1.store = s.store.write (fileName id) text)
  | deleted (id : String) (haddress : r.Addresses .delete id) (hstatus : HasStatus (s.answer now r).2 200)
      (hfound : s.store.stored? id ≠ none) (hstore : (s.answer now r).1.store = s.store.remove (fileName id))
  | kept (hother : HasStatus (s.answer now r).2 200 → ∀ id, ¬ r.Addresses .put id ∧ ¬ r.Addresses .delete id)
      (hstore : (s.answer now r).1.store = s.store)

/-- An action that neither saves nor deletes a flow leaves the stored flows as they are. -/
theorem store_perform_of_ne {a : Action} (hsave : ∀ id, a ≠ .saveFlow id) (hdelete : ∀ id, a ≠ .deleteFlow id) :
    (s.perform now body a).1.store = s.store := by
  cases a with
  | catalog | listFlows | validate | loadFlow | cancel => rfl
  | run =>
    dsimp only [perform, run]
    split <;> rfl
  | saveFlow id => exact (hsave id rfl).elim
  | deleteFlow id => exact (hdelete id rfl).elim

section

variable {r : Request} {a : Action}

theorem Change.of_refused (hfound : destination r.method r.path = .found a) (why : Refusal)
    (hwhy : (s.perform now r.body a).2 = .error why) : s.Change now r := by
  refine .kept (fun hstatus => ?_) ?_
  · rw [answer_eq_of_found hfound, hwhy] at hstatus
    exact (not_hasStatus_respond_error why hstatus).elim
  · rw [answer_eq_of_found hfound]
    exact store_perform_of_refused hwhy

theorem Change.of_saveFlow (hfound : destination r.method r.path = .found (.saveFlow id)) : s.Change now r := by
  cases hsaved : s.saveFlow now id r.body with
  | error why => exact .of_refused hfound why (by simp only [perform, changed, hsaved])
  | ok result =>
    obtain ⟨t, v⟩ := result
    have hanswer : s.answer now r = (t, respond (.ok v)) := by
      rw [answer_eq_of_found hfound]
      simp only [perform, changed, hsaved]
    obtain ⟨f, text, himport, hid, hkey, htext, hstore⟩ := saveFlow_eq_ok hsaved
    exact .saved id f text ((Request.addresses_iff rfl).2 hfound) (hanswer ▸ hasStatus_respond_ok.2 rfl) himport hid
      hkey htext (hanswer ▸ hstore)

theorem Change.of_deleteFlow (hfound : destination r.method r.path = .found (.deleteFlow id)) : s.Change now r := by
  have hdeleted := deleteFlow_eq s id
  cases hkey : keyProblem? id with
  | some problem => exact .of_refused hfound (.badKey problem) (by simp only [perform, changed, hdeleted, hkey])
  | none =>
    cases hstored : s.store.stored? id with
    | none =>
      exact .of_refused hfound (.notAllowed (.flowNotFound id))
        (by simp only [perform, changed, hdeleted, hkey, hstored])
    | some text =>
      have hanswer := @answer_eq_of_found s now r _ hfound
      simp only [perform, changed, hdeleted, hkey, hstored] at hanswer
      exact .deleted id ((Request.addresses_iff rfl).2 hfound) (hanswer ▸ hasStatus_respond_ok.2 rfl)
        (by simp [hstored]) (hanswer ▸ rfl)

/-- A request that leads to neither addresses no id in order to save a flow or to delete it. -/
theorem Change.of_ne (hsave : ∀ id, destination r.method r.path ≠ .found (.saveFlow id))
    (hdelete : ∀ id, destination r.method r.path ≠ .found (.deleteFlow id)) : s.Change now r := by
  refine .kept (fun _ id => ⟨fun h => hsave id ((Request.addresses_iff rfl).1 h),
    fun h => hdelete id ((Request.addresses_iff rfl).1 h)⟩) ?_
  cases hdestination : destination r.method r.path with
  | unknownPath | wrongMethod =>
    unfold answer
    rw [hdestination]
  | found a =>
    rw [answer_eq_of_found hdestination]
    exact store_perform_of_ne (fun id h => hsave id (hdestination.trans (h ▸ rfl)))
      fun id h => hdelete id (hdestination.trans (h ▸ rfl))

theorem change_answer (s : Service) (now : Timestamp) (r : Request) : s.Change now r := by
  by_cases hsave : ∃ id, destination r.method r.path = .found (.saveFlow id)
  · obtain ⟨id, hfound⟩ := hsave
    exact .of_saveFlow hfound
  · by_cases hdelete : ∃ id, destination r.method r.path = .found (.deleteFlow id)
    · obtain ⟨id, hfound⟩ := hdelete
      exact .of_deleteFlow hfound
    · simp only [not_exists] at hsave hdelete
      exact .of_ne hsave hdelete

end

/-! ### What a request for an id is answered -/

/-- An answer tells of a bad id exactly when the id cannot be a key of the store, and otherwise that there is no flow
exactly when nothing is stored under it. -/
structure Finds (s : Service) (id : String) (answer : Except Refusal Response) : Prop where
  badKey : Reports answer 400 "BadRequest" ↔ keyProblem? id ≠ none
  notFound : keyProblem? id = none → (Reports answer 404 "FlowNotFound" ↔ s.store.stored? id = none)

theorem Finds.of_badKey {problem : KeyProblem} (h : keyProblem? id = some problem) :
    s.Finds id (respond (.error (.badKey problem))) :=
  ⟨by simp [reports_respond_badKey, h], fun hnone => by simp [hnone] at h⟩

theorem Finds.of_notFound (hkey : keyProblem? id = none) (h : s.store.stored? id = none) :
    s.Finds id (respond (.error (.notAllowed (.flowNotFound id)))) :=
  ⟨by simp [reports_respond_notAllowed, hkey], fun _ => by simp [reports_respond_notAllowed, GraphError.code, h]⟩

/-- What is stored under an id is found, whatever is said of it. -/
theorem Finds.of_stored (hkey : keyProblem? id = none) {text : String} (h : s.store.stored? id = some text)
    {outcome : Except Refusal Value} (hbad : ¬ Reports (respond outcome) 400 "BadRequest")
    (hmissing : ¬ Reports (respond outcome) 404 "FlowNotFound") : s.Finds id (respond outcome) :=
  ⟨iff_of_false hbad (not_not.2 hkey), fun _ => iff_of_false hmissing (by simp [h])⟩

/-- The refusal of a document tells neither of a bad request nor of a flow that is not there. -/
theorem not_reports_of_importText {document : String} {e : GraphError}
    (h : Flow.importText s.registry now document = .error e) :
    ¬ Reports (respond (.error (.notAllowed e))) 400 "BadRequest" ∧
      ¬ Reports (respond (.error (.notAllowed e))) 404 "FlowNotFound" := by
  simp only [reports_respond_notAllowed]
  unfold Flow.importText at h
  split at h
  · cases h
    simp [GraphError.code]
  · split at h
    · next e' hrefusal =>
      cases h
      unfold refusal? at hrefusal
      split at hrefusal
      · cases hrefusal
      · next first others _ =>
        cases hrefusal
        cases first <;> simp [GraphError.code, Finding.code]
    · cases h

/-- A flow is loaded when one is stored under an id that can be a key of the store and when it can be imported. -/
theorem loadFlow_eq (s : Service) (now : Timestamp) (id : String) : s.loadFlow now id =
    match keyProblem? id, s.store.stored? id with
    | some problem, _ => .error (.badKey problem)
    | none, none => .error (.notAllowed (.flowNotFound id))
    | none, some text =>
      match Flow.importText s.registry now text with
      | .error e => .error (.notAllowed e)
      | .ok f => .ok f.toValue.damped := by
  unfold loadFlow
  rw [load_eq]
  cases keyProblem? id with
  | some problem => rfl
  | none =>
    cases s.store.stored? id with
    | none => rfl
    | some text =>
      dsimp only
      cases himport : Flow.importText s.registry now text with
      | error e => rfl
      | ok f =>
        have hjson := Flow.isJsonWithin_toValue_of_parse (Flow.importText_eq_ok_iff.1 himport).1
        exact congrArg (Except.mapError Refusal.unwritable) (Json.writable_eq hjson.isJson)

theorem finds_loadFlow (s : Service) (now : Timestamp) (body : List UInt8) (id : String) :
    s.Finds id (respond (s.perform now body (.loadFlow id)).2) := by
  dsimp only [perform, unchanged]
  rw [loadFlow_eq]
  cases hkey : keyProblem? id with
  | some problem => exact .of_badKey hkey
  | none =>
    cases hstored : s.store.stored? id with
    | none => exact .of_notFound hkey hstored
    | some text =>
      dsimp only
      cases himport : Flow.importText s.registry now text with
      | error e =>
        obtain ⟨hbad, hmissing⟩ := not_reports_of_importText himport
        exact .of_stored hkey hstored hbad hmissing
      | ok f => exact .of_stored hkey hstored (not_reports_respond_ok (by decide)) (not_reports_respond_ok (by decide))

theorem finds_deleteFlow (s : Service) (now : Timestamp) (body : List UInt8) (id : String) :
    s.Finds id (respond (s.perform now body (.deleteFlow id)).2) := by
  dsimp only [perform]
  rw [deleteFlow_eq]
  cases hkey : keyProblem? id with
  | some problem => exact .of_badKey hkey
  | none =>
    cases hstored : s.store.stored? id with
    | none => exact .of_notFound hkey hstored
    | some text =>
      exact .of_stored hkey hstored (not_reports_respond_ok (by decide)) (not_reports_respond_ok (by decide))

/-! ### Any number of requests -/

/-- The service after requests, each with the time at which it is answered. -/
def after (s : Service) (past : List (Timestamp × Request)) : Service :=
  past.foldl (fun s asked => (s.answer asked.1 asked.2).1) s

end Service

/-- A text is the export of a flow with an id that was imported. -/
def IsExport (r : Registry) (id text : String) : Prop :=
  ∃ now body f, importBody r now body = .ok f ∧ f.id = id ∧ f.exportText = .ok text

/-- Each file of a store holds the export of a flow, and has its name from the flow's id. -/
def IsSound (r : Registry) (s : Store) : Prop :=
  ∀ file ∈ s.files, ∃ id, file.1 = fileName id ∧ keyProblem? id = none ∧ IsExport r id file.2

/-- Whatever is read of an exported flow, its id is the one that is named. -/
theorem IsExport.id_eq {r : Registry} {id text : String} (h : IsExport r id text) :
    (∃ fields, Json.parse text = some (.object fields) ∧ Entries.field? "id" fields = some (.text id)) ∧
      ∀ later g, Flow.importText r later text = .ok g → g.id = id := by
  obtain ⟨now, body, f, himport, rfl, htext⟩ := h
  obtain ⟨document, hdocument⟩ : ∃ document, Flow.importText r now document = .ok f := by
    unfold importBody at himport
    split at himport
    · next document _ =>
      cases h : Flow.importText r now document with
      | error e =>
        rw [h] at himport
        cases himport
      | ok g =>
        rw [h] at himport
        cases himport
        exact ⟨document, h⟩
    · cases himport
  have hparse := (Flow.importText_eq_ok_iff.1 hdocument).1
  exact ⟨Flow.id_of_exportText hparse htext,
    fun later g hg => Flow.id_eq_of_parse_exportText hparse htext (Flow.importText_eq_ok_iff.1 hg).1⟩

theorem IsSound.of_stored? {r : Registry} {s : Store} (h : IsSound r s) {id text : String}
    (hstored : s.stored? id = some text) : keyProblem? id = none ∧ IsExport r id text := by
  obtain ⟨before, after, heq, -⟩ := List.lookup_eq_some_iff.1 hstored
  obtain ⟨id', hname, hkey, hexport⟩ := h (fileName id, text) (heq ▸ List.mem_append_right before List.mem_cons_self)
  obtain rfl := fileName_injective hname
  exact ⟨hkey, hexport⟩

namespace Service

/-- One request leaves a sound store sound. -/
theorem sound_answer {s : Service} (h : IsSound s.registry s.store) (now : Timestamp) (r : Request) :
    IsSound s.registry (s.answer now r).1.store := by
  cases change_answer s now r with
  | saved id f text haddress hstatus himport hid hkey htext hstore =>
    rw [hstore]
    intro file hfile
    rcases List.mem_append.1 hfile with hold | hnew
    · exact h file (List.mem_of_mem_filter hold)
    · obtain rfl := List.mem_singleton.1 hnew
      exact ⟨id, rfl, hkey, now, r.body, f, himport, hid, htext⟩
  | deleted id haddress hstatus hfound hstore =>
    rw [hstore]
    exact fun file hfile => h file (List.mem_of_mem_filter hfile)
  | kept hother hstore => exact hstore ▸ h

/-- Any number of requests leave a sound store sound. -/
theorem sound_after {s : Service} (h : IsSound s.registry s.store) (past : List (Timestamp × Request)) :
    IsSound s.registry (s.after past).store := by
  induction past generalizing s with
  | nil => exact h
  | cons asked past ih =>
    have hregistry : (s.answer asked.1 asked.2).1.registry = s.registry :=
      congrArg Run.Engine.registry (engine_answer s asked.1 asked.2)
    have hstep := sound_answer h asked.1 asked.2
    rw [← hregistry] at hstep ⊢
    exact ih hstep

/-- A request changes the stored flows in one of two ways, or it leaves them all as they are. -/
structure Records (s : Service) (now : Timestamp) (r : Request) : Prop where
  saved : ∀ id, r.Addresses .put id → HasStatus (s.answer now r).2 200 →
    ∃ f text, importBody s.registry now r.body = .ok f ∧ f.id = id ∧ f.exportText = .ok text ∧
      ∀ other, (s.answer now r).1.store.stored? other = if other = id then some text else s.store.stored? other
  deleted : ∀ id, r.Addresses .delete id → HasStatus (s.answer now r).2 200 → s.store.stored? id ≠ none ∧
    ∀ other, (s.answer now r).1.store.stored? other = if other = id then none else s.store.stored? other
  kept : (HasStatus (s.answer now r).2 200 → ∀ id, ¬ r.Addresses .put id ∧ ¬ r.Addresses .delete id) →
    (s.answer now r).1.store = s.store

end Service

/-- A request has one method, and its path is that of one flow. -/
theorem Request.Addresses.unique {r : Request} {m m' : Method} {id id' : String} (h : r.Addresses m id)
    (h' : r.Addresses m' id') : m = m' ∧ id = id' := by
  have hpath := h.2.1.symm.trans h'.2.1
  simp only [List.cons.injEq, true_and, and_true] at hpath
  exact ⟨Option.some.inj (h.1.symm.trans h'.1), hpath⟩

namespace Service

theorem records_answer (s : Service) (now : Timestamp) (r : Request) : s.Records now r := by
  cases change_answer s now r with
  | saved id f text haddress hstatus himport hid hkey htext hstore =>
    refine ⟨fun id' haddress' _ => ?_, fun id' haddress' _ => ?_, fun hother => ((hother hstatus id).1 haddress).elim⟩
    · obtain ⟨-, rfl⟩ := haddress.unique haddress'
      exact ⟨f, text, himport, hid, htext, fun other => hstore ▸ stored?_write s.store id text other⟩
    · cases (haddress.unique haddress').1
  | deleted id haddress hstatus hfound hstore =>
    refine ⟨fun id' haddress' _ => ?_, fun id' haddress' _ => ?_, fun hother => ((hother hstatus id).2 haddress).elim⟩
    · cases (haddress.unique haddress').1
    · obtain ⟨-, rfl⟩ := haddress.unique haddress'
      exact ⟨hfound, fun other => hstore ▸ stored?_remove s.store id other⟩
  | kept hother hstore =>
    exact ⟨fun id haddress hstatus => ((hother hstatus id).1 haddress).elim,
      fun id haddress hstatus => ((hother hstatus id).2 haddress).elim, fun _ => hstore⟩

end Service

/-- A request to save a flow is answered with status 200 exactly when the body holds a flow that can be imported and
exported, with the id that the path gives and that can be a key of the store. -/
theorem Service.hasStatus_answer_put_iff {s : Service} {now : Timestamp} {r : Request} {id : String}
    (haddress : r.Addresses .put id) : HasStatus (s.answer now r).2 200 ↔
      ∃ f text, importBody s.registry now r.body = .ok f ∧ f.id = id ∧ keyProblem? id = none ∧
        f.exportText = .ok text := by
  rw [answer_eq_of_found ((Request.addresses_iff rfl).1 haddress)]
  cases hsaved : s.saveFlow now id r.body with
  | error why =>
    simp only [perform, changed, hsaved]
    refine iff_of_false (not_hasStatus_respond_error why) ?_
    rintro ⟨f, text, himport, hid, hkey, htext⟩
    obtain ⟨t, v, hok⟩ := exists_saveFlow himport hid hkey htext
    cases hsaved.symm.trans hok
  | ok result =>
    obtain ⟨t, v⟩ := result
    simp only [perform, changed, hsaved]
    obtain ⟨f, text, himport, hid, hkey, htext, -⟩ := saveFlow_eq_ok hsaved
    exact iff_of_true (hasStatus_respond_ok.2 rfl) ⟨f, text, himport, hid, hkey, htext⟩

/-- What is stored by a service that began with an empty store and has answered any requests, in any order. The next
request changes what is stored only if it saves or deletes a flow and is answered with status 200 (`Service.Records`). A
request to load or to delete what is stored under an id tells whether the id can be a key and whether there is a flow
(`Service.Finds`); this holds of the actions with any id, also with one that a path could not hold. Each file of the
store is that of an id, which can be a key, and holds the export of an imported flow with this id. -/
theorem store_of_requests (engine : Run.Engine) (nameRun : Nat → String) (runs : Nat) (lanes : Run.Lanes)
    (past : List (Timestamp × Request)) :
    let s := ({ engine, nameRun, runs, lanes } : Service).after past
    (∀ now r, s.Records now r) ∧
    (∀ now r id, r.Addresses .get id ∨ r.Addresses .delete id → s.Finds id (s.answer now r).2) ∧
    (∀ now body id, s.Finds id (Service.respond (s.perform now body (.loadFlow id)).2) ∧
      s.Finds id (Service.respond (s.perform now body (.deleteFlow id)).2)) ∧
    (∀ file ∈ s.store.files, ∃ id, file.1 = fileName id) ∧
    ∀ id text, s.store.stored? id = some text → keyProblem? id = none ∧ IsExport engine.registry id text ∧
      (∃ fields, Json.parse text = some (.object fields) ∧ Entries.field? "id" fields = some (.text id)) ∧
      ∀ later g, Flow.importText engine.registry later text = .ok g → g.id = id := by
  intro s
  have hsound : IsSound engine.registry s.store :=
    Service.sound_after (s := { engine, nameRun, runs, lanes }) (fun file hfile => nomatch hfile) past
  refine ⟨s.records_answer, fun now r id haddress => ?_,
    fun now body id => ⟨s.finds_loadFlow now body id, s.finds_deleteFlow now body id⟩,
    fun file hfile => (hsound file hfile).imp fun id h => h.1, fun id text hstored => ?_⟩
  · rcases haddress with haddress | haddress
    · rw [Service.answer_eq_of_found ((Request.addresses_iff rfl).1 haddress)]
      exact s.finds_loadFlow now r.body id
    · rw [Service.answer_eq_of_found ((Request.addresses_iff rfl).1 haddress)]
      exact s.finds_deleteFlow now r.body id
  · obtain ⟨hkey, hexport⟩ := hsound.of_stored? hstored
    exact ⟨hkey, hexport, hexport.id_eq⟩

/-- A request to save the flow with a number, and then one to delete it. -/
def saving : Request :=
  ⟨"PUT", "/api/flows/f", (Flow.numberDocument "0.1").toList.map (·.toNat.toUInt8)⟩

@[inherit_doc saving]
def deleting : Request :=
  ⟨"DELETE", "/api/flows/f", []⟩

/-- The flow is saved, and only after that it can be deleted. -/
theorem store_of_savedFlow :
    let s := ({ engine := {}, nameRun := fun _ => "run" } : Service).after []
    let t := ({ engine := {}, nameRun := fun _ => "run" } : Service).after [(Timestamp.ofSeconds 0, saving)]
    ¬ HasStatus (s.answer (Timestamp.ofSeconds 0) deleting).2 200 ∧
      HasStatus (s.answer (Timestamp.ofSeconds 0) saving).2 200 ∧ t.store.stored? "f" ≠ none ∧
      HasStatus (t.answer (Timestamp.ofSeconds 0) deleting).2 200 := by
  intro s t
  obtain ⟨hrecords, -⟩ := store_of_requests {} (fun _ => "run") 0 {} []
  obtain ⟨-, -, -, -, hexports⟩ := store_of_requests {} (fun _ => "run") 0 {} [(Timestamp.ofSeconds 0, saving)]
  have hput : saving.Addresses .put "f" := ⟨by decide, by decide, by decide⟩
  have hdelete : deleting.Addresses .delete "f" := ⟨by decide, by decide, by decide⟩
  have hempty : s.store.stored? "f" = none := by decide +kernel
  have hexported : ((importBody .builtin (Timestamp.ofSeconds 0) saving.body).toOption.map fun f =>
      (f.id, f.exportText.toOption.isSome)) = some ("f", true) := by decide +kernel
  have hsaved : HasStatus (s.answer (Timestamp.ofSeconds 0) saving).2 200 := by
    refine (Service.hasStatus_answer_put_iff hput).2 ?_
    cases himport : importBody .builtin (Timestamp.ofSeconds 0) saving.body with
    | error why =>
      rw [himport] at hexported
      cases hexported
    | ok f =>
      rw [himport] at hexported
      obtain ⟨hid, htext⟩ := Prod.mk.inj (Option.some.inj hexported)
      cases hexport : f.exportText with
      | error why =>
        rw [hexport] at htext
        cases htext
      | ok text => exact ⟨f, text, himport, hid, by decide, hexport⟩
  obtain ⟨f, text, -, -, -, hstored⟩ := (hrecords (Timestamp.ofSeconds 0) saving).saved "f" hput hsaved
  have hafter : t = (s.answer (Timestamp.ofSeconds 0) saving).1 := by
    simp only [t, s, Service.after, List.foldl_cons, List.foldl_nil]
  have hfound : t.store.stored? "f" = some text := by
    rw [hafter, hstored "f", if_pos rfl]
  refine ⟨fun hdeleted => ((hrecords _ deleting).deleted "f" hdelete hdeleted).1 hempty, hsaved, by simp [hfound], ?_⟩
  rw [Service.answer_eq_of_found ((Request.addresses_iff rfl).1 hdelete)]
  simp only [Service.perform, Service.changed, Service.deleteFlow_eq, (hexports "f" text hfound).1, hfound]
  exact Service.hasStatus_respond_ok.2 rfl

end Server

end IntegrationFlow
