import IntegrationFlow.Server.Api
import IntegrationFlow.Proofs.Flow.Alike
import IntegrationFlow.Proofs.Flow.Document

/-!
# Checks and runs agree

A service may be asked to check a flow, or to run it, with the flow in the body of the request. A run reads the flow in
another way: it first checks the structure alone, and the engine checks the flow as a whole. Both requests come to the
same verdict nonetheless (`run_agrees_with_validate`). The time of reading is the only thing in which the two flows that
are read can differ (`ofValue_at`), and the checks do not look at it.
-/

namespace IntegrationFlow

open Schema Time

/-! ### The time of reading -/

namespace Schema.Checked

variable {α β γ δ : Type} {rel : α → β → Prop} {rel' : γ → δ → Prop}

/-- Two readings find the same problems, or results that correspond. -/
def Rel (rel : α → β → Prop) : Checked α → Checked β → Prop
  | .fits a, .fits b => rel a b
  | .refused ps, .refused qs => qs = ps
  | _, _ => False

theorem rel_refl {c : Checked α} : Rel (fun a b => b = a) c c := by
  cases c <;> rfl

theorem Rel.map {c : Checked α} {d : Checked β} (h : Rel rel c d) {p : α → γ} {q : β → δ}
    (hpq : ∀ a b, rel a b → rel' (p a) (q b)) : Rel rel' (p <$> c) (q <$> d) := by
  cases c with
  | fits a =>
    cases d with
    | fits b => exact hpq a b h
    | refused qs => exact h.elim
  | refused ps =>
    cases d with
    | fits b => exact h.elim
    | refused qs => exact h

theorem Rel.seq {p : Checked (α → γ)} {q : Checked (β → δ)} {c : Checked α} {d : Checked β}
    (hpq : Rel (fun p q => ∀ a b, rel a b → rel' (p a) (q b)) p q) (h : Rel rel c d) :
    Rel rel' (p <*> c) (q <*> d) := by
  cases p with
  | fits p =>
    cases q with
    | fits q =>
      cases c with
      | fits a =>
        cases d with
        | fits b => exact hpq a b h
        | refused qs => exact h.elim
      | refused ps =>
        cases d with
        | fits b => exact h.elim
        | refused qs => exact h
    | refused => exact hpq.elim
  | refused ps =>
    cases q with
    | fits q => exact hpq.elim
    | refused qs =>
      obtain rfl : qs = ps := hpq
      cases c with
      | fits a =>
        cases d with
        | fits b => rfl
        | refused => exact h.elim
      | refused =>
        cases d with
        | fits => exact h.elim
        | refused => exact congrArg (qs ++ ·) h

end Schema.Checked

open Checked in
/-- A field that is read at two times is given with the same problems, or with some times. -/
private theorem rel_timeField (fields : Entries) (name : String) (now now' : Timestamp) :
    Rel (fun _ _ => True) (optionalField fields name now timestamp) (optionalField fields name now' timestamp) := by
  unfold optionalField spelledField
  cases (Spelling.camel name).find? fields with
  | none => exact trivial
  | some used =>
    dsimp only
    cases (timestamp used.2).under used.1 with
    | fits t => exact trivial
    | refused ps => rfl

open Checked in
/-- A value is a flow at any time or at none, and the flows that are read at two times have the same core. -/
theorem Flow.rel_ofValue (now now' : Timestamp) (v : Value) :
    Rel (fun f g => g.core = f.core) (Flow.ofValue now v) (Flow.ofValue now' v) := by
  unfold Flow.ofValue
  split
  · unfold Flow.read record
    split
    · next fields _ =>
      have hcreated := rel_timeField fields "createdAt" now now'
      have hupdated := rel_timeField fields "updatedAt" now now'
      refine Rel.seq (Rel.seq ((((((((rel_refl.map ?_).seq rel_refl).seq rel_refl).seq rel_refl).seq rel_refl).seq
        rel_refl).seq rel_refl)) hcreated) hupdated
      rintro id _ rfl name _ rfl description _ rfl version _ rfl nodes _ rfl edges _ rfl config _ rfl _ _ - _ _ -
      rfl
    · rfl
  · rfl

/-! ### What an answer says -/

namespace Server

/-- The code, the node and the edge that an error names. -/
structure Blame where
  code : Value
  node : Value
  edge : Value

/-- What an object says about an error in three of its fields. -/
def blameIn (code node edge : String) (v : Value) : Option Blame := do
  let fields ← v.entries?
  return ⟨← Entries.field? code fields, ← Entries.field? node fields, ← Entries.field? edge fields⟩

namespace Response

/-- A field of the object in an answer. -/
def field? (r : Response) (name : String) : Option Value := do
  let fields ← (← r.body?).entries?
  Entries.field? name fields

/-- What an answer blames that is the refusal of a flow. A bad request names no node and no edge. -/
def blame? (r : Response) : Option Blame := do
  guard (r.status ≠ 200)
  blameIn "code" "nodeId" "edgeId" (← r.field? "error")

/-- A finding that is listed in an answer is an error. -/
def isErrorIn (v : Value) : Bool :=
  (v.entries?.bind (Entries.field? "severity")).bind Value.text? == some Severity.error.name

/-- What the first of the errors blames that are listed in an answer. -/
def firstBlame? (r : Response) : Option Blame := do
  match ← r.field? "diagnostics" with
  | .list findings => blameIn "code" "node_id" "edge_id" (← findings.find? isErrorIn)
  | _ => none

/-- The answer says that there is no flow in the request. -/
def IsInvalidDocument (r : Response) : Prop :=
  r.status = 400 ∧ r.blame?.map Blame.code = some (.text "InvalidFlowDocument")

end Response

/-- What a graph error blames. -/
def blameOf (e : GraphError) : Blame :=
  ⟨.text e.code, optionalText e.node?, optionalText e.edge?⟩

theorem blame?_failed_toValue (e : GraphError) : (failed 400 e.toValue).blame? = some (blameOf e) := by
  simp [Response.blame?, Response.field?, failed, GraphError.toValue, blameIn, Value.ofFields, Value.entries?, blameOf]

theorem blame?_badRequest (message : String) : (badRequest message).blame? = none := by
  have hnone : Entries.field? "nodeId" [] = none := rfl
  simp [Response.blame?, Response.field?, badRequest, failed, blameIn, Value.ofFields, Value.entries?, hnone]

theorem blame?_success (v : Value) : (success v).blame? = none := by
  simp [Response.blame?, success]

/-- What is found in a flow, as an answer gives it. -/
def verdictOf (findings : List Finding) : Response :=
  success (.ofFields [("valid", .bool (findings.all fun d => !d.isError)),
    ("diagnostics", .list (findings.map Finding.toValue))])

theorem isErrorIn_toValue (x : Finding) : Response.isErrorIn x.toValue = x.isError := by
  cases x <;> simp [Response.isErrorIn, Finding.toValue, Value.ofFields, Value.entries?, Value.text?, Finding.isError,
    Finding.severity, Severity.name]

/-- The first error that a verdict lists is the one for which the findings are refused. -/
theorem firstBlame?_verdictOf (findings : List Finding) :
    (verdictOf findings).firstBlame? = (refusal? findings).map blameOf := by
  have hfirst : (findings.map Finding.toValue).find? Response.isErrorIn =
      (findings.filter (·.isError)).head?.map Finding.toValue := by
    rw [List.find?_map, List.head?_filter]
    exact congrArg (fun p => (findings.find? p).map _) (funext isErrorIn_toValue)
  have hblame (x : Finding) : blameIn "code" "node_id" "edge_id" x.toValue =
      some ⟨.text x.code, optionalText x.node?, optionalText x.edge?⟩ := by
    simp [blameIn, Finding.toValue, Value.ofFields, Value.entries?]
  have hlist : (verdictOf findings).field? "diagnostics" = some (.list (findings.map Finding.toValue)) := by
    simp [verdictOf, Response.field?, success, Value.ofFields, Value.entries?]
  unfold Response.firstBlame? refusal?
  rw [hlist, Option.bind_eq_bind, Option.bind_some]
  dsimp only
  rw [hfirst]
  cases findings.filter (·.isError) with
  | nil => rfl
  | cons first others => exact hblame first

theorem field?_verdictOf (findings : List Finding) :
    (verdictOf findings).field? "valid" = some (.bool (refusal? findings).isNone) := by
  have hvalid : (findings.all fun d => !d.isError) = (refusal? findings).isNone := by
    rw [Bool.eq_iff_iff, Option.isNone_iff_eq_none, refusal?_eq_none_iff]
    simp
  simp [verdictOf, Response.field?, success, Value.ofFields, Value.entries?, hvalid]

/-- Further findings do not change what is blamed. -/
theorem refusal?_append {findings : List Finding} {e : GraphError} (h : refusal? findings = some e)
    (more : List Finding) : ∃ e', refusal? (findings ++ more) = some e' ∧ blameOf e' = blameOf e := by
  unfold refusal? at h ⊢
  rw [List.filter_append]
  split at h
  · cases h
  · next first others heq =>
    cases h
    rw [heq]
    exact ⟨_, rfl, rfl⟩

namespace Service

variable {s : Service} {now : Timestamp} {body : List UInt8} {fields : Entries} {d : Value} {f : Flow}
  {problems : List Problem} {e : GraphError}

/-- Where the check of a flow is asked for, and where its run. -/
def validatePath : String := "/api/flows/validate"

@[inherit_doc validatePath]
def runPath : String := "/api/flows/run"

private theorem engine_changed {r : Except Refusal (Service × Value)}
    (h : ∀ t v, r = .ok (t, v) → t.engine = s.engine) : (s.changed r).1.engine = s.engine := by
  unfold changed
  split
  · next t v => exact h t v rfl
  · rfl

private theorem engine_perform (s : Service) (now : Timestamp) (body : List UInt8) (a : Action) :
    (s.perform now body a).1.engine = s.engine := by
  cases a with
  | catalog | listFlows | validate | loadFlow | cancel => rfl
  | run =>
    dsimp only [perform, run]
    split <;> rfl
  | saveFlow id =>
    refine engine_changed fun t v h => ?_
    dsimp only [saveFlow, bind, Except.bind] at h
    cases hf : importBody s.registry now body with
    | error why =>
      rw [hf] at h
      cases h
    | ok f =>
      rw [hf] at h
      dsimp only at h
      split at h
      · cases h
      · cases hstore : (s.store.save f).mapError Refusal.ofStore with
        | error why =>
          rw [hstore] at h
          cases h
        | ok store =>
          rw [hstore] at h
          cases h
          rfl
  | deleteFlow id =>
    refine engine_changed fun t v h => ?_
    dsimp only [deleteFlow, bind, Except.bind] at h
    rcases hdeleted : (s.store.delete id).mapError Refusal.ofStore with why | ⟨found, store⟩
    · rw [hdeleted] at h
      cases h
    · rw [hdeleted] at h
      cases found with
      | true =>
        cases h
        rfl
      | false => cases h

/-- Whatever is asked of a service, its engine stays the same. -/
theorem engine_answer (s : Service) (now : Timestamp) (r : Request) : (s.answer now r).1.engine = s.engine := by
  unfold answer
  split
  · rfl
  · rfl
  · next action _ =>
    have hengine := engine_perform s now r.body action
    rcases hp : s.perform now r.body action with ⟨t, why | v⟩
    · rw [hp] at hengine
      exact hengine
    · rw [hp] at hengine
      exact hengine

/-- How the outcome of an action is answered. -/
def respond : Except Refusal Value → Except Refusal Response
  | .ok v => .ok (success v)
  | .error why =>
    match why.response? with
    | some response => .ok response
    | none => .error why

private theorem answer_of_found {method path : String} {action : Action}
    (h : destination method path = .found action) :
    (s.answer now ⟨method, path, body⟩).2 = respond (s.perform now body action).2 := by
  unfold answer respond
  rw [h]
  dsimp only
  rcases s.perform now body action with ⟨t, why | v⟩
  · rfl
  · rfl

private theorem readObject_eq (hbody : readBody body = .ok (.object fields)) (request : String) :
    readObject request body = .ok fields := by
  unfold readObject
  rw [hbody]
  rfl

/-- The check of a flow is answered with what is found in it, unless there is no flow in the request. -/
theorem answer_validate (hbody : readBody body = .ok (.object fields)) (hflow : Entries.field? "flow" fields = some d) :
    (s.answer now ⟨"POST", validatePath, body⟩).2 =
      .ok (match Flow.ofValue now d with
        | .fits f => verdictOf (Validator.check s.registry f)
        | .refused problems => failed 400 (GraphError.badDocument problems).toValue) := by
  have hroute : destination "POST" validatePath = .found .validate := by decide +kernel
  have hvalidate : s.validate now body = (flowOfValue now d).map fun f =>
      .ofFields [("valid", .bool ((Validator.check s.registry f).all fun d => !d.isError)),
        ("diagnostics", .list ((Validator.check s.registry f).map Finding.toValue))] := by
    unfold validate
    rw [readObject_eq hbody]
    dsimp only [bind, Except.bind]
    rw [hflow]
    rfl
  rw [answer_of_found hroute]
  dsimp only [perform, unchanged]
  rw [hvalidate]
  unfold flowOfValue
  cases Flow.ofValue now d with
  | fits f => rfl
  | refused problems => rfl

/-- What is answered to a run that was carried out. -/
private def reported (report : Run.Report) : Except Refusal Value :=
  match report.trace with
  | .ok trace => (trace.toJson).mapError .unwritable
  | .error (.unwritable why) => .error (.unwritable why)
  | .error (.crashed m) => .error (.crashed m)

/-- The answer to a run that was carried out blames nothing. -/
private theorem blame?_of_reported {report : Run.Report} {r : Response} (h : respond (reported report) = .ok r) :
    r.blame? = none := by
  have hbad (why : Json.Unwritable) (hr : respond (.error (.unwritable why)) = .ok r) : r.blame? = none := by
    cases hr
    exact blame?_badRequest _
  unfold reported at h
  split at h
  · next trace _ =>
    cases hjson : trace.toJson with
    | ok v =>
      rw [hjson] at h
      cases h
      exact blame?_success v
    | error why =>
      rw [hjson] at h
      exact hbad why h
  · next why _ => exact hbad why h
  · next m _ =>
    cases m with
    | badValue =>
      cases h
      exact blame?_badRequest _
    | _ => cases h

variable (s now) in
/-- A run is answered with the refusal of its flow, or with what is reported of it. -/
private theorem answer_run (hbody : readBody body = .ok (.object fields))
    (hflow : Entries.field? "flow" fields = some d) :
    ∃ request : Run.Request, (s.answer now ⟨"POST", runPath, body⟩).2 = respond (do
      let f ← importValue s.registry now d
      let report ← (s.engine.run f request).mapError Refusal.notAllowed
      reported report) := by
  have hroute : destination "POST" runPath = .found .run := by decide +kernel
  refine ⟨{ input := (Entries.field? "input" fields).getD (.object []), execution := s.nameRun (s.runs + 1) }, ?_⟩
  rw [answer_of_found hroute]
  refine congrArg respond ?_
  dsimp only [perform, run, flowToRun]
  rw [readObject_eq hbody]
  dsimp only [bind, Except.bind]
  rw [hflow]
  dsimp only
  cases importValue s.registry now d with
  | error why => rfl
  | ok f =>
    dsimp only
    generalize (s.engine.run f _).mapError Refusal.notAllowed = result
    cases result with
    | error why => rfl
    | ok report => rfl

private theorem answer_run_of_refused (hbody : readBody body = .ok (.object fields))
    (hflow : Entries.field? "flow" fields = some d) (hd : Flow.ofValue now d = .refused problems) :
    (s.answer now ⟨"POST", runPath, body⟩).2 = .ok (failed 400 (GraphError.badDocument problems).toValue) := by
  obtain ⟨request, hanswer⟩ := answer_run s now hbody hflow
  rw [hanswer]
  unfold importValue flowOfValue
  rw [hd]
  rfl

/-- Findings are refused as a bad request, but not for want of a flow. -/
private theorem respond_of_refusal? {findings : List Finding} (h : refusal? findings = some e) :
    respond (.error (.notAllowed e)) = .ok (failed 400 e.toValue) ∧ e.code ≠ "InvalidFlowDocument" := by
  unfold refusal? at h
  split at h
  · cases h
  · next first _ _ =>
    cases h
    refine ⟨rfl, ?_⟩
    cases first <;> simp [GraphError.code, Finding.code]

variable (s now) in
/-- A run of a flow with errors is refused for the first one, be it that the check of the structure finds it, or that
the engine does. -/
private theorem answer_run_of_invalid (hbody : readBody body = .ok (.object fields))
    (hflow : Entries.field? "flow" fields = some d) (hd : Flow.ofValue now d = .fits f)
    (he : refusal? (Validator.check s.registry f) = some e) :
    ∃ e', (s.answer now ⟨"POST", runPath, body⟩).2 = .ok (failed 400 e'.toValue) ∧
      e'.code ≠ "InvalidFlowDocument" ∧ blameOf e' = blameOf e := by
  obtain ⟨request, hanswer⟩ := answer_run s now hbody hflow
  rw [hanswer]
  unfold importValue flowOfValue
  rw [hd]
  dsimp only [bind, Except.bind]
  cases hstructure : refusal? (Validator.checkStructure s.registry f) with
  | some e' =>
    obtain ⟨hrefused, hcode⟩ := respond_of_refusal? hstructure
    refine ⟨e', hrefused, hcode, ?_⟩
    have hcheck : ∃ more, Validator.check s.registry f = Validator.checkStructure s.registry f ++ more := by
      simp only [Validator.check, List.append_assoc]
      exact ⟨_, rfl⟩
    obtain ⟨more, hmore⟩ := hcheck
    obtain ⟨e'', he'', hblame⟩ := refusal?_append hstructure more
    rw [← hmore, he] at he''
    rw [← hblame, Option.some.inj he'']
  | none =>
    have hengine : s.engine.run f request = .error e := by
      rw [Run.Engine.run_eq_error_iff, Validator.ensureValid, show s.engine.registry = s.registry from rfl, he]
    dsimp only [pure, Except.pure]
    rw [hengine]
    obtain ⟨hrefused, hcode⟩ := respond_of_refusal? he
    exact ⟨e, hrefused, hcode, rfl⟩

private theorem answer_run_of_valid (hbody : readBody body = .ok (.object fields))
    (hflow : Entries.field? "flow" fields = some d) (hd : Flow.ofValue now d = .fits f)
    (hnone : refusal? (Validator.check s.registry f) = none) {r : Response}
    (hr : (s.answer now ⟨"POST", runPath, body⟩).2 = .ok r) : r.blame? = none := by
  obtain ⟨request, hanswer⟩ := answer_run s now hbody hflow
  rw [hanswer] at hr
  unfold importValue flowOfValue at hr
  rw [hd] at hr
  have hstructure : refusal? (Validator.checkStructure s.registry f) = none :=
    refusal?_eq_none_iff.2 fun x hx => refusal?_eq_none_iff.1 hnone x (by simp [Validator.check, hx])
  dsimp only [bind, Except.bind] at hr
  rw [hstructure] at hr
  dsimp only [pure, Except.pure] at hr
  cases hrun : s.engine.run f request with
  | error e =>
    rw [Run.Engine.run_eq_error_iff, Validator.ensureValid, show s.engine.registry = s.registry from rfl, hnone] at hrun
    cases hrun
  | ok report =>
    rw [hrun] at hr
    exact blame?_of_reported hr

end Service

open Service

/-- The answer to a check and what comes of a run tell the same about a flow. -/
private structure Agrees (checked : Response) (ran : Except Refusal Response) : Prop where
  allowed : checked.field? "valid" = some (.bool true) → ∀ answer, ran = .ok answer → answer.blame? = none
  refused : checked.field? "valid" = some (.bool false) → ∃ answer blame, ran = .ok answer ∧ answer.status = 400 ∧
    answer.blame? = some blame ∧ checked.firstBlame? = some blame
  document : checked.IsInvalidDocument ↔ ∃ answer, ran = .ok answer ∧ answer.IsInvalidDocument
  answered : (∃ valid, checked.field? "valid" = some (.bool valid)) ∨ checked.IsInvalidDocument

/-- There is no flow in the requests. -/
private theorem agrees_of_badDocument (problems problems' : List Problem) :
    Agrees (failed 400 (GraphError.badDocument problems).toValue)
      (.ok (failed 400 (GraphError.badDocument problems').toValue)) := by
  have hinvalid (ps : List Problem) : (failed 400 (GraphError.badDocument ps).toValue).IsInvalidDocument :=
    ⟨rfl, by rw [blame?_failed_toValue]; rfl⟩
  have hfield : (failed 400 (GraphError.badDocument problems).toValue).field? "valid" = none := by
    simp [Response.field?, failed, Value.ofFields, Value.entries?, Entries.field?, Entries.find?, Key.eq]
  refine ⟨fun h => ?_, fun h => ?_, iff_of_true (hinvalid _) ⟨_, rfl, hinvalid _⟩, .inr (hinvalid _)⟩
  · rw [hfield] at h
    cases h
  · rw [hfield] at h
    cases h

private theorem not_isInvalidDocument_verdictOf (findings : List Finding) :
    ¬ (verdictOf findings).IsInvalidDocument := fun h => by
  cases h.1

/-- There is nothing to refuse in what is found. -/
private theorem agrees_of_valid {findings : List Finding} {ran : Except Refusal Response}
    (hnone : refusal? findings = none) (hran : ∀ answer, ran = .ok answer → answer.blame? = none) :
    Agrees (verdictOf findings) ran := by
  have hvalid : (verdictOf findings).field? "valid" = some (.bool true) := by
    rw [field?_verdictOf, hnone]
    rfl
  refine ⟨fun _ => hran, fun h => ?_, iff_of_false (not_isInvalidDocument_verdictOf _) ?_, .inl ⟨_, hvalid⟩⟩
  · rw [hvalid] at h
    cases h
  · rintro ⟨answer, hanswer, -, hcode⟩
    rw [hran answer hanswer] at hcode
    cases hcode

/-- What is found is refused, and so is the run. -/
private theorem agrees_of_invalid {findings : List Finding} {e e' : GraphError} (he : refusal? findings = some e)
    (hcode : e'.code ≠ "InvalidFlowDocument") (hsame : blameOf e' = blameOf e) :
    Agrees (verdictOf findings) (.ok (failed 400 e'.toValue)) := by
  have hinvalid : (verdictOf findings).field? "valid" = some (.bool false) := by
    rw [field?_verdictOf, he]
    rfl
  have hfirst : (verdictOf findings).firstBlame? = some (blameOf e') := by
    rw [firstBlame?_verdictOf, he, hsame]
    rfl
  refine ⟨fun h => ?_, fun _ => ⟨_, _, rfl, rfl, blame?_failed_toValue e', hfirst⟩,
    iff_of_false (not_isInvalidDocument_verdictOf _) ?_, .inl ⟨_, hinvalid⟩⟩
  · rw [hinvalid] at h
    cases h
  · rintro ⟨answer, hanswer, -, hdocument⟩
    rw [← Except.ok.inj hanswer, blame?_failed_toValue] at hdocument
    exact hcode (Value.text.inj (Option.some.inj hdocument))

/-- A request to check a flow and one to run it come to the same verdict, at whatever times they are sent to one
service, whatever is asked of it in between (`engine_answer`), and whatever the input of the run is. If the flow is
found to be valid, the run is not refused for it. If it is not, the run is refused with the code, the node and the edge
of the first error that the check lists. And either there is a flow in both requests, or in none of them. -/
theorem run_agrees_with_validate {s s' : Service} (hengine : s'.engine = s.engine) (now now' : Timestamp)
    {body body' : List UInt8} {fields fields' : Entries} {d : Value} (hbody : readBody body = .ok (.object fields))
    (hbody' : readBody body' = .ok (.object fields')) (hflow : Entries.field? "flow" fields = some d)
    (hflow' : Entries.field? "flow" fields' = some d) :
    let ran := (s'.answer now' ⟨"POST", runPath, body'⟩).2
    ∃ checked, (s.answer now ⟨"POST", validatePath, body⟩).2 = .ok checked ∧
      (checked.field? "valid" = some (.bool true) → ∀ answer, ran = .ok answer → answer.blame? = none) ∧
      (checked.field? "valid" = some (.bool false) → ∃ answer blame, ran = .ok answer ∧ answer.status = 400 ∧
        answer.blame? = some blame ∧ checked.firstBlame? = some blame) ∧
      (checked.IsInvalidDocument ↔ ∃ answer, ran = .ok answer ∧ answer.IsInvalidDocument) ∧
      ((∃ valid, checked.field? "valid" = some (.bool valid)) ∨ checked.IsInvalidDocument) := by
  intro ran
  have hrel := Flow.rel_ofValue now now' d
  rw [answer_validate hbody hflow]
  refine ⟨_, rfl, ?_⟩
  -- The flows that are read from the one document differ in their times at most, which no check looks at.
  suffices h : Agrees (match Flow.ofValue now d with
      | .fits f => verdictOf (Validator.check s.registry f)
      | .refused problems => failed 400 (GraphError.badDocument problems).toValue) ran from
    ⟨h.allowed, h.refused, h.document, h.answered⟩
  cases hd : Flow.ofValue now d with
  | refused problems =>
    cases hd' : Flow.ofValue now' d with
    | fits g =>
      rw [hd, hd'] at hrel
      exact hrel.elim
    | refused problems' =>
      rw [show ran = _ from answer_run_of_refused hbody' hflow' hd']
      exact agrees_of_badDocument problems problems'
  | fits f =>
    cases hd' : Flow.ofValue now' d with
    | refused problems =>
      rw [hd, hd'] at hrel
      exact hrel.elim
    | fits g =>
      rw [hd, hd'] at hrel
      have hcheck : Validator.check s'.registry g = Validator.check s.registry f := by
        rw [registry, hengine, ← registry]
        exact Flow.check_eq_of_core_eq _ hrel
      dsimp only
      cases he : refusal? (Validator.check s.registry f) with
      | none =>
        exact agrees_of_valid he fun answer hanswer =>
          answer_run_of_valid hbody' hflow' hd' (hcheck ▸ he) hanswer
      | some e =>
        obtain ⟨e', hran, hcode, hsame⟩ := answer_run_of_invalid s' now' hbody' hflow' hd' (hcheck ▸ he)
        rw [show ran = _ from hran]
        exact agrees_of_invalid he hcode hsame

/-- The bytes of a request for a flow. -/
def requestBody (flow : String) : List UInt8 :=
  ("\x7b\"flow\": " ++ flow ++ "\x7d").toList.map (·.toNat.toUInt8)

/-- The flow in the body of a request. -/
def flowIn? (body : List UInt8) : Option Value :=
  ((readBody body).toOption.bind Value.entries?).bind (Entries.field? "flow")

private theorem exists_of_flowIn? (body : List UInt8) (h : (flowIn? body).isSome = true) :
    ∃ fields d, readBody body = .ok (.object fields) ∧ Entries.field? "flow" fields = some d := by
  unfold flowIn? at h
  rcases hbody : readBody body with why | v
  · rw [hbody] at h
    cases h
  · rw [hbody] at h
    cases v with
    | object fields =>
      obtain ⟨d, hd⟩ := Option.isSome_iff_exists.1 h
      exact ⟨fields, d, rfl, hd⟩
    | _ => cases h

/-- A request for a flow without nodes. -/
def emptyBody : List UInt8 :=
  requestBody "\x7b\"id\": \"f\", \"name\": \"F\"\x7d"

/-- A service at its beginning. -/
def sampleService : Service where
  engine := {}
  nameRun := fun _ => "run"

/-- A flow without an entry point is found to be invalid, and its run is refused for that reason. -/
theorem run_agrees_with_validate_of_emptyBody :
    ∃ answer blame, (sampleService.answer default ⟨"POST", runPath, emptyBody⟩).2 = .ok answer ∧
      answer.status = 400 ∧ answer.blame? = some blame ∧ blame.code.text? = some "MissingIngress" := by
  obtain ⟨fields, d, hbody, hflow⟩ := exists_of_flowIn? emptyBody (by decide +kernel)
  obtain ⟨checked, hchecked, -, hinvalid, -, hanswered⟩ :=
    @run_agrees_with_validate sampleService sampleService rfl default default _ _ _ _ _ hbody hbody hflow hflow
  have hverdict : ((sampleService.answer default ⟨"POST", validatePath, emptyBody⟩).2.toOption.map fun r =>
      (r.status, (r.field? "valid").map Value.truthy, r.firstBlame?.bind (·.code.text?))) =
        some (200, some false, some "MissingIngress") := by decide +kernel
  rw [hchecked] at hverdict
  obtain ⟨hstatus, hvalid, hcode⟩ : checked.status = 200 ∧ (checked.field? "valid").map Value.truthy = some false ∧
      checked.firstBlame?.bind (·.code.text?) = some "MissingIngress" := by
    simpa [Except.toOption] using hverdict
  rcases hanswered with ⟨valid, hfield⟩ | ⟨hbad, -⟩
  · rw [hfield] at hvalid
    obtain rfl : valid = false := Option.some.inj hvalid
    obtain ⟨answer, blame, hran, hrefused, hblame, hfirst⟩ := hinvalid hfield
    rw [hfirst] at hcode
    exact ⟨answer, blame, hran, hrefused, hblame, hcode⟩
  · rw [hstatus] at hbad
    cases hbad

end Server

end IntegrationFlow
