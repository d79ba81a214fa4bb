import RpcRouting.Log.Json
import RpcRouting.Proofs.Logs
import RpcRouting.Proofs.Routing.Lockstep
/-!
The pipeline is transparent. Requests that go through it are served as if they went straight to the
router; only the log shows the difference, in what stands around the lines of each request.
-/

set_option autoImplicit false
set_option relaxedAutoImplicit false

namespace RpcRouting

structure Line where
  level : Level
  kind : RecordKind
  fields : List (String × FieldValue)
deriving DecidableEq

def Record.line (record : Record) : Line := ⟨record.level, record.kind, record.fields⟩

theorem Level.eq_of_text_eq {l l' : Level} (same : l.text = l'.text) : l = l' := by
  cases l <;> cases l' <;> first | rfl | simp [Level.text] at same

theorem FieldValue.eq_of_toJson_eq {v v' : FieldValue} (same : v.toJson = v'.toJson) : v = v' := by
  cases v with
  | text value =>
    cases v' with
    | text value' => rw [Json.text.inj same]
    | _ => cases same
  | number value =>
    cases v' with
    | number value' => rw [Int.ofNat.inj (Json.integer.inj same)]
    | _ => cases same
  | flag value =>
    cases v' with
    | flag value' => rw [Json.boolean.inj same]
    | _ => cases same

namespace Record

theorem level_of_noted {r : Record} (noted : r.kind = .noted) : r.level = .info := by
  cases r <;> first | rfl | cases noted

theorem eq_of_fieldsJson_eq {fields fields' : List (String × FieldValue)}
    (same : fields.map (fun f => Json.array [.text f.1, f.2.toJson]) =
      fields'.map fun f => Json.array [.text f.1, f.2.toJson]) : fields = fields' := by
  refine (List.map_inj_right ?_).1 same
  rintro ⟨name, value⟩ ⟨name', value'⟩ alike
  obtain ⟨rfl, values⟩ : name = name' ∧ value.toJson = value'.toJson := by simpa using alike
  rw [FieldValue.eq_of_toJson_eq values]

/-- What a record is written as says how it is shown, and nothing else. -/
theorem toJson_eq_iff (r r' : Record) : r.toJson = r'.toJson ↔ r.line = r'.line := by
  have shown : r.line = r'.line ↔ r.level = r'.level ∧ r.kind = r'.kind ∧ r.fields = r'.fields := by
    simp [line]
  rw [shown]
  constructor
  · intro same
    cases kind : r.kind with
    | event =>
      cases kind' : r'.kind with
      | event =>
        obtain ⟨level, fields⟩ : r.level.text = r'.level.text ∧ _ := by
          simpa [toJson, kind, kind'] using same
        exact ⟨Level.eq_of_text_eq level, rfl, eq_of_fieldsJson_eq fields⟩
      | _ => simp [toJson, kind, kind'] at same
    | span name =>
      cases kind' : r'.kind with
      | span name' =>
        obtain ⟨rfl, level, fields⟩ : name = name' ∧ r.level.text = r'.level.text ∧ _ := by
          simpa [toJson, kind, kind'] using same
        exact ⟨Level.eq_of_text_eq level, rfl, eq_of_fieldsJson_eq fields⟩
      | _ => simp [toJson, kind, kind'] at same
    | noted =>
      cases kind' : r'.kind with
      | noted =>
        have level : r.level = r'.level := by rw [level_of_noted kind, level_of_noted kind']
        exact ⟨level, rfl, eq_of_fieldsJson_eq (by simpa [toJson, kind, kind'] using same)⟩
      | _ => simp [toJson, kind, kind'] at same
  · rintro ⟨level, kind, fields⟩
    rw [toJson, toJson, level, kind, fields]

end Record

/-- What can be observed of a request when it has been served. -/
structure Passage where
  answer : Except RpcError Document
  lines : List Line
  journal : Journal
  sessions : Sessions
  bindings : Operation → Binding
  released : Bool

namespace Passage

def ofServed (w : World) (served : Except RpcError Document × World) : Passage where
  answer := served.1
  lines := (served.2.log.records.drop w.log.records.length).map Record.line
  journal := served.2.journal
  sessions := served.2.sessions
  bindings := served.2.bindings
  released := served.2.released

/-- The passage with the lines of a span, its outcome and a summary around its own, if lines of
their level are kept. -/
def spanned (kept : Bool) (call : Document × SessionKey) (p : Passage) : Passage :=
  let rpc := ("rpc", FieldValue.text (call.1.operationName?.getD "<not-an-rpc>"))
  let session := ("session_id", FieldValue.number call.2.id.value.toNat)
  let (outcome, tag) : String × List (String × FieldValue) :=
    match p.answer with
    | .ok _ => ("ok", [])
    | .error e => ("error", [("error_tag", .text e.tag.text)])
  let opened : Line := ⟨.info, .span "rpc", [rpc, session]⟩
  let recorded : Line := ⟨.info, .noted, [("outcome", .text outcome)]⟩
  let complete : Line := ⟨.info, .event,
    [("message", .text "rpc complete"), rpc, session, ("outcome", .text outcome)] ++ tag⟩
  if kept then { p with lines := opened :: p.lines ++ [recorded, complete] } else p

end Passage

namespace Router

/-- What can be observed while calls are served in order. -/
def passages (serve : Document → SessionKey → StateM World (Except RpcError Document)) :
    List (Document × SessionKey) → World → List Passage
  | [], _ => []
  | call :: rest, w =>
    let served := (serve call.1 call.2).run w
    .ofServed w served :: passages serve rest served.2

abbrev KeepAlike : World → World → Prop :=
  World.DifferInLog fun log log' => log'.threshold = log.threshold

section Call

variable (request : Document) (session : SessionKey)

def begun (w : World) : World :=
  w.emit (.rpcBegun (request.operationName?.getD notARequest) session.id)

def completed (served : Except RpcError Document × World) : Except RpcError Document × World :=
  let tag := failureTag? served.1
  (served.1, (served.2.emit (.rpcOutcome tag)).emit
    (.rpcComplete (request.operationName?.getD notARequest) session.id tag))

theorem routeLogged_run (r : Router) (w : World) : (r.routeLogged request session).run w =
    completed request session ((r.route request session).run (begun request session w)) := rfl

variable {w w' : World} {request session}

private theorem route_begun (r : Router) (request : Document) (session : SessionKey)
    (keep : KeepAlike w w') :
    let direct := (r.route request session).run w
    let nested := (r.route request session).run (begun request session w')
    nested.1 = direct.1 ∧
      direct.2.DifferInLog (Log.GrewAlike w.log (begun request session w').log) nested.2 := by
  have lockstep : Lockstep r.host
      (World.DifferInLog (Log.GrewAlike w.log (begun request session w').log)) :=
    World.lockstep_differInLog r.host fun line grew => grew.emit line
  have threshold : (begun request session w').log.threshold = w.log.threshold :=
    (Log.emit_threshold w'.log _).trans keep.log
  exact route_alike lockstep request session w (begun request session w')
    { keep with log := .of_threshold threshold }

private theorem drop_records {direct nested : Except RpcError Document × World}
    (grew : Log.GrewAlike w.log (begun request session w').log direct.2.log nested.2.log)
    (threshold : w'.log.threshold = w.log.threshold) :
    (completed request session nested).2.log.records.drop w'.log.records.length =
      if Level.info.passes w.log.threshold then
        .rpcBegun (request.operationName?.getD notARequest) session.id ::
          direct.2.log.records.drop w.log.records.length ++
          [.rpcOutcome (failureTag? nested.1), .rpcComplete (request.operationName?.getD notARequest)
            session.id (failureTag? nested.1)]
      else direct.2.log.records.drop w.log.records.length := by
  obtain ⟨-, threshold', lines, own, grown⟩ := grew
  have before : (begun request session w').log.records = w'.log.records ++
      if Level.info.passes w.log.threshold then
        [.rpcBegun (request.operationName?.getD notARequest) session.id] else [] := by
    rw [← threshold]
    exact Log.emit_records _ _
  have after : (completed request session nested).2.log.records =
      nested.2.log.records ++ (if Level.info.passes w.log.threshold then
        [.rpcOutcome (failureTag? nested.1)] else []) ++
      if Level.info.passes w.log.threshold then
        [.rpcComplete (request.operationName?.getD notARequest) session.id
          (failureTag? nested.1)] else [] := by
    rw [← threshold']
    show ((nested.2.log.emit _).emit _).records = _
    rw [Log.emit_records, Log.emit_records, Log.emit_threshold]
    rfl
  rw [after, grown, before, own, List.drop_left]
  split
  · rw [List.append_assoc, List.append_assoc, List.append_assoc, List.drop_left]
    rfl
  · rw [List.append_nil, List.append_nil, List.append_nil, List.drop_left]

end Call

variable {r : Router} {w w' : World}

private theorem route_grew (r : Router) (request : Document) (session : SessionKey) (w : World) :
    Log.GrewAlike w.log (begun request session w).log ((r.route request session).run w).2.log
      ((r.route request session).run (begun request session w)).2.log := by
  have keep : KeepAlike w w := ⟨rfl, rfl, rfl, rfl, rfl⟩
  exact (route_begun r request session keep).2.log

theorem records_prefix_route (r : Router) (request : Document) (session : SessionKey) (w : World) :
    w.log.records <+: ((r.route request session).run w).2.log.records := by
  obtain ⟨lines, own, -⟩ := (route_grew r request session w).lines
  exact ⟨lines, own.symm⟩

theorem passage_routeLogged (request : Document) (session : SessionKey) (keep : KeepAlike w w') :
    Passage.ofServed w' ((r.routeLogged request session).run w') =
        Passage.spanned (Level.info.passes w.log.threshold) (request, session)
          (.ofServed w ((r.route request session).run w)) ∧
      KeepAlike ((r.route request session).run w).2
        ((r.routeLogged request session).run w').2 := by
  obtain ⟨answer, differ⟩ := route_begun r request session keep
  rw [routeLogged_run]
  generalize (r.route request session).run w = direct at answer differ
  generalize (r.route request session).run (begun request session w') = nested at answer differ
  have after : KeepAlike direct.2 (completed request session nested).2 := by
    refine ⟨differ.sessions, differ.bindings, differ.released, differ.journal, ?_⟩
    show ((nested.2.log.emit _).emit _).threshold = _
    rw [Log.emit_threshold, Log.emit_threshold, differ.log.threshold', differ.log.threshold]
  have told : (completed request session nested).1 = direct.1 := answer
  refine ⟨?_, after⟩
  rw [Passage.ofServed, drop_records differ.log keep.log, after.sessions, after.bindings,
    after.released, after.journal, told, answer, Passage.spanned]
  split
  · cases ended : direct.1 <;>
      simp [Passage.ofServed, ended, Record.line, Record.level, Record.kind, Record.fields,
        Record.outcomeField, failureTag?, notARequest]
  · rfl

private theorem passages_of_keepAlike (calls : List (Document × SessionKey))
    (keep : KeepAlike w w') : passages r.routeLogged calls w' =
      List.zipWith (Passage.spanned (Level.info.passes w.log.threshold)) calls
        (passages r.route calls w) := by
  induction calls generalizing w w' with
  | nil => rfl
  | cons call rest ih =>
    -- The logs have drifted apart by now; all the rest is still the same.
    obtain ⟨passage, after⟩ := passage_routeLogged (r := r) call.1 call.2 keep
    have later := ih after
    rw [(route_grew r call.1 call.2 w).threshold] at later
    rw [passages, passages, List.zipWith_cons_cons, passage, later]

/-- Whatever the operations do, the pipeline serves calls as the router does and reports each one:
a span opens before the router's lines, and the outcome and a summary follow them. -/
theorem passages_routeLogged (r : Router) (calls : List (Document × SessionKey)) (w : World) :
    passages r.routeLogged calls w =
      List.zipWith (Passage.spanned (Level.info.passes w.log.threshold)) calls
        (passages r.route calls w) :=
  passages_of_keepAlike calls ⟨rfl, rfl, rfl, rfl, rfl⟩

end Router

end RpcRouting
