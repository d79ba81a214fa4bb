import RpcRouting.Proofs.Execution
import RpcRouting.Proofs.Logs
import RpcRouting.Proofs.Routing.Pipeline
/-!
What a router reports. While a request is served, warnings and errors of the router itself come only
from its very last step, in which a failure that is its own to answer for becomes an error for the
peer. So there is one line for each such failure and none for anything else, and the line and the
peer's error say the same.
-/

set_option autoImplicit false
set_option relaxedAutoImplicit false

namespace RpcRouting

variable {r : Router} {request : Document} {session : SessionKey} {w v : World}

/-! ### Reports among the lines of a log -/

def Record.isOfRouter : Record → Bool
  | forwarding _ _ _ => true
  | unhandled _ _ => true
  | ambiguous _ _ _ => true
  | unexpected _ _ _ => true
  | _ => false

/-- The line is a warning or an error of a router. -/
def Record.isReport (line : Record) : Bool :=
  line.isOfRouter && line.level.passes (some .warn)

namespace Record

theorem isReport_of_isOfExecution {line : Record} (own : line.isOfExecution = true) :
    line.isReport = false := by
  cases line <;> first | rfl | cases own

theorem isReport_toRecord (e : RoutingError) (id : SessionId) :
    (e.toRecord id).isReport = true := by
  cases e <;> rfl

theorem passes_of_isReport {line : Record} (report : line.isReport = true)
    {threshold : Option Level} (kept : Level.warn.passes threshold = true) :
    line.level.passes threshold = true := by
  cases threshold with
  | none => cases kept
  | some t =>
    have severe : line.level.passes (some .warn) = true := (Bool.and_eq_true_iff.1 report).2
    exact decide_eq_true (Nat.le_trans (of_decide_eq_true severe) (of_decide_eq_true kept))

end Record

structure World.ReportsNothing (w w' : World) : Prop where
  threshold : w'.log.threshold = w.log.threshold
  lines : ∃ lines, w'.log.records = w.log.records ++ lines ∧ ∀ line ∈ lines, line.isReport = false

namespace World.ReportsNothing

theorem of_eq (same : v.log = w.log) : w.ReportsNothing v :=
  ⟨by rw [same], [], by rw [same, List.append_nil], by simp⟩

theorem emit (w : World) {line : Record} (other : line.isReport = false) :
    w.ReportsNothing (w.emit line) := by
  refine ⟨Log.emit_threshold w.log line, _, Log.emit_records w.log line, ?_⟩
  split <;> simp [other]

theorem composes : World.Composes World.ReportsNothing where
  refl _ := .of_eq rfl
  trans := by
    rintro u v w ⟨kept, before, grown, early⟩ ⟨kept', after, grown', late⟩
    refine ⟨kept'.trans kept, before ++ after, by rw [grown', grown, List.append_assoc], ?_⟩
    exact List.forall_mem_append.2 ⟨early, late⟩

theorem choosing : Choosing World.ReportsNothing where
  toComposes := composes
  bound _ _ _ _ := .of_eq rfl
  probed _ _ _ _ _ := .of_eq rfl
  bind _ _ _ := .of_eq rfl

theorem executing : Executing World.ReportsNothing where
  toComposes := composes
  record _ _ _ := .of_eq rfl
  emit w _ own := .emit w (Record.isReport_of_isOfExecution own)
  act _ _ _ := .of_eq rfl
  mark _ _ := .of_eq rfl

end World.ReportsNothing

/-! ### What is left to the router -/

def Line.nobody (session : SessionId) (text : String) : Line where
  level := .warn
  kind := .event
  fields := [("message", .text "unable to handle rpc"), ("session_id", .text session.text),
    ("error", .text text)]

def Line.conflict (session : SessionId) (found : Conflict) (text : String) : Line where
  level := .error
  kind := .event
  fields := [("message", .text "ambiguous operation registration"),
    ("session_id", .text session.text), ("priority", .text found.priority.text),
    ("existing", .text found.existing), ("conflicting", .text found.conflicting),
    ("error", .text text)]

def Line.failure (session : SessionId) (stage detail : String) : Line where
  level := .error
  kind := .event
  fields := [("message", .text stage), ("session_id", .text session.text),
    ("detail", .text detail)]

theorem Line.failure_ne_conflict {id : SessionId} {stage detail text : String} {found : Conflict} :
    Line.failure id stage detail ≠ .conflict id found text := by
  simp [failure, conflict]

namespace Router

/-- The warnings and errors of the router that the log keeps of a request. -/
def reports (r : Router) (request : Document) (session : SessionKey) (w : World) : List Line :=
  let added := ((r.route request session).run w).2.log.records.drop w.log.records.length
  (added.filter (·.isReport)).map Record.line

/-- The peer is told an error with a text under a key. -/
def Tells (r : Router) (request : Document) (session : SessionKey) (w : World)
    (key text : String) : Prop :=
  ∃ e, ((r.route request session).run w).1 = .error e ∧ e.info.get? key = some text

def FindsNobody (r : Router) (request : Document) (session : SessionKey) (w : World) : Prop :=
  ∃ candidates, ((r.collect request session).on w).1 = .ok (.ok candidates) ∧
    candidates.isEmpty = true

def FindsConflict (r : Router) (request : Document) (session : SessionKey) (w : World)
    (found : Conflict) : Prop :=
  ((r.collect request session).on w).1 = .ok (.error found)

def Ends (r : Router) (request : Document) (session : SessionKey) (w : World)
    (ended : Except Crash (Except OperationError Document)) : Prop :=
  ∃ head rest, ((r.select request session).run w).1 = .ok (.link head rest) ∧
    (r.handled request session w head rest).1 = ended

/-- Something failed that nobody classified. -/
inductive FailsUnclassified (r : Router) (request : Document) (session : SessionKey)
    (w : World) : Prop
  | choosing {left : Crash} (crash : ((r.collect request session).on w).1 = .error left)
  | executing {left : Crash} (crash : r.Ends request session w (.error left))
  | internal {failure : Failure}
      (ended : r.Ends request session w (.ok (.error (.internal failure))))

/-- An operation answered for the request, and the peer gets the answer as it is. -/
inductive Relays (r : Router) (request : Document) (session : SessionKey) (w : World) : Prop
  | reply {reply : Document} (ended : r.Ends request session w (.ok (.ok reply)))
      (answer : ((r.route request session).run w).1 = .ok reply)
  | refusal {e : RpcError} (ended : r.Ends request session w (.ok (.error (.documented e))))
      (answer : ((r.route request session).run w).1 = .error e)

theorem left?_of_ends {ended : Except Crash (Except OperationError Document)}
    (ends : r.Ends request session w ended) : r.left? request session w = unsettled? ended := by
  obtain ⟨head, rest, chosen, rfl⟩ := ends
  exact left?_of_chosen chosen

theorem answer_of_ends {ended : Except Crash (Except OperationError Document)}
    (ends : r.Ends request session w ended) :
    ((r.route request session).run w).1 = told ended := by
  obtain ⟨head, rest, chosen, rfl⟩ := ends
  exact congrArg Prod.fst (route_of_chain_eq chosen)

theorem exists_reportsNothing (r : Router) (request : Document) (session : SessionKey)
    (w : World) : ∃ v, w.ReportsNothing v ∧ ((r.route request session).run w).2 =
      (r.left? request session w).elim v fun e => v.emit (e.toRecord session.id) := by
  have selected := World.ReportsNothing.choosing.leads_select r request session w
  obtain ⟨v, quiet, final⟩ := exists_unreported World.ReportsNothing.executing r request session w
    fun v chain => by
      rw [announced_eq]
      exact .emit v rfl
  exact ⟨v, World.ReportsNothing.composes.trans selected quiet, final⟩

theorem reports_eq (kept : Level.warn.passes w.log.threshold = true) :
    r.reports request session w =
      (r.left? request session w).toList.map fun e => (e.toRecord session.id).line := by
  obtain ⟨v, ⟨threshold, lines, grown, quiet⟩, ended⟩ := r.exists_reportsNothing request session w
  have none : lines.filter (·.isReport) = [] :=
    List.filter_eq_nil_iff.2 fun line member => by simp [quiet line member]
  rw [reports, ended]
  cases r.left? request session w with
  | none =>
    show ((v.log.records.drop _).filter _).map _ = []
    rw [grown, List.drop_left, none, List.map_nil]
  | some e =>
    have report := Record.isReport_toRecord e session.id
    have passes : (e.toRecord session.id).level.passes v.log.threshold = true :=
      Record.passes_of_isReport report (threshold ▸ kept)
    show (((v.log.emit _).records.drop _).filter _).map _ = [_]
    rw [Log.emit_records, if_pos passes, grown, List.append_assoc, List.drop_left,
      List.filter_append, none, List.filter_cons_of_pos report, List.filter_nil]
    rfl

/-! ### Every failure once -/

/-- How a request ends, by what is left of it to the router. -/
inductive Fate (r : Router) (request : Document) (session : SessionKey) (w : World) :
    Option RoutingError → Prop
  | nobody (found : r.FindsNobody request session w) :
    Fate r request session w (some (.noHandler (r.shown request)))
  | conflict {conflict : Conflict} (found : r.FindsConflict request session w conflict) :
    Fate r request session w (some (.ambiguous (r.shown request) conflict))
  | failed {stage detail : String} (fails : r.FailsUnclassified request session w) :
    Fate r request session w (some (.unexpected stage detail))
  | relayed (relays : r.Relays request session w) : Fate r request session w none

theorem FindsNobody.left? (found : r.FindsNobody request session w) :
    r.left? request session w = some (.noHandler (r.shown request)) := by
  obtain ⟨candidates, collected, none⟩ := found
  refine left?_of_rejected ?_
  rw [select_run, collected]
  exact if_pos none

theorem FindsConflict.left? {found : Conflict}
    (conflict : r.FindsConflict request session w found) :
    r.left? request session w = some (.ambiguous (r.shown request) found) := by
  refine left?_of_rejected ?_
  rw [select_run, conflict]
  rfl

theorem FailsUnclassified.left? (fails : r.FailsUnclassified request session w) :
    ∃ stage detail, r.left? request session w = some (.unexpected stage detail) := by
  cases fails with
  | @choosing left crash =>
    refine ⟨"Unexpected failure while ranking operations", left.describe, left?_of_rejected ?_⟩
    rw [select_run, crash]
    rfl
  | executing crash => exact ⟨_, _, left?_of_ends crash⟩
  | internal ended => exact ⟨_, _, left?_of_ends ended⟩

theorem Relays.left? (relays : r.Relays request session w) : r.left? request session w = none := by
  cases relays with
  | reply ended answer => exact left?_of_ends ended
  | refusal ended answer => exact left?_of_ends ended

theorem fate (r : Router) (request : Document) (session : SessionKey) (w : World) :
    r.Fate request session w (r.left? request session w) := by
  cases collected : ((r.collect request session).on w).1 with
  | error left =>
    obtain ⟨stage, detail, left⟩ :=
      FailsUnclassified.left? (.choosing collected : r.FailsUnclassified request session w)
    exact left ▸ .failed (.choosing collected)
  | ok result =>
    cases result with
    | error conflict =>
      have found : r.FindsConflict request session w conflict := collected
      exact found.left? ▸ .conflict found
    | ok candidates =>
      by_cases none : candidates.isEmpty = true
      · have found : r.FindsNobody request session w := ⟨candidates, collected, none⟩
        exact found.left? ▸ .nobody found
      · have chosen : ((r.select request session).run w).1 = .ok candidates.toChain := by
          rw [select_run, collected]
          exact if_neg none
        obtain ⟨head, rest, linked⟩ := exists_link_of_chosen chosen
        rw [linked] at chosen
        cases ended : (r.handled request session w head rest).1 with
        | error left =>
          have ends : r.Ends request session w (.error left) := ⟨head, rest, chosen, ended⟩
          exact left?_of_ends ends ▸ .failed (.executing ends)
        | ok outcome =>
          have ends : r.Ends request session w (.ok outcome) := ⟨head, rest, chosen, ended⟩
          rw [left?_of_ends ends]
          cases outcome with
          | ok reply => exact .relayed (.reply ends (answer_of_ends ends))
          | error error =>
            cases error with
            | documented e => exact .relayed (.refusal ends (answer_of_ends ends))
            | internal failure => exact .failed (.internal ends)

/-- What a router reports of a request, and that the peer is told the same. -/
structure ReportsOnce (r : Router) (request : Document) (session : SessionKey) (w : World) :
    Prop where
  nobody : r.FindsNobody request session w ↔
    ∃ text, r.reports request session w = [.nobody session.id text] ∧
      r.Tells request session w "operation-not-supported" text
  conflict : (∃ found, r.FindsConflict request session w found) ↔
    ∃ found text, r.reports request session w = [.conflict session.id found text] ∧
      r.Tells request session w "operation-failed" text
  names : ∀ found, r.FindsConflict request session w found →
    ∃ text, r.reports request session w = [.conflict session.id found text] ∧
      r.Tells request session w "operation-failed" text ∧
      text = "Multiple operations available to handle message " ++ r.shown request ++
        " with priority " ++ found.priority.text ++ ", " ++ found.conflicting ++ " and " ++
        found.existing
  failure : r.FailsUnclassified request session w ↔
    ∃ stage detail, r.reports request session w = [.failure session.id stage detail] ∧
      r.Tells request session w "error" detail
  quiet : r.Relays request session w ↔ r.reports request session w = []

/-- Whatever the operations do: a failure that the router answers for is reported in one line that
says what the peer is told, and an answer that it passes on is not reported at all. -/
theorem reportsOnce (r : Router) (request : Document) (session : SessionKey) (w : World)
    (kept : Level.warn.passes w.log.threshold = true) : r.ReportsOnce request session w := by
  have reports : r.reports request session w =
      (r.left? request session w).toList.map fun e => (e.toRecord session.id).line :=
    reports_eq kept
  have fate := r.fate request session w
  have tells : ∀ {e key text}, r.left? request session w = some e →
      (e.toRpcError (r.shown request) session.id).info.get? key = some text →
      r.Tells request session w key text :=
    fun left info => ⟨_, answer_of_left? left, info⟩
  have nobody : r.FindsNobody request session w → ∃ text,
      r.reports request session w = [.nobody session.id text] ∧
        r.Tells request session w "operation-not-supported" text := by
    intro found
    rw [found.left?] at reports
    exact ⟨_, reports, tells found.left? (TextMap.get?_insert_self ..)⟩
  have conflict : ∀ found, r.FindsConflict request session w found → ∃ text,
      r.reports request session w = [.conflict session.id found text] ∧
        r.Tells request session w "operation-failed" text ∧
        text = (RoutingError.ambiguous (r.shown request) found).describe := by
    intro found conflict
    rw [conflict.left?] at reports
    exact ⟨_, reports, tells conflict.left? (TextMap.get?_insert_self ..), rfl⟩
  have failure : r.FailsUnclassified request session w → ∃ stage detail,
      r.reports request session w = [.failure session.id stage detail] ∧
        r.Tells request session w "error" detail := by
    intro fails
    obtain ⟨stage, detail, left⟩ := fails.left?
    rw [left] at reports
    exact ⟨stage, detail, reports, tells left (TextMap.get?_insert_self ..)⟩
  have quiet : r.Relays request session w → r.reports request session w = [] := by
    intro relays
    rw [reports, relays.left?]
    rfl
  -- Lines of different kinds differ, so that a line tells how the request ended.
  refine ⟨⟨nobody, ?_⟩, ⟨?_, ?_⟩, conflict, ⟨failure, ?_⟩, ⟨quiet, ?_⟩⟩
  · rintro ⟨text, line, -⟩
    rw [reports] at line
    generalize r.left? request session w = left at line fate
    cases fate with
    | nobody found => exact found
    | conflict found => cases line
    | failed fails => cases line
    | relayed relays => cases line
  · rintro ⟨found, holds⟩
    obtain ⟨text, line, tells, -⟩ := conflict found holds
    exact ⟨found, text, line, tells⟩
  · rintro ⟨found, text, line, -⟩
    rw [reports] at line
    generalize r.left? request session w = left at line fate
    cases fate with
    | nobody found => cases line
    | conflict found => exact ⟨_, found⟩
    | failed fails => exact absurd (List.cons.inj line).1 Line.failure_ne_conflict
    | relayed relays => cases line
  · rintro ⟨stage, detail, line, -⟩
    rw [reports] at line
    generalize r.left? request session w = left at line fate
    cases fate with
    | nobody found => cases line
    | conflict found => exact absurd (List.cons.inj line).1.symm Line.failure_ne_conflict
    | failed fails => exact fails
    | relayed relays => cases line
  · intro none
    rw [reports] at none
    generalize r.left? request session w = left at none fate
    cases fate with
    | nobody found => cases none
    | conflict found => cases none
    | failed fails => cases none
    | relayed relays => exact relays

/-- Two operations that both answer for one request, and one of them for others. -/
def deskHost : Host where
  catalogue :=
    { operation := fun key => ⟨key.value, false, fun _ _ => none,
        fun _ request _ =>
          if request.operationName? = some "unknown" then .ok .cannotHandle
          else if key.value = "rival" ∧ request.operationName? ≠ some "contested" then
            .ok .cannotHandle
          else .ok (.real 1),
        fun _ request =>
          if request.operationName? = some "broken" then
            .finish (.error (.internal (.cause "no ink")))
          else .finish (.error (.documented (.operationFailed "closed today")))⟩
      leaf := fun _ => ⟨[⟨"clerk"⟩, ⟨"rival"⟩], fun _ => .finish (.ok ())⟩ }
  sessionId := ⟨1⟩
  backend := .leaf ⟨0⟩

theorem reportsOnce_deskHost :
    let desk : Router := ⟨.ofHost deskHost, defaultLimit⟩
    let w := World.initial (some .trace)
    let reports name := desk.reports (.request "1" (.named name)) ⟨0, ⟨1⟩⟩ w
    Level.warn.passes w.log.threshold = true ∧
      (∃ text, reports "unknown" = [.nobody ⟨1⟩ text]) ∧
      (∃ text, reports "contested" = [.conflict ⟨1⟩ ⟨.real 1, "clerk", "rival"⟩ text]) ∧
      (∃ stage detail, reports "broken" = [.failure ⟨1⟩ stage detail] ∧
        desk.Tells (.request "1" (.named "broken")) ⟨0, ⟨1⟩⟩ w "error" detail) ∧
      reports "refused" = [] := by
  intro desk w reports
  have once : ∀ name, desk.ReportsOnce (.request "1" (.named name)) ⟨0, ⟨1⟩⟩ w :=
    fun name => reportsOnce desk _ _ w rfl
  have chosen : ∀ name, name ∈ ["broken", "refused"] →
      ((desk.select (.request "1" (.named name)) ⟨0, ⟨1⟩⟩).run w).1 =
        .ok (.link (.contributed ⟨"clerk"⟩) .terminus) := by
    simp only [List.forall_mem_cons]
    exact ⟨rfl, rfl, nofun⟩
  refine ⟨rfl, ?_, ?_, ?_, ?_⟩
  · obtain ⟨text, line, -⟩ := (once "unknown").nobody.1 ⟨_, rfl, rfl⟩
    exact ⟨text, line⟩
  · have found : ((desk.collect (.request "1" (.named "contested")) ⟨0, ⟨1⟩⟩).on w).1 =
        .ok (.error ⟨.real 1, "clerk", "rival"⟩) := rfl
    obtain ⟨text, line, -⟩ := (once "contested").names _ found
    exact ⟨text, line⟩
  · exact (once "broken").failure.1 (.internal ⟨_, _, chosen "broken" (by simp), rfl⟩)
  · have ends : desk.Ends (.request "1" (.named "refused")) ⟨0, ⟨1⟩⟩ w
        (.ok (.error (.documented (.operationFailed "closed today")))) :=
      ⟨_, _, chosen "refused" (by simp), rfl⟩
    exact (once "refused").quiet.1 (.refusal ends (answer_of_ends ends))

end Router

end RpcRouting
