import RpcRouting.Proofs.Builtin.Lifecycle
import RpcRouting.Proofs.Release.Exact
import RpcRouting.Proofs.Routing.Pipeline
/-!
Every call of a router without contributed operations is a step of the machine. From the handling
by one built-in operation this goes over to the routing of a request, then to a call, and by
induction to courses of calls (`Router.trace_eq_lifecycle`).
-/

set_option autoImplicit false
set_option relaxedAutoImplicit false

namespace RpcRouting

variable {host : Host} {request : Document} {session : SessionKey} {w w' : World} {b : Builtin}
  {seen : Session}

/-- A run ends as a step of the machine does and leaves what that leaves. -/
def Run.Does (x : Run (Except OperationError Document)) (w : World)
    (step : Except RpcError Document × Lifecycle) : Prop :=
  ∃ w', x.on w = (.ok (step.1.mapError .documented), w') ∧ Lifecycle.ofWorld w' = step.2

theorem Host.Calm.release_on (calm : host.Calm) (w : World) : ∃ outcome w',
    host.release.on w = (.ok ((Lifecycle.ofWorld w).release outcome).1, w') ∧
      Lifecycle.ofWorld w' = ((Lifecycle.ofWorld w).release outcome).2 ∧
      w'.bindings = w.bindings := by
  obtain ⟨⟨events, round, journal⟩, sessions, bindings⟩ := host.releases_release w
  generalize told : (host.release.on w).1 = ended at round
  generalize left : (host.release.on w).2 = w' at round journal sessions bindings
  have run : host.release.on w = (ended, w') := Prod.ext told left
  generalize counted : w.released = before at round
  generalize counts : w'.released = after at round
  cases round with
  | idle =>
    refine ⟨.ok (), w', ?_, ?_, bindings⟩
    · simp [run, Lifecycle.release, Lifecycle.ofWorld, counted]
    · simp [Lifecycle.release, Lifecycle.ofWorld, counted, counts, sessions, journal,
        Event.releaseEnd?]
  | @settled inner outcome nested called all =>
    have silent : inner.filterMap Event.releaseEnd? = [] :=
      List.filterMap_eq_nil_iff.2 fun e member => e.releaseEnd?_of_isInner (nested e member)
    have once : List.filterMap Event.releaseEnd? (.releasing :: inner ++
        [.released (.ok outcome), .answered outcome outcome.isOk]) = [.ok outcome] := by
      rw [List.cons_append, List.filterMap_cons_none rfl, List.filterMap_append, silent]
      rfl
    refine ⟨outcome, w', ?_, ?_, bindings⟩
    · simp [run, Lifecycle.release, Lifecycle.ofWorld, counted]
    · rw [Lifecycle.ofWorld, sessions, counts, journal, List.filterMap_append, once]
      simp [Lifecycle.release, Lifecycle.ofWorld, counted]
  | @broken inner left nested origin =>
    obtain ⟨leaf, own, attempt, crashed⟩ := origin
    obtain ⟨outcome, ends⟩ := calm leaf own attempt
    rw [crashed] at ends
    cases ends

theorem Host.Calm.release_seenBy (calm : host.Calm) (w : World) : ∃ outcome w',
    host.release.on w = (.ok ((Lifecycle.ofWorld w).release outcome).1, w') ∧
      Lifecycle.ofWorld w' = ((Lifecycle.ofWorld w).release outcome).2 ∧
      ∀ operation, w'.seenBy operation = w.seenBy operation := by
  obtain ⟨outcome, w', run, state, bindings⟩ := calm.release_on w
  have sessions : w'.sessions = w.sessions :=
    (congrArg Lifecycle.sessions state).trans (Lifecycle.release_sessions _ outcome)
  refine ⟨outcome, w', run, state, fun operation => ?_⟩
  rw [World.seenBy, World.seenBy, bindings, sessions]

namespace Builtin

theorem handleCloseSession_on_of_error {failure : Failure}
    (run : host.release.on w = (.ok (.error failure), w')) :
    (handleCloseSession host request).on w = (.ok (.error (notReleased host failure)),
      w'.emit (.notReleased host.sessionId failure.outermost)) :=
  Run.on_bind_of_ok run

theorem handleCloseSession_does (calm : host.Calm) (request : Document)
    (sees : w.seenBy (.builtin .closeSession) = some seen) : ∃ outcome,
      (handleCloseSession host request).Does w
        ((Lifecycle.ofWorld w).perform host.sessionId outcome request seen.key .closeSession) := by
  obtain ⟨outcome, w₁, run, state, same⟩ := calm.release_seenBy w
  have sees₁ : w₁.seenBy (.builtin .closeSession) = some seen := (same _).trans sees
  refine ⟨outcome, ?_⟩
  rw [Lifecycle.perform]
  -- The answer depends on how the machine's release ends, not on why.
  generalize (Lifecycle.ofWorld w).release outcome = released at run state
  obtain ⟨ended, s⟩ := released
  subst state
  cases ended with
  | error failure => exact ⟨_, handleCloseSession_on_of_error run, rfl⟩
  | ok success =>
    have replied : (handleCloseSession host request).on w = (.ok (.ok request.okReply),
        ((w₁.record (.consulted (.builtin .closeSession) (some seen) (some .requestClose))).act
          seen.key .requestClose).emit (.released host.sessionId)) := by
      rw [handleCloseSession, Run.on_bind_of_ok run]
      exact Run.on_bind_of_ok (Run.on_consult_of_seen sees₁ (some .requestClose))
    refine ⟨_, replied, ?_⟩
    rw [Lifecycle.ofWorld_emit, Lifecycle.ofWorld_act, Lifecycle.ofWorld_record rfl]
    rfl

theorem handleStartExi_does (owner : SessionId) (outcome : Except Failure Unit)
    (request : Document) (sees : w.seenBy (.builtin .startExi) = some seen) :
    (handleStartExi request).Does w
      ((Lifecycle.ofWorld w).perform owner outcome request seen.key .startExi) := by
  let noted := w.record (.consulted (.builtin .startExi) (some seen) none)
  have consulted : (Run.consult (.builtin .startExi) none).on w = (.ok (some seen), noted) :=
    Run.on_consult_of_seen sees none
  have again : noted.seenBy (.builtin .startExi) = some seen := sees
  have read := exiParameters_eq request
  rw [Lifecycle.perform]
  cases named : request.namedAlignment with
  | error text =>
    rw [named] at read
    have refused : (handleStartExi request).on w = (.ok (.error (.documented
        ((RpcError.application ("Unsupported EXI alignment '" ++ text ++ "'")
          .invalidValue).withInfo "bad-element" "alignment"))), noted) := by
      rw [handleStartExi, Run.on_bind_of_ok consulted]
      simp only [read, Run.on_pure]
    exact ⟨_, refused, Lifecycle.ofWorld_record rfl⟩
  | ok alignment =>
    rw [named] at read
    have replied : (handleStartExi request).on w = (.ok (.ok request.okReply),
        ((noted.record (.consulted (.builtin .startExi) (some seen)
          (some (.startExi ⟨alignment⟩)))).act seen.key (.startExi ⟨alignment⟩)).emit
            (.exiStarted seen.key.id alignment)) := by
      rw [handleStartExi, Run.on_bind_of_ok consulted]
      simp only [read]
      exact Run.on_bind_of_ok (Run.on_consult_of_seen again (some (.startExi ⟨alignment⟩)))
    refine ⟨_, replied, ?_⟩
    rw [Lifecycle.ofWorld_emit, Lifecycle.ofWorld_act, Lifecycle.ofWorld_record rfl,
      Lifecycle.ofWorld_record rfl]
    rfl

theorem handleStopExi_does (owner : SessionId) (outcome : Except Failure Unit)
    (request : Document) (sees : w.seenBy (.builtin .stopExi) = some seen) :
    (handleStopExi request).Does w
      ((Lifecycle.ofWorld w).perform owner outcome request seen.key .stopExi) := by
  have replied : (handleStopExi request).on w = (.ok (.ok request.okReply),
      ((w.record (.consulted (.builtin .stopExi) (some seen) (some .stopExi))).act seen.key
        .stopExi).emit (.exiStopped seen.key.id seen.state.exi.isSome)) :=
    Run.on_bind_of_ok (Run.on_consult_of_seen sees (some .stopExi))
  refine ⟨_, replied, ?_⟩
  rw [Lifecycle.ofWorld_emit, Lifecycle.ofWorld_act, Lifecycle.ofWorld_record rfl]
  rfl

theorem handle_does (calm : host.Calm) (request : Document)
    (sees : w.seenBy (.builtin b) = some seen) : ∃ outcome, (b.handle host request).Does w
      ((Lifecycle.ofWorld w).perform host.sessionId outcome request seen.key b) := by
  cases b with
  | closeSession => exact handleCloseSession_does calm request sees
  | startExi => exact ⟨.ok (), handleStartExi_does host.sessionId (.ok ()) request sees⟩
  | stopExi => exact ⟨.ok (), handleStopExi_does host.sessionId (.ok ()) request sees⟩

end Builtin

theorem Operation.handle_builtin_on {rest : List Operation} {proceed : Document → Run Outcome}
    {ended : Except Crash (Except OperationError Document)}
    (run : (b.handle host request).on
      (w.record (.handling (.builtin b) request (w.seenBy (.builtin b)))) = (ended, w')) :
    ((Operation.builtin b).handle host rest proceed request).on w =
      (ended, w'.record (.handled (.builtin b) ended)) := by
  rw [handle, Run.on_bind_of_ok Run.on_get, Run.on_bind_of_ok (Run.on_note _), Run.on_noteEnd, run]

theorem Operation.handle_does_of_builtin (rest : List Operation)
    (proceed : Document → Run Outcome) {step : Except RpcError Document × Lifecycle}
    (does : (b.handle host request).Does
      (w.record (.handling (.builtin b) request (w.seenBy (.builtin b)))) step) :
    ((Operation.builtin b).handle host rest proceed request).Does w step := by
  obtain ⟨w', run, state⟩ := does
  exact ⟨_, handle_builtin_on run, (Lifecycle.ofWorld_record rfl).trans state⟩

theorem Operation.handle_builtin_does (calm : host.Calm) (rest : List Operation)
    (proceed : Document → Run Outcome) (request : Document)
    (sees : w.seenBy (.builtin b) = some seen) : ∃ outcome,
      ((Operation.builtin b).handle host rest proceed request).Does w
        ((Lifecycle.ofWorld w).perform host.sessionId outcome request seen.key b) := by
  let noted := w.record (.handling (.builtin b) request (w.seenBy (.builtin b)))
  have same : Lifecycle.ofWorld noted = Lifecycle.ofWorld w := Lifecycle.ofWorld_record rfl
  have still : noted.seenBy (.builtin b) = some seen := sees
  obtain ⟨outcome, does⟩ := Builtin.handle_does calm request still
  rw [same] at does
  exact ⟨outcome, handle_does_of_builtin rest proceed does⟩

namespace Router

variable {state : SessionState}

theorem told_documented (answer : Except RpcError Document) :
    told (.ok (answer.mapError .documented)) = answer := by
  cases answer <;> rfl

theorem announced_ofWorld (r : Router) (chain : Chain) :
    Lifecycle.ofWorld (r.announced request session chain w) = Lifecycle.ofWorld w := by
  rw [announced_eq]
  exact Lifecycle.ofWorld_emit _

theorem select_ofWorld (r : Router) :
    Lifecycle.ofWorld ((r.select request session).run w).2 = Lifecycle.ofWorld w :=
  Lifecycle.ofWorld_of_chose (World.choosing_chose.leads_select r request session w)

section Route

variable (contributes : host.ContributesNone) (calm : host.Calm)
  (alive : w.sessions.state? session = some state)

include contributes

theorem route_lifecycle_of_not_isAsked (limit : Nat) (outcome : Except Failure Unit)
    (other : ∀ b : Builtin, ¬ b.IsAsked request) :
    (((route ⟨.ofHost host, limit⟩ request session).run w).1,
        Lifecycle.ofWorld ((route ⟨.ofHost host, limit⟩ request session).run w).2) =
      (Lifecycle.ofWorld w).route ⟨.ofHost host, limit⟩ outcome request session := by
  let r : Router := ⟨.ofHost host, limit⟩
  have rejected : (r.select request session).run w = (.error (.noHandler (r.shown request)),
      ((r.select request session).run w).2) :=
    Prod.ext (select_of_not_isAsked contributes other) rfl
  have answered := route_of_rejected rejected
  rw [Lifecycle.toRpcError_noHandler] at answered
  rw [answered, Lifecycle.ofWorld_emit, select_ofWorld, Lifecycle.route_of_not_isAsked _ _ _ other]

include calm alive

theorem route_lifecycle_of_isAsked (limit : Nat) (asked : b.IsAsked request) :
    ∃ outcome, (((route ⟨.ofHost host, limit⟩ request session).run w).1,
        Lifecycle.ofWorld ((route ⟨.ofHost host, limit⟩ request session).run w).2) =
      (Lifecycle.ofWorld w).route ⟨.ofHost host, limit⟩ outcome request session := by
  let r : Router := ⟨.ofHost host, limit⟩
  have chosen : ((r.select request session).run w).1 = .ok (.link (.builtin b) .terminus) :=
    select_of_isAsked contributes asked
  let announcedIn := r.announced request session (.link (.builtin b) .terminus)
    ((r.select request session).run w).2
  have sees : announcedIn.seenBy (.builtin b) = some ⟨session, state⟩ := by
    rw [announced_seenBy, seenBy_of_chosen (Registry.nodup_operations host) chosen
      (builtin_mem_operations contributes b) rfl, Sessions.get?, alive, Option.map_some]
  have same : Lifecycle.ofWorld announcedIn = Lifecycle.ofWorld w :=
    (announced_ofWorld r _).trans (select_ofWorld r)
  obtain ⟨outcome, w₁, handled, after⟩ := Operation.handle_builtin_does calm
    Chain.terminus.operations (Chain.terminus.execute host) request sees
  rw [same] at handled after
  have done : r.handled request session w (.builtin b) .terminus = (_, w₁) := handled
  obtain ⟨w', routed, left⟩ := route_of_chain chosen
  rw [done] at routed left
  rw [told_documented] at routed
  -- At most a line for the log comes after the handling.
  have kept : Lifecycle.ofWorld w' = Lifecycle.ofWorld w₁ := by
    rcases left with rfl | ⟨line, rfl⟩ <;> rfl
  refine ⟨outcome, ?_⟩
  rw [routed, kept, after, Lifecycle.route_of_isAsked _ _ _ asked]
  rfl

theorem route_lifecycle (limit : Nat) (request : Document) :
    ∃ outcome, (((route ⟨.ofHost host, limit⟩ request session).run w).1,
        Lifecycle.ofWorld ((route ⟨.ofHost host, limit⟩ request session).run w).2) =
      (Lifecycle.ofWorld w).route ⟨.ofHost host, limit⟩ outcome request session := by
  by_cases handles : ∃ b : Builtin, b.IsAsked request
  · obtain ⟨b, asked⟩ := handles
    exact route_lifecycle_of_isAsked contributes calm alive limit asked
  · have other : ∀ b : Builtin, ¬ b.IsAsked request := fun b asked => handles ⟨b, asked⟩
    exact ⟨.ok (), route_lifecycle_of_not_isAsked contributes limit (.ok ()) other⟩

end Route

theorem call_lifecycle (contributes : host.ContributesNone) (calm : host.Calm) (limit : Nat)
    (call : Call) (live : call.Live w) : ∃ outcome,
      (call.told ⟨.ofHost host, limit⟩ w, Lifecycle.ofWorld (call.after ⟨.ofHost host, limit⟩ w)) =
        (Lifecycle.ofWorld w).step ⟨.ofHost host, limit⟩ outcome call := by
  have released : ∃ outcome,
      (some (Told.closed (host.release.on w).1), Lifecycle.ofWorld (host.release.on w).2) =
        (Lifecycle.ofWorld w).step ⟨.ofHost host, limit⟩ outcome (.ask .router) := by
    obtain ⟨outcome, w', run, state, -⟩ := calm.release_on w
    refine ⟨outcome, ?_⟩
    rw [run, state]
    rfl
  cases call with
  | begin id => exact ⟨.ok (), rfl⟩
  | drop session => exact ⟨.ok (), rfl⟩
  | logged request session =>
    obtain ⟨state, alive⟩ := Option.isSome_iff_exists.1 live
    have still : (begun request session w).sessions.state? session = some state := alive
    obtain ⟨outcome, routed⟩ := route_lifecycle contributes calm still limit request
    have same : Lifecycle.ofWorld (begun request session w) = Lifecycle.ofWorld w :=
      Lifecycle.ofWorld_emit _
    rw [same] at routed
    refine ⟨outcome, ?_⟩
    rw [Lifecycle.step, ← routed, Call.told, Call.after, routeLogged_run]
    -- whatever the router answered, nothing but records come after it
    generalize (route ⟨.ofHost host, limit⟩ request session).run (begun request session w) = served
    rfl
  | ask entry =>
    cases entry with
    | resources => exact released
    | registry => exact released
    | router => exact released
    | routed request session =>
      obtain ⟨state, alive⟩ := Option.isSome_iff_exists.1 live
      obtain ⟨outcome, routed⟩ := route_lifecycle contributes calm alive limit request
      refine ⟨outcome, ?_⟩
      rw [Lifecycle.step, ← routed]
      rfl

/-- If the backend contributes no operation and no release of it breaks off, every course of calls
is one of the machine. -/
theorem trace_eq_lifecycle (host : Host) (limit : Nat) (contributes : host.ContributesNone)
    (calm : host.Calm) (calls : List Call) (w : World)
    (live : AllLive ⟨.ofHost host, limit⟩ calls w) :
    ∃ outcomes, outcomes.length = calls.length ∧
      trace ⟨.ofHost host, limit⟩ calls w =
        Lifecycle.trace ⟨.ofHost host, limit⟩ (calls.zip outcomes) (.ofWorld w) := by
  induction calls generalizing w with
  | nil => exact ⟨[], rfl, rfl⟩
  | cons call rest ih =>
    obtain ⟨outcome, step⟩ := call_lifecycle contributes calm limit call live.1
    obtain ⟨outcomes, count, runs⟩ := ih _ live.2
    refine ⟨outcome :: outcomes, congrArg Nat.succ count, ?_⟩
    rw [trace, List.zip_cons_cons, Lifecycle.trace, ← step, runs]

def busyHost : Host where
  catalogue :=
    { operation := fun _ => .idle
      leaf := fun _ => ⟨[], fun attempt => .finish
        (if attempt = 1 then .error (.cause "busy") else .ok ())⟩ }
  sessionId := ⟨1⟩
  backend := .leaf ⟨0⟩

/-- A request for the end of the session fails, a compressed stream is started, an unknown request
is refused, and another request for the end succeeds before a release that finds nothing to do. -/
def busyCalls : List Call :=
  let session : SessionKey := ⟨0, ⟨1⟩⟩
  let closing : Document := .request "1" (.within "close-session" baseNamespace)
  [.begin ⟨1⟩, .ask (.routed closing session),
    .logged (.request "2" { Element.within "start-exi" exiNamespace with
      children := [{ Element.named "alignment" with text := some " compression\n" }] }) session,
    .ask (.routed (.request "3" (.within "start-exi" baseNamespace)) session),
    .ask (.routed closing session), .ask .router]

theorem trace_eq_lifecycle_of_busy :
    busyHost.ContributesNone ∧ busyHost.Calm ∧
      AllLive ⟨.ofHost busyHost, defaultLimit⟩ busyCalls (.initial none) ∧
      (∃ outcomes, outcomes.length = 6 ∧
        trace ⟨.ofHost busyHost, defaultLimit⟩ busyCalls (.initial none) =
          Lifecycle.trace ⟨.ofHost busyHost, defaultLimit⟩ (busyCalls.zip outcomes)
            (.ofWorld (.initial none))) ∧
      Lifecycle.ofWorld (after ⟨.ofHost busyHost, defaultLimit⟩ busyCalls (.initial none)) =
        { sessions := ⟨[some ⟨some ⟨.compression⟩, true⟩]⟩
          released := true
          releases := [.ok (.error (.cause "busy")), .ok (.ok ())] } := by
  have contributes : busyHost.ContributesNone := rfl
  have calm : busyHost.Calm := fun leaf member attempt => ⟨_, rfl⟩
  have live : AllLive ⟨.ofHost busyHost, defaultLimit⟩ busyCalls (.initial none) :=
    ⟨trivial, rfl, rfl, rfl, rfl, trivial, trivial⟩
  exact ⟨contributes, calm, live, trace_eq_lifecycle busyHost defaultLimit contributes calm
    busyCalls (.initial none) live, rfl⟩

end Router

end RpcRouting
