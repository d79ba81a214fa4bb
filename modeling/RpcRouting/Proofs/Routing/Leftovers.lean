import RpcRouting.Proofs.Logs
import RpcRouting.Proofs.Routing.Isolation
import RpcRouting.Proofs.Routing.Lockstep
/-!
Leftover bindings. Two worlds may differ in the sessions that operations were left bound to by
earlier requests. While a request's session is given to the operations, the worlds lose their
difference one operation after the other; if an operation crashes meanwhile, what is left of the
difference is not looked at any more.
-/

set_option autoImplicit false
set_option relaxedAutoImplicit false

namespace RpcRouting

/-- The operation remembers two histories as the same: whatever comes after them, it behaves
alike. -/
def Contribution.RemembersAlike (c : Contribution) (past past' : Journal) : Prop :=
  ∀ later, c.BehavesAlike (past ++ later) (past' ++ later)

theorem Contribution.RemembersAlike.append {c : Contribution} {past past' : Journal}
    (alike : c.RemembersAlike past past') (events : Journal) :
    c.RemembersAlike (past ++ events) (past' ++ events) := by
  intro later
  rw [List.append_assoc, List.append_assoc]
  exact alike (events ++ later)

namespace World

/-- Two worlds differ at most in the sessions that the stale operations were left bound to, and in
histories that everybody remembers as the same. -/
structure DifferInBindings (host : Host) (stale : Operation → Prop) (w w' : World) : Prop where
  sessions : w'.sessions = w.sessions
  bindings : ∀ operation, ¬ stale operation → w'.bindings operation = w.bindings operation
  released : w'.released = w.released
  memory : ∀ key, (host.catalogue.operation key).RemembersAlike
    (w.journal.of (.contributed key)) (w'.journal.of (.contributed key))
  closings : ∀ leaf, w'.journal.closings leaf = w.journal.closings leaf
  threshold : w'.log.threshold = w.log.threshold

structure GoneOnAlike (early early' w w' : World) : Prop where
  journal : ∃ events, w.journal = early.journal ++ events ∧ w'.journal = early'.journal ++ events
  log : Log.GrewAlike early.log early'.log w.log w'.log

/-- The worlds still differ in stale bindings at most, and have gone on alike. -/
structure Converge (host : Host) (early early' : World) (stale : Operation → Prop)
    (w w' : World) : Prop where
  differ : DifferInBindings host stale w w'
  goneOn : GoneOnAlike early early' w w'

namespace Converge

variable {host : Host} {early early' w w' : World} {stale : Operation → Prop}

theorem refl (differ : DifferInBindings host stale w w') : Converge host w w' stale w w' :=
  ⟨differ, ⟨[], (List.append_nil _).symm, (List.append_nil _).symm⟩, .of_threshold differ.threshold⟩

theorem mono {stale' : Operation → Prop} (converge : Converge host early early' stale w w')
    (still : ∀ operation, stale operation → stale' operation) :
    Converge host early early' stale' w w' := by
  refine ⟨{ converge.differ with bindings := ?_ }, converge.goneOn⟩
  intro operation fresh
  exact converge.differ.bindings operation fun old => fresh (still operation old)

theorem record (converge : Converge host early early' stale w w') (event : Event) :
    Converge host early early' stale (w.record event) (w'.record event) := by
  obtain ⟨differ, ⟨events, grown, grown'⟩, log⟩ := converge
  refine ⟨⟨differ.sessions, differ.bindings, differ.released, fun key => ?_, fun leaf => ?_,
    differ.threshold⟩, ⟨events ++ [event], ?_, ?_⟩, log⟩
  · rw [record_journal, record_journal, Journal.of_append, Journal.of_append]
    exact (differ.memory key).append _
  · rw [record_journal, record_journal, Journal.closings_append, Journal.closings_append,
      differ.closings leaf]
  · rw [record_journal, grown, List.append_assoc]
  · rw [record_journal, grown', List.append_assoc]

theorem emit (converge : Converge host early early' stale w w') (line : Record) :
    Converge host early early' stale (w.emit line) (w'.emit line) := by
  obtain ⟨differ, journal, log⟩ := converge
  have threshold : (w'.emit line).log.threshold = (w.emit line).log.threshold := by
    show (w'.log.emit line).threshold = (w.log.emit line).threshold
    rw [Log.emit_threshold, Log.emit_threshold, differ.threshold]
  exact ⟨{ differ with threshold }, journal, log.emit line⟩

theorem act (converge : Converge host early early' stale w w') (session : SessionKey)
    (action : SessionAction) :
    Converge host early early' stale (w.act session action) (w'.act session action) := by
  have sessions := congrArg (Sessions.act · session action) converge.differ.sessions
  exact ⟨{ converge.differ with sessions }, converge.goneOn.journal, converge.goneOn.log⟩

theorem mark (converge : Converge host early early' stale w w') (counted : Bool) :
    Converge host early early' stale (w.mark counted) (w'.mark counted) :=
  ⟨{ converge.differ with released := rfl }, converge.goneOn.journal, converge.goneOn.log⟩

theorem bind (converge : Converge host early early' stale w w') (operation : Operation)
    (session : SessionKey) :
    Converge host early early' (fun o => stale o ∧ o ≠ operation) (w.bind operation session)
      (w'.bind operation session) := by
  refine ⟨{ converge.differ with bindings := ?_ }, converge.goneOn.journal, converge.goneOn.log⟩
  intro other fresh
  by_cases same : other = operation
  · show (if _ then _ else _) = (if _ then _ else _)
    rw [if_pos same, if_pos same]
  · show (if _ then _ else _) = (if _ then _ else _)
    rw [if_neg same, if_neg same]
    exact converge.differ.bindings other fun old => fresh ⟨old, same⟩

theorem bindCrash? (converge : Converge host early early' stale w w') (operation : Operation)
    (session : SessionKey) :
    operation.bindCrash? host w' session = operation.bindCrash? host w session := by
  cases operation with
  | builtin b => rfl
  | contributed key =>
    have alike := converge.differ.memory key []
    rw [List.append_nil, List.append_nil] at alike
    exact alike.bind session

theorem lockstep (host : Host) (early early' : World) :
    Lockstep host (Converge host early early' fun _ => False) where
  released converge := converge.differ.released
  seen operation converge := by
    rw [World.seenBy, World.seenBy, converge.differ.bindings operation id, converge.differ.sessions]
  history key converge := by
    have alike := converge.differ.memory key []
    rw [List.append_nil, List.append_nil] at alike
    exact alike
  closings leaf converge := converge.differ.closings leaf
  record event converge := converge.record event
  emit line converge := converge.emit line
  bind operation session converge := (converge.bind operation session).mono fun _ old => old.1
  act session action converge := converge.act session action
  mark counted converge := converge.mark counted

theorem bindAll (converge : Converge host early early' stale w w') (session : SessionKey)
    {operations : List Operation}
    (listed : ∀ o, stale o → o ∈ operations ∧ o.requiresSession host = true) :
    ∃ ended v v', (Router.bindAll host session operations).on w = (ended, v) ∧
      (Router.bindAll host session operations).on w' = (ended, v') ∧
      Converge host early early' stale v v' ∧
      (ended = .ok () → Converge host early early' (fun _ => False) v v') := by
  -- Every operation that is still stale is still to come, so none is left at the end.
  induction operations generalizing stale w w' with
  | nil =>
    have none : ∀ o, stale o → False := fun o old => List.not_mem_nil (listed o old).1
    exact ⟨.ok (), w, w', rfl, rfl, converge, fun _ => converge.mono none⟩
  | cons first rest ih =>
    rw [Router.bindAll]
    split
    · next requires =>
      have same := converge.bindCrash? first session
      cases crash : first.bindCrash? host w session with
      | some left =>
        rw [crash] at same
        refine ⟨.error left, _, _, Run.on_bind_of_error (Operation.bind_on_of_some crash),
          Run.on_bind_of_error (Operation.bind_on_of_some same), converge.record _, ?_⟩
        intro ended
        cases ended
      | none =>
        rw [crash] at same
        have given := (converge.record (.bound first session none)).bind first session
        have later : ∀ o, stale o ∧ o ≠ first → o ∈ rest ∧ o.requiresSession host = true := by
          rintro o ⟨old, apart⟩
          obtain ⟨member, given⟩ := listed o old
          exact ⟨(List.mem_cons.1 member).resolve_left apart, given⟩
        obtain ⟨ended, v, v', run, run', still, done⟩ := ih given later
        refine ⟨ended, v, v', ?_, ?_, still.mono fun _ old => old.1, done⟩
        · rw [Run.on_bind_of_ok (Operation.bind_on_of_none crash), run]
        · rw [Run.on_bind_of_ok (Operation.bind_on_of_none same), run']
    · next ungiven =>
      refine ih converge fun o old => ?_
      obtain ⟨member, given⟩ := listed o old
      have apart : o ≠ first := fun same => ungiven (same ▸ given)
      exact ⟨(List.mem_cons.1 member).resolve_left apart, given⟩

end Converge

end World

namespace Router

/-- The operation is given the session of each request. -/
def Rebinds (r : Router) (operation : Operation) : Prop :=
  operation ∈ r.registry.operations ∧ operation.requiresSession r.host = true

variable {r : Router} {w w' : World}

/-- A request is served alike whatever sessions earlier requests have left operations bound to, and
leaves no other difference behind. -/
theorem route_of_differInBindings (differ : World.DifferInBindings r.host r.Rebinds w w')
    (request : Document) (session : SessionKey) :
    ((r.route request session).run w').1 = ((r.route request session).run w).1 ∧
      World.DifferInBindings r.host r.Rebinds ((r.route request session).run w).2
        ((r.route request session).run w').2 ∧
      World.GoneOnAlike w w' ((r.route request session).run w).2
        ((r.route request session).run w').2 := by
  obtain ⟨ended, v, v', run, run', still, done⟩ :=
    (World.Converge.refl differ).bindAll session fun _ rebinds => rebinds
  cases ended with
  | error left =>
    -- No operation is asked any more, and the stale bindings that are left are never looked at.
    have rejected : (r.select request session).run w = (r.verdict request (.error left), v) := by
      rw [select_run, collect, Run.on_bind_of_error run]
    have rejected' : (r.select request session).run w' = (r.verdict request (.error left), v') := by
      rw [select_run, collect, Run.on_bind_of_error run']
    rw [route_of_rejected rejected, route_of_rejected rejected']
    have final := still.emit (RoutingError.toRecord (.unexpected
      "Unexpected failure while ranking operations" left.describe) session.id)
    exact ⟨rfl, final.differ, final.goneOn⟩
  | ok given =>
    obtain ⟨same, final⟩ := proceed_alike (World.Converge.lockstep r.host w w') request session v v'
      (done rfl)
    rw [route_of_prepared run, route_of_prepared run']
    exact ⟨same, (final.mono fun _ old => old.elim).differ, final.goneOn⟩

/-- An operation that is given sessions and handles requests while it sees one that is not to end. -/
def watching : Router where
  registry := .ofHost
    { catalogue :=
        { operation := fun key =>
            { name := "watch"
              requiresSession := key.value = "watch"
              bind := fun _ _ => none
              rank := fun _ _ seen => .ok <|
                if seen.any fun s => !s.state.closeRequested then .highest else .cannotHandle
              handle := fun _ request => .consult none fun seen =>
                .finish (if seen.isSome then .ok request.okReply
                  else .error (.internal (.cause "nobody is there"))) }
          leaf := fun _ => ⟨[⟨"watch"⟩], fun _ => .finish (.ok ())⟩ }
      sessionId := ⟨1⟩
      backend := .leaf ⟨0⟩ }
  limit := defaultLimit

def watchedCalls (slot : Nat) : List Call :=
  [.begin ⟨1⟩, .begin ⟨1⟩, .ask (.routed (.request "1" (.within "get" baseNamespace)) ⟨slot, ⟨1⟩⟩),
    .drop ⟨1, ⟨1⟩⟩]

theorem route_of_differInBindings_of_watching :
    let w := watching.after (watchedCalls 0) (.initial none)
    let w' := watching.after (watchedCalls 1) (.initial none)
    let request : Document := .request "2" (.within "get" baseNamespace)
    w.bindings (.contributed ⟨"watch"⟩) = .ofKey ⟨0, ⟨1⟩⟩ ∧
      w'.bindings (.contributed ⟨"watch"⟩) = .ofKey ⟨1, ⟨1⟩⟩ ∧
      World.DifferInBindings watching.host watching.Rebinds w w' ∧
      ((watching.route request ⟨0, ⟨1⟩⟩).run w').1 = ((watching.route request ⟨0, ⟨1⟩⟩).run w).1 ∧
      ((watching.route request ⟨0, ⟨1⟩⟩).run w).1 = .ok request.okReply := by
  have all : ∀ o : Operation, o.requiresSession watching.host = true → watching.Rebinds o := by
    intro o requires
    refine ⟨?_, requires⟩
    cases o with
    | builtin b => cases b <;> decide
    | contributed key =>
      have named : key = ⟨"watch"⟩ := congrArg OperationKey.mk (of_decide_eq_true requires)
      rw [named]
      decide
  have differ : World.DifferInBindings watching.host watching.Rebinds
      (watching.after (watchedCalls 0) (.initial none))
      (watching.after (watchedCalls 1) (.initial none)) := by
    have nothing : ∀ slot ∈ [0, 1], (watching.after (watchedCalls slot)
        (.initial none)).journal.filterMap Event.closing? = [] := by decide +kernel
    refine ⟨by decide +kernel, fun o fresh => ?_, by decide +kernel,
      fun key later => ⟨fun _ => rfl, fun _ _ => rfl, fun _ => rfl⟩, fun leaf => ?_,
      by decide +kernel⟩
    · have ungiven : o.requiresSession watching.host = false :=
        Bool.eq_false_iff.2 fun requires => fresh (all o requires)
      rw [unbound_after watching none _ o ungiven, unbound_after watching none _ o ungiven]
    · rw [Journal.closings_eq_count, Journal.closings_eq_count, nothing 0 (by decide),
        nothing 1 (by decide)]
  exact ⟨by decide +kernel, by decide +kernel, differ, (route_of_differInBindings differ _ _).1, rfl⟩

end Router

end RpcRouting
