import RpcRouting.Proofs.Routing.Answer
/-!
All that routing does to a world is made of a few steps: events of operations, records for the log,
bindings, actions on sessions and releases. A relation between worlds that holds across each of
these steps holds across everything that the operations of a host do, and across every request.
-/

set_option autoImplicit false
set_option relaxedAutoImplicit false

namespace RpcRouting

/-- A relation between worlds that holds across the steps of choosing a chain. -/
structure Choosing (R : World → World → Prop) : Prop extends World.Composes R where
  bound : ∀ w operation session crash, R w (w.record (.bound operation session crash))
  probed : ∀ w operation request seen answer,
    R w (w.record (.probed operation request seen answer))
  bind : ∀ w operation session, R w (w.bind operation session)

/-- A relation between worlds that holds across all steps of the operations of a host. What the
built-in operation that ends sessions does is one step, as a release is part of it. -/
structure Host.Permits (host : Host) (R : World → World → Prop) : Prop extends Choosing R where
  handling : ∀ w operation request seen, R w (w.record (.handling operation request seen))
  record : ∀ w event operation, event.operation? = some operation →
    operation ≠ .builtin .closeSession → R w (w.record event)
  emit : ∀ w line, R w (w.emit line)
  act : ∀ w session action, R w (w.act session action)
  closeSession : ∀ request, (Run.noteEnd (.handled (.builtin .closeSession))
    (Builtin.handleCloseSession host request)).Leads R

variable {host : Host} {R : World → World → Prop}

theorem Operation.bind_on_of_none {operation : Operation} {session : SessionKey} {w : World}
    (calm : operation.bindCrash? host w session = none) :
    (operation.bind host session).on w =
      (.ok (), (w.record (.bound operation session none)).bind operation session) := by
  rw [Operation.bind, Run.on_bind_of_ok Run.on_get, calm, Run.on_bind_of_ok (Run.on_note _),
    Run.on_modify]

theorem Operation.bind_on_of_some {operation : Operation} {session : SessionKey} {w : World}
    {left : Crash} (crash : operation.bindCrash? host w session = some left) :
    (operation.bind host session).on w =
      (.error left, w.record (.bound operation session (some left))) := by
  rw [Operation.bind, Run.on_bind_of_ok Run.on_get, crash, Run.on_bind_of_ok (Run.on_note _),
    Run.on_throw]

theorem Operation.probe_on (request : Document) (operation : Operation) (w : World) :
    (operation.probe host request).on w = (operation.answer host w request,
      w.record (.probed operation request (w.seenBy operation)
        (operation.answer host w request))) := by
  rw [Operation.probe, Run.on_bind_of_ok Run.on_get, Run.on_bind_of_ok (Run.on_note _)]
  cases operation.answer host w request <;> rfl

namespace World.Composes

variable (composes : Composes R)

include composes

theorem bindAll {session : SessionKey} {operations : List Operation}
    (bound : ∀ operation ∈ operations, operation.requiresSession host = true →
      (operation.bind host session).Leads R) :
    (Router.bindAll host session operations).Leads R := by
  induction operations with
  | nil => exact composes.pure ()
  | cons operation rest ih =>
    have later := ih fun o member => bound o (List.mem_cons_of_mem _ member)
    rw [Router.bindAll]
    split
    · next requires =>
      exact composes.bind (bound operation List.mem_cons_self requires) fun _ => later
    · exact later

theorem probeAll {request : Document} {operations : List Operation}
    (probed : ∀ operation ∈ operations, (operation.probe host request).Leads R)
    (candidates : Candidates) :
    (Router.probeAll host request operations candidates).Leads R := by
  induction operations generalizing candidates with
  | nil => exact composes.pure _
  | cons operation rest ih =>
    have later := ih fun o member => probed o (List.mem_cons_of_mem _ member)
    refine composes.bind (probed operation List.mem_cons_self) fun rank => ?_
    cases candidates.offer rank operation with
    | declined => exact later candidates
    | admitted more => exact later more
    | conflicting holder => exact composes.pure _

theorem handleCloseSession (release : host.release.Leads R)
    (consult : (Run.consult (.builtin .closeSession) (some .requestClose)).Leads R)
    (log : ∀ line, (Run.log line).Leads R) (request : Document) :
    (Builtin.handleCloseSession host request).Leads R := by
  refine composes.bind release fun outcome => ?_
  cases outcome with
  | error failure => exact composes.bind (log _) fun _ => composes.pure _
  | ok success =>
    refine composes.bind consult fun seen => ?_
    cases seen with
    | none => exact composes.bind (log _) fun _ => composes.bind (log _) fun _ => composes.pure _
    | some session => exact composes.bind (log _) fun _ => composes.pure _

end World.Composes

namespace Choosing

variable (choosing : Choosing R)

include choosing

theorem leads_bind (session : SessionKey) (operation : Operation) :
    (operation.bind host session).Leads R := by
  refine choosing.toComposes.bind choosing.toComposes.get fun w => ?_
  refine choosing.toComposes.bind (fun v => choosing.bound v _ _ _) fun _ => ?_
  cases operation.bindCrash? host w session with
  | none => exact fun v => choosing.bind v _ _
  | some left => exact choosing.toComposes.throw left

theorem leads_probe (request : Document) (operation : Operation) :
    (operation.probe host request).Leads R := by
  refine choosing.toComposes.bind choosing.toComposes.get fun w => ?_
  refine choosing.toComposes.bind (fun v => choosing.probed v _ _ _ _) fun _ => ?_
  cases operation.answer host w request with
  | ok rank => exact choosing.toComposes.pure rank
  | error left => exact choosing.toComposes.throw left

theorem leads_select (r : Router) (request : Document) (session : SessionKey) (w : World) :
    R w ((r.select request session).run w).2 :=
  choosing.toComposes.bind
    (choosing.toComposes.bindAll fun operation _ _ => choosing.leads_bind session operation)
    (fun _ => choosing.toComposes.probeAll (fun operation _ => choosing.leads_probe request operation)
      .empty) w

end Choosing

def Event.isChoosing : Event → Bool
  | bound _ _ _ => true
  | probed _ _ _ _ => true
  | _ => false

namespace World

/-- Nothing but bindings has changed between two worlds, and all that happened belongs to the
choice of a chain. -/
structure Chose (w w' : World) : Prop where
  sessions : w'.sessions = w.sessions
  released : w'.released = w.released
  journal : ∃ events, w'.journal = w.journal ++ events ∧ ∀ e ∈ events, e.isChoosing = true

theorem Chose.record {w : World} {event : Event} (choosing : event.isChoosing = true) :
    w.Chose (w.record event) := by
  refine ⟨rfl, rfl, [event], rfl, ?_⟩
  intro e member
  rw [List.mem_singleton] at member
  rw [member]
  exact choosing

theorem Chose.trans {u v w : World} (first : u.Chose v) (second : v.Chose w) : u.Chose w := by
  obtain ⟨events₁, grown₁, all₁⟩ := first.journal
  obtain ⟨events₂, grown₂, all₂⟩ := second.journal
  refine ⟨second.sessions.trans first.sessions, second.released.trans first.released,
    events₁ ++ events₂, ?_, ?_⟩
  · rw [grown₂, grown₁, List.append_assoc]
  · intro e member
    exact (List.mem_append.1 member).elim (all₁ e) (all₂ e)

theorem choosing_chose : Choosing Chose where
  refl _ := ⟨rfl, rfl, [], by simp, by simp⟩
  trans := Chose.trans
  bound _ _ _ _ := Chose.record rfl
  probed _ _ _ _ _ := Chose.record rfl
  bind _ _ _ := ⟨rfl, rfl, [], by simp, by simp⟩

theorem Chose.closings {w w' : World} (chose : w.Chose w') (leaf : LeafKey) :
    w'.journal.closings leaf = w.journal.closings leaf := by
  obtain ⟨events, journal, choosing⟩ := chose.journal
  have none : Journal.closings events leaf = 0 := by
    refine List.countP_eq_zero.2 fun e member => ?_
    have own := choosing e member
    cases e <;> simp_all [Event.isChoosing, Event.isClosingOf]
  rw [journal, Journal.closings_append, none, Nat.add_zero]

end World

/-- The session that an operation sees, or that it sees none, at the moments at which it may look:
when it is asked for its rank, when it is given a request, and when it looks by itself. -/
def Event.sight? : Event → Option (Operation × Option Session)
  | probed operation _ seen _ => some (operation, seen)
  | handling operation _ seen => some (operation, seen)
  | consulted operation seen _ => some (operation, seen)
  | _ => none

/-- A relation between worlds that holds across all that some operations of a host do about
requests. What the built-in operation that ends sessions does is one step, as a release is part of
it. -/
structure Host.Carries (host : Host) (own : Operation → Prop) (R : World → World → Prop) : Prop
    extends World.Composes R where
  probe : ∀ request operation, own operation → (operation.probe host request).Leads R
  handling : ∀ w operation request, own operation →
    R w (w.record (.handling operation request (w.seenBy operation)))
  record : ∀ w event operation, event.operation? = some operation → event.sight? = none →
    operation ≠ .builtin .closeSession → R w (w.record event)
  emit : ∀ w line, R w (w.emit line)
  consult : ∀ operation action, own operation → operation ≠ .builtin .closeSession →
    (Run.consult operation action).Leads R
  closeSession : own (.builtin .closeSession) → ∀ request,
    (Run.noteEnd (.handled (.builtin .closeSession))
      (Builtin.handleCloseSession host request)).Leads R

/-- A relation between worlds that holds also across the binding of operations. -/
structure Host.Serves (host : Host) (R : World → World → Prop) : Prop
    extends host.Carries (fun _ => True) R where
  bind : ∀ session (operation : Operation), operation.requiresSession host = true →
    (operation.bind host session).Leads R

namespace Host.Carries

variable {own : Operation → Prop} (carries : host.Carries own R)

include carries

theorem leads_run (operation : Operation) (member : own operation)
    (other : operation ≠ .builtin .closeSession) (rest : List Operation)
    {proceed : Document → Run Outcome} (onward : ∀ request, (proceed request).Leads R)
    (handling : Handling) : (handling.run operation rest proceed).Leads R := by
  have note : ∀ event : Event, event.operation? = some operation → event.sight? = none →
      (Run.note event).Leads R :=
    fun event of blind w => carries.record w event operation of blind other
  induction handling with
  | finish outcome => exact carries.toComposes.pure outcome
  | crash left => exact carries.toComposes.throw left
  | delegate request resume ih =>
    refine carries.toComposes.bind (note _ rfl rfl) fun _ => ?_
    refine carries.toComposes.bind (onward request) fun outcome => ?_
    exact carries.toComposes.bind (note _ rfl rfl) fun _ => ih outcome
  | inspect resume ih => exact carries.toComposes.bind (note _ rfl rfl) fun _ => ih rest
  | consult action resume ih =>
    exact carries.toComposes.bind (carries.consult operation action member other) ih

private theorem leads_startExi (member : own (.builtin .startExi)) (request : Document) :
    (Builtin.handleStartExi request).Leads R := by
  have other : Operation.builtin .startExi ≠ .builtin .closeSession := by decide
  refine carries.toComposes.bind (carries.consult _ none member other) fun seen => ?_
  cases seen with
  | none => exact carries.toComposes.pure _
  | some session =>
    cases Builtin.exiParameters request with
    | error error => exact carries.toComposes.pure _
    | ok parameters =>
      refine carries.toComposes.bind (carries.consult _ _ member other) fun _ => ?_
      exact carries.toComposes.bind (fun w => carries.emit w _) fun _ => carries.toComposes.pure _

private theorem leads_stopExi (member : own (.builtin .stopExi)) (request : Document) :
    (Builtin.handleStopExi request).Leads R := by
  have other : Operation.builtin .stopExi ≠ .builtin .closeSession := by decide
  refine carries.toComposes.bind (carries.consult _ _ member other) fun seen => ?_
  cases seen with
  | none => exact carries.toComposes.pure _
  | some session =>
    exact carries.toComposes.bind (fun w => carries.emit w _) fun _ => carries.toComposes.pure _

theorem leads_handle (rest : List Operation) {proceed : Document → Run Outcome}
    (onward : ∀ request, (proceed request).Leads R) (request : Document) (operation : Operation)
    (member : own operation) : (operation.handle host rest proceed request).Leads R := by
  intro w
  rw [Operation.handle, Run.on_bind_of_ok Run.on_get, Run.on_bind_of_ok (Run.on_note _)]
  refine carries.trans (carries.handling w operation request member) ?_
  by_cases closes : operation = .builtin .closeSession
  · subst closes
    exact carries.closeSession member request _
  · refine carries.toComposes.noteEnd ?_ (fun v ended => carries.record v _ operation rfl rfl closes) _
    cases operation with
    | contributed key => exact carries.leads_run _ member closes rest onward _
    | builtin b =>
      cases b with
      | closeSession => exact absurd rfl closes
      | startExi => exact carries.leads_startExi member request
      | stopExi => exact carries.leads_stopExi member request

theorem leads_execute (chain : Chain) (members : ∀ operation ∈ chain.operations, own operation)
    (request : Document) : (chain.execute host request).Leads R := by
  induction chain generalizing request with
  | terminus => exact carries.toComposes.pure _
  | link operation rest ih =>
    have onward := ih fun o member => members o (List.mem_cons_of_mem _ member)
    have handled := carries.leads_handle rest.operations onward request operation
      (members operation List.mem_cons_self)
    exact carries.toComposes.bind handled fun outcome => carries.toComposes.pure _

end Host.Carries

namespace Host.Permits

variable (permits : host.Permits R)

include permits

private theorem leads_consult (operation : Operation) (other : operation ≠ .builtin .closeSession)
    (action : Option SessionAction) : (Run.consult operation action).Leads R := by
  refine permits.toComposes.bind (permits.toComposes.seenBy operation) fun seen => ?_
  refine permits.toComposes.bind (fun w => permits.record w _ operation rfl other) fun _ => ?_
  cases seen with
  | none => exact permits.toComposes.pure none
  | some session =>
    cases action with
    | none => exact permits.toComposes.pure (some session)
    | some action =>
      exact permits.toComposes.bind (fun w => permits.act w _ _) fun _ =>
        permits.toComposes.pure (some session)

theorem serves : host.Serves R where
  toComposes := permits.toComposes
  probe request operation _ := permits.leads_probe request operation
  handling w operation request _ := permits.handling w operation request _
  record w event operation of _ other := permits.record w event operation of other
  emit := permits.emit
  consult operation action _ other := permits.leads_consult operation other action
  closeSession _ := permits.closeSession
  bind session operation _ := permits.leads_bind session operation

end Host.Permits

theorem Candidates.mem_of_offer {candidates more : Candidates} {rank : Priority}
    {operation : Operation} (admitted : candidates.offer rank operation = .admitted more)
    {entry : Int32 × Operation} (member : entry ∈ more.entries) :
    entry.2 = operation ∨ entry ∈ candidates.entries := by
  cases rank with
  | cannotHandle => cases admitted
  | real rank =>
    rw [offer] at admitted
    split at admitted
    · cases admitted
    · cases admitted
      rcases mem_insertEntry.1 member with rfl | earlier
      · exact .inl rfl
      · exact .inr earlier

namespace Router

variable {r : Router} {request : Document} {session : SessionKey} {w w' : World}

private theorem mem_of_probeAll {operations : List Operation} {candidates more : Candidates}
    (collected : (probeAll host request operations candidates).on w = (.ok (.ok more), w'))
    {entry : Int32 × Operation} (member : entry ∈ more.entries) :
    entry.2 ∈ operations ∨ entry ∈ candidates.entries := by
  -- The candidates of the tail start from those that the head was offered to.
  induction operations generalizing w candidates with
  | nil =>
    cases collected
    exact .inr member
  | cons operation rest ih =>
    cases asked : (operation.probe host request).on w with
    | mk answer v =>
      cases answer with
      | error left =>
        rw [probeAll, Run.on_bind_of_error asked] at collected
        cases collected
      | ok rank =>
        rw [probeAll, Run.on_bind_of_ok asked] at collected
        cases offered : candidates.offer rank operation with
        | declined =>
          rw [offered] at collected
          exact (ih collected).imp_left (List.mem_cons_of_mem operation)
        | conflicting holder =>
          rw [offered] at collected
          cases collected
        | admitted further =>
          rw [offered] at collected
          rcases ih collected with later | entered
          · exact .inl (List.mem_cons_of_mem operation later)
          · rcases Candidates.mem_of_offer offered entered with own | earlier
            · exact .inl (own ▸ List.mem_cons_self)
            · exact .inr earlier

theorem mem_of_chosen {chain : Chain} (chosen : ((r.select request session).run w).1 = .ok chain)
    {operation : Operation} (member : operation ∈ chain.operations) :
    operation ∈ r.registry.operations := by
  rw [select_run] at chosen
  cases collected : (r.collect request session).on w with
  | mk ended v =>
    rw [collected] at chosen
    rcases ended with left | conflict | candidates
    · cases chosen
    · cases chosen
    · rw [verdict] at chosen
      split at chosen
      · cases chosen
      · cases chosen
        rw [Candidates.toChain, Chain.operations_ofList] at member
        obtain ⟨entry, entered, rfl⟩ := List.mem_map.1 member
        cases bound : (bindAll r.host session r.registry.operations).on w with
        | mk given u =>
          cases given with
          | error left =>
            rw [collect, Run.on_bind_of_error bound] at collected
            cases collected
          | ok given =>
            rw [collect, Run.on_bind_of_ok bound] at collected
            rcases mem_of_probeAll collected entered with own | none
            · exact own
            · cases none

section Carries

variable {own : Operation → Prop} (carries : r.host.Carries own R)
  (members : ∀ operation ∈ r.registry.operations, own operation)

include carries

theorem leads_announced (request : Document) (session : SessionKey) (chain : Chain) (w : World) :
    R w (r.announced request session chain w) := by
  rw [announced_eq]
  exact carries.emit w _

include members

theorem leads_chosen (request : Document) (session : SessionKey) (w : World) :
    R ((r.select request session).run w).2 ((r.route request session).run w).2 := by
  cases chosen : ((r.select request session).run w).1 with
  | error e =>
    rw [route_of_rejected (Prod.ext chosen rfl)]
    exact carries.emit _ _
  | ok chain =>
    obtain ⟨head, rest, rfl⟩ := exists_link_of_chosen chosen
    obtain ⟨w', answered, final⟩ := route_of_chain chosen
    have own : ∀ o ∈ head :: rest.operations, own o :=
      fun o member => members o (mem_of_chosen chosen member)
    have announced := leads_announced carries request session (.link head rest)
      ((r.select request session).run w).2
    have onward := carries.leads_execute rest fun o member => own o (List.mem_cons_of_mem _ member)
    have handled := carries.trans announced
      (carries.leads_handle rest.operations onward request head (own head List.mem_cons_self) _)
    rw [answered]
    rcases final with rfl | ⟨line, rfl⟩
    · exact handled
    · exact carries.trans handled (carries.emit _ line)

theorem leads_prepared {request : Document} {session : SessionKey} {w v : World}
    (prepared : (bindAll r.host session r.registry.operations).on w = (.ok (), v)) :
    R v ((r.route request session).run w).2 := by
  have selected : ((r.select request session).run w).2 =
      ((probeAll r.host request r.registry.operations .empty).on v).2 := by
    rw [select_run, collect, Run.on_bind_of_ok prepared]
  have probed : R v ((r.select request session).run w).2 := by
    rw [selected]
    exact carries.toComposes.probeAll (fun o member => carries.probe request o (members o member))
      .empty v
  exact carries.trans probed (leads_chosen carries members request session w)

end Carries

section Serves

variable (serves : r.host.Serves R)

include serves

theorem leads_route (request : Document) (session : SessionKey) (w : World) :
    R w ((r.route request session).run w).2 := by
  have collected : (r.collect request session).Leads R :=
    serves.toComposes.bind (serves.toComposes.bindAll fun o _ => serves.bind session o) fun _ =>
      serves.toComposes.probeAll (fun o _ => serves.probe request o trivial) .empty
  exact serves.trans (collected w)
    (leads_chosen serves.toCarries (fun _ _ => trivial) request session w)

theorem leads_routeLogged (request : Document) (session : SessionKey) (w : World) :
    R w ((r.routeLogged request session).run w).2 := by
  have begun := serves.emit w (.rpcBegun (request.operationName?.getD notARequest) session.id)
  have routed := serves.trans begun (leads_route serves request session _)
  have left := serves.trans routed (serves.emit _ (.rpcOutcome (failureTag?
    ((r.route request session).run (w.emit (.rpcBegun
      (request.operationName?.getD notARequest) session.id))).1)))
  exact serves.trans left (serves.emit _ _)

end Serves

end Router

end RpcRouting
