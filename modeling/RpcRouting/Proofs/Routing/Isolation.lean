import RpcRouting.Proofs.Release.Course
/-!
Sessions are isolated. An operation that is given sessions keeps the last one beyond the request,
also if the request broke off while the session was being given to the others. It never looks at
what is left there: when it looks, it has been given the session of the request that is being
served; and an operation that is not given sessions has none.
-/

set_option autoImplicit false
set_option relaxedAutoImplicit false

namespace RpcRouting

variable {host : Host} {session : SessionKey} {w w' : World}

theorem Host.Round.blind {counted counts : Bool} {ended : Except Crash (Except Failure Unit)}
    {events : Journal} (round : host.Round counted ended events counts) :
    ∀ event ∈ events, event.sight? = none := by
  intro event member
  have release : event ∈ events.releases := round.releases_eq.symm ▸ member
  have nobody := (List.mem_filter.1 release).2
  cases event <;> first | rfl | cases nobody

def World.KeepsBindings (w w' : World) : Prop := w'.bindings = w.bindings

theorem World.KeepsBindings.composes : World.Composes World.KeepsBindings where
  refl _ := rfl
  trans first second := Eq.trans second first

theorem Host.carries_keepsBindings (host : Host) :
    host.Carries (fun _ => True) World.KeepsBindings where
  toComposes := World.KeepsBindings.composes
  probe request operation _ w := by
    rw [Operation.probe_on]
    rfl
  handling _ _ _ _ := rfl
  record _ _ _ _ _ _ := rfl
  emit _ _ := rfl
  consult operation action _ _ w := Run.consult_bindings operation action w
  closeSession _ request := by
    refine World.KeepsBindings.composes.noteEnd ?_ fun _ _ => rfl
    exact World.KeepsBindings.composes.handleCloseSession
      (fun w => (host.releases_release w).bindings) (fun w => Run.consult_bindings _ _ w)
      (fun _ _ => rfl) request

def World.KeepsUngiven (host : Host) (w w' : World) : Prop :=
  ∀ operation : Operation, operation.requiresSession host = false →
    w'.bindings operation = w.bindings operation

namespace World.KeepsUngiven

theorem of_eq (same : w'.bindings = w.bindings) : World.KeepsUngiven host w w' := by
  intro operation ungiven
  rw [same]

theorem composes (host : Host) : World.Composes (World.KeepsUngiven host) where
  refl _ := .of_eq rfl
  trans first second operation ungiven := (second operation ungiven).trans (first operation ungiven)

theorem release (host : Host) : host.release.Leads (World.KeepsUngiven host) :=
  fun w => .of_eq (host.releases_release w).bindings

end World.KeepsUngiven

theorem Host.serves_keepsUngiven (host : Host) : host.Serves (World.KeepsUngiven host) where
  toComposes := World.KeepsUngiven.composes host
  probe request operation own w := .of_eq (host.carries_keepsBindings.probe request operation own w)
  handling _ _ _ _ := .of_eq rfl
  record _ _ _ _ _ _ := .of_eq rfl
  emit _ _ := .of_eq rfl
  consult operation action own other w :=
    .of_eq (host.carries_keepsBindings.consult operation action own other w)
  closeSession own request w := .of_eq (host.carries_keepsBindings.closeSession own request w)
  bind session operation given w := by
    cases crash : operation.bindCrash? host w session with
    | some left =>
      rw [Operation.bind_on_of_some crash]
      exact .of_eq rfl
    | none =>
      rw [Operation.bind_on_of_none crash]
      intro other ungiven
      have distinct : other ≠ operation := fun same => by simp [same, given] at ungiven
      exact if_neg distinct

theorem Router.unbound_after (r : Router) (threshold : Option Level) (calls : List Call)
    (operation : Operation) (ungiven : operation.requiresSession r.host = false) :
    (r.after calls (.initial threshold)).bindings operation = .unbound :=
  leads_after_of_serves r.host.serves_keepsUngiven (World.KeepsUngiven.release r.host)
    (fun _ _ => .of_eq rfl) calls operation ungiven

/-- All sessions but one are as they were, and whoever is given sessions and looked for its own has
seen that one. -/
structure World.Spares (host : Host) (session : SessionKey) (w w' : World) : Prop where
  untouched : ∀ other : SessionKey, other.slot ≠ session.slot →
    w'.sessions.state? other = w.sessions.state? other
  sees : ∃ events, w'.journal = w.journal ++ events ∧
    ∀ event ∈ events, ∀ operation seen, event.sight? = some (operation, seen) →
      operation.requiresSession host = true → seen.map (·.key) = some session

namespace World.Spares

theorem of_eq (sessions : w'.sessions = w.sessions) (journal : w'.journal = w.journal) :
    World.Spares host session w w' := by
  refine ⟨fun other _ => by rw [sessions], [], by rw [journal, List.append_nil], ?_⟩
  intro event member
  cases member

theorem record (w : World) {event : Event}
    (sees : ∀ operation seen, event.sight? = some (operation, seen) →
      operation.requiresSession host = true → seen.map (·.key) = some session) :
    World.Spares host session w (w.record event) := by
  refine ⟨fun _ _ => rfl, [event], rfl, ?_⟩
  intro e member
  rw [List.mem_singleton.1 member]
  exact sees

theorem record_blind (w : World) {event : Event} (blind : event.sight? = none) :
    World.Spares host session w (w.record event) := by
  refine .record w fun operation seen sight => ?_
  rw [blind] at sight
  cases sight

theorem act (w : World) (action : SessionAction) :
    World.Spares host session w (w.act session action) := by
  refine ⟨fun other apart => Sessions.state?_act_of_ne _ _ apart, [], (List.append_nil _).symm, ?_⟩
  intro event member
  cases member

theorem trans {u v w : World} (first : World.Spares host session u v)
    (second : World.Spares host session v w) : World.Spares host session u w := by
  obtain ⟨before, grown, early⟩ := first.sees
  obtain ⟨after, grown', late⟩ := second.sees
  refine ⟨fun other apart => (second.untouched other apart).trans (first.untouched other apart),
    before ++ after, by rw [grown', grown, List.append_assoc], ?_⟩
  intro event member
  rcases List.mem_append.1 member with member | member
  · exact early event member
  · exact late event member

theorem release (host : Host) (session : SessionKey) :
    host.release.Leads (World.Spares host session) := by
  intro w
  obtain ⟨⟨events, round, journal⟩, sessions, -⟩ := host.releases_release w
  refine ⟨fun other _ => by rw [sessions], events, journal, ?_⟩
  intro event member operation seen sight
  rw [round.blind event member] at sight
  cases sight

end World.Spares

/-- A session is alive, and the operations of a router are bound to it if they are given sessions,
and else to none. -/
structure Router.Given (r : Router) (session : SessionKey) (w : World) : Prop where
  alive : (w.sessions.state? session).isSome = true
  bound : ∀ operation ∈ r.registry.operations, operation.requiresSession r.host = true →
    w.bindings operation = .ofKey session
  unbound : ∀ operation : Operation, operation.requiresSession r.host = false →
    w.bindings operation = .unbound

namespace Router.Given

variable {r : Router} {operation : Operation}

theorem of_eq (given : r.Given session w) (sessions : w'.sessions = w.sessions)
    (bindings : w'.bindings = w.bindings) : r.Given session w' := by
  refine ⟨?_, fun o member requires => ?_, fun o ungiven => ?_⟩
  · rw [sessions]
    exact given.alive
  · rw [bindings]
    exact given.bound o member requires
  · rw [bindings]
    exact given.unbound o ungiven

theorem act (given : r.Given session w) (action : SessionAction) :
    r.Given session (w.act session action) :=
  { given with alive := (Sessions.isSome_state?_act _ _ _).trans given.alive }

theorem seenBy (given : r.Given session w) (member : operation ∈ r.registry.operations)
    (requires : operation.requiresSession r.host = true) :
    ∃ state, w.seenBy operation = some ⟨session, state⟩ := by
  obtain ⟨state, alive⟩ := Option.isSome_iff_exists.1 given.alive
  refine ⟨state, ?_⟩
  have current : w.seenBy operation = w.sessions.get? session := by
    rw [World.seenBy, given.bound operation member requires]
    rfl
  rw [current, Sessions.get?, alive]
  rfl

theorem spares_record (given : r.Given session w) (member : operation ∈ r.registry.operations)
    {event : Event} (sight : event.sight? = some (operation, w.seenBy operation)) :
    World.Spares r.host session w (w.record event) := by
  refine .record w fun o seen looked requires => ?_
  rw [sight] at looked
  cases looked
  obtain ⟨state, seen⟩ := given.seenBy member requires
  rw [seen]
  rfl

end Router.Given

/-- What is done while the operations of a router have been given a session. -/
def Router.Serving (r : Router) (session : SessionKey) (w w' : World) : Prop :=
  r.Given session w → r.Given session w' ∧ World.Spares r.host session w w'

namespace Router.Serving

variable {r : Router}

theorem composes (r : Router) (session : SessionKey) : World.Composes (r.Serving session) where
  refl _ given := ⟨given, .of_eq rfl rfl⟩
  trans first second given := by
    obtain ⟨given, spares⟩ := first given
    obtain ⟨given, spares'⟩ := second given
    exact ⟨given, spares.trans spares'⟩

theorem release (r : Router) (session : SessionKey) : r.host.release.Leads (r.Serving session) := by
  intro w given
  have releases := r.host.releases_release w
  exact ⟨given.of_eq releases.sessions releases.bindings, .release r.host session w⟩

theorem consult {operation : Operation} (member : operation ∈ r.registry.operations)
    (action : Option SessionAction) :
    (Run.consult operation action).Leads (r.Serving session) := by
  intro w given
  cases requires : operation.requiresSession r.host with
  | false =>
    -- Nobody ever bound it, so that it has no session to act on.
    have unseen : w.seenBy operation = none := by
      rw [World.seenBy, given.unbound operation requires]
      rfl
    rw [Run.on_consult_of_unseen unseen]
    exact ⟨given.of_eq rfl rfl, given.spares_record member (by rw [unseen]; rfl)⟩
  | true =>
    obtain ⟨state, seen⟩ := given.seenBy member requires
    have noted : World.Spares r.host session w
        (w.record (.consulted operation (w.seenBy operation) action)) :=
      given.spares_record member rfl
    have still : r.Given session (w.record (.consulted operation (w.seenBy operation) action)) :=
      given.of_eq rfl rfl
    rw [Run.on_consult_of_seen seen]
    rw [seen] at noted still
    cases action with
    | none => exact ⟨still, noted⟩
    | some action => exact ⟨still.act action, noted.trans (.act _ action)⟩

theorem carries (r : Router) (session : SessionKey) :
    r.host.Carries (· ∈ r.registry.operations) (r.Serving session) where
  toComposes := composes r session
  probe request operation member w given := by
    rw [Operation.probe_on]
    exact ⟨given.of_eq rfl rfl, given.spares_record member rfl⟩
  handling _ _ _ member given := ⟨given.of_eq rfl rfl, given.spares_record member rfl⟩
  record w _ _ _ blind _ given := ⟨given.of_eq rfl rfl, .record_blind w blind⟩
  emit _ _ given := ⟨given.of_eq rfl rfl, .of_eq rfl rfl⟩
  consult _ action member _ := consult member action
  closeSession member request := by
    refine (composes r session).noteEnd ?_ fun w ended given =>
      ⟨given.of_eq rfl rfl, .record_blind w rfl⟩
    exact (composes r session).handleCloseSession (release r session) (consult member _)
      (fun _ _ given => ⟨given.of_eq rfl rfl, .of_eq rfl rfl⟩) request

end Router.Serving

/-- What giving a session to operations does: it is all that happens, no operation looks for its
session meanwhile, and who has been given this one keeps it. -/
structure World.Gives (host : Host) (session : SessionKey) (w w' : World) : Prop where
  sessions : w'.sessions = w.sessions
  spares : World.Spares host session w w'
  ungiven : World.KeepsUngiven host w w'
  kept : ∀ operation, w.bindings operation = .ofKey session → w'.bindings operation = .ofKey session

namespace World.Gives

theorem composes (host : Host) (session : SessionKey) :
    World.Composes (World.Gives host session) where
  refl _ := ⟨rfl, .of_eq rfl rfl, .of_eq rfl, fun _ bound => bound⟩
  trans first second := ⟨second.sessions.trans first.sessions, first.spares.trans second.spares,
    (World.KeepsUngiven.composes host).trans first.ungiven second.ungiven,
    fun o bound => second.kept o (first.kept o bound)⟩

theorem bind (operation : Operation) (given : operation.requiresSession host = true) :
    (operation.bind host session).Leads (World.Gives host session) := by
  intro w
  have ungiven := host.serves_keepsUngiven.bind session operation given w
  cases crash : operation.bindCrash? host w session with
  | some left =>
    rw [Operation.bind_on_of_some crash] at ungiven ⊢
    exact ⟨rfl, .record_blind w rfl, ungiven, fun _ bound => bound⟩
  | none =>
    rw [Operation.bind_on_of_none crash] at ungiven ⊢
    refine ⟨rfl, (World.Spares.record_blind w rfl).trans (.of_eq rfl rfl), ungiven, ?_⟩
    intro other bound
    show (if other = operation then Binding.ofKey session else w.bindings other) = _
    split
    · rfl
    · exact bound

theorem bindAll (host : Host) (session : SessionKey) (operations : List Operation) :
    (Router.bindAll host session operations).Leads (World.Gives host session) :=
  (composes host session).bindAll fun operation _ given => bind operation given

theorem bound_of_bindAll {operations : List Operation}
    (run : (Router.bindAll host session operations).on w = (.ok (), w'))
    {operation : Operation} (member : operation ∈ operations)
    (requires : operation.requiresSession host = true) :
    w'.bindings operation = .ofKey session := by
  -- Whoever has been given the session keeps it while the others are given it (`kept` below).
  induction operations generalizing w with
  | nil => cases member
  | cons first rest ih =>
    rw [Router.bindAll] at run
    split at run
    · next given =>
      cases crash : first.bindCrash? host w session with
      | some left =>
        rw [Run.on_bind_of_error (Operation.bind_on_of_some crash)] at run
        cases run
      | none =>
        rw [Run.on_bind_of_ok (Operation.bind_on_of_none crash)] at run
        rcases List.mem_cons.1 member with rfl | later
        · have bound : ((w.record (.bound operation session none)).bind operation
              session).bindings operation = .ofKey session := if_pos rfl
          have kept := (bindAll host session rest _).kept operation bound
          rw [run] at kept
          exact kept
        · exact ih run later
    · next ungiven =>
      rcases List.mem_cons.1 member with rfl | later
      · exact absurd requires ungiven
      · exact ih run later

end World.Gives

namespace Router

variable {r : Router} {request : Document}

theorem spares_route (alive : (w.sessions.state? session).isSome = true)
    (unbound : ∀ operation : Operation, operation.requiresSession r.host = false →
      w.bindings operation = .unbound) :
    World.Spares r.host session w ((r.route request session).run w).2 := by
  have gives := World.Gives.bindAll r.host session r.registry.operations w
  cases run : (bindAll r.host session r.registry.operations).on w with
  | mk ended v =>
    rw [run] at gives
    cases ended with
    | error left =>
      -- Some operations still have the session of an earlier request, but none is asked.
      have rejected : (r.select request session).run w = (r.verdict request (.error left), v) := by
        rw [select_run, collect, Run.on_bind_of_error run]
      rw [route_of_rejected rejected]
      exact gives.spares.trans (.of_eq rfl rfl)
    | ok done =>
      -- From here on nobody has the session of an earlier request.
      have given : r.Given session v := by
        refine ⟨?_, fun o member requires => World.Gives.bound_of_bindAll run member requires,
          fun o ungiven => (gives.ungiven o ungiven).trans (unbound o ungiven)⟩
        rw [gives.sessions]
        exact alive
      have served : r.Serving session v ((r.route request session).run w).2 :=
        leads_prepared (Serving.carries r session) (fun _ member => member) run
      exact gives.spares.trans (served given).2

/-- Whatever was done with a server before, and however it ended, a request of a session that is
alive touches no other session, also none of the same number. -/
theorem spares_after (r : Router) (threshold : Option Level) (calls : List Call)
    (request : Document) (session : SessionKey)
    (alive : ((r.after calls (.initial threshold)).sessions.state? session).isSome = true) :
    World.Spares r.host session (r.after calls (.initial threshold))
      ((r.route request session).run (r.after calls (.initial threshold))).2 :=
  spares_route alive fun operation ungiven => unbound_after r threshold calls operation ungiven

/-- Two operations that are given sessions. The first one crashes over the first session that it is
given; the second one comes before all others, asks for the end of its session and passes the
request on. -/
def faltering : Router where
  registry := .ofHost
    { catalogue :=
        { operation := fun key =>
            if key.value = "first" then
              { Contribution.idle with
                name := "first"
                requiresSession := true
                bind := fun past _ => if past.isEmpty then some (.saying "boom") else none }
            else
              ⟨"second", true, fun _ _ => none, fun _ _ _ => .ok .highest,
                fun _ request => .consult (some .requestClose) fun _ => .delegate request fun outcome =>
                  .finish (outcome.map (·.getD request))⟩
          leaf := fun _ => ⟨[⟨"first"⟩, ⟨"second"⟩], fun _ => .finish (.ok ())⟩ }
      sessionId := ⟨1⟩
      backend := .leaf ⟨0⟩ }
  limit := defaultLimit

def brokenCalls : List Call :=
  [.begin ⟨1⟩, .begin ⟨1⟩, .ask (.routed (.request "1" (.within "start-exi" exiNamespace)) ⟨0, ⟨1⟩⟩)]

theorem spares_after_of_faltering :
    let w := faltering.after brokenCalls (.initial none)
    let final := ((faltering.route (.request "2" (.within "start-exi" exiNamespace))
      ⟨1, ⟨1⟩⟩).run w).2
    w.bindings (.builtin .startExi) = .ofKey ⟨0, ⟨1⟩⟩ ∧
      w.bindings (.contributed ⟨"second"⟩) = .unbound ∧
      (w.sessions.state? ⟨1, ⟨1⟩⟩).isSome = true ∧
      World.Spares faltering.host ⟨1, ⟨1⟩⟩ w final ∧
      final.sessions = ⟨[some .fresh, some ⟨some default, true⟩]⟩ := by
  have alive : ((faltering.after brokenCalls (.initial none)).sessions.state?
      ⟨1, ⟨1⟩⟩).isSome = true := by decide +kernel
  exact ⟨by decide +kernel, by decide +kernel, alive,
    spares_after faltering none brokenCalls _ _ alive, by decide +kernel⟩

end Router

end RpcRouting
