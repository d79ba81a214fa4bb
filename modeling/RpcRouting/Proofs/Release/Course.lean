import RpcRouting.Proofs.Release.Consistency
/-!
The course of a server: sessions begin and are dropped, requests are routed, and the backend's
release is asked for through any of its entries. Whatever the course, the releases of its backend
are consistent, and an entry that leads to a release does nothing else about them.
-/

set_option autoImplicit false
set_option relaxedAutoImplicit false

namespace RpcRouting

/-- The ways to ask for the release of a session's backend. -/
inductive Entry
  | resources
  | registry
  | router
  | routed (request : Document) (session : SessionKey)

inductive Told
  | closed (ended : Except Crash (Except Failure Unit))
  | replied (answer : Except RpcError Document)

/-- One thing that is done with a server. -/
inductive Call
  | begin (id : SessionId)
  | drop (session : SessionKey)
  | ask (entry : Entry)
  | logged (request : Document) (session : SessionKey)

namespace Entry

def ask (r : Router) : Entry → StateM World Told
  | resources => return .closed (← r.host.release.run)
  | registry => return .closed (← r.registry.close.run)
  | router => return .closed (← r.close.run)
  | routed request session => return .replied (← r.route request session)

/-- The entry leads to a release: a request does if the built-in operation that ends sessions is
the first of its chain. -/
def Reaches (r : Router) (w : World) : Entry → Prop
  | routed request session => ∃ rest,
    ((r.select request session).run w).1 = .ok (.link (.builtin .closeSession) rest)
  | _ => True

/-- What is told to whoever asks through an entry, if the release ends in the given way. -/
def telling (r : Router) (ended : Except Crash (Except Failure Unit)) : Entry → Told
  | routed request _ => .replied <|
    match ended with
    | .ok (.ok ()) => .ok request.okReply
    | .ok (.error failure) => .error ((RpcError.operationFailed
        ("Unable to properly close session " ++ r.host.sessionId.text)).withInfo "error"
          failure.describe)
    | .error left => .error (.unexpected left.describe)
  | _ => .closed ended

end Entry

namespace Call

def after (r : Router) (w : World) : Call → World
  | begin id => { w with sessions := (w.sessions.begin id).1 }
  | drop session => { w with sessions := w.sessions.drop session }
  | ask entry => ((entry.ask r).run w).2
  | logged request session => ((r.routeLogged request session).run w).2

end Call

namespace Router

def after (r : Router) (calls : List Call) (w : World) : World :=
  calls.foldl (Call.after r) w

variable {r : Router} {w : World}

section Serves

variable {R : World → World → Prop} (serves : r.host.Serves R) (release : r.host.release.Leads R)
  (sessions : ∀ (w : World) (later : Sessions), R w { w with sessions := later })

include serves release sessions

theorem leads_call_of_serves (call : Call) : R w (call.after r w) := by
  cases call with
  | begin id => exact sessions w _
  | drop session => exact sessions w _
  | logged request session => exact leads_routeLogged serves request session w
  | ask entry =>
    cases entry with
    | routed request session => exact leads_route serves request session w
    | resources => exact release w
    | registry => exact release w
    | router => exact release w

theorem leads_after_of_serves (calls : List Call) : R w (r.after calls w) := by
  induction calls generalizing w with
  | nil => exact serves.refl w
  | cons call rest ih =>
    exact serves.trans (leads_call_of_serves serves release sessions call) ih

end Serves

section Permits

variable {R : World → World → Prop} (permits : r.host.Permits R) (release : r.host.release.Leads R)
  (sessions : ∀ (w : World) (later : Sessions), R w { w with sessions := later })

include permits release sessions

theorem leads_call (call : Call) : R w (call.after r w) :=
  leads_call_of_serves permits.serves release sessions call

theorem leads_after (calls : List Call) : R w (r.after calls w) :=
  leads_after_of_serves permits.serves release sessions calls

end Permits

theorem advances_after (calls : List Call) : r.host.Advances w (r.after calls w) :=
  leads_after r.host.permits_advances (fun _ => .release) (fun _ _ => .still rfl rfl) calls

theorem consistent_after (r : Router) (threshold : Option Level) (calls : List Call) :
    r.host.Consistent (r.after calls (.initial threshold)) :=
  (advances_after calls).consistent (.initial threshold)

end Router

def Journal.releases (journal : Journal) : Journal := journal.filter (·.operation?.isNone)

theorem Journal.releases_append (journal events : Journal) :
    Journal.releases (journal ++ events) = journal.releases ++ Journal.releases events :=
  List.filter_append ..

theorem Journal.releases_of_operations {events : Journal}
    (foreign : ∀ e ∈ events, e.operation?.isSome = true) : events.releases = [] := by
  refine List.filter_eq_nil_iff.2 fun e member => ?_
  have own := foreign e member
  cases known : e.operation? <;> simp_all

theorem Host.Round.releases_eq {host : Host} {counted counts : Bool}
    {ended : Except Crash (Except Failure Unit)} {events : Journal}
    (round : host.Round counted ended events counts) : events.releases = events := by
  have inner_releases : ∀ inner : Journal, (∀ e ∈ inner, e.isInner = true) →
      inner.releases = inner := by
    intro inner nested
    refine List.filter_eq_self.2 fun e member => ?_
    have own := nested e member
    cases e <;> simp_all [Event.isInner, Event.operation?]
  cases round with
  | idle => rfl
  | @settled inner outcome nested called all =>
    rw [Journal.releases_append]
    exact congrArg (Event.releasing :: · ++ _) (inner_releases inner nested)
  | @broken inner left nested origin =>
    rw [Journal.releases_append]
    exact congrArg (Event.releasing :: · ++ _) (inner_releases inner nested)

namespace Entry

variable {r : Router} {w : World}

private theorem ask_closed (w : World) :
    ∃ ended events, r.host.Round w.released ended events (r.host.release.on w).2.released ∧
      (r.host.release.on w).1 = ended ∧
      (r.host.release.on w).2.journal.releases = w.journal.releases ++ events := by
  obtain ⟨events, round, journal⟩ := (r.host.releases_release w).round
  refine ⟨_, events, round, rfl, ?_⟩
  rw [journal, Journal.releases_append, round.releases_eq]

private theorem telling_of_closeEnd (request : Document) (session : SessionKey)
    (ended : Except Crash (Except Failure Unit)) :
    Told.replied (Router.told (Builtin.closeEnd r.host request ended)) =
      (routed request session).telling r ended := by
  rcases ended with left | failure | success <;> rfl

private def reached (r : Router) (request : Document) (session : SessionKey) (rest : Chain)
    (w : World) : World :=
  let announced := r.announced request session (.link (.builtin .closeSession) rest)
    ((r.select request session).run w).2
  announced.record (.handling (.builtin .closeSession) request
    (announced.seenBy (.builtin .closeSession)))

private theorem handled_eq (request : Document) (session : SessionKey) (rest : Chain) :
    r.handled request session w (.builtin .closeSession) rest =
      (Run.noteEnd (.handled (.builtin .closeSession))
        (Builtin.handleCloseSession r.host request)).on (reached r request session rest w) := by
  rw [Router.handled, Operation.handle, Run.on_bind_of_ok Run.on_get,
    Run.on_bind_of_ok (Run.on_note _)]
  rfl

private theorem reached_released (request : Document) (session : SessionKey) (rest : Chain) :
    (reached r request session rest w).released = w.released := by
  have chose := World.choosing_chose.leads_select r request session w
  rw [reached, World.record_released, Router.announced_released, chose.released]

private theorem reached_releases (request : Document) (session : SessionKey) (rest : Chain) :
    (reached r request session rest w).journal.releases = w.journal.releases := by
  obtain ⟨before, journal, choosing⟩ :=
    (World.choosing_chose.leads_select r request session w).journal
  have foreign : ∀ e ∈ before, e.operation?.isSome = true := by
    intro e member
    have own := choosing e member
    cases e <;> simp_all [Event.isChoosing, Event.operation?]
  rw [reached, World.record_journal, Router.announced_journal, journal, Journal.releases_append,
    Journal.releases_append, Journal.releases_of_operations foreign, List.append_nil]
  exact List.append_nil _

private theorem ask_routed (request : Document) (session : SessionKey)
    (reaches : (routed request session).Reaches r w) :
    ∃ ended events,
      r.host.Round w.released ended events (((routed request session).ask r).run w).2.released ∧
      (((routed request session).ask r).run w).1 = (routed request session).telling r ended ∧
      (((routed request session).ask r).run w).2.journal.releases =
        w.journal.releases ++ events := by
  obtain ⟨rest, chosen⟩ := reaches
  obtain ⟨ended, events, round, told, grown⟩ :=
    ask_closed (r := r) (reached r request session rest w)
  obtain ⟨left, own, run, journal, counts, foreign⟩ := Builtin.closeSession_on request
    (Prod.ext told rfl : r.host.release.on (reached r request session rest w) = (ended, _))
  obtain ⟨w', answered, final⟩ := Router.route_of_chain chosen
  rw [handled_eq, run] at answered final
  have asked : ((routed request session).ask r).run w =
      (.replied (Router.told (Builtin.closeEnd r.host request ended)), w') := by
    show (Told.replied ((r.route request session).run w).1, ((r.route request session).run w).2) = _
    rw [answered]
  have journal' : w'.journal = left.journal := by
    rcases final with rfl | ⟨line, rfl⟩ <;> rfl
  have released' : w'.released = left.released := by
    rcases final with rfl | ⟨line, rfl⟩ <;> rfl
  refine ⟨ended, events, ?_, ?_, ?_⟩
  · rw [reached_released] at round
    rw [asked, released', counts]
    exact round
  · rw [asked, telling_of_closeEnd request session]
  · rw [asked, journal', journal, Journal.releases_append,
      Journal.releases_of_operations fun e member => (foreign e member).1, List.append_nil, grown,
      reached_releases]

/-- An entry that leads to a release goes one of its ways, tells how the release ended, and adds no
other events that are about the backend. -/
theorem ask_of_reaches {entry : Entry} (reaches : entry.Reaches r w) :
    ∃ ended events, r.host.Round w.released ended events ((entry.ask r).run w).2.released ∧
      ((entry.ask r).run w).1 = entry.telling r ended ∧
      ((entry.ask r).run w).2.journal.releases = w.journal.releases ++ events := by
  cases entry with
  | routed request session => exact ask_routed request session reaches
  | resources =>
    obtain ⟨ended, events, round, told, journal⟩ := ask_closed (r := r) w
    exact ⟨ended, events, round, congrArg Told.closed told, journal⟩
  | registry =>
    obtain ⟨ended, events, round, told, journal⟩ := ask_closed (r := r) w
    exact ⟨ended, events, round, congrArg Told.closed told, journal⟩
  | router =>
    obtain ⟨ended, events, round, told, journal⟩ := ask_closed (r := r) w
    exact ⟨ended, events, round, congrArg Told.closed told, journal⟩

end Entry

end RpcRouting
