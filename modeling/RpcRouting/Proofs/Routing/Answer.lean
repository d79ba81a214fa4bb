import RpcRouting.Proofs.Run
import RpcRouting.Routing.Pipeline
/-!
A request's way from the choice of its chain to its answer, stage by stage. The answer to a request
whose chain was chosen is a function of how its first operation ended (`Router.route_of_chain`).
-/

set_option autoImplicit false
set_option relaxedAutoImplicit false

namespace RpcRouting

def RpcError.unexpected (detail : String) : RpcError :=
  (operationFailed "Unexpected error").withInfo "error" detail

namespace Router

variable {r : Router} {request : Document} {session : SessionKey} {w w' : World}

/-- What the peer is told if the first operation of the chosen chain ended in the given way. -/
def told : Except Crash (Except OperationError Document) → Except RpcError Document
  | .ok (.ok reply) => .ok reply
  | .ok (.error (.documented error)) => .error error
  | .ok (.error (.internal failure)) => .error (.unexpected failure.describe)
  | .error crash => .error (.unexpected crash.describe)

theorem announce_eq (r : Router) (request : Document) (session : SessionKey) (chain : Chain) :
    r.announce request session chain = modify (·.emit (.forwarding session.id
      (chain.head?.elim "<none>" (·.name r.host)) (r.shown request))) := by
  funext w
  by_cases kept : w.log.enabled .debug = true
  · show StateT.run (r.announce request session chain) w = _
    simp only [announce, StateT.run_bind, StateT.run_get, pure_bind, kept]
    rfl
  · have dropped : w.log.emit (.forwarding session.id
        (chain.head?.elim "<none>" (·.name r.host)) (r.shown request)) = w.log := if_neg kept
    show StateT.run (r.announce request session chain) w = ((), { w with log := w.log.emit _ })
    rw [dropped]
    simp only [announce, StateT.run_bind, StateT.run_get, pure_bind, kept]
    rfl

def announced (r : Router) (request : Document) (session : SessionKey) (chain : Chain)
    (w : World) : World :=
  ((r.announce request session chain).run w).2

theorem announced_eq (r : Router) (request : Document) (session : SessionKey) (chain : Chain)
    (w : World) : r.announced request session chain w = w.emit (.forwarding session.id
      (chain.head?.elim "<none>" (·.name r.host)) (r.shown request)) := by
  rw [announced, announce_eq]
  rfl

section Announced

variable (chain : Chain)

@[simp] theorem announced_journal :
    (r.announced request session chain w).journal = w.journal := by
  rw [announced_eq, World.emit_journal]

@[simp] theorem announced_released :
    (r.announced request session chain w).released = w.released := by
  rw [announced_eq, World.emit_released]

theorem announced_seenBy (operation : Operation) :
    (r.announced request session chain w).seenBy operation = w.seenBy operation := by
  rw [announced_eq]
  rfl

end Announced

theorem select_run :
    (r.select request session).run w = (r.verdict request ((r.collect request session).on w).1,
      ((r.collect request session).on w).2) := rfl

private theorem exists_link_of_verdict {collected : Except Crash (Except Conflict Candidates)}
    {chain : Chain} (passed : r.verdict request collected = .ok chain) :
    ∃ head rest, chain = .link head rest := by
  rcases collected with crash | conflict | candidates
  · cases passed
  · cases passed
  · cases entries : candidates.entries with
    | nil => simp [verdict, Candidates.isEmpty, entries] at passed
    | cons entry rest =>
      have linked : candidates.toChain = chain := by
        simpa [verdict, Candidates.isEmpty, entries] using passed
      refine ⟨entry.2, .ofList (rest.map (·.2)), ?_⟩
      rw [← linked, Candidates.toChain, entries]
      rfl

theorem exists_link_of_chosen {chain : Chain}
    (chosen : ((r.select request session).run w).1 = .ok chain) :
    ∃ head rest, chain = .link head rest :=
  exists_link_of_verdict chosen

theorem route_of_rejected {e : RoutingError}
    (rejected : (r.select request session).run w = (.error e, w')) :
    (r.route request session).run w =
      (.error (e.toRpcError (r.shown request) session.id), w'.emit (e.toRecord session.id)) := by
  rw [route, StateT.run_bind, rejected]
  rfl

def handled (r : Router) (request : Document) (session : SessionKey) (w : World)
    (head : Operation) (rest : Chain) : Except Crash (Except OperationError Document) × World :=
  (head.handle r.host rest.operations (rest.execute r.host) request).on
    (r.announced request session (.link head rest) ((r.select request session).run w).2)

end Router

theorem Chain.execute_link_on {host : Host} {head : Operation} {rest : Chain} {request : Document}
    {w w' : World} {ended : Except Crash (Except OperationError Document)}
    (run : (head.handle host rest.operations (rest.execute host) request).on w = (ended, w')) :
    ((Chain.link head rest).execute host request).on w = (ended.map (·.map some), w') := by
  cases ended with
  | error crash => exact Run.on_bind_of_error run
  | ok outcome => exact Run.on_bind_of_ok run

namespace Router

variable {r : Router} {request : Document} {session : SessionKey} {w w' : World}

/-- The failure that is left to the router when the first operation of a chain ended in the given
way. -/
def unsettled? : Except Crash (Except OperationError Document) → Option RoutingError
  | .error crash => some (executionFailed crash.describe)
  | .ok (.error (.internal failure)) => some (executionFailed failure.describe)
  | .ok (.error (.documented _)) => none
  | .ok (.ok _) => none

theorem told_of_unsettled? {ended : Except Crash (Except OperationError Document)}
    {e : RoutingError} (left : unsettled? ended = some e) (shown : String) (id : SessionId) :
    told ended = .error (e.toRpcError shown id) := by
  rcases ended with crash | (documented | failure) | reply
  · cases left
    rfl
  · cases left
  · cases left
    rfl
  · cases left

theorem route_of_chain_eq {head : Operation} {rest : Chain}
    (chosen : ((r.select request session).run w).1 = .ok (.link head rest)) :
    let ended := r.handled request session w head rest
    (r.route request session).run w = (told ended.1,
      (unsettled? ended.1).elim ended.2 fun e => ended.2.emit (e.toRecord session.id)) := by
  let chosenIn := ((r.select request session).run w).2
  have selecting : StateT.run (r.select request session) w =
      (.ok (.link head rest), chosenIn) := Prod.ext chosen rfl
  have announcing : StateT.run (r.announce request session (.link head rest)) chosenIn =
      ((), r.announced request session (.link head rest) chosenIn) := rfl
  cases run : r.handled request session w head rest with
  | mk ended final =>
    have execution : StateT.run (ExceptT.run ((Chain.link head rest).execute r.host request))
        (r.announced request session (.link head rest) chosenIn) =
          (ended.map (·.map some), final) := Chain.execute_link_on run
    rw [route, StateT.run_bind, selecting]
    show StateT.run (r.announce request session (.link head rest) >>= _) chosenIn = _
    rw [StateT.run_bind, announcing]
    show StateT.run
      (ExceptT.run ((Chain.link head rest).execute r.host request) >>= _) _ = _
    rw [StateT.run_bind, execution]
    rcases ended with crash | error | reply
    · rfl
    · cases error <;> rfl
    · rfl

theorem route_of_chain {head : Operation} {rest : Chain}
    (chosen : ((r.select request session).run w).1 = .ok (.link head rest)) :
    ∃ w', (r.route request session).run w = (told (r.handled request session w head rest).1, w') ∧
      (w' = (r.handled request session w head rest).2 ∨
        ∃ line, w' = (r.handled request session w head rest).2.emit line) := by
  refine ⟨_, route_of_chain_eq chosen, ?_⟩
  cases unsettled? (r.handled request session w head rest).1 with
  | none => exact .inl rfl
  | some e => exact .inr ⟨_, rfl⟩

def left? (r : Router) (request : Document) (session : SessionKey) (w : World) :
    Option RoutingError :=
  match ((r.select request session).run w).1 with
  | .error e => some e
  | .ok (.link head rest) => unsettled? (r.handled request session w head rest).1
  | .ok .terminus => none

theorem left?_of_rejected {e : RoutingError}
    (rejected : ((r.select request session).run w).1 = .error e) :
    r.left? request session w = some e := by
  rw [left?, rejected]

theorem left?_of_chosen {head : Operation} {rest : Chain}
    (chosen : ((r.select request session).run w).1 = .ok (.link head rest)) :
    r.left? request session w = unsettled? (r.handled request session w head rest).1 := by
  rw [left?, chosen]

theorem answer_of_left? {e : RoutingError} (left : r.left? request session w = some e) :
    ((r.route request session).run w).1 = .error (e.toRpcError (r.shown request) session.id) := by
  cases chosen : ((r.select request session).run w).1 with
  | error reason =>
    obtain rfl : reason = e := Option.some.inj ((left?_of_rejected chosen).symm.trans left)
    rw [route_of_rejected (Prod.ext chosen rfl)]
  | ok chain =>
    obtain ⟨head, rest, rfl⟩ := exists_link_of_chosen chosen
    rw [left?_of_chosen chosen] at left
    rw [route_of_chain_eq chosen, told_of_unsettled? left]

end Router

end RpcRouting
