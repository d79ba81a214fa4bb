import RpcRouting.Routing.Error
import RpcRouting.Routing.Registry
/-!
Routing. For every request the operations of the session are given the session, then each is asked
for its rank; those that can handle the request form a chain in descending order of their ranks,
and the head of the chain is given the request. Whatever fails on the way becomes an error for the
peer.
-/

set_option autoImplicit false
set_option relaxedAutoImplicit false

namespace RpcRouting

/-- The router of one session. -/
structure Router where
  registry : Registry
  /-- The number of bytes of a request that errors and logs show. -/
  limit : Nat

namespace Router

def defaultLimit : Nat := 4096

def build (host : Host) (limit : Nat) : StateM World Router := do
  return ⟨← Registry.build host, limit⟩

def host (r : Router) : Host := r.registry.host

def shown (r : Router) (request : Document) : String := request.renderWithin r.limit

def bindAll (host : Host) (session : SessionKey) : List Operation → Run Unit
  | [] => return ()
  | operation :: rest => do
    if operation.requiresSession host then operation.bind host session
    bindAll host session rest

/-- Asks operations for their ranks and collects the candidates, up to the first conflict. -/
def probeAll (host : Host) (request : Document) :
    List Operation → Candidates → Run (Except Conflict Candidates)
  | [], candidates => return .ok candidates
  | operation :: rest, candidates => do
    let rank ← operation.probe host request
    match candidates.offer rank operation with
    | .declined => probeAll host request rest candidates
    | .admitted candidates => probeAll host request rest candidates
    | .conflicting holder => return .error ⟨rank, holder.name host, operation.name host⟩

/-- The candidates for a request. Every operation has its session before the first one is asked. -/
def collect (r : Router) (request : Document) (session : SessionKey) :
    Run (Except Conflict Candidates) := do
  bindAll r.host session r.registry.operations
  probeAll r.host request r.registry.operations .empty

/-- The chain that comes out of the candidates for a request, or why there is none. -/
def verdict (r : Router) (request : Document) :
    Except Crash (Except Conflict Candidates) → Except RoutingError Chain
  | .error crash =>
    .error (.unexpected "Unexpected failure while ranking operations" crash.describe)
  | .ok (.error conflict) => .error (.ambiguous (r.shown request) conflict)
  | .ok (.ok candidates) =>
    if candidates.isEmpty then .error (.noHandler (r.shown request)) else .ok candidates.toChain

def select (r : Router) (request : Document) (session : SessionKey) :
    StateM World (Except RoutingError Chain) := do
  return r.verdict request (← (r.collect request session).run)

def executionFailed (detail : String) : RoutingError :=
  .unexpected "Unexpected failure during operation execution" detail

/-- What the execution of a chain comes to: a reply, an error that an operation classified, or a
failure that nobody classified. -/
def settle : Except Crash Outcome → Except RoutingError (Except RpcError Document)
  | .ok (.ok (some reply)) => .ok (.ok reply)
  | .ok (.error (.documented error)) => .ok (.error error)
  | .ok (.ok none) => .error (executionFailed "execution chain produced no reply")
  | .ok (.error (.internal failure)) => .error (executionFailed failure.describe)
  | .error crash => .error (executionFailed crash.describe)

def report (r : Router) (request : Document) (session : SessionKey) (e : RoutingError) :
    StateM World RpcError := do
  modify (·.emit (e.toRecord session.id))
  return e.toRpcError (r.shown request) session.id

/-- Logs that a request goes to the head of its chain, if such records are kept. -/
def announce (r : Router) (request : Document) (session : SessionKey) (chain : Chain) :
    StateM World Unit := do
  if (← get).log.enabled .debug then
    let head := chain.head?.elim "<none>" (·.name r.host)
    modify (·.emit (.forwarding session.id head (r.shown request)))

/-- Routes a request of a session and answers with a reply or with an error for the peer. -/
def route (r : Router) (request : Document) (session : SessionKey) :
    StateM World (Except RpcError Document) := do
  match ← r.select request session with
  | .error e => return .error (← r.report request session e)
  | .ok chain =>
    r.announce request session chain
    match settle (← (chain.execute r.host request).run) with
    | .ok answer => return answer
    | .error e => return .error (← r.report request session e)

/-- Releases the session's backend unless it counts as released. -/
def close (r : Router) : Run (Except Failure Unit) := r.registry.close

end Router

end RpcRouting
