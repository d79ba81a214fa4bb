import RpcRouting.Host
/-!
What operations do before a request is handled: they have names, are given the session, and answer
with their ranks. Both steps leave an event, also if the operation crashes.
-/

set_option autoImplicit false
set_option relaxedAutoImplicit false

namespace RpcRouting

namespace Operation

def name (host : Host) : Operation → String
  | builtin b => b.requestName ++ "(" ++ host.sessionId.describe ++ ")"
  | contributed key => (host.catalogue.operation key).name

def requiresSession (host : Host) : Operation → Bool
  | builtin _ => true
  | contributed key => (host.catalogue.operation key).requiresSession

def bindCrash? (host : Host) (w : World) (session : SessionKey) (operation : Operation) :
    Option Crash :=
  match operation with
  | builtin _ => none
  | contributed key => (host.catalogue.operation key).bind (w.journal.of operation) session

def bind (host : Host) (session : SessionKey) (operation : Operation) : Run Unit := do
  let crash := bindCrash? host (← get) session operation
  Run.note (.bound operation session crash)
  match crash with
  | some crash => throw crash
  | none => modify (·.bind operation session)

def answer (host : Host) (w : World) (request : Document) (operation : Operation) :
    Except Crash Priority :=
  match operation with
  | builtin b => .ok (b.rank request)
  | contributed key =>
    (host.catalogue.operation key).rank (w.journal.of operation) request (w.seenBy operation)

/-- Asks the operation for its rank. -/
def probe (host : Host) (request : Document) (operation : Operation) : Run Priority := do
  let w ← get
  let answer := answer host w request operation
  Run.note (.probed operation request (w.seenBy operation) answer)
  match answer with
  | .ok rank => return rank
  | .error crash => throw crash

end Operation

end RpcRouting
