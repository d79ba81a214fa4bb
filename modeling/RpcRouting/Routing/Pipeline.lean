import RpcRouting.Routing.Router
/-!
The pipeline around a router: every request is logged when it enters and, with its outcome, when it
leaves.
-/

set_option autoImplicit false
set_option relaxedAutoImplicit false

namespace RpcRouting.Router

def notARequest : String := "<not-an-rpc>"

def failureTag? : Except RpcError Document → Option ErrorTag
  | .ok _ => none
  | .error error => some error.tag

/-- Routes a request of a session through the pipeline. -/
def routeLogged (r : Router) (request : Document) (session : SessionKey) :
    StateM World (Except RpcError Document) := do
  let rpc := request.operationName?.getD notARequest
  modify (·.emit (.rpcBegun rpc session.id))
  let answer ← r.route request session
  modify (·.emit (.rpcOutcome (failureTag? answer)))
  modify (·.emit (.rpcComplete rpc session.id (failureTag? answer)))
  return answer

end RpcRouting.Router
