import RpcRouting.Log.Basic
import RpcRouting.Session.Store
/-!
Why a request was not routed or not carried out, and what the peer is told about it.
-/

set_option autoImplicit false
set_option relaxedAutoImplicit false

namespace RpcRouting

/-- Why a request has no reply that an operation answers for. -/
inductive RoutingError
  | noHandler (request : String)
  | ambiguous (request : String) (conflict : Conflict)
  | unexpected (stage : String) (detail : String)
deriving DecidableEq

namespace RoutingError

def describe : RoutingError → String
  | noHandler request => "No operation available to handle message " ++ request
  | ambiguous request conflict =>
    "Multiple operations available to handle message " ++ request ++ " with priority " ++
      conflict.priority.text ++ ", " ++ conflict.conflicting ++ " and " ++ conflict.existing
  | unexpected stage detail => stage ++ ": " ++ detail

def tag : RoutingError → ErrorTag
  | noHandler _ => .operationNotSupported
  | ambiguous _ _ => .operationFailed
  | unexpected _ _ => .operationFailed

def source? : RoutingError → Option String
  | ambiguous _ conflict => some conflict.describe
  | _ => none

/-- What the peer is told. A failed selection names the request and the session, and gives its
reason under its tag; the detail of an unexpected failure stands in the diagnostic entries only. -/
def toRpcError (e : RoutingError) (request : String) (session : SessionId) : RpcError :=
  match e with
  | unexpected _ detail => (RpcError.operationFailed "Unexpected error").withInfo "error" detail
  | _ =>
    (RpcError.application ("Unable to handle rpc " ++ request ++ " on " ++ session.describe)
      e.tag).withInfo e.tag.text e.describe

def toRecord (e : RoutingError) (session : SessionId) : Record :=
  match e with
  | noHandler _ => .unhandled session e.describe
  | ambiguous _ conflict => .ambiguous session conflict e.describe
  | unexpected stage detail => .unexpected session stage detail

end RoutingError

end RpcRouting
