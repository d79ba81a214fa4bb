import RpcRouting.Document
import RpcRouting.Priority
/-!
Operations by identity: the built-in ones that every session has, and those that backends
contribute.
-/

set_option autoImplicit false
set_option relaxedAutoImplicit false

namespace RpcRouting

inductive Builtin
  | closeSession
  | startExi
  | stopExi
deriving DecidableEq

namespace Builtin

def all : List Builtin := [closeSession, startExi, stopExi]

def requestName : Builtin → String
  | closeSession => "close-session"
  | startExi => "start-exi"
  | stopExi => "stop-exi"

def namespaceUri : Builtin → String
  | closeSession => baseNamespace
  | startExi => exiNamespace
  | stopExi => exiNamespace

/-- The operation ranks lowest for the request it answers and refuses every other one. -/
def rank (b : Builtin) (request : Document) : Priority :=
  if request.asksFor b.requestName b.namespaceUri then .lowest else .cannotHandle

end Builtin

/-- The identity of a contributed operation; two operations may share a name. -/
structure OperationKey where
  value : String
deriving DecidableEq

inductive Operation
  | builtin (operation : Builtin)
  | contributed (key : OperationKey)
deriving DecidableEq

end RpcRouting
