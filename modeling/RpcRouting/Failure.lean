import RpcRouting.RpcError.Basic
/-!
The ways in which an operation or a backend may fail: an error meant for the peer, an internal
failure, or a crash.
-/

set_option autoImplicit false
set_option relaxedAutoImplicit false

namespace RpcRouting

/-- An internal failure: its cause, and the contexts wrapped around it. -/
inductive Failure
  | cause (text : String)
  | wrapped (context : String) (inner : Failure)
deriving DecidableEq

namespace Failure

/-- The failure of a cause with contexts around it, the innermost context first. -/
def of (text : String) (contexts : List String) : Failure :=
  contexts.foldl (fun inner context => wrapped context inner) (cause text)

def outermost : Failure → String
  | cause text => text
  | wrapped context _ => context

def rootCause : Failure → String
  | cause text => text
  | wrapped _ inner => inner.rootCause

def describe : Failure → String
  | cause text => text
  | wrapped context inner => context ++ ": " ++ inner.describe

end Failure

/-- What is left of an operation or a backend that broke off instead of answering. -/
inductive Crash
  | saying (text : String)
  | unreadable
deriving DecidableEq

namespace Crash

def text? : Crash → Option String
  | saying text => some text
  | unreadable => none

def describe (c : Crash) : String := c.text?.getD "panic with a non-string payload"

end Crash

/-- What an operation answers instead of a reply. -/
inductive OperationError
  | documented (error : RpcError)
  | internal (failure : Failure)
deriving DecidableEq

namespace OperationError

def describe : OperationError → String
  | documented error => error.describe
  | internal failure => "internal error: " ++ failure.describe

end OperationError

end RpcRouting
