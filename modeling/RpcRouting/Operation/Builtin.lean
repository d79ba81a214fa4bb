import RpcRouting.Host
/-!
What the built-in operations do with a request. They act on the session that they are bound to, and
never pass a request on.
-/

set_option autoImplicit false
set_option relaxedAutoImplicit false

namespace RpcRouting

namespace Builtin

def noSession (b : Builtin) : OperationError :=
  .documented (.operationFailed ("No session bound to " ++ b.requestName))

def alignmentName : String := "alignment"

def exiParameters (request : Document) : Except OperationError ExiParameters :=
  match request.operation?.bind (·.childText? alignmentName) with
  | none => .ok default
  | some value =>
    match Alignment.ofText? value with
    | some alignment => .ok ⟨alignment⟩
    | none =>
      .error (.documented ((RpcError.application ("Unsupported EXI alignment '" ++ value ++ "'")
        .invalidValue).withInfo "bad-element" alignmentName))

def notReleased (host : Host) (failure : Failure) : OperationError :=
  .documented ((RpcError.operationFailed
    ("Unable to properly close session " ++ host.sessionId.text)).withInfo "error"
      failure.describe)

/-- Releases the session's backend and asks for the end of the session that is seen. -/
def handleCloseSession (host : Host) (request : Document) :
    Run (Except OperationError Document) := do
  match ← host.release with
  | .error failure =>
    Run.log (.notReleased host.sessionId failure.outermost)
    return .error (notReleased host failure)
  | .ok () =>
    let seen ← Run.consult (.builtin closeSession) (some .requestClose)
    if seen.isNone then Run.log (.noSessionToClose host.sessionId)
    Run.log (.released host.sessionId)
    return .ok request.okReply

def handleStartExi (request : Document) : Run (Except OperationError Document) := do
  match ← Run.consult (.builtin startExi) none with
  | none => return .error startExi.noSession
  | some session =>
    match exiParameters request with
    | .error error => return .error error
    | .ok parameters =>
      let _ ← Run.consult (.builtin startExi) (some (.startExi parameters))
      Run.log (.exiStarted session.key.id parameters.alignment)
      return .ok request.okReply

def handleStopExi (request : Document) : Run (Except OperationError Document) := do
  match ← Run.consult (.builtin stopExi) (some .stopExi) with
  | none => return .error stopExi.noSession
  | some session =>
    Run.log (.exiStopped session.key.id session.state.exi.isSome)
    return .ok request.okReply

/-- Handles a request without passing it on. -/
def handle (host : Host) (request : Document) : Builtin → Run (Except OperationError Document)
  | closeSession => handleCloseSession host request
  | startExi => handleStartExi request
  | stopExi => handleStopExi request

end Builtin

end RpcRouting
