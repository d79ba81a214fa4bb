import RpcRouting.Text.Map
/-!
Errors as the protocol reports them to a peer: a message with its classification and diagnostic
entries.
-/

set_option autoImplicit false
set_option relaxedAutoImplicit false

namespace RpcRouting

inductive ErrorType
  | transport
  | rpc
  | protocol
  | application
deriving DecidableEq

inductive ErrorTag
  | inUse
  | invalidValue
  | tooBig
  | missingAttribute
  | badAttribute
  | unknownAttribute
  | missingElement
  | badElement
  | unknownElement
  | unknownNamespace
  | accessDenied
  | lockDenied
  | resourceDenied
  | rollbackFailed
  | dataExists
  | dataMissing
  | operationNotSupported
  | operationFailed
  | partialOperation
  | malformedMessage
deriving DecidableEq

inductive Severity
  | error
  | warning
deriving DecidableEq

namespace ErrorType

def text : ErrorType → String
  | transport => "transport"
  | rpc => "rpc"
  | protocol => "protocol"
  | application => "application"

def all : List ErrorType := [transport, rpc, protocol, application]

end ErrorType

namespace ErrorTag

def text : ErrorTag → String
  | inUse => "in-use"
  | invalidValue => "invalid-value"
  | tooBig => "too-big"
  | missingAttribute => "missing-attribute"
  | badAttribute => "bad-attribute"
  | unknownAttribute => "unknown-attribute"
  | missingElement => "missing-element"
  | badElement => "bad-element"
  | unknownElement => "unknown-element"
  | unknownNamespace => "unknown-namespace"
  | accessDenied => "access-denied"
  | lockDenied => "lock-denied"
  | resourceDenied => "resource-denied"
  | rollbackFailed => "rollback-failed"
  | dataExists => "data-exists"
  | dataMissing => "data-missing"
  | operationNotSupported => "operation-not-supported"
  | operationFailed => "operation-failed"
  | partialOperation => "partial-operation"
  | malformedMessage => "malformed-message"

def all : List ErrorTag :=
  [inUse, invalidValue, tooBig, missingAttribute, badAttribute, unknownAttribute, missingElement,
    badElement, unknownElement, unknownNamespace, accessDenied, lockDenied, resourceDenied,
    rollbackFailed, dataExists, dataMissing, operationNotSupported, operationFailed,
    partialOperation, malformedMessage]

end ErrorTag

namespace Severity

def text : Severity → String
  | error => "error"
  | warning => "warning"

def all : List Severity := [error, warning]

end Severity

/-- An error with its full classification; `info` holds diagnostic entries. -/
structure RpcError where
  message : String
  type : ErrorType
  tag : ErrorTag
  severity : Severity
  info : TextMap String
deriving DecidableEq

namespace RpcError

def of (message : String) (type : ErrorType) (tag : ErrorTag) (severity : Severity) : RpcError :=
  ⟨message, type, tag, severity, .empty⟩

def application (message : String) (tag : ErrorTag) : RpcError :=
  of message .application tag .error

/-- An error of an operation that failed for a reason of its own. -/
def operationFailed (message : String) : RpcError := application message .operationFailed

def withInfo (e : RpcError) (key value : String) : RpcError :=
  { e with info := e.info.insert key value }

def describe (e : RpcError) : String :=
  e.message ++ " (" ++ e.type.text ++ "/" ++ e.tag.text ++ "/" ++ e.severity.text ++ ")"

end RpcError

end RpcRouting
