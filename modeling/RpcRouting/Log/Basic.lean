import RpcRouting.Operation.Candidates
import RpcRouting.RpcError.Basic
import RpcRouting.Session.Alignment
import RpcRouting.Session.Id
/-!
The records that the router, the built-in operations, backends and the pipeline leave in a log, and
how a record is shown. A record is kept if it is at least as severe as the log's threshold.
-/

set_option autoImplicit false
set_option relaxedAutoImplicit false

namespace RpcRouting

/-- How severe a record is, the most severe level first. -/
inductive Level
  | error
  | warn
  | info
  | debug
  | trace
deriving DecidableEq

namespace Level

def place : Level → Nat
  | error => 0
  | warn => 1
  | info => 2
  | debug => 3
  | trace => 4

def text : Level → String
  | error => "ERROR"
  | warn => "WARN"
  | info => "INFO"
  | debug => "DEBUG"
  | trace => "TRACE"

/-- Whether a record of the level passes a threshold; without one nothing passes. -/
def passes (level : Level) (threshold : Option Level) : Bool :=
  threshold.any fun t => level.place ≤ t.place

end Level

/-- A record of something worth logging. How long a request took is not part of it: the span of a
request and the event at its end have a `duration_ms` that is read off a clock. -/
inductive Record
  | registryBuilt (session : SessionId) (operations : Nat)
  | forwarding (session : SessionId) (operation : String) (request : String)
  | unhandled (session : SessionId) (error : String)
  | ambiguous (session : SessionId) (conflict : Conflict) (error : String)
  | unexpected (session : SessionId) (stage : String) (detail : String)
  | memberNotClosed (error : String)
  | notReleased (session : SessionId) (error : String)
  | noSessionToClose (session : SessionId)
  | released (session : SessionId)
  | exiStarted (session : SessionId) (alignment : Alignment)
  | exiStopped (session : SessionId) (wasActive : Bool)
  | rpcBegun (rpc : String) (session : SessionId)
  | rpcOutcome (tag : Option ErrorTag)
  | rpcComplete (rpc : String) (session : SessionId) (tag : Option ErrorTag)

inductive FieldValue
  | text (value : String)
  | number (value : Nat)
  | flag (value : Bool)
deriving DecidableEq

/-- How a record appears in the log: as an event, as a span that was opened, or as fields noted on
an open span. -/
inductive RecordKind
  | event
  | span (name : String)
  | noted
deriving DecidableEq

namespace Record

def level : Record → Level
  | registryBuilt _ _ => .debug
  | forwarding _ _ _ => .debug
  | unhandled _ _ => .warn
  | ambiguous _ _ _ => .error
  | unexpected _ _ _ => .error
  | memberNotClosed _ => .warn
  | notReleased _ _ => .warn
  | noSessionToClose _ => .debug
  | released _ => .debug
  | exiStarted _ _ => .debug
  | exiStopped _ _ => .debug
  | rpcBegun _ _ => .info
  | rpcOutcome _ => .info
  | rpcComplete _ _ _ => .info

def kind : Record → RecordKind
  | rpcBegun _ _ => .span "rpc"
  | rpcOutcome _ => .noted
  | _ => .event

def outcomeField (tag : Option ErrorTag) : String × FieldValue :=
  ("outcome", .text (if tag.isSome then "error" else "ok"))

/-- The fields of a record in their order, an event's literal message first. -/
def fields : Record → List (String × FieldValue)
  | registryBuilt session operations =>
    [("message", .text "operation registry built"), ("session_id", .text session.text),
      ("operations", .number operations)]
  | forwarding session operation request =>
    [("message", .text "forwarding rpc"), ("session_id", .text session.text),
      ("operation", .text operation), ("message", .text request)]
  | unhandled session error =>
    [("message", .text "unable to handle rpc"), ("session_id", .text session.text),
      ("error", .text error)]
  | ambiguous session conflict error =>
    [("message", .text "ambiguous operation registration"), ("session_id", .text session.text),
      ("priority", .text conflict.priority.text), ("existing", .text conflict.existing),
      ("conflicting", .text conflict.conflicting), ("error", .text error)]
  | unexpected session stage detail =>
    [("message", .text stage), ("session_id", .text session.text), ("detail", .text detail)]
  | memberNotClosed error =>
    [("message", .text "failed to close operation service"), ("error", .text error)]
  | notReleased session error =>
    [("message", .text "failed to release session resources"),
      ("session_id", .text session.text), ("error", .text error)]
  | noSessionToClose session =>
    [("message", .text "close-session without a bound session"),
      ("session_id", .text session.text)]
  | released session =>
    [("message", .text "session resources released"), ("session_id", .text session.text)]
  | exiStarted session alignment =>
    [("message", .text "EXI started"), ("session_id", .text session.text),
      ("alignment", .text alignment.text)]
  | exiStopped session wasActive =>
    [("message", .text "EXI stopped"), ("session_id", .text session.text),
      ("was_active", .flag wasActive)]
  | rpcBegun rpc session =>
    [("rpc", .text rpc), ("session_id", .number session.value.toNat)]
  | rpcOutcome tag => [outcomeField tag]
  | rpcComplete rpc session tag =>
    [("message", .text "rpc complete"), ("rpc", .text rpc),
      ("session_id", .number session.value.toNat), outcomeField tag] ++
      tag.toList.map fun t => ("error_tag", .text t.text)

end Record

structure Log where
  threshold : Option Level
  records : List Record

namespace Log

def empty (threshold : Option Level) : Log := ⟨threshold, []⟩

def enabled (log : Log) (level : Level) : Bool := level.passes log.threshold

/-- The log after a record, which is kept if its level passes. -/
def emit (log : Log) (record : Record) : Log :=
  if log.enabled record.level then { log with records := log.records ++ [record] } else log

end Log

end RpcRouting
