import RpcRouting.Element.Json
import RpcRouting.RpcError.Basic
/-!
Errors as JSON: a record whose empty diagnostic entries are left out, and its reader.
-/

set_option autoImplicit false
set_option relaxedAutoImplicit false

namespace RpcRouting

def ErrorType.ofJson : Json → Except DecodeError ErrorType :=
  Json.asVariant (all.map fun t => (t.text, t))

def ErrorTag.ofJson : Json → Except DecodeError ErrorTag :=
  Json.asVariant (all.map fun t => (t.text, t))

def Severity.ofJson : Json → Except DecodeError Severity :=
  Json.asVariant (all.map fun s => (s.text, s))

namespace RpcError

def toJson (e : RpcError) : Json :=
  .object ([("message", .text e.message), ("error_type", .text e.type.text),
    ("error_tag", .text e.tag.text), ("severity", .text e.severity.text)] ++
      e.info.toField "info")

def recordName : String := "DocumentedError"

def ofJson : Json → Except DecodeError RpcError
  | .object fields => do
    let tag ← Json.fieldWith? fields "error_tag" ErrorTag.ofJson
    let type ← Json.fieldWith? fields "error_type" ErrorType.ofJson
    let info ← Json.fieldWith? fields "info" Json.asTexts
    let message ← Json.fieldWith? fields "message" Json.asText
    let severity ← Json.fieldWith? fields "severity" Severity.ofJson
    let message ← Json.require "message" message
    let type ← Json.require "error_type" type
    let tag ← Json.require "error_tag" tag
    let severity ← Json.require "severity" severity
    return ⟨message, type, tag, severity, info.getD .empty⟩
  | .array [] => .error (.tooShort 0 recordName 5)
  | .array [message] => do
    let _ ← message.asText
    .error (.tooShort 1 recordName 5)
  | .array [message, type] => do
    let _ ← message.asText
    let _ ← ErrorType.ofJson type
    .error (.tooShort 2 recordName 5)
  | .array [message, type, tag] => do
    let _ ← message.asText
    let _ ← ErrorType.ofJson type
    let _ ← ErrorTag.ofJson tag
    .error (.tooShort 3 recordName 5)
  | .array [message, type, tag, severity] => do
    return ⟨← message.asText, ← ErrorType.ofJson type, ← ErrorTag.ofJson tag,
      ← Severity.ofJson severity, .empty⟩
  | .array (message :: type :: tag :: severity :: info :: rest) => do
    let e : RpcError := ⟨← message.asText, ← ErrorType.ofJson type, ← ErrorTag.ofJson tag,
      ← Severity.ofJson severity, ← info.asTexts⟩
    Json.nothingLeft (5 + rest.length) rest
    return e
  | other => .error (.wrongKind other (.record recordName))

end RpcError

end RpcRouting
