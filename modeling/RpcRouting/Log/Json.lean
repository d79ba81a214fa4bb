import RpcRouting.Json.Basic
import RpcRouting.Log.Basic
/-!
Log records as JSON: an event with its level, a span that was opened, or fields noted on a span.
-/

set_option autoImplicit false
set_option relaxedAutoImplicit false

namespace RpcRouting

def FieldValue.toJson : FieldValue → Json
  | text value => .text value
  | number value => .integer value
  | flag value => .boolean value

/-- A record as JSON; its fields are pairs, since a name may occur twice. -/
def Record.toJson (r : Record) : Json :=
  let fields := Json.array (r.fields.map fun f => .array [.text f.1, f.2.toJson])
  match r.kind with
  | .event => .object [("event", .text r.level.text), ("fields", fields)]
  | .span name => .object [("span", .text name), ("level", .text r.level.text), ("fields", fields)]
  | .noted => .object [("record", fields)]

end RpcRouting
