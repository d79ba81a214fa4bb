import RpcRouting.Json.Decode
/-!
The numbers by which sessions are announced to their peers.
-/

set_option autoImplicit false
set_option relaxedAutoImplicit false

namespace RpcRouting

/-- The number of a session. -/
structure SessionId where
  value : UInt32
deriving DecidableEq, Inhabited

namespace SessionId

def text (id : SessionId) : String := toString id.value.toNat

def toJson (id : SessionId) : Json := .integer id.value.toNat

def ofJson : Json → Except DecodeError SessionId
  | .integer n =>
    if 0 ≤ n ∧ n < 0x100000000 then .ok ⟨n.toNat.toUInt32⟩ else .error (.outOfRange n .unsigned32)
  | other => .error (.wrongKind other .unsigned32)

end SessionId

end RpcRouting
