import RpcRouting.Operation.Handle
import RpcRouting.Operation.Probe
/-!
The operations available to one session: the built-in ones and those that its backend contributes,
each of them once.
-/

set_option autoImplicit false
set_option relaxedAutoImplicit false

namespace RpcRouting

/-- The operations of one session, in the order in which they are asked for their ranks. -/
structure Registry where
  host : Host
  operations : List Operation

namespace Registry

/-- The registry of a host: the built-in operations, then the contributed ones in order, without
an operation that stands further in front. -/
def ofHost (host : Host) : Registry :=
  ⟨host, (Builtin.all.map Operation.builtin ++
    (host.backend.operations host.catalogue.leaf).map Operation.contributed).eraseDups⟩

def names (r : Registry) : List String := r.operations.map (·.name r.host)

def size (r : Registry) : Nat := r.operations.length

def isEmpty (r : Registry) : Bool := r.operations.isEmpty

def build (host : Host) : StateM World Registry := do
  let r := ofHost host
  modify (·.emit (.registryBuilt host.sessionId r.size))
  return r

/-- Releases the session's backend unless it counts as released. -/
def close (r : Registry) : Run (Except Failure Unit) := r.host.release

end Registry

end RpcRouting
