import RpcRouting.Backend.Release
/-!
The host of one session's operations, through which the session's backend is released.

The backend counts as released from the beginning of its release, so that a backend that asks its
owner again meanwhile finds nothing left to do. After a failure it counts as unreleased again, and
the next release reaches it.
-/

set_option autoImplicit false
set_option relaxedAutoImplicit false

namespace RpcRouting

/-- What the operations of one session run against. -/
structure Host where
  catalogue : Catalogue
  sessionId : SessionId
  backend : Backend

namespace Host

/-- Releases the backend unless it counts as released. Releases nest `depth` times at most; as the
backend counts as released while it is being released, one level is all that is ever reached. -/
def releaseWithin (host : Host) : Nat → Run (Except Failure Unit)
  | 0 => do
    if (← get).released then return .ok ()
    return .error (.cause "releases are nested too deeply")
  | depth + 1 => do
    if (← get).released then return .ok ()
    modify (·.mark true)
    Run.note .releasing
    let outcome ← Run.noteEnd .released
      (host.backend.close host.catalogue (releaseWithin host depth))
    if let .error _ := outcome then modify (·.mark false)
    return outcome

def release (host : Host) : Run (Except Failure Unit) := do
  let outcome ← host.releaseWithin 1
  Run.note (.answered outcome (← get).released)
  return outcome

end Host

end RpcRouting
