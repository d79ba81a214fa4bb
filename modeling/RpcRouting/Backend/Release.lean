import RpcRouting.World
/-!
Releasing backends. A single backend goes through the steps of its next release; an aggregate
releases all its members, whatever becomes of the others, and logs each failure.
-/

set_option autoImplicit false
set_option relaxedAutoImplicit false

namespace RpcRouting

/-- Runs one release of a single backend. `again` is what its owner does when it is asked to
release the backend meanwhile. -/
def Closing.run (leaf : LeafKey) (again : Run (Except Failure Unit)) :
    Closing → Run (Except Failure Unit)
  | finish outcome => return outcome
  | .crash c => throw c
  | reenter resume => do
    let outcome ← again
    let released := (← get).released
    Run.note (.reentered leaf outcome released)
    run leaf again (resume outcome released)

namespace Backend

def closeLeaf (catalogue : Catalogue) (again : Run (Except Failure Unit)) (leaf : LeafKey) :
    Run (Except Failure Unit) := do
  let attempt := (← get).journal.closings leaf + 1
  Run.note (.closing leaf attempt)
  Run.noteEnd (.closed leaf) (((catalogue.leaf leaf).close attempt).run leaf again)

def failureOf : Except Failure Unit → Run (List Failure)
  | .ok () => return []
  | .error failure => do
    Run.log (.memberNotClosed failure.outermost)
    return [failure]

mutual

/-- Releases a backend. -/
def close (catalogue : Catalogue) (again : Run (Except Failure Unit)) :
    Backend → Run (Except Failure Unit)
  | leaf key => closeLeaf catalogue again key
  | aggregate members => return Failure.combine (← closeAll catalogue again members)

def closeAll (catalogue : Catalogue) (again : Run (Except Failure Unit)) :
    List Backend → Run (List Failure)
  | [] => return []
  | member :: rest => do
    let outcome ← close catalogue again member
    let failed ← failureOf outcome
    return failed ++ (← closeAll catalogue again rest)

end

end Backend

end RpcRouting
