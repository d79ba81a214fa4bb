import RpcRouting.Failure
import RpcRouting.Operation.Basic
/-!
Backends: sources of operations that are released when their session ends. Several backends may be
presented as one.
-/

set_option autoImplicit false
set_option relaxedAutoImplicit false

namespace RpcRouting

structure LeafKey where
  value : Nat
deriving DecidableEq

/-- A backend: a single one, or several presented as one. -/
inductive Backend
  | leaf (key : LeafKey)
  | aggregate (members : List Backend)

/-- How one release of a single backend goes. On the way it may ask its owner to release it, and
goes on with the answer and with whether the owner then counts as released. -/
inductive Closing
  | finish (outcome : Except Failure Unit)
  | crash (left : Crash)
  | reenter (resume : Except Failure Unit → Bool → Closing)

structure Leaf where
  operations : List OperationKey
  /-- How its n-th release goes, counted from 1. -/
  close : Nat → Closing

namespace Backend

mutual

def leaves : Backend → List LeafKey
  | leaf key => [key]
  | aggregate members => leavesOfAll members

def leavesOfAll : List Backend → List LeafKey
  | [] => []
  | member :: rest => leaves member ++ leavesOfAll rest

end

def operations (b : Backend) (leafOf : LeafKey → Leaf) : List OperationKey :=
  b.leaves.flatMap fun key => (leafOf key).operations

def members : Backend → List Backend
  | leaf _ => []
  | aggregate members => members

def push (b member : Backend) : Backend := aggregate (b.members ++ [member])

end Backend

/-- What remains of the failures of several releases: nothing, the only one, or the first one with
the number of all in a context around it. -/
def Failure.combine : List Failure → Except Failure Unit
  | [] => .ok ()
  | [failure] => .error failure
  | failure :: rest =>
    .error (failure.wrapped (toString (rest.length + 1) ++ " operation services failed to close"))

theorem Failure.combine_eq_ok_iff {failures : List Failure} :
    combine failures = .ok () ↔ failures = [] := by
  cases failures with
  | nil => simp [combine]
  | cons failure rest => cases rest <;> simp [combine]

end RpcRouting
