import RpcRouting.Operation.Basic
/-!
Chains of operations. Each operation may pass a request on to the rest of its chain; a chain ends
in a terminus, where nothing answers.
-/

set_option autoImplicit false
set_option relaxedAutoImplicit false

namespace RpcRouting

/-- What is left to try for a request, the next operation first. -/
inductive Chain
  | terminus
  | link (operation : Operation) (rest : Chain)
deriving DecidableEq

namespace Chain

def ofList : List Operation → Chain
  | [] => terminus
  | operation :: rest => link operation (ofList rest)

def operations : Chain → List Operation
  | terminus => []
  | link operation rest => operation :: rest.operations

def head? : Chain → Option Operation
  | terminus => none
  | link operation _ => some operation

def isTerminus (c : Chain) : Bool := c.head?.isNone

def prepend (operation : Operation) (c : Chain) : Nat → Chain
  | 0 => c
  | count + 1 => prepend operation (link operation c) count

@[simp] theorem operations_ofList (operations : List Operation) :
    (ofList operations).operations = operations := by
  induction operations with
  | nil => rfl
  | cons operation rest ih => simp [ofList, Chain.operations, ih]

end Chain

end RpcRouting
