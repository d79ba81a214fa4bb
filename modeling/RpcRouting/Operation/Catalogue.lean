import RpcRouting.Event
/-!
What contributed operations and single backends do. An operation may remember what it has been
through: its answers are functions of its own earlier events.
-/

set_option autoImplicit false
set_option relaxedAutoImplicit false

namespace RpcRouting

/-- How an operation handles a request, step by step. It answers or breaks off in the end; before
that it may pass documents on to the rest of its chain and go on with the answers, look at the rest
of the chain, and look for its bound session to act on it. -/
inductive Handling
  | finish (outcome : Except OperationError Document)
  | crash (left : Crash)
  | delegate (request : Document) (resume : Outcome → Handling)
  | inspect (resume : List Operation → Handling)
  | consult (action : Option SessionAction) (resume : Option Session → Handling)

/-- A contributed operation. The types of its parts are the contract that it keeps:

* `name` and `requiresSession` are constants that every caller reads alike.
* `bind` says whether the operation crashes over a session that it is given, and nothing else. If it
  does not, it is bound to that session from then on. What it was bound to before has no part in it.
* `rank` sees the bound session if that is alive, and acts on no session. `bind` does neither.
* Operations share no state. Each part answers by its arguments and by the events of this operation
  so far.
* Of a chain, an operation calls only the rest that it is given, as a whole, by `Handling.delegate`.
  `Handling.inspect` shows which operations are left, and calls none of them. -/
structure Contribution where
  name : String
  requiresSession : Bool
  bind : Journal → SessionKey → Option Crash
  rank : Journal → Document → Option Session → Except Crash Priority
  handle : Journal → Document → Handling

/-- The operation that can handle no request. -/
def Contribution.idle : Contribution where
  name := ""
  requiresSession := false
  bind _ _ := none
  rank _ _ _ := .ok .cannotHandle
  handle _ _ := .finish (.error (.internal (.cause "unused")))

/-- All contributed operations and single backends, by their identities. -/
structure Catalogue where
  operation : OperationKey → Contribution
  leaf : LeafKey → Leaf

end RpcRouting
