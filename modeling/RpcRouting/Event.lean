import RpcRouting.Backend.Basic
import RpcRouting.Session.Store
/-!
What happens between a router, its operations and its backends, as a sequence of events.
-/

set_option autoImplicit false
set_option relaxedAutoImplicit false

namespace RpcRouting

/-- What the rest of a chain answers: a reply or nothing, or an error. -/
abbrev Outcome := Except OperationError (Option Document)

/-- One thing that happened. The attempts to release a single backend count from 1, and the flag of
`answered` is whether the backend counted as released when its caller was answered. -/
inductive Event
  | bound (operation : Operation) (session : SessionKey) (crash : Option Crash)
  | probed (operation : Operation) (request : Document) (seen : Option Session)
      (answer : Except Crash Priority)
  | handling (operation : Operation) (request : Document) (seen : Option Session)
  | handled (operation : Operation) (ended : Except Crash (Except OperationError Document))
  | delegating (operation : Operation) (request : Document)
  | delegated (operation : Operation) (outcome : Outcome)
  | inspected (operation : Operation) (rest : List Operation)
  | consulted (operation : Operation) (seen : Option Session) (action : Option SessionAction)
  | closing (leaf : LeafKey) (attempt : Nat)
  | closed (leaf : LeafKey) (ended : Except Crash (Except Failure Unit))
  | reentered (leaf : LeafKey) (outcome : Except Failure Unit) (released : Bool)
  | releasing
  | released (ended : Except Crash (Except Failure Unit))
  | answered (outcome : Except Failure Unit) (released : Bool)

namespace Event

def operation? : Event → Option Operation
  | bound operation _ _ => some operation
  | probed operation _ _ _ => some operation
  | handling operation _ _ => some operation
  | handled operation _ => some operation
  | delegating operation _ => some operation
  | delegated operation _ => some operation
  | inspected operation _ => some operation
  | consulted operation _ _ => some operation
  | closing _ _ => none
  | closed _ _ => none
  | reentered _ _ _ => none
  | releasing => none
  | released _ => none
  | answered _ _ => none

def isClosingOf (leaf : LeafKey) : Event → Bool
  | closing key _ => key = leaf
  | _ => false

def isProbe : Event → Bool
  | probed _ _ _ _ => true
  | _ => false

end Event

/-- The events so far, oldest first. -/
abbrev Journal := List Event

namespace Journal

/-- What one operation has been through. -/
def of (journal : Journal) (operation : Operation) : Journal :=
  journal.filter fun e => e.operation? = some operation

def closings (journal : Journal) (leaf : LeafKey) : Nat := journal.countP (·.isClosingOf leaf)

theorem of_append (journal events : Journal) (operation : Operation) :
    of (journal ++ events) operation = journal.of operation ++ of events operation :=
  List.filter_append ..

theorem closings_append (journal events : Journal) (leaf : LeafKey) :
    closings (journal ++ events) leaf = journal.closings leaf + closings events leaf :=
  List.countP_append ..

end Journal

end RpcRouting
