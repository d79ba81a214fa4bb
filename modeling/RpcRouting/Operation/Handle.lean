import RpcRouting.Operation.Builtin
/-!
How operations handle requests, and how a request travels along a chain.
-/

set_option autoImplicit false
set_option relaxedAutoImplicit false

namespace RpcRouting

/-- Runs the steps by which an operation handles a request. `proceed` is the run of the rest of
the chain, whose operations are `rest`. -/
def Handling.run (operation : Operation) (rest : List Operation)
    (proceed : Document → Run Outcome) : Handling → Run (Except OperationError Document)
  | finish outcome => return outcome
  | .crash c => throw c
  | delegate request resume => do
    Run.note (.delegating operation request)
    let outcome ← proceed request
    Run.note (.delegated operation outcome)
    run operation rest proceed (resume outcome)
  | inspect resume => do
    Run.note (.inspected operation rest)
    run operation rest proceed (resume rest)
  | consult action resume => do
    let seen ← Run.consult operation action
    run operation rest proceed (resume seen)

def Operation.handle (host : Host) (rest : List Operation) (proceed : Document → Run Outcome)
    (request : Document) (operation : Operation) : Run (Except OperationError Document) := do
  let w ← get
  Run.note (.handling operation request (w.seenBy operation))
  Run.noteEnd (.handled operation) <|
    match operation with
    | builtin b => b.handle host request
    | contributed key =>
      ((host.catalogue.operation key).handle (w.journal.of operation) request).run operation rest
        proceed

/-- Gives a request to the next operation of a chain; the terminus answers nothing. -/
def Chain.execute (host : Host) : Chain → Document → Run Outcome
  | terminus, _ => return .ok none
  | link operation rest, request => do
    let outcome ← operation.handle host rest.operations (execute host rest) request
    return outcome.map some

end RpcRouting
