import RpcRouting.Proofs.Steps
/-!
All that the execution of a chain does to a world is made of a few steps, down to the steps of a
release on the way: events, lines for the log, actions on sessions, and the mark of the backend. A
relation between worlds that holds across each of these holds across every execution.
-/

set_option autoImplicit false
set_option relaxedAutoImplicit false

namespace RpcRouting

def Record.isOfExecution : Record → Bool
  | memberNotClosed _ => true
  | notReleased _ _ => true
  | noSessionToClose _ => true
  | released _ => true
  | exiStarted _ _ => true
  | exiStopped _ _ => true
  | _ => false

/-- A relation between worlds that holds across the steps of executing a chain. -/
structure Executing (R : World → World → Prop) : Prop extends World.Composes R where
  record : ∀ w event, event.isChoosing = false → R w (w.record event)
  emit : ∀ w line, line.isOfExecution = true → R w (w.emit line)
  act : ∀ w session action, R w (w.act session action)
  mark : ∀ w counted, R w (w.mark counted)

namespace Executing

variable {host : Host} {R : World → World → Prop} (executing : Executing R)

include executing

theorem note {event : Event} (other : event.isChoosing = false) : (Run.note event).Leads R :=
  fun w => executing.record w event other

theorem log {line : Record} (own : line.isOfExecution = true) : (Run.log line).Leads R :=
  fun w => executing.emit w line own

theorem noteEnd {α : Type} {x : Run α} {event : Except Crash α → Event} (first : x.Leads R)
    (other : ∀ ended, (event ended).isChoosing = false) : (Run.noteEnd event x).Leads R :=
  executing.toComposes.noteEnd first fun w ended => executing.record w _ (other ended)

theorem consult (operation : Operation) (action : Option SessionAction) :
    (Run.consult operation action).Leads R := by
  refine executing.bind (executing.seenBy operation) fun seen => ?_
  refine executing.bind (executing.note rfl) fun _ => ?_
  cases seen with
  | none => exact executing.pure none
  | some session =>
    cases action with
    | none => exact executing.pure (some session)
    | some action =>
      have acted : (Run.act session.key action).Leads R :=
        fun w => executing.act w session.key action
      exact executing.bind acted fun _ => executing.pure (some session)

section Release

variable {catalogue : Catalogue} {again : Run (Except Failure Unit)}

private theorem closingRun (asked : again.Leads R) (leaf : LeafKey) (closing : Closing) :
    (closing.run leaf again).Leads R := by
  induction closing with
  | finish outcome => exact executing.pure outcome
  | crash left => exact executing.throw left
  | reenter resume ih =>
    refine executing.bind asked fun outcome => executing.bind executing.get fun w => ?_
    exact executing.bind (executing.note rfl) fun _ => ih outcome w.released

private theorem closeLeaf (asked : again.Leads R) (leaf : LeafKey) :
    (Backend.closeLeaf catalogue again leaf).Leads R := by
  refine executing.bind executing.get fun w => executing.bind (executing.note rfl) fun _ => ?_
  exact executing.noteEnd (executing.closingRun asked leaf _) fun _ => rfl

private theorem failureOf (outcome : Except Failure Unit) :
    (Backend.failureOf outcome).Leads R := by
  cases outcome with
  | ok success => exact executing.pure []
  | error failure => exact executing.bind (executing.log rfl) fun _ => executing.pure [failure]

mutual

private theorem close (asked : again.Leads R) : (backend : Backend) →
    (Backend.close catalogue again backend).Leads R
  | .leaf key => executing.closeLeaf asked key
  | .aggregate members => executing.bind (closeAll asked members) fun _ => executing.pure _

private theorem closeAll (asked : again.Leads R) : (members : List Backend) →
    (Backend.closeAll catalogue again members).Leads R
  | [] => executing.pure []
  | member :: rest => by
    refine executing.bind (close asked member) fun outcome => ?_
    refine executing.bind (executing.failureOf outcome) fun failed => ?_
    exact executing.bind (closeAll asked rest) fun _ => executing.pure _

end

end Release

private theorem releaseWithin (depth : Nat) : (host.releaseWithin depth).Leads R := by
  induction depth with
  | zero =>
    refine executing.bind executing.get fun w => ?_
    cases w.released <;> exact executing.pure _
  | succ depth ih =>
    have mark : ∀ counted, (modify (·.mark counted) : Run Unit).Leads R :=
      fun counted w => executing.mark w counted
    have closed : (host.backend.close host.catalogue (host.releaseWithin depth)).Leads R :=
      executing.close ih host.backend
    refine executing.bind executing.get fun w => ?_
    cases w.released with
    | true => exact executing.pure _
    | false =>
      refine executing.bind (mark true) fun _ => ?_
      refine executing.bind (executing.note rfl) fun _ => ?_
      refine executing.bind (executing.noteEnd closed fun _ => rfl) fun outcome => ?_
      cases outcome with
      | ok success => exact executing.pure _
      | error failure => exact executing.bind (mark false) fun _ => executing.pure _

theorem release : host.release.Leads R := by
  refine executing.bind (executing.releaseWithin 1) fun outcome => ?_
  refine executing.bind executing.get fun w => ?_
  exact executing.bind (executing.note rfl) fun _ => executing.pure outcome

theorem builtin (request : Document) (b : Builtin) : (b.handle host request).Leads R := by
  cases b with
  | closeSession =>
    refine executing.bind executing.release fun outcome => ?_
    cases outcome with
    | error failure =>
      exact executing.bind (executing.log rfl) fun _ => executing.pure _
    | ok success =>
      refine executing.bind (executing.consult _ _) fun seen => ?_
      have released : (Run.log (.released host.sessionId)).Leads R := executing.log rfl
      have ended := executing.bind released fun _ =>
        executing.pure (Except.ok request.okReply : Except OperationError Document)
      cases seen with
      | none => exact executing.bind (executing.log rfl) fun _ => ended
      | some session => exact ended
  | startExi =>
    refine executing.bind (executing.consult _ none) fun seen => ?_
    cases seen with
    | none => exact executing.pure _
    | some session =>
      cases Builtin.exiParameters request with
      | error error => exact executing.pure _
      | ok parameters =>
        refine executing.bind (executing.consult _ _) fun _ => ?_
        exact executing.bind (executing.log rfl) fun _ => executing.pure _
  | stopExi =>
    refine executing.bind (executing.consult _ _) fun seen => ?_
    cases seen with
    | none => exact executing.pure _
    | some session =>
      exact executing.bind (executing.log rfl) fun _ => executing.pure _

theorem run (operation : Operation) (rest : List Operation) {proceed : Document → Run Outcome}
    (onward : ∀ request, (proceed request).Leads R) (handling : Handling) :
    (handling.run operation rest proceed).Leads R := by
  induction handling with
  | finish outcome => exact executing.pure outcome
  | crash left => exact executing.throw left
  | delegate request resume ih =>
    refine executing.bind (executing.note rfl) fun _ => ?_
    refine executing.bind (onward request) fun outcome => ?_
    exact executing.bind (executing.note rfl) fun _ => ih outcome
  | inspect resume ih => exact executing.bind (executing.note rfl) fun _ => ih rest
  | consult action resume ih => exact executing.bind (executing.consult operation action) ih

theorem handle (rest : List Operation) {proceed : Document → Run Outcome}
    (onward : ∀ request, (proceed request).Leads R) (request : Document) (operation : Operation) :
    (operation.handle host rest proceed request).Leads R := by
  refine executing.bind executing.get fun w => ?_
  refine executing.bind (executing.note rfl) fun _ => ?_
  refine executing.noteEnd ?_ fun _ => rfl
  cases operation with
  | builtin b => exact executing.builtin request b
  | contributed key => exact executing.run _ rest onward _

theorem execute (chain : Chain) (request : Document) : (chain.execute host request).Leads R := by
  induction chain generalizing request with
  | terminus => exact executing.pure _
  | link operation rest ih =>
    exact executing.bind (executing.handle rest.operations ih request operation) fun _ =>
      executing.pure _

end Executing

/-- From the choice of a request's chain to the end of its first operation, after which no more is
done than to log the failure that is left to the router. -/
theorem Router.exists_unreported {R : World → World → Prop} (executing : Executing R) (r : Router)
    (request : Document) (session : SessionKey) (w : World)
    (announced : ∀ v chain, R v (r.announced request session chain v)) :
    ∃ v, R ((r.select request session).run w).2 v ∧ ((r.route request session).run w).2 =
      (r.left? request session w).elim v fun e => v.emit (e.toRecord session.id) := by
  cases chosen : ((r.select request session).run w).1 with
  | error e =>
    refine ⟨_, executing.refl _, ?_⟩
    rw [left?_of_rejected chosen, route_of_rejected (Prod.ext chosen rfl)]
    rfl
  | ok chain =>
    obtain ⟨head, rest, rfl⟩ := exists_link_of_chosen chosen
    have onward : ∀ request, (rest.execute r.host request).Leads R := executing.execute rest
    refine ⟨(r.handled request session w head rest).2, ?_, ?_⟩
    · exact executing.trans (announced _ _) (executing.handle rest.operations onward request head _)
    · rw [left?_of_chosen chosen, route_of_chain_eq chosen]

end RpcRouting
