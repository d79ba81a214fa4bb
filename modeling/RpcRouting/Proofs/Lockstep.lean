import RpcRouting.Operation.Handle
import RpcRouting.Proofs.Run
/-!
One run in two worlds. If two worlds are related in a way that hides from the operations and the
backend of a host how they differ, and that every step keeps which is taken in both, then everything
that operations and backends do ends alike in both and leaves them related.
-/

set_option autoImplicit false
set_option relaxedAutoImplicit false

namespace RpcRouting

variable {α β : Type}

/-- An operation behaves alike after two histories. -/
structure Contribution.BehavesAlike (c : Contribution) (past past' : Journal) : Prop where
  bind : ∀ session, c.bind past' session = c.bind past session
  rank : ∀ request seen, c.rank past' request seen = c.rank past request seen
  handle : ∀ request, c.handle past' request = c.handle past request

theorem Contribution.BehavesAlike.of_eq (c : Contribution) {past past' : Journal}
    (same : past' = past) : c.BehavesAlike past past' := by
  subst same
  exact ⟨fun _ => rfl, fun _ _ => rfl, fun _ => rfl⟩

/-- The operations and the backend of a host see no difference between related worlds, and the
worlds stay related when both take the same step. -/
structure Lockstep (host : Host) (R : World → World → Prop) : Prop where
  released : ∀ {w w'}, R w w' → w'.released = w.released
  seen : ∀ {w w'} operation, R w w' → w'.seenBy operation = w.seenBy operation
  history : ∀ {w w'} key, R w w' → (host.catalogue.operation key).BehavesAlike
    (w.journal.of (.contributed key)) (w'.journal.of (.contributed key))
  closings : ∀ {w w'} leaf, R w w' → w'.journal.closings leaf = w.journal.closings leaf
  record : ∀ {w w'} event, R w w' → R (w.record event) (w'.record event)
  emit : ∀ {w w'} line, R w w' → R (w.emit line) (w'.emit line)
  bind : ∀ {w w'} operation session, R w w' →
    R (w.bind operation session) (w'.bind operation session)
  act : ∀ {w w'} session action, R w w' → R (w.act session action) (w'.act session action)
  mark : ∀ {w w'} counted, R w w' → R (w.mark counted) (w'.mark counted)

namespace Run

/-- In related worlds the run ends in the same way, and leaves related worlds. -/
def Matches (R : World → World → Prop) (x : Run α) : Prop :=
  ∀ w w', R w w' → (x.on w').1 = (x.on w).1 ∧ R (x.on w).2 (x.on w').2

variable {R : World → World → Prop}

theorem Matches.pure (a : α) : Matches R (Pure.pure a : Run α) := fun _ _ related => ⟨rfl, related⟩

theorem Matches.throw (left : Crash) : Matches R (MonadExceptOf.throw left : Run α) :=
  fun _ _ related => ⟨rfl, related⟩

theorem Matches.bind {x : Run α} {f : α → Run β} (first : x.Matches R)
    (next : ∀ a, (f a).Matches R) : (x >>= f).Matches R := by
  intro w w' related
  obtain ⟨same, after⟩ := first w w' related
  cases run : x.on w with
  | mk ended v =>
    cases run' : x.on w' with
    | mk ended' v' =>
      rw [run, run'] at same after
      cases same
      cases ended with
      | error left =>
        rw [on_bind_of_error run, on_bind_of_error run']
        exact ⟨rfl, after⟩
      | ok a =>
        rw [on_bind_of_ok run, on_bind_of_ok run']
        exact next a v v' after

theorem Matches.read {f : World → Run β} (common : ∀ w w', R w w' → f w' = f w)
    (next : ∀ w, (f w).Matches R) : Matches R (get >>= f) := by
  intro w w' related
  rw [on_bind_of_ok on_get, on_bind_of_ok on_get, common w w' related]
  exact next w w w' related

theorem Matches.noteEnd {host : Host} {x : Run α} {event : Except Crash α → Event}
    (lockstep : Lockstep host R)
    (first : x.Matches R) : (Run.noteEnd event x).Matches R := by
  intro w w' related
  obtain ⟨same, after⟩ := first w w' related
  rw [on_noteEnd, on_noteEnd, same]
  exact ⟨rfl, lockstep.record _ after⟩

end Run

namespace Lockstep

open Run (Matches)

variable {host : Host} {R : World → World → Prop} (lockstep : Lockstep host R)

include lockstep

theorem note (event : Event) : (Run.note event).Matches R :=
  fun _ _ related => ⟨rfl, lockstep.record event related⟩

theorem log (line : Record) : (Run.log line).Matches R :=
  fun _ _ related => ⟨rfl, lockstep.emit line related⟩

theorem modifyMark (counted : Bool) : (modify (·.mark counted) : Run Unit).Matches R :=
  fun _ _ related => ⟨rfl, lockstep.mark counted related⟩

theorem consult (operation : Operation) (action : Option SessionAction) :
    (Run.consult operation action).Matches R := by
  have look : (Run.seenBy operation).Matches R :=
    .read (fun _ _ related => congrArg pure (lockstep.seen operation related)) fun _ => .pure _
  refine look.bind fun seen => (lockstep.note _).bind fun _ => ?_
  cases seen with
  | none => exact .pure none
  | some session =>
    cases action with
    | none => exact .pure (some session)
    | some action =>
      have acted : (Run.act session.key action).Matches R :=
        fun _ _ related => ⟨rfl, lockstep.act session.key action related⟩
      exact acted.bind fun _ => .pure (some session)

section Release

variable {again : Run (Except Failure Unit)}

private theorem closingRun (leaf : LeafKey) (asked : again.Matches R) (closing : Closing) :
    (closing.run leaf again).Matches R := by
  induction closing with
  | finish outcome => exact .pure outcome
  | crash left => exact .throw left
  | reenter resume ih =>
    refine asked.bind fun outcome => ?_
    refine .read (fun _ _ related => by rw [lockstep.released related]) fun w => ?_
    exact (lockstep.note _).bind fun _ => ih outcome w.released

private theorem closeLeaf (asked : again.Matches R) (leaf : LeafKey) :
    (Backend.closeLeaf host.catalogue again leaf).Matches R := by
  refine .read (fun _ _ related => by rw [lockstep.closings leaf related]) fun w => ?_
  exact (lockstep.note _).bind fun _ => .noteEnd lockstep (lockstep.closingRun leaf asked _)

private theorem failureOf (outcome : Except Failure Unit) :
    (Backend.failureOf outcome).Matches R := by
  cases outcome with
  | ok success => exact .pure []
  | error failure => exact (lockstep.log _).bind fun _ => .pure [failure]

mutual

private theorem close (asked : again.Matches R) : (backend : Backend) →
    (Backend.close host.catalogue again backend).Matches R
  | .leaf key => lockstep.closeLeaf asked key
  | .aggregate members => (closeAll asked members).bind fun _ => .pure _

private theorem closeAll (asked : again.Matches R) : (members : List Backend) →
    (Backend.closeAll host.catalogue again members).Matches R
  | [] => .pure []
  | member :: rest => by
    refine (close asked member).bind fun outcome => ?_
    refine (lockstep.failureOf outcome).bind fun failed => ?_
    exact (closeAll asked rest).bind fun _ => .pure _

end

end Release

private theorem releaseWithin (depth : Nat) : (host.releaseWithin depth).Matches R := by
  -- On the depth: a leaf that is closed may ask for the release again, one level further in.
  induction depth with
  | zero =>
    refine .read (fun _ _ related => by rw [lockstep.released related]) fun w => ?_
    cases w.released <;> exact .pure _
  | succ depth ih =>
    refine .read (fun _ _ related => by rw [lockstep.released related]) fun w => ?_
    cases w.released with
    | true => exact .pure _
    | false =>
      refine (lockstep.modifyMark true).bind fun _ => ?_
      refine (lockstep.note .releasing).bind fun _ => ?_
      refine (Matches.noteEnd lockstep (lockstep.close ih host.backend)).bind fun outcome => ?_
      cases outcome with
      | ok success => exact .pure _
      | error failure => exact (lockstep.modifyMark false).bind fun _ => .pure _

theorem release : host.release.Matches R := by
  refine (lockstep.releaseWithin 1).bind fun outcome => ?_
  refine .read (fun _ _ related => by rw [lockstep.released related]) fun w => ?_
  exact (lockstep.note _).bind fun _ => .pure outcome

private theorem handleBuiltin (request : Document) (b : Builtin) :
    (b.handle host request).Matches R := by
  cases b with
  | closeSession =>
    refine lockstep.release.bind fun outcome => ?_
    cases outcome with
    | error failure => exact (lockstep.log _).bind fun _ => .pure _
    | ok success =>
      refine (lockstep.consult _ _).bind fun seen => ?_
      cases seen with
      | none => exact (lockstep.log _).bind fun _ => (lockstep.log _).bind fun _ => .pure _
      | some session => exact (lockstep.log _).bind fun _ => .pure _
  | startExi =>
    refine (lockstep.consult _ _).bind fun seen => ?_
    cases seen with
    | none => exact .pure _
    | some session =>
      cases Builtin.exiParameters request with
      | error error => exact .pure _
      | ok parameters =>
        exact (lockstep.consult _ _).bind fun _ => (lockstep.log _).bind fun _ => .pure _
  | stopExi =>
    refine (lockstep.consult _ _).bind fun seen => ?_
    cases seen with
    | none => exact .pure _
    | some session => exact (lockstep.log _).bind fun _ => .pure _

private theorem runHandling (operation : Operation) (rest : List Operation)
    {proceed : Document → Run Outcome} (onward : ∀ request, (proceed request).Matches R)
    (handling : Handling) : (handling.run operation rest proceed).Matches R := by
  induction handling with
  | finish outcome => exact .pure outcome
  | crash left => exact .throw left
  | delegate request resume ih =>
    refine (lockstep.note _).bind fun _ => (onward request).bind fun outcome => ?_
    exact (lockstep.note _).bind fun _ => ih outcome
  | inspect resume ih => exact (lockstep.note _).bind fun _ => ih rest
  | consult action resume ih => exact (lockstep.consult operation action).bind fun seen => ih seen

theorem handle (rest : List Operation) {proceed : Document → Run Outcome}
    (onward : ∀ request, (proceed request).Matches R) (request : Document)
    (operation : Operation) : (operation.handle host rest proceed request).Matches R := by
  cases operation with
  | builtin b =>
    refine .read (fun _ _ related => by rw [lockstep.seen _ related]) fun w => ?_
    exact (lockstep.note _).bind fun _ => .noteEnd lockstep (lockstep.handleBuiltin request b)
  | contributed key =>
    refine .read (fun _ _ related => by
      rw [lockstep.seen _ related]
      simp only [(lockstep.history key related).handle]) fun w => ?_
    exact (lockstep.note _).bind fun _ => .noteEnd lockstep
      (lockstep.runHandling _ rest onward _)

theorem execute (chain : Chain) (request : Document) : (chain.execute host request).Matches R := by
  induction chain generalizing request with
  | terminus => exact .pure _
  | link operation rest ih =>
    exact (lockstep.handle rest.operations ih request operation).bind fun _ => .pure _

end Lockstep

end RpcRouting
