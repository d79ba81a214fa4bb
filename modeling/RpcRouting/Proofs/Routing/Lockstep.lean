import RpcRouting.Proofs.Lockstep
import RpcRouting.Proofs.Steps
/-!
One request in two worlds. Operations are bound, asked for their ranks and given the request in
lockstep, and so the request is answered alike in worlds that the host's operations cannot tell
apart.
-/

set_option autoImplicit false
set_option relaxedAutoImplicit false

namespace RpcRouting

variable {α β : Type} {R : World → World → Prop}

/-- In related worlds the routine answers in the same way, and leaves related worlds. -/
def AnswersAlike (R : World → World → Prop) (x : StateM World α) : Prop :=
  ∀ w w', R w w' → (x.run w').1 = (x.run w).1 ∧ R (x.run w).2 (x.run w').2

namespace AnswersAlike

theorem pure (a : α) : AnswersAlike R (Pure.pure a : StateM World α) :=
  fun _ _ related => ⟨rfl, related⟩

theorem bind {x : StateM World α} {f : α → StateM World β} (first : AnswersAlike R x)
    (next : ∀ a, AnswersAlike R (f a)) : AnswersAlike R (x >>= f) := by
  intro w w' related
  obtain ⟨same, after⟩ := first w w' related
  have final := next (x.run w).1 _ _ after
  rw [StateT.run_bind, StateT.run_bind]
  show (((f (x.run w').1).run (x.run w').2).1 = _) ∧ R _ ((f (x.run w').1).run (x.run w').2).2
  rw [same]
  exact final

end AnswersAlike

namespace Router

def conclude (r : Router) (request : Document) (session : SessionKey) :
    Except RoutingError Chain → StateM World (Except RpcError Document)
  | .error e => return .error (← r.report request session e)
  | .ok chain => do
    r.announce request session chain
    match settle (← (chain.execute r.host request).run) with
    | .ok answer => return answer
    | .error e => return .error (← r.report request session e)

theorem route_eq (r : Router) (request : Document) (session : SessionKey) :
    r.route request session = (do
      let collected ← (r.collect request session).run
      r.conclude request session (r.verdict request collected)) := rfl

def proceed (r : Router) (request : Document) (session : SessionKey) :
    StateM World (Except RpcError Document) := do
  let collected ← (probeAll r.host request r.registry.operations .empty).run
  r.conclude request session (r.verdict request collected)

theorem route_of_prepared {r : Router} {request : Document} {session : SessionKey} {w v : World}
    (prepared : (bindAll r.host session r.registry.operations).on w = (.ok (), v)) :
    (r.route request session).run w = (r.proceed request session).run v := by
  have collected : StateT.run (r.collect request session).run w =
      StateT.run (probeAll r.host request r.registry.operations .empty).run v :=
    Run.on_bind_of_ok prepared
  rw [route_eq, proceed, StateT.run_bind, StateT.run_bind, collected]

end Router

namespace Lockstep

open Run (Matches)

variable {host : Host} (lockstep : Lockstep host R)

include lockstep

private theorem bindCrash? (operation : Operation) (session : SessionKey) {w w' : World}
    (related : R w w') :
    operation.bindCrash? host w' session = operation.bindCrash? host w session := by
  cases operation with
  | builtin b => rfl
  | contributed key => exact (lockstep.history key related).bind session

private theorem answer (operation : Operation) (request : Document) {w w' : World}
    (related : R w w') :
    operation.answer host w' request = operation.answer host w request := by
  cases operation with
  | builtin b => rfl
  | contributed key =>
    rw [Operation.answer, Operation.answer, lockstep.seen _ related]
    exact (lockstep.history key related).rank request _

private theorem bindSession (session : SessionKey) (operation : Operation) :
    (operation.bind host session).Matches R := by
  refine .read (fun _ _ related => by rw [lockstep.bindCrash? operation session related])
    fun w => ?_
  refine (lockstep.note _).bind fun _ => ?_
  cases operation.bindCrash? host w session with
  | some left => exact .throw left
  | none => exact fun _ _ related => ⟨rfl, lockstep.bind operation session related⟩

private theorem probe (request : Document) (operation : Operation) :
    (operation.probe host request).Matches R := by
  refine .read (fun _ _ related => by
    rw [lockstep.answer operation request related, lockstep.seen operation related]) fun w => ?_
  refine (lockstep.note _).bind fun _ => ?_
  cases operation.answer host w request with
  | ok rank => exact .pure rank
  | error left => exact .throw left

theorem bindAll (session : SessionKey) (operations : List Operation) :
    (Router.bindAll host session operations).Matches R := by
  induction operations with
  | nil => exact .pure ()
  | cons operation rest ih =>
    rw [Router.bindAll]
    split
    · exact (lockstep.bindSession session operation).bind fun _ => ih
    · exact ih

theorem probeAll (request : Document) (operations : List Operation) (candidates : Candidates) :
    (Router.probeAll host request operations candidates).Matches R := by
  induction operations generalizing candidates with
  | nil => exact .pure _
  | cons operation rest ih =>
    refine (lockstep.probe request operation).bind fun rank => ?_
    cases candidates.offer rank operation with
    | declined => exact ih candidates
    | admitted more => exact ih more
    | conflicting holder => exact .pure _

theorem emitting (line : Record) :
    AnswersAlike R (modify (·.emit line) : StateM World Unit) :=
  fun _ _ related => ⟨rfl, lockstep.emit line related⟩

end Lockstep

namespace Router

open Run (Matches)

variable {r : Router} (lockstep : Lockstep r.host R) (request : Document) (session : SessionKey)

include lockstep

private theorem report_alike (e : RoutingError) :
    AnswersAlike R (r.report request session e) :=
  (lockstep.emitting _).bind fun _ => .pure _

private theorem conclude_alike (chosen : Except RoutingError Chain) :
    AnswersAlike R (r.conclude request session chosen) := by
  cases chosen with
  | error e => exact (report_alike lockstep request session e).bind fun _ => .pure _
  | ok chain =>
    have announced : AnswersAlike R (r.announce request session chain) := by
      rw [announce_eq]
      exact lockstep.emitting _
    have executed : AnswersAlike R (chain.execute r.host request).run :=
      lockstep.execute chain request
    refine announced.bind fun _ => executed.bind fun ended => ?_
    cases settle ended with
    | ok answer => exact .pure answer
    | error e => exact (report_alike lockstep request session e).bind fun _ => .pure _

theorem proceed_alike : AnswersAlike R (r.proceed request session) := by
  have probed : AnswersAlike R (probeAll r.host request r.registry.operations .empty).run :=
    lockstep.probeAll request r.registry.operations .empty
  exact probed.bind fun collected => conclude_alike lockstep request session _

theorem route_alike : AnswersAlike R (r.route request session) := by
  have collected : AnswersAlike R (r.collect request session).run :=
    (lockstep.bindAll session r.registry.operations).bind fun _ =>
      lockstep.probeAll request r.registry.operations .empty
  rw [route_eq]
  exact collected.bind fun _ => conclude_alike lockstep request session _

end Router

end RpcRouting
