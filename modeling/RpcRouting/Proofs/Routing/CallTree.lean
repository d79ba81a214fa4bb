import RpcRouting.Proofs.Emits
import RpcRouting.Proofs.Release.Course
/-!
Executions of a chain as trees of calls. An operation that is given a request goes through its
steps; each time that it passes a document on, the whole call of the rest of the chain lies between
the event that begins this and the event that ends it. What a chain does to the journal is always
such a tree, written from left to right.
-/

set_option autoImplicit false
set_option relaxedAutoImplicit false

namespace RpcRouting

namespace Event

def isCall : Event → Bool
  | handling _ _ _ => true
  | handled _ _ => true
  | delegating _ _ => true
  | delegated _ _ => true
  | _ => false

/-- The event is one that an operation leaves between the calls that it makes and is given: it is
about the operation itself or about no operation. -/
def IsAsideOf (operation : Operation) (event : Event) : Prop :=
  event.isCall = false ∧ (event.operation? = some operation ∨ event.operation? = none)

end Event

/-- How the rest of a chain is called: with a document, to an end, leaving events. -/
abbrev Onward := Document → Except Crash Outcome → Journal → Prop

/-- An operation goes through the steps of handling a request, to the end that it notes. -/
inductive Handling.Works (operation : Operation) (rest : List Operation) (onward : Onward) :
    Handling → Except Crash (Except OperationError Document) → Journal → Prop
  | finish {outcome : Except OperationError Document} :
    Works operation rest onward (.finish outcome) (.ok outcome) [.handled operation (.ok outcome)]
  | crash {left : Crash} :
    Works operation rest onward (.crash left) (.error left) [.handled operation (.error left)]
  | answered {request : Document} {resume : Outcome → Handling} {outcome : Outcome}
      {ended : Except Crash (Except OperationError Document)} {call later : Journal}
      (called : onward request (.ok outcome) call)
      (next : Works operation rest onward (resume outcome) ended later) :
    Works operation rest onward (.delegate request resume) ended
      (.delegating operation request :: call ++ .delegated operation outcome :: later)
  | broken {request : Document} {resume : Outcome → Handling} {left : Crash} {call : Journal}
      (called : onward request (.error left) call) :
    Works operation rest onward (.delegate request resume) (.error left)
      (.delegating operation request :: call ++ [.handled operation (.error left)])
  | inspect {resume : List Operation → Handling}
      {ended : Except Crash (Except OperationError Document)} {later : Journal}
      (next : Works operation rest onward (resume rest) ended later) :
    Works operation rest onward (.inspect resume) ended (.inspected operation rest :: later)
  | consult {action : Option SessionAction} {resume : Option Session → Handling}
      {seen : Option Session} {ended : Except Crash (Except OperationError Document)}
      {later : Journal} (next : Works operation rest onward (resume seen) ended later) :
    Works operation rest onward (.consult action resume) ended
      (.consulted operation seen action :: later)

/-- An operation is called: it is given a request, and ends. -/
inductive Operation.Called (host : Host) (rest : List Operation) (onward : Onward)
    (request : Document) : Operation → Except Crash (Except OperationError Document) → Journal → Prop
  | builtin {b : Builtin} {seen : Option Session}
      {ended : Except Crash (Except OperationError Document)} {inner : Journal}
      (asides : ∀ e ∈ inner, e.IsAsideOf (.builtin b)) :
    Called host rest onward request (.builtin b) ended
      (.handling (.builtin b) request seen :: inner ++ [.handled (.builtin b) ended])
  | contributed {key : OperationKey} {seen : Option Session} {history : Journal}
      {ended : Except Crash (Except OperationError Document)} {inner : Journal}
      (works : ((host.catalogue.operation key).handle history request).Works (.contributed key) rest
        onward ended inner) :
    Called host rest onward request (.contributed key) ended
      (.handling (.contributed key) request seen :: inner)

def Chain.Called (host : Host) : Chain → Onward
  | terminus, _, ended, events => ended = .ok (.ok none) ∧ events = []
  | link operation rest, request, outcome, events =>
    ∃ ended, operation.Called host rest.operations (rest.Called host) request ended events ∧
      outcome = ended.map (·.map some)

variable {host : Host} {onward : Onward}

theorem Host.Round.asides {counted counts : Bool} {ended : Except Crash (Except Failure Unit)}
    {events : Journal} (round : host.Round counted ended events counts) (operation : Operation) :
    ∀ e ∈ events, e.IsAsideOf operation := by
  intro e member
  rw [← round.releases_eq, Journal.releases, List.mem_filter] at member
  obtain ⟨-, own⟩ := member
  cases e <;> simp_all [Event.IsAsideOf, Event.isCall, Event.operation?]

theorem Builtin.emits_handle (b : Builtin) (request : Document) :
    (b.handle host request).Emits fun _ events => ∀ e ∈ events, e.IsAsideOf (.builtin b) := by
  have consulted : ∀ seen action (later : Journal), (∀ e ∈ later, e.IsAsideOf (.builtin b)) →
      ∀ e ∈ Event.consulted (.builtin b) seen action :: later, e.IsAsideOf (.builtin b) := by
    intro seen action later asides e member
    rcases List.mem_cons.1 member with rfl | member
    · exact ⟨rfl, .inl rfl⟩
    · exact asides e member
  cases b with
  | closeSession =>
    have released : ∀ ended events, (∃ counted counts, host.Round counted ended events counts) →
        ∀ e ∈ events, e.IsAsideOf (.builtin .closeSession) :=
      fun _ _ ⟨_, _, round⟩ => round.asides _
    refine host.emits_release.bind (fun left events round => released _ events round) ?_
    intro outcome events round
    have before := released _ events round
    cases outcome with
    | error failure =>
      exact .log (.pure (by rw [List.append_nil]; exact before))
    | ok success =>
      have ended : ∀ seen, ∀ e ∈ events ++ Event.consulted (.builtin .closeSession) seen
          (some .requestClose) :: [], e.IsAsideOf (.builtin .closeSession) := by
        intro seen e member
        rcases List.mem_append.1 member with early | late
        · exact before e early
        · exact consulted seen _ [] (by simp) e late
      refine .consult fun seen => ?_
      cases seen with
      | none => exact .log (.log (.pure (ended none)))
      | some session => exact .log (.pure (ended (some session)))
  | startExi =>
    refine .consult fun seen => ?_
    cases seen with
    | none => exact .pure (consulted _ _ [] (by simp))
    | some session =>
      cases exiParameters request with
      | error error => exact .pure (consulted _ _ [] (by simp))
      | ok parameters =>
        exact .consult fun again => .log (.pure (consulted _ _ _ (consulted _ _ [] (by simp))))
  | stopExi =>
    refine .consult fun seen => ?_
    cases seen with
    | none => exact .pure (consulted _ _ [] (by simp))
    | some session => exact .log (.pure (consulted _ _ [] (by simp)))

theorem Handling.emits_run (operation : Operation) (rest : List Operation)
    {proceed : Document → Run Outcome} (emits : ∀ request, (proceed request).Emits (onward request))
    (handling : Handling) :
    (Run.noteEnd (.handled operation) (handling.run operation rest proceed)).Emits
      (handling.Works operation rest onward) := by
  refine .noteEnd ?_
  induction handling with
  | finish outcome => exact .pure .finish
  | crash left => exact .throw .crash
  | delegate request resume ih =>
    refine .note ((emits request).bind (fun left call called => ?_) fun outcome call called => ?_)
    · exact .broken called
    · refine .note ((ih outcome).mono fun ended later next => ?_)
      simpa using Works.answered called next
  | inspect resume ih => exact .note ((ih rest).mono fun _ _ next => .inspect next)
  | consult action resume ih =>
    exact .consult fun seen => (ih seen).mono fun _ _ next => .consult next

theorem Operation.emits_handle (rest : List Operation) {proceed : Document → Run Outcome}
    (emits : ∀ request, (proceed request).Emits (onward request)) (request : Document)
    (operation : Operation) :
    (operation.handle host rest proceed request).Emits
      (operation.Called host rest onward request) := by
  refine .read fun w => .note ?_
  cases operation with
  | builtin b => exact .noteEnd ((b.emits_handle request).mono fun _ _ asides => .builtin asides)
  | contributed key =>
    exact (Handling.emits_run (.contributed key) rest emits _).mono fun _ _ works =>
      .contributed works

/-- What a chain adds to the journal is a tree of calls. -/
theorem Chain.emits_execute (chain : Chain) (request : Document) :
    (chain.execute host request).Emits (chain.Called host request) := by
  induction chain generalizing request with
  | terminus => exact .pure ⟨rfl, rfl⟩
  | link operation rest ih =>
    refine (operation.emits_handle rest.operations ih request).bind ?_ ?_
    · exact fun left events called => ⟨.error left, called, rfl⟩
    · intro outcome events called
      exact .pure ⟨.ok outcome, by rwa [List.append_nil], rfl⟩

end RpcRouting
