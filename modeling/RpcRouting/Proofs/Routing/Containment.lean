import RpcRouting.Proofs.Steps
import Mathlib.Data.List.Basic
/-!
What routing lets out of the operations. Before a chain is chosen no operation has been given the
request, and nothing but bindings has changed. After that the answer is the reply or the classified
error of the first operation; any other failure, at whatever depth of the chain it arose, becomes
one and the same error with the detail in its only diagnostic entry.
-/

set_option autoImplicit false
set_option relaxedAutoImplicit false

namespace RpcRouting

variable {α β : Type}

namespace Event

def crash? : Event → Option Crash
  | bound _ _ crash => crash
  | probed _ _ _ (.error crash) => some crash
  | _ => none

end Event

namespace Run

/-- The run adds to the journal, and if it crashes, the last event that it added is the crash of an
operation. -/
def Blames (x : Run α) : Prop :=
  ∀ w, w.journal <+: (x.on w).2.journal ∧ ∀ left, (x.on w).1 = .error left →
    ∃ earlier event, (x.on w).2.journal = earlier ++ [event] ∧ w.journal <+: earlier ∧
      event.crash? = some left

theorem Blames.bind {x : Run α} {f : α → Run β} (first : x.Blames) (next : ∀ a, (f a).Blames) :
    (x >>= f).Blames := by
  intro w
  have start := first w
  cases run : x.on w with
  | mk ended w' =>
    rw [run] at start
    cases ended with
    | error left =>
      rw [on_bind_of_error run]
      refine ⟨start.1, fun c crashed => ?_⟩
      cases crashed
      exact start.2 left rfl
    | ok a =>
      rw [on_bind_of_ok run]
      refine ⟨start.1.trans (next a w').1, fun c crashed => ?_⟩
      obtain ⟨earlier, event, journal, older, blamed⟩ := (next a w').2 c crashed
      exact ⟨earlier, event, journal, start.1.trans older, blamed⟩

theorem Blames.pure (a : α) : (Pure.pure a : Run α).Blames :=
  fun w => ⟨List.prefix_refl w.journal, fun _ crashed => nomatch crashed⟩

end Run

namespace Router

variable {host : Host}

private theorem blames_bind (session : SessionKey) (operation : Operation) :
    (operation.bind host session).Blames := by
  intro w
  cases crash : operation.bindCrash? host w session with
  | none =>
    rw [Operation.bind_on_of_none crash]
    exact ⟨List.prefix_append _ _, fun _ crashed => nomatch crashed⟩
  | some left =>
    rw [Operation.bind_on_of_some crash]
    refine ⟨List.prefix_append _ _, fun c crashed => ?_⟩
    cases crashed
    exact ⟨w.journal, _, rfl, List.prefix_refl _, rfl⟩

private theorem blames_probe (request : Document) (operation : Operation) :
    (operation.probe host request).Blames := by
  intro w
  rw [Operation.probe_on]
  refine ⟨List.prefix_append _ _, fun c crashed => ?_⟩
  have answer : operation.answer host w request = .error c := crashed
  rw [answer]
  exact ⟨w.journal, _, rfl, List.prefix_refl _, rfl⟩

private theorem blames_bindAll (session : SessionKey) (operations : List Operation) :
    (bindAll host session operations).Blames := by
  induction operations with
  | nil => exact Run.Blames.pure ()
  | cons operation rest ih =>
    rw [bindAll]
    split
    · exact (blames_bind session operation).bind fun _ => ih
    · exact ih

private theorem blames_probeAll (request : Document) (operations : List Operation)
    (candidates : Candidates) : (probeAll host request operations candidates).Blames := by
  induction operations generalizing candidates with
  | nil => exact Run.Blames.pure _
  | cons operation rest ih =>
    refine (blames_probe request operation).bind fun rank => ?_
    cases candidates.offer rank operation with
    | declined => exact ih candidates
    | admitted more => exact ih more
    | conflicting holder => exact Run.Blames.pure _

theorem blames_collect (r : Router) (request : Document) (session : SessionKey) :
    (r.collect request session).Blames :=
  (blames_bindAll session r.registry.operations).bind
    fun _ => blames_probeAll request r.registry.operations .empty

end Router

/-- The error says no more than that something failed; what failed stands in its only entry. -/
structure RpcError.Generic (e : RpcError) (detail : String) : Prop where
  message : e.message = "Unexpected error"
  type : e.type = .application
  tag : e.tag = .operationFailed
  severity : e.severity = .error
  info : e.info.entries = [("error", detail)]

theorem RpcError.generic_iff {e : RpcError} {detail : String} :
    e.Generic detail ↔ e = unexpected detail := by
  constructor
  · rintro ⟨message, type, tag, severity, info⟩
    have same : e.info = (unexpected detail).info := TextMap.ext info
    cases e
    simp only at message type tag severity same
    rw [message, type, tag, severity, same]
    rfl
  · rintro rfl
    exact ⟨rfl, rfl, rfl, rfl, rfl⟩

namespace Router

variable (r : Router) (request : Document) (session : SessionKey) (w : World)

def unclassified? : Except Crash (Except OperationError Document) → Option String
  | .ok (.error (.internal failure)) => some failure.describe
  | .error (.saying text) => some text
  | .error .unreadable => some "panic with a non-string payload"
  | .ok (.error (.documented _)) => none
  | .ok (.ok _) => none

/-- Why no chain is chosen: no operation can handle the request, two of them claim one rank, or an
operation crashed, over the session or over the question for its rank, as the last that happened. -/
inductive Rejects : RoutingError → Prop
  | noHandler : Rejects (.noHandler (r.shown request))
  | ambiguous (conflict : Conflict) : Rejects (.ambiguous (r.shown request) conflict)
  | crashed {left : Crash} {earlier : Journal} {event : Event}
      (journal : ((r.route request session).run w).2.journal = earlier ++ [event])
      (recent : w.journal <+: earlier) (blamed : event.crash? = some left)
      (answer : ∃ e, ((r.route request session).run w).1 = .error e ∧ e.Generic left.describe) :
      Rejects (.unexpected "Unexpected failure while ranking operations" left.describe)

/-- A request for which no chain is chosen is answered with the reason, and has no other effect. -/
structure Refuses (e : RoutingError) : Prop where
  rejected : ((r.select request session).run w).1 = .error e
  reason : r.Rejects request session w e
  answer : ((r.route request session).run w).1 =
    .error (e.toRpcError (r.shown request) session.id)
  unchanged : w.Chose ((r.route request session).run w).2

/-- A request goes to the first operation of its chain, and is answered as that operation ended. -/
structure Passes (head : Operation) (rest : Chain) : Prop where
  chosen : ((r.select request session).run w).1 = .ok (.link head rest)
  reply : ∀ reply, ((r.route request session).run w).1 = .ok reply ↔
    (r.handled request session w head rest).1 = .ok (.ok reply)
  error : ∀ e, ((r.route request session).run w).1 = .error e ↔
    (r.handled request session w head rest).1 = .ok (.error (.documented e)) ∨
      ∃ detail, unclassified? (r.handled request session w head rest).1 = some detail ∧
        e.Generic detail
  final : ((r.route request session).run w).2 = (r.handled request session w head rest).2 ∨
    ∃ line, ((r.route request session).run w).2 =
      (r.handled request session w head rest).2.emit line
  /-- The chain never ends without an answer. -/
  answered : ∀ w', (((Chain.link head rest).execute r.host request).on w').1 ≠ .ok (.ok none)

variable {r request session w}

private theorem reason_of_verdict {collected : Except Crash (Except Conflict Candidates)}
    {e : RoutingError} (rejected : r.verdict request collected = .error e) :
    e = .noHandler (r.shown request) ∨ (∃ conflict, e = .ambiguous (r.shown request) conflict) ∨
      ∃ left, collected = .error left ∧
        e = .unexpected "Unexpected failure while ranking operations" left.describe := by
  rcases collected with left | conflict | candidates
  · cases rejected
    exact .inr (.inr ⟨left, rfl, rfl⟩)
  · cases rejected
    exact .inr (.inl ⟨conflict, rfl⟩)
  · rw [verdict] at rejected
    split at rejected
    · cases rejected
      exact .inl rfl
    · cases rejected

theorem refuses_of_rejected {e : RoutingError}
    (rejected : ((r.select request session).run w).1 = .error e) :
    r.Refuses request session w e := by
  have chose := World.choosing_chose.leads_select r request session w
  have blamed := (r.blames_collect request session w).2
  have run := route_of_rejected (Prod.ext rejected rfl)
  have answer : ((r.route request session).run w).1 =
      .error (e.toRpcError (r.shown request) session.id) := congrArg Prod.fst run
  have final : ((r.route request session).run w).2 =
      ((r.select request session).run w).2.emit (e.toRecord session.id) := congrArg Prod.snd run
  refine ⟨rejected, ?_, answer, ?_⟩
  · rcases reason_of_verdict rejected with rfl | ⟨conflict, rfl⟩ | ⟨left, crashed, rfl⟩
    · exact .noHandler
    · exact .ambiguous conflict
    · obtain ⟨earlier, event, journal, recent, blame⟩ := blamed left crashed
      refine .crashed ?_ recent blame ⟨_, answer, RpcError.generic_iff.2 rfl⟩
      rw [final]
      exact journal
  · rw [final]
    exact ⟨chose.sessions, chose.released, chose.journal⟩

private theorem told_eq_ok_iff {ended : Except Crash (Except OperationError Document)}
    {reply : Document} : told ended = .ok reply ↔ ended = .ok (.ok reply) := by
  rcases ended with left | error | reply
  · simp [told]
  · cases error <;> simp [told]
  · simp [told]

private theorem told_eq_error_iff {ended : Except Crash (Except OperationError Document)}
    {e : RpcError} :
    told ended = .error e ↔ ended = .ok (.error (.documented e)) ∨
      ∃ detail, unclassified? ended = some detail ∧ e.Generic detail := by
  simp only [RpcError.generic_iff]
  rcases ended with left | error | reply
  · cases left <;> simp [told, unclassified?, Crash.describe, Crash.text?, eq_comm]
  · cases error <;> simp [told, unclassified?, eq_comm]
  · simp [told, unclassified?]

private theorem passes_of_chosen {head : Operation} {rest : Chain}
    (chosen : ((r.select request session).run w).1 = .ok (.link head rest)) :
    r.Passes request session w head rest := by
  obtain ⟨w'', run, final⟩ := route_of_chain chosen
  have answer : ((r.route request session).run w).1 =
      told (r.handled request session w head rest).1 := congrArg Prod.fst run
  have left : ((r.route request session).run w).2 = w'' := congrArg Prod.snd run
  refine ⟨chosen, fun reply => ?_, fun e => ?_, ?_, fun w' silent => ?_⟩
  · rw [answer]
    exact told_eq_ok_iff
  · rw [answer]
    exact told_eq_error_iff
  · rw [left]
    exact final
  · cases handled : (head.handle r.host rest.operations (rest.execute r.host) request).on w' with
    | mk ended final =>
      rw [Chain.execute_link_on handled] at silent
      rcases ended with left | error | reply <;> cases silent

/-- Whatever the operations do, a request is answered: with the reason why it has no chain, and then
no operation was given it and no session and no backend was touched, or with what its first
operation made of it. -/
theorem route_refuses_or_passes (r : Router) (request : Document) (session : SessionKey)
    (w : World) :
    (∃ e, r.Refuses request session w e) ∨
      ∃ head rest, r.Passes request session w head rest := by
  cases chosen : ((r.select request session).run w).1 with
  | error e => exact .inl ⟨e, refuses_of_rejected chosen⟩
  | ok chain =>
    obtain ⟨head, rest, rfl⟩ := exists_link_of_chosen chosen
    exact .inr ⟨head, rest, passes_of_chosen chosen⟩

end Router

end RpcRouting
