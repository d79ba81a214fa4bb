import RpcRouting.Proofs.Release.Protocol
import RpcRouting.Proofs.Steps
/-!
What every run keeps of the releases of a backend. The journal follows the protocol, a success of
the whole backend is a success of each single one, and a release breaks off only where a single
backend crashes.
-/

set_option autoImplicit false
set_option relaxedAutoImplicit false

namespace RpcRouting

namespace Builtin

variable {host : Host} {w w' : World}

/-- How the built-in operation that ends sessions ends if the release of the backend ended in the
given way. -/
def closeEnd (host : Host) (request : Document) :
    Except Crash (Except Failure Unit) → Except Crash (Except OperationError Document)
  | .ok (.ok ()) => .ok (.ok request.okReply)
  | .ok (.error failure) => .ok (.error (notReleased host failure))
  | .error left => .error left

theorem closeSession_on (request : Document) {ended : Except Crash (Except Failure Unit)}
    (run : host.release.on w = (ended, w')) :
    ∃ w'' events, (Run.noteEnd (.handled (.builtin .closeSession))
        (handleCloseSession host request)).on w = (closeEnd host request ended, w'') ∧
      w''.journal = w'.journal ++ events ∧ w''.released = w'.released ∧
      ∀ e ∈ events, e.operation?.isSome = true ∧
        (e.endsSession = true → ended = .ok (.ok ())) := by
  rw [Run.on_noteEnd]
  rcases ended with left | failure | success
  · have broken : (handleCloseSession host request).on w = (.error left, w') :=
      Run.on_bind_of_error run
    rw [broken]
    exact ⟨_, [_], rfl, rfl, rfl, by simp [Event.operation?, Event.endsSession]⟩
  · have failed : (handleCloseSession host request).on w = (.ok (.error (notReleased host failure)),
        w'.emit (.notReleased host.sessionId failure.outermost)) :=
      Run.on_bind_of_ok run
    rw [failed]
    exact ⟨_, [_], rfl, rfl, rfl, by simp [Event.operation?, Event.endsSession]⟩
  · have succeeded : ∃ w'' seen,
        (handleCloseSession host request).on w = (.ok (.ok request.okReply), w'') ∧
        w''.journal = w'.journal ++
          [.consulted (.builtin .closeSession) seen (some .requestClose)] ∧
        w''.released = w'.released := by
      obtain ⟨v, consulted, journal, released⟩ :=
        Run.on_consult (.builtin .closeSession) (some .requestClose) w'
      rw [handleCloseSession, Run.on_bind_of_ok run]
      show ∃ w'' seen, Run.on (Run.consult _ _ >>= _) w' = _ ∧ _
      rw [Run.on_bind_of_ok consulted]
      cases seen : w'.seenBy (.builtin .closeSession) with
      | none => exact ⟨_, none, rfl, seen ▸ journal, released⟩
      | some session => exact ⟨_, some session, rfl, seen ▸ journal, released⟩
    obtain ⟨w'', seen, replied, journal, released⟩ := succeeded
    rw [replied]
    refine ⟨_, [.consulted (.builtin .closeSession) seen (some .requestClose),
      .handled (.builtin .closeSession) (.ok (.ok request.okReply))], rfl, ?_, released, ?_⟩
    · simp [journal]
    · simp [Event.operation?]

end Builtin

namespace Journal

variable {journal : Journal} {events : List Event}

theorem succeeded_append_of_operations (foreign : ∀ e ∈ events, e.operation?.isSome = true) :
    Succeeded (journal ++ events) ↔ journal.Succeeded := by
  constructor
  · intro succeeded
    rcases List.mem_append.1 succeeded with early | late
    · exact early
    · exact nomatch foreign _ late
  · exact List.mem_append_left events

theorem mem_of_released_of_operations {ended : Except Crash (Except Failure Unit)}
    (foreign : ∀ e ∈ events, e.operation?.isSome = true)
    (member : .released ended ∈ journal ++ events) : .released ended ∈ journal := by
  rcases List.mem_append.1 member with early | late
  · exact early
  · exact nomatch foreign _ late

end Journal

namespace Host

namespace Round

variable {host : Host} {counted counts : Bool} {ended : Except Crash (Except Failure Unit)}
  {events : Journal}

private theorem released_notMem {inner : Journal} (nested : ∀ e ∈ inner, e.isInner = true)
    (ended : Except Crash (Except Failure Unit)) : .released ended ∉ inner :=
  fun member => nomatch nested _ member

theorem closed_of_succeeded (round : host.Round counted ended events counts)
    (succeeded : .released (.ok (.ok ())) ∈ events) :
    ∀ leaf ∈ host.backend.leaves, .closed leaf (.ok (.ok ())) ∈ events := by
  cases round with
  | idle => simp at succeeded
  | @settled inner outcome nested called all =>
    have success : outcome = .ok () := by
      simpa [released_notMem nested, eq_comm] using succeeded
    intro leaf member
    have closed := all success leaf member
    simp [closed]
  | @broken inner left nested origin => simp [released_notMem nested] at succeeded

theorem crash_of_broken (round : host.Round counted ended events counts) {left : Crash}
    (broken : .released (.error left) ∈ events) :
    ∃ leaf ∈ host.backend.leaves, ∃ attempt,
      ((host.catalogue.leaf leaf).close attempt).ended = .error left := by
  cases round with
  | idle => simp at broken
  | settled nested called all => simp [released_notMem nested] at broken
  | @broken inner c nested origin =>
    have same : left = c := by simpa [released_notMem nested] using broken
    rw [same]
    exact origin

theorem counts_of_ok (round : host.Round counted (.ok (.ok ())) events counts) :
    counts = true := by
  cases round with
  | idle => rfl
  | settled nested called all => rfl

end Round

/-- The releases in a world agree with the protocol, with the successes of the single backends and
with their crashes. -/
structure Consistent (host : Host) (w : World) : Prop where
  order : w.InOrder
  closed : w.journal.Succeeded →
    ∀ leaf ∈ host.backend.leaves, .closed leaf (.ok (.ok ())) ∈ w.journal
  crash : ∀ left, .released (.error left) ∈ w.journal →
    ∃ leaf ∈ host.backend.leaves, ∃ attempt,
      ((host.catalogue.leaf leaf).close attempt).ended = .error left

variable {host : Host} {w w' : World}

theorem Consistent.initial (threshold : Option Level) :
    host.Consistent (.initial threshold) where
  order := ⟨.unreleased, .start, rfl⟩
  closed succeeded := nomatch succeeded
  crash _ member := nomatch member

theorem Consistent.append (consistent : host.Consistent w) {events : List Event}
    (journal : w'.journal = w.journal ++ events) (released : w'.released = w.released)
    (foreign : ∀ e ∈ events, e.operation?.isSome = true)
    (ends : ∀ e ∈ events, e.endsSession = true → w.released = true) : host.Consistent w' where
  order := consistent.order.append journal released foreign ends
  closed succeeded leaf member := by
    rw [journal, Journal.succeeded_append_of_operations foreign] at succeeded
    rw [journal]
    exact List.mem_append_left events (consistent.closed succeeded leaf member)
  crash left member := by
    rw [journal] at member
    exact consistent.crash left (Journal.mem_of_released_of_operations foreign member)

theorem Consistent.release {ended : Except Crash (Except Failure Unit)}
    (consistent : host.Consistent w) (step : host.Releases w ended w') : host.Consistent w' := by
  refine ⟨consistent.order.release step, ?_, ?_⟩
  all_goals obtain ⟨events, round, journal⟩ := step.round
  all_goals rw [journal]
  · intro succeeded leaf member
    rcases List.mem_append.1 succeeded with early | late
    · exact List.mem_append_left events (consistent.closed early leaf member)
    · exact List.mem_append_right w.journal (round.closed_of_succeeded late leaf member)
  · intro left member
    rcases List.mem_append.1 member with early | late
    · exact consistent.crash left early
    · exact round.crash_of_broken late

/-- A run of the operations of a host leads from one world to another: events are added, and the
releases stay consistent. -/
structure Advances (host : Host) (w w' : World) : Prop where
  grown : w.journal <+: w'.journal
  consistent : host.Consistent w → host.Consistent w'

theorem Advances.append {events : List Event} (journal : w'.journal = w.journal ++ events)
    (released : w'.released = w.released) (foreign : ∀ e ∈ events, e.operation?.isSome = true)
    (silent : ∀ e ∈ events, e.endsSession = false) : host.Advances w w' where
  grown := journal ▸ List.prefix_append _ _
  consistent before := before.append journal released foreign fun e member ends =>
    nomatch (silent e member).symm.trans ends

theorem Advances.record {event : Event} (foreign : event.operation?.isSome = true)
    (silent : event.endsSession = false) : host.Advances w (w.record event) := by
  have own : ∀ e ∈ [event], e.operation?.isSome = true := by simpa using foreign
  have quiet : ∀ e ∈ [event], e.endsSession = false := by simpa using silent
  exact .append rfl rfl own quiet

theorem Advances.still (journal : w'.journal = w.journal) (released : w'.released = w.released) :
    host.Advances w w' := by
  have same : w'.journal = w.journal ++ [] := by rw [journal, List.append_nil]
  exact .append same released (by simp) (by simp)

theorem Releases.grown {ended : Except Crash (Except Failure Unit)}
    (step : host.Releases w ended w') : w.journal <+: w'.journal := by
  obtain ⟨events, round, journal⟩ := step.round
  exact journal ▸ List.prefix_append _ _

theorem Advances.release : host.Advances w (host.release.on w).2 where
  grown := (host.releases_release w).grown
  consistent before := before.release (host.releases_release w)

theorem advances_closeSession (request : Document) :
    (Run.noteEnd (.handled (.builtin .closeSession))
      (Builtin.handleCloseSession host request)).Leads host.Advances := by
  intro w
  have step := host.releases_release w
  have released : host.release.on w = ((host.release.on w).1, (host.release.on w).2) := rfl
  obtain ⟨w'', events, run, journal, released, own⟩ := Builtin.closeSession_on request released
  rw [run]
  refine ⟨step.grown.trans (journal ▸ List.prefix_append _ _), fun before => ?_⟩
  refine (before.release step).append journal released (fun e member => (own e member).1) ?_
  intro e member ends
  obtain ⟨added, round, grown⟩ := step.round
  rw [(own e member).2 ends] at round
  exact round.counts_of_ok

theorem permits_advances (host : Host) : host.Permits host.Advances where
  refl _ := .still rfl rfl
  trans first second := ⟨first.grown.trans second.grown, second.consistent ∘ first.consistent⟩
  bound _ _ _ _ := .record rfl rfl
  probed _ _ _ _ _ := .record rfl rfl
  bind _ _ _ := .still rfl rfl
  handling _ _ _ _ := .record rfl rfl
  record w event operation own other := by
    refine .record (by rw [own]; rfl) ?_
    cases event <;> simp_all [Event.operation?, Event.endsSession]
  emit _ _ := .still rfl rfl
  act _ _ _ := .still rfl rfl
  closeSession := advances_closeSession

end Host

end RpcRouting
