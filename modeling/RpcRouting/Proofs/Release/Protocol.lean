import RpcRouting.Proofs.Release.Nesting
import Mathlib.Data.List.Basic
/-!
The protocol by which a backend is released. It tells a release in progress from one that
succeeded, from one that failed and may be tried again, and from one that broke off; an event that
is out of place has no turn.

What one release can do is said once (`Host.Round`). That a release follows the protocol is
derived from it, and so are the facts about journals that follow the protocol.
-/

set_option autoImplicit false
set_option relaxedAutoImplicit false

namespace RpcRouting

def Event.endsSession : Event → Bool
  | consulted (.builtin .closeSession) _ (some .requestClose) => true
  | handled (.builtin .closeSession) (.ok (.ok _)) => true
  | _ => false

/-- Somebody is told that the backend was released: whoever asked for that, or the peer that asked
for the end of its session. -/
def Event.tellsRelease : Event → Bool
  | answered (.ok ()) _ => true
  | event => event.endsSession

/-- How far the release of a backend has come. -/
inductive ReleasePhase
  | unreleased
  | closing
  | ended (outcome : Except Failure Unit)
  | released
  | abandoned

namespace ReleasePhase

def AtRest : ReleasePhase → Bool → Prop
  | unreleased, counted => counted = false
  | closing, _ => False
  | ended _, _ => False
  | released, counted => counted = true
  | abandoned, counted => counted = true

/-- The ways in which an event leads from one phase to another. While the backend is being released
it is not released once more, and whoever asks meanwhile is told that it was. -/
inductive Turns : ReleasePhase → Event → ReleasePhase → Prop
  | aside {phase : ReleasePhase} {counted : Bool} {event : Event} (rest : phase.AtRest counted)
      (foreign : event.operation?.isSome = true) (silent : event.endsSession = false) :
    Turns phase event phase
  | endSession {phase : ReleasePhase} {event : Event} (rest : phase.AtRest true)
      (foreign : event.operation?.isSome = true) (ends : event.endsSession = true) :
    Turns phase event phase
  | begin : Turns unreleased .releasing closing
  | inner {event : Event} (nested : event.isInner = true) : Turns closing event closing
  | finish {outcome : Except Failure Unit} :
    Turns closing (.released (.ok outcome)) (ended outcome)
  | breakOff {left : Crash} : Turns closing (.released (.error left)) abandoned
  | confirm : Turns (ended (.ok ())) (.answered (.ok ()) true) released
  | deny {failure : Failure} :
    Turns (ended (.error failure)) (.answered (.error failure) false) unreleased
  | again {phase : ReleasePhase} (rest : phase.AtRest true) :
    Turns phase (.answered (.ok ()) true) phase

end ReleasePhase

namespace Journal

/-- The journal follows the protocol from its beginning and has come to a phase. -/
inductive Follows : Journal → ReleasePhase → Prop
  | start : Follows [] .unreleased
  | turn {journal : Journal} {before phase : ReleasePhase} {event : Event}
      (past : Follows journal before) (step : before.Turns event phase) :
    Follows (journal ++ [event]) phase

def Succeeded (journal : Journal) : Prop := .released (.ok (.ok ())) ∈ journal

def BrokeOff (journal : Journal) : Prop := ∃ left, .released (.error left) ∈ journal

/-- Somebody other than the backend asked for its release and was told that it was released. -/
def Confirmed (journal : Journal) : Prop := ∃ counted, .answered (.ok ()) counted ∈ journal

section Concat

variable {journal : Journal} {event : Event}

theorem succeeded_concat :
    Succeeded (journal ++ [event]) ↔ journal.Succeeded ∨ event = .released (.ok (.ok ())) := by
  simp [Succeeded, eq_comm]

theorem brokeOff_concat :
    BrokeOff (journal ++ [event]) ↔ journal.BrokeOff ∨ ∃ left, event = .released (.error left) := by
  simp [BrokeOff, exists_or, eq_comm]

theorem confirmed_concat :
    Confirmed (journal ++ [event]) ↔
      journal.Confirmed ∨ ∃ counted, event = .answered (.ok ()) counted := by
  simp [Confirmed, exists_or, eq_comm]

end Concat

end Journal

/-- The ways of one release: whether the backend counted as released before, how the release ends,
the events that it adds, and whether the backend counts as released afterwards. -/
inductive Host.Round (host : Host) :
    Bool → Except Crash (Except Failure Unit) → Journal → Bool → Prop
  | idle : Round host true (.ok (.ok ())) [.answered (.ok ()) true] true
  | settled {inner : Journal} {outcome : Except Failure Unit}
      (nested : ∀ e ∈ inner, e.isInner = true)
      (called : inner.filterMap Event.closing? = host.backend.leaves)
      (all : outcome = .ok () → ∀ leaf ∈ host.backend.leaves,
        .closed leaf (.ok (.ok ())) ∈ inner) :
    Round host false (.ok outcome)
      (.releasing :: inner ++ [.released (.ok outcome), .answered outcome outcome.isOk])
      outcome.isOk
  | broken {inner : Journal} {left : Crash}
      (nested : ∀ e ∈ inner, e.isInner = true)
      (origin : ∃ leaf ∈ host.backend.leaves, ∃ attempt,
        ((host.catalogue.leaf leaf).close attempt).ended = .error left) :
    Round host false (.error left) (.releasing :: inner ++ [.released (.error left)]) true

/-- A release leads from one world to another: it goes one of the ways, and nothing else happens to
sessions and bindings. -/
structure Host.Releases (host : Host) (w : World) (ended : Except Crash (Except Failure Unit))
    (w' : World) : Prop where
  round : ∃ events, host.Round w.released ended events w'.released ∧
    w'.journal = w.journal ++ events
  sessions : w'.sessions = w.sessions
  bindings : w'.bindings = w.bindings

namespace Host

variable {host : Host} {w w' : World} {depth : Nat}

private theorem releaseWithin_of_crash {left : Crash} (free : w.released = false)
    (closed : (host.backend.close host.catalogue (host.releaseWithin depth)).on
      ((w.mark true).record .releasing) = (.error left, w')) :
    (host.releaseWithin (depth + 1)).on w =
      (.error left, w'.record (.released (.error left))) := by
  have noted : (Run.noteEnd .released
      (host.backend.close host.catalogue (host.releaseWithin depth))).on
        ((w.mark true).record .releasing) = (.error left, w'.record (.released (.error left))) := by
    rw [Run.on_noteEnd, closed]
  rw [releaseWithin, Run.on_bind_of_ok Run.on_get, if_neg (by simp [free]),
    Run.on_bind_of_ok (Run.on_modify _), Run.on_bind_of_ok (Run.on_note _)]
  exact Run.on_bind_of_error noted

theorem releaseWithin_of_outcome {outcome : Except Failure Unit}
    (free : w.released = false)
    (closed : (host.backend.close host.catalogue (host.releaseWithin depth)).on
      ((w.mark true).record .releasing) = (.ok outcome, w')) (counted : w'.released = true) :
    (host.releaseWithin (depth + 1)).on w =
      (.ok outcome, (w'.record (.released (.ok outcome))).mark outcome.isOk) := by
  have noted : (Run.noteEnd .released
      (host.backend.close host.catalogue (host.releaseWithin depth))).on
        ((w.mark true).record .releasing) = (.ok outcome, w'.record (.released (.ok outcome))) := by
    rw [Run.on_noteEnd, closed]
  rw [releaseWithin, Run.on_bind_of_ok Run.on_get, if_neg (by simp [free]),
    Run.on_bind_of_ok (Run.on_modify _), Run.on_bind_of_ok (Run.on_note _),
    Run.on_bind_of_ok noted]
  cases outcome with
  | error failure => exact Run.on_bind_of_ok (Run.on_modify _)
  | ok success =>
    cases w' with
    | mk sessions bindings released journal log =>
      cases counted
      rfl

theorem releases_release (host : Host) (w : World) :
    host.Releases w (host.release.on w).1 (host.release.on w).2 := by
  cases counted : w.released with
  | true =>
    have run : host.release.on w = (.ok (.ok ()), w.record (.answered (.ok ()) true)) := by
      rw [release, Run.on_bind_of_ok (host.releaseWithin_idle 1 w counted),
        Run.on_bind_of_ok Run.on_get, Run.on_bind_of_ok (Run.on_note _), counted, Run.on_pure]
    rw [run]
    exact ⟨⟨_, by simpa [counted] using Round.idle, rfl⟩, rfl, rfl⟩
  | false =>
    let start := (w.mark true).record .releasing
    have visits : Backend.Visits host.catalogue host.backend.leaves (· = .ok ()) start
        ((host.backend.close host.catalogue (host.releaseWithin 0)).on start).1
        ((host.backend.close host.catalogue (host.releaseWithin 0)).on start).2 :=
      Backend.visits_close (host.releaseWithin_idle 0) host.backend start rfl
    cases closed : (host.backend.close host.catalogue (host.releaseWithin 0)).on
        ((w.mark true).record .releasing) with
    | mk result w' =>
      rw [closed] at visits
      obtain ⟨inner, grown, nested, all⟩ := visits.journal
      have journal : w'.journal = w.journal ++ .releasing :: inner := by
        rw [grown]
        exact List.append_assoc w.journal [.releasing] inner
      cases result with
      | error left =>
        rw [release, Run.on_bind_of_error (releaseWithin_of_crash counted closed)]
        have round : host.Round w.released (.error left)
            (.releasing :: inner ++ [.released (.error left)]) w'.released := by
          rw [counted, visits.released]
          exact .broken nested (visits.crash left rfl)
        refine ⟨⟨_, round, ?_⟩, visits.sessions, visits.bindings⟩
        simp [journal]
      | ok outcome =>
        rw [release, Run.on_bind_of_ok (releaseWithin_of_outcome counted closed visits.released),
          Run.on_bind_of_ok Run.on_get, Run.on_bind_of_ok (Run.on_note _), Run.on_pure]
        obtain ⟨called, closed⟩ := all outcome rfl
        have round : host.Round w.released (.ok outcome)
            (.releasing :: inner ++ [.released (.ok outcome), .answered outcome outcome.isOk])
            outcome.isOk := counted ▸ .settled nested called closed
        refine ⟨⟨_, round, ?_⟩, visits.sessions, visits.bindings⟩
        simp [journal]

end Host

namespace Journal.Follows

variable {journal : Journal} {phase : ReleasePhase}

theorem inner (past : Follows journal .closing) {events : List Event}
    (nested : ∀ e ∈ events, e.isInner = true) : Follows (journal ++ events) .closing := by
  induction events generalizing journal with
  | nil => simpa using past
  | cons event rest ih =>
    have next : Follows (journal ++ [event]) .closing :=
      past.turn (.inner (nested event List.mem_cons_self))
    have all := ih next fun e he => nested e (List.mem_cons_of_mem _ he)
    simpa using all

theorem operations {counted : Bool} (past : Follows journal phase) (rest : phase.AtRest counted)
    {events : List Event} (foreign : ∀ e ∈ events, e.operation?.isSome = true)
    (ends : ∀ e ∈ events, e.endsSession = true → counted = true) :
    Follows (journal ++ events) phase := by
  induction events generalizing journal with
  | nil => simpa using past
  | cons event later ih =>
    have own := foreign event List.mem_cons_self
    have next : Follows (journal ++ [event]) phase := by
      cases claims : event.endsSession with
      | false => exact past.turn (.aside rest own claims)
      | true =>
        have released := ends event List.mem_cons_self claims
        exact past.turn (.endSession (released ▸ rest) own claims)
    have all := ih next (fun e he => foreign e (List.mem_cons_of_mem _ he))
      fun e he => ends e (List.mem_cons_of_mem _ he)
    simpa using all

theorem round {host : Host} {counted counts : Bool} {ended : Except Crash (Except Failure Unit)}
    {events : Journal} (past : Follows journal phase) (rest : phase.AtRest counted)
    (round : host.Round counted ended events counts) :
    ∃ next, Follows (journal ++ events) next ∧ next.AtRest counts := by
  have fresh : counted = false → phase = .unreleased := by
    rintro rfl
    cases phase <;> simp_all [ReleasePhase.AtRest]
  cases round with
  | idle => exact ⟨phase, past.turn (.again rest), rest⟩
  | @settled inner outcome nested called all =>
    cases fresh rfl
    have ended : Follows _ (.ended outcome) := ((past.turn .begin).inner nested).turn .finish
    cases outcome with
    | ok success =>
      have confirmed := ended.turn .confirm
      exact ⟨.released, by simpa [Except.isOk, Except.toBool] using confirmed, rfl⟩
    | error failure =>
      have denied := ended.turn .deny
      exact ⟨.unreleased, by simpa [Except.isOk, Except.toBool] using denied, rfl⟩
  | @broken inner left nested origin =>
    cases fresh rfl
    have ended : Follows (journal ++ [.releasing] ++ inner ++ [.released (.error left)])
        .abandoned := ((past.turn .begin).inner nested).turn .breakOff
    exact ⟨.abandoned, by simpa using ended, rfl⟩

theorem turn_of_prefix {early : Journal} {event : Event} (past : Follows journal phase)
    (h : early ++ [event] <+: journal) :
    ∃ before after, Follows early before ∧ before.Turns event after := by
  -- The event is the last one of the journal, or a prefix without the last one has it.
  induction past with
  | start => simp at h
  | @turn journal before phase last past step ih =>
    rcases List.prefix_concat_iff.1 h with whole | part
    · obtain ⟨rfl, last⟩ := List.append_inj' whole rfl
      cases last
      exact ⟨before, phase, past, step⟩
    · exact ih part

theorem succeeded_iff (past : Follows journal phase) :
    journal.Succeeded ↔ phase = .released ∨ phase = .ended (.ok ()) := by
  induction past with
  | start => simp [Journal.Succeeded]
  | @turn journal before phase event past step ih =>
    rw [Journal.succeeded_concat, ih]
    cases step with
    | @aside _ _ event rest foreign silent => cases event <;> simp_all [Event.operation?]
    | @endSession _ event rest foreign ends => cases event <;> simp_all [Event.operation?]
    | @inner event nested => cases event <;> simp_all [Event.isInner]
    | again rest => simp
    | finish => simp [eq_comm]
    | begin => simp
    | breakOff => simp
    | confirm => simp
    | deny => simp

theorem brokeOff_iff (past : Follows journal phase) :
    journal.BrokeOff ↔ phase = .abandoned := by
  induction past with
  | start => simp [Journal.BrokeOff]
  | @turn journal before phase event past step ih =>
    rw [Journal.brokeOff_concat, ih]
    cases step with
    | @aside _ _ event rest foreign silent => cases event <;> simp_all [Event.operation?]
    | @endSession _ event rest foreign ends => cases event <;> simp_all [Event.operation?]
    | @inner event nested => cases event <;> simp_all [Event.isInner]
    | again rest => simp
    | finish => simp
    | begin => simp
    | breakOff => simp
    | confirm => simp
    | deny => simp

theorem confirmed_of_released (past : Follows journal phase) (h : phase = .released) :
    journal.Confirmed := by
  induction past with
  | start => cases h
  | @turn journal before phase event past step ih =>
    rw [Journal.confirmed_concat]
    cases step with
    | aside rest foreign silent => exact .inl (ih h)
    | endSession rest foreign ends => exact .inl (ih h)
    | confirm => exact .inr ⟨true, rfl⟩
    | again rest => exact .inr ⟨true, rfl⟩
    | begin => cases h
    | inner nested => cases h
    | finish => cases h
    | breakOff => cases h
    | deny => cases h

theorem counts_of_confirmed (past : Follows journal phase) (h : journal.Confirmed) :
    phase.AtRest true := by
  induction past with
  | start => simp [Journal.Confirmed] at h
  | @turn journal before phase event past step ih =>
    rw [Journal.confirmed_concat] at h
    cases step with
    | @aside _ _ event rest foreign silent =>
      refine ih (h.resolve_right ?_)
      rintro ⟨counted, rfl⟩
      cases foreign
    | endSession rest foreign ends => exact rest
    | @inner event nested =>
      have early : journal.Confirmed := h.resolve_right (by
        rintro ⟨counted, rfl⟩
        cases nested)
      cases ih early
    | confirm => rfl
    | again rest => exact rest
    | begin => cases ih (by simpa using h)
    | finish => cases ih (by simpa using h)
    | breakOff => rfl
    | deny => cases ih (by simpa using h)

theorem settled_of_atRest (past : Follows journal phase) (rest : phase.AtRest true) :
    journal.Succeeded ∨ journal.BrokeOff := by
  rw [past.succeeded_iff, past.brokeOff_iff]
  cases phase with
  | unreleased => cases rest
  | closing => cases rest
  | ended outcome => cases rest
  | released => exact .inl (.inl rfl)
  | abandoned => exact .inr rfl

/-- Nobody is told that the backend was released before a release succeeded or broke off. -/
theorem settled_of_prefix {early : Journal} {event : Event} (past : Follows journal phase)
    (h : early ++ [event] <+: journal) (tells : event.tellsRelease = true) :
    early.Succeeded ∨ early.BrokeOff := by
  obtain ⟨before, after, past, step⟩ := past.turn_of_prefix h
  cases step with
  | aside rest foreign silent => cases event <;> simp_all [Event.operation?, Event.tellsRelease]
  | endSession rest foreign ends => exact past.settled_of_atRest rest
  | inner nested =>
    cases event <;> simp_all [Event.isInner, Event.tellsRelease, Event.endsSession]
  | confirm => exact .inl (past.succeeded_iff.2 (.inr rfl))
  | again rest => exact past.settled_of_atRest rest
  | begin => cases tells
  | finish => cases tells
  | breakOff => cases tells
  | deny => cases tells

end Journal.Follows

def World.InOrder (w : World) : Prop :=
  ∃ phase, w.journal.Follows phase ∧ phase.AtRest w.released

namespace World.InOrder

variable {w w' : World}

theorem counted_iff (order : w.InOrder) :
    w.released = true ↔ w.journal.Succeeded ∨ w.journal.BrokeOff := by
  obtain ⟨phase, past, rest⟩ := order
  rw [past.succeeded_iff, past.brokeOff_iff]
  cases phase with
  | unreleased => simp [show w.released = false from rest]
  | closing => cases rest
  | ended outcome => cases rest
  | released => simp [show w.released = true from rest]
  | abandoned => simp [show w.released = true from rest]

theorem not_succeeded_of_brokeOff (order : w.InOrder) (h : w.journal.BrokeOff) :
    ¬ w.journal.Succeeded := by
  obtain ⟨phase, past, rest⟩ := order
  cases past.brokeOff_iff.1 h
  simp [past.succeeded_iff]

theorem confirmed_iff (order : w.InOrder) (calm : ¬ w.journal.BrokeOff) :
    w.journal.Confirmed ↔ w.journal.Succeeded := by
  obtain ⟨phase, past, rest⟩ := order
  rw [past.succeeded_iff]
  rw [past.brokeOff_iff] at calm
  constructor
  · intro confirmed
    have counts := past.counts_of_confirmed confirmed
    cases phase <;> simp_all [ReleasePhase.AtRest]
  · rintro (rfl | rfl)
    · exact past.confirmed_of_released rfl
    · cases rest

theorem append (order : w.InOrder) {events : List Event}
    (journal : w'.journal = w.journal ++ events) (released : w'.released = w.released)
    (foreign : ∀ e ∈ events, e.operation?.isSome = true)
    (ends : ∀ e ∈ events, e.endsSession = true → w.released = true) : w'.InOrder := by
  obtain ⟨phase, past, rest⟩ := order
  have later : Journal.Follows (w.journal ++ events) phase := past.operations rest foreign ends
  exact ⟨phase, journal ▸ later, released ▸ rest⟩

theorem release {host : Host} {ended : Except Crash (Except Failure Unit)} (order : w.InOrder)
    (step : host.Releases w ended w') : w'.InOrder := by
  obtain ⟨phase, past, rest⟩ := order
  obtain ⟨events, round, journal⟩ := step.round
  rw [World.InOrder, journal]
  exact past.round rest round

end World.InOrder

end RpcRouting
