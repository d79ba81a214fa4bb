import RpcRouting.Proofs.Release.Course
/-!
The exact protocol of releases that end. Every release from outside makes one call of the backend
until one has succeeded, and none after that; every release from within a call is answered at once.
-/

set_option autoImplicit false
set_option relaxedAutoImplicit false

namespace RpcRouting

/-- No release of a single backend breaks off. -/
def Host.Calm (host : Host) : Prop :=
  ∀ leaf ∈ host.backend.leaves, ∀ attempt, ∃ outcome,
    ((host.catalogue.leaf leaf).close attempt).ended = .ok outcome

/-- What a release from outside comes to that is asked for through an entry: the outcome that is
told, and the events about the backend. -/
inductive Router.Answers (r : Router) (w : World) : Except Failure Unit → Journal → Prop
  /-- Somebody was told before that the backend was released. The backend is left alone. -/
  | again (confirmed : w.journal.Confirmed) : Answers r w (.ok ()) [.answered (.ok ()) true]
  /-- Each single backend is called once, in order, and nothing but that happens until it is
  answered: whoever asks meanwhile from within is told that the backend was released. -/
  | called {inner : Journal} {outcome : Except Failure Unit} (open' : ¬ w.journal.Confirmed)
      (nested : ∀ e ∈ inner, e.isInner = true)
      (once : inner.filterMap Event.closing? = r.host.backend.leaves) :
    Answers r w outcome
      (.releasing :: inner ++ [.released (.ok outcome), .answered outcome outcome.isOk])

/-- The releases of a world went as the protocol says, and the next one will. -/
structure Router.ReleasesExactly (r : Router) (w : World) : Prop where
  follows : w.journal.Follows (if w.released then .released else .unreleased)
  flag : w.released = true ↔ w.journal.Confirmed
  stays : w.released = true → ∀ calls, (r.after calls w).released = true
  asked : ∀ entry : Entry, entry.Reaches r w → ∃ outcome events,
    r.Answers w outcome events ∧ ((entry.ask r).run w).1 = entry.telling r (.ok outcome) ∧
      ((entry.ask r).run w).2.journal.releases = w.journal.releases ++ events ∧
      ((entry.ask r).run w).2.released = outcome.isOk
  handled : ∀ request start, ((Builtin.handleCloseSession r.host request).on start).1 =
    Builtin.closeEnd r.host request (r.host.release.on start).1
  deep : ∀ depth start, (r.host.releaseWithin (depth + 1)).on start =
    (r.host.releaseWithin 1).on start

namespace Host.Calm

variable {host : Host} {w : World}

theorem not_brokeOff (calm : host.Calm) (consistent : host.Consistent w) :
    ¬ w.journal.BrokeOff := by
  rintro ⟨left, member⟩
  obtain ⟨leaf, own, attempt, crashed⟩ := consistent.crash left member
  obtain ⟨outcome, ended⟩ := calm leaf own attempt
  rw [crashed] at ended
  cases ended

theorem released_iff (calm : host.Calm) (consistent : host.Consistent w) :
    w.released = true ↔ w.journal.Confirmed := by
  have whole := calm.not_brokeOff consistent
  rw [consistent.order.confirmed_iff whole, consistent.order.counted_iff]
  exact or_iff_left whole

theorem follows (calm : host.Calm) (consistent : host.Consistent w) :
    w.journal.Follows (if w.released then .released else .unreleased) := by
  have whole := calm.not_brokeOff consistent
  obtain ⟨phase, past, rest⟩ := consistent.order
  rw [past.brokeOff_iff] at whole
  cases phase with
  | unreleased => rwa [show w.released = false from rest]
  | closing => cases rest
  | ended outcome => cases rest
  | released => rwa [show w.released = true from rest]
  | abandoned => exact absurd rfl whole

end Host.Calm

namespace Router

variable {r : Router} {w : World}

private theorem asked_of_calm (calm : r.host.Calm) (consistent : r.host.Consistent w)
    {entry : Entry} (reaches : entry.Reaches r w) :
    ∃ outcome events, r.Answers w outcome events ∧
      ((entry.ask r).run w).1 = entry.telling r (.ok outcome) ∧
      ((entry.ask r).run w).2.journal.releases = w.journal.releases ++ events ∧
      ((entry.ask r).run w).2.released = outcome.isOk := by
  have flag := calm.released_iff consistent
  obtain ⟨ended, events, round, told, journal⟩ := Entry.ask_of_reaches reaches
  generalize counted : w.released = before at round flag
  generalize counts : ((entry.ask r).run w).2.released = after at round ⊢
  cases round with
  | idle => exact ⟨.ok (), _, .again (flag.1 rfl), told, journal, rfl⟩
  | @settled inner outcome nested called all =>
    have open' : ¬ w.journal.Confirmed := fun confirmed => nomatch flag.2 confirmed
    exact ⟨outcome, _, .called open' nested called, told, journal, rfl⟩
  | @broken inner left nested origin =>
    obtain ⟨leaf, own, attempt, crashed⟩ := origin
    obtain ⟨outcome, ends⟩ := calm leaf own attempt
    rw [crashed] at ends
    cases ends

private theorem handled_closeSession (request : Document) (start : World) :
    ((Builtin.handleCloseSession r.host request).on start).1 =
      Builtin.closeEnd r.host request (r.host.release.on start).1 := by
  have released : r.host.release.on start =
      ((r.host.release.on start).1, (r.host.release.on start).2) := rfl
  obtain ⟨stop, events, run, -⟩ := Builtin.closeSession_on request released
  rw [Run.on_noteEnd] at run
  exact congrArg Prod.fst run

/-- If no release breaks off, then the releases of every course go as the protocol says. -/
theorem releasesExactly_after (r : Router) (calm : r.host.Calm) (threshold : Option Level)
    (calls : List Call) : r.ReleasesExactly (r.after calls (.initial threshold)) := by
  have consistent := r.consistent_after threshold calls
  generalize r.after calls (.initial threshold) = w at consistent
  refine ⟨calm.follows consistent, calm.released_iff consistent, fun released more => ?_,
    fun entry reaches => asked_of_calm calm consistent reaches, handled_closeSession,
    r.host.releaseWithin_succ⟩
  have advances : r.host.Advances w (r.after more w) := advances_after more
  obtain ⟨counted, member⟩ := (calm.released_iff consistent).1 released
  have later : (r.after more w).journal.Confirmed := ⟨counted, advances.grown.subset member⟩
  exact (calm.released_iff (advances.consistent consistent)).2 later

/-- Two backends as one, which ask again while they are released. The first one fails at first. -/
def stubborn : Router where
  registry := .ofHost
    { catalogue :=
        { operation := fun _ => .idle
          leaf := fun key => ⟨[], fun attempt => .reenter fun _ _ => .finish
            (if key.value = 0 ∧ attempt = 1 then .error (.cause "busy") else .ok ())⟩ }
      sessionId := ⟨1⟩
      backend := .aggregate [.leaf ⟨0⟩, .leaf ⟨1⟩] }
  limit := defaultLimit

/-- A release fails, a request for the end of the session releases the backend after all, and
another release finds nothing left to do. -/
def stubbornCalls : List Call :=
  [.ask .router, .begin ⟨1⟩,
    .ask (.routed (.request "1" (.within "close-session" baseNamespace)) ⟨0, ⟨1⟩⟩), .ask .registry]

theorem releasesExactly_after_retry :
    stubborn.host.Calm ∧
      stubborn.ReleasesExactly (stubborn.after (stubbornCalls.take 1) (.initial none)) ∧
      (stubborn.after (stubbornCalls.take 1) (.initial none)).released = false ∧
      stubborn.ReleasesExactly (stubborn.after stubbornCalls (.initial none)) ∧
      (stubborn.after stubbornCalls (.initial none)).released = true := by
  have calm : stubborn.host.Calm := by
    intro leaf member attempt
    exact ⟨_, rfl⟩
  exact ⟨calm, releasesExactly_after stubborn calm none (stubbornCalls.take 1), rfl,
    releasesExactly_after stubborn calm none stubbornCalls, rfl⟩

end Router

end RpcRouting
