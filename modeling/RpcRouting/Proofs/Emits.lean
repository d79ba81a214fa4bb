import RpcRouting.Proofs.Release.Protocol
/-!
What a run adds to the journal, together with how it ends.
-/

set_option autoImplicit false
set_option relaxedAutoImplicit false

namespace RpcRouting

variable {α β : Type}

namespace Run

/-- From every world the run adds events that are related to how it ends. -/
def Emits (x : Run α) (P : Except Crash α → Journal → Prop) : Prop :=
  ∀ w, ∃ events, (x.on w).2.journal = w.journal ++ events ∧ P (x.on w).1 events

variable {P : Except Crash α → Journal → Prop} {Q : Except Crash β → Journal → Prop}

theorem Emits.of_silent {x : Run α} (silent : ∀ w, (x.on w).2.journal = w.journal)
    (ends : ∀ w, P (x.on w).1 []) : x.Emits P := by
  intro w
  exact ⟨[], by rw [silent, List.append_nil], ends w⟩

theorem Emits.pure {a : α} (ends : P (.ok a) []) : (Pure.pure a : Run α).Emits P :=
  .of_silent (fun _ => rfl) fun _ => ends

theorem Emits.throw {left : Crash} (ends : P (.error left) []) :
    (MonadExceptOf.throw left : Run α).Emits P :=
  .of_silent (fun _ => rfl) fun _ => ends

theorem Emits.mono {P' : Except Crash α → Journal → Prop} {x : Run α} (emits : x.Emits P)
    (weaker : ∀ ended events, P ended events → P' ended events) : x.Emits P' := by
  intro w
  obtain ⟨events, journal, holds⟩ := emits w
  exact ⟨events, journal, weaker _ _ holds⟩

theorem Emits.bind {x : Run α} {f : α → Run β} (first : x.Emits P)
    (broken : ∀ left events, P (.error left) events → Q (.error left) events)
    (next : ∀ a before, P (.ok a) before →
      (f a).Emits fun ended after => Q ended (before ++ after)) : (x >>= f).Emits Q := by
  intro w
  obtain ⟨before, journal, holds⟩ := first w
  cases run : x.on w with
  | mk ended w' =>
    rw [run] at journal holds
    cases ended with
    | error left =>
      rw [on_bind_of_error run]
      exact ⟨before, journal, broken left before holds⟩
    | ok a =>
      rw [on_bind_of_ok run]
      obtain ⟨after, journal', holds'⟩ := next a before holds w'
      exact ⟨before ++ after, by rw [journal', journal, List.append_assoc], holds'⟩

theorem Emits.read {f : World → Run β} (next : ∀ w, (f w).Emits Q) : (get >>= f).Emits Q := by
  intro w
  rw [on_bind_of_ok on_get]
  exact next w w

theorem Emits.note {event : Event} {f : Unit → Run β}
    (next : (f ()).Emits fun ended after => Q ended (event :: after)) :
    (Run.note event >>= f).Emits Q := by
  intro w
  rw [on_bind_of_ok (on_note event)]
  obtain ⟨after, journal, holds⟩ := next (w.record event)
  exact ⟨event :: after, by rw [journal, World.record_journal, List.append_assoc]; rfl, holds⟩

theorem Emits.log {line : Record} {f : Unit → Run β} (next : (f ()).Emits Q) :
    (Run.log line >>= f).Emits Q := by
  intro w
  rw [on_bind_of_ok (on_log line)]
  exact next (w.emit line)

theorem Emits.consult {operation : Operation} {action : Option SessionAction}
    {f : Option Session → Run β}
    (next : ∀ seen, (f seen).Emits fun ended after =>
      Q ended (.consulted operation seen action :: after)) :
    (Run.consult operation action >>= f).Emits Q := by
  intro w
  obtain ⟨w', consulted, journal, -⟩ := on_consult operation action w
  rw [on_bind_of_ok consulted]
  obtain ⟨after, journal', holds⟩ := next (w.seenBy operation) w'
  exact ⟨_ :: after, by rw [journal', journal, List.append_assoc]; rfl, holds⟩

theorem Emits.noteEnd {event : Except Crash α → Event} {x : Run α}
    (emits : x.Emits fun ended events => P ended (events ++ [event ended])) :
    (Run.noteEnd event x).Emits P := by
  intro w
  obtain ⟨events, journal, holds⟩ := emits w
  rw [on_noteEnd]
  refine ⟨events ++ [event (x.on w).1], ?_, holds⟩
  rw [World.record_journal, journal, List.append_assoc]

end Run

theorem Host.emits_release (host : Host) :
    host.release.Emits fun ended events =>
      ∃ counted counts, host.Round counted ended events counts := by
  intro w
  obtain ⟨events, round, journal⟩ := (host.releases_release w).round
  exact ⟨events, journal, _, _, round⟩

end RpcRouting
