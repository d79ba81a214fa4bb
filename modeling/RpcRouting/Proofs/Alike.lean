import RpcRouting.Proofs.Lockstep
import RpcRouting.Proofs.Selection.Ranking
/-!
Worlds that nobody can tell apart. An operation knows its own history, its own session and nothing
of other operations, and a single backend knows how often it was released; so two worlds may differ
in the order of events and in their logs, and everything goes on alike in both.
-/

set_option autoImplicit false
set_option relaxedAutoImplicit false

namespace RpcRouting

variable {operation : Operation} {w w' : World}

namespace World

/-- Two worlds look the same to all operations and to all backends. Their logs may differ, and so
may the order in which different operations went through their histories. -/
structure Alike (w w' : World) : Prop where
  looks : ∀ operation, LooksSame operation w w'
  closings : ∀ leaf, w'.journal.closings leaf = w.journal.closings leaf
  released : w'.released = w.released

namespace Alike

theorem refl (w : World) : w.Alike w := ⟨fun o => .refl o w, fun _ => rfl, rfl⟩

theorem symm (alike : w.Alike w') : w'.Alike w :=
  ⟨fun o => (alike.looks o).symm, fun leaf => (alike.closings leaf).symm, alike.released.symm⟩

theorem sessions (alike : w.Alike w') : w'.sessions = w.sessions :=
  (alike.looks (.builtin .closeSession)).sessions

theorem record (alike : w.Alike w') (event : Event) : (w.record event).Alike (w'.record event) := by
  refine ⟨fun o => (alike.looks o).record_both event, fun leaf => ?_, alike.released⟩
  rw [World.record_journal, World.record_journal, Journal.closings_append,
    Journal.closings_append, alike.closings leaf]

theorem bind (alike : w.Alike w') (operation : Operation) (session : SessionKey) :
    (w.bind operation session).Alike (w'.bind operation session) := by
  refine ⟨fun o => ⟨(alike.looks o).journal, ?_, alike.sessions⟩, alike.closings, alike.released⟩
  simp only [World.bind, (alike.looks o).binding]

theorem of_logged {v v' : World} (alike : w.Alike w') (first : v = w ∨ ∃ line, v = w.emit line)
    (second : v' = w' ∨ ∃ line, v' = w'.emit line) : v.Alike v' := by
  rcases first with rfl | ⟨line, rfl⟩ <;> rcases second with rfl | ⟨line', rfl⟩ <;>
    exact ⟨fun o => ⟨(alike.looks o).journal, (alike.looks o).binding, (alike.looks o).sessions⟩,
      alike.closings, alike.released⟩

end Alike

/-- Two worlds have gone on alike from two earlier ones: the same events were added. -/
def WentOn (early early' w w' : World) : Prop :=
  w.Alike w' ∧ ∃ events, w.journal = early.journal ++ events ∧ w'.journal = early'.journal ++ events

theorem lockstep_wentOn (host : Host) (early early' : World) :
    Lockstep host (WentOn early early') where
  released related := related.1.released
  seen operation related := (related.1.looks operation).seen
  history key related := .of_eq _ (related.1.looks (.contributed key)).journal
  closings leaf related := related.1.closings leaf
  record event := by
    rintro ⟨alike, events, journal, journal'⟩
    refine ⟨alike.record event, events ++ [event], ?_, ?_⟩
    · rw [World.record_journal, journal, List.append_assoc]
    · rw [World.record_journal, journal', List.append_assoc]
  emit line := by
    rintro ⟨alike, grown⟩
    exact ⟨alike.of_logged (.inr ⟨line, rfl⟩) (.inr ⟨line, rfl⟩), grown⟩
  bind operation session := by
    rintro ⟨alike, grown⟩
    exact ⟨alike.bind operation session, grown⟩
  act session action := by
    rintro ⟨alike, grown⟩
    have sessions := congrArg (·.act session action) alike.sessions
    exact ⟨⟨fun o => ⟨(alike.looks o).journal, (alike.looks o).binding, sessions⟩,
      alike.closings, alike.released⟩, grown⟩
  mark counted := by
    rintro ⟨alike, grown⟩
    exact ⟨⟨fun o => ⟨(alike.looks o).journal, (alike.looks o).binding, alike.sessions⟩,
      alike.closings, rfl⟩, grown⟩

end World

end RpcRouting
