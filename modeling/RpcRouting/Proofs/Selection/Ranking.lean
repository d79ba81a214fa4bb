import RpcRouting.Proofs.Selection.Tally
import RpcRouting.Proofs.Steps
/-!
Collecting candidates from operations that answer. What an operation answers depends on its own
history and its own binding only, so that each one answers as if it were the only one.
-/

set_option autoImplicit false
set_option relaxedAutoImplicit false

namespace RpcRouting

variable {host : Host} {request : Document} {session : SessionKey} {w w' : World}
  {operation other : Operation} {operations : List Operation}

/-- Two worlds look the same to an operation: it has the same history and the same binding, and the
sessions are the same. -/
structure World.LooksSame (operation : Operation) (w w' : World) : Prop where
  journal : w'.journal.of operation = w.journal.of operation
  binding : w'.bindings operation = w.bindings operation
  sessions : w'.sessions = w.sessions

namespace World.LooksSame

theorem refl (operation : Operation) (w : World) : LooksSame operation w w := ⟨rfl, rfl, rfl⟩

theorem trans {u v w : World} (first : LooksSame operation u v)
    (second : LooksSame operation v w) : LooksSame operation u w :=
  ⟨second.journal.trans first.journal, second.binding.trans first.binding,
    second.sessions.trans first.sessions⟩

theorem seen (same : LooksSame operation w w') : w'.seenBy operation = w.seenBy operation := by
  rw [World.seenBy, World.seenBy, same.binding, same.sessions]

theorem record {event : Event} (foreign : event.operation? ≠ some operation) :
    LooksSame operation w (w.record event) := by
  refine ⟨?_, rfl, rfl⟩
  rw [World.record_journal, Journal.of, List.filter_append, List.filter_cons_of_neg (by simpa)]
  exact List.append_nil _

theorem bind (distinct : operation ≠ other) : LooksSame operation w (w.bind other session) :=
  ⟨rfl, if_neg distinct, rfl⟩

theorem symm (same : LooksSame operation w w') : LooksSame operation w' w :=
  ⟨same.journal.symm, same.binding.symm, same.sessions.symm⟩

theorem record_both (same : LooksSame operation w w') (event : Event) :
    LooksSame operation (w.record event) (w'.record event) := by
  refine ⟨?_, same.binding, same.sessions⟩
  rw [World.record_journal, World.record_journal, Journal.of_append, Journal.of_append,
    same.journal]

end World.LooksSame

namespace Operation

theorem answer_congr (same : World.LooksSame operation w w') :
    operation.answer host w' request = operation.answer host w request := by
  cases operation with
  | builtin b => rfl
  | contributed key => rw [answer, answer, same.journal, same.seen]

theorem bindCrash?_congr (same : World.LooksSame operation w w') :
    operation.bindCrash? host w' session = operation.bindCrash? host w session := by
  cases operation with
  | builtin b => rfl
  | contributed key => rw [bindCrash?, bindCrash?, same.journal]

/-- The world after the operation alone was given the session, if it requires one. -/
def prepared (host : Host) (session : SessionKey) (w : World) (operation : Operation) : World :=
  if operation.requiresSession host then
    (w.record (.bound operation session none)).bind operation session
  else w

theorem looksSame_prepared (distinct : operation ≠ other) :
    World.LooksSame operation w (other.prepared host session w) := by
  rw [prepared]
  split
  · have foreign : (Event.bound other session none).operation? ≠ some operation := by
      simpa [Event.operation?] using distinct.symm
    exact (World.LooksSame.record foreign).trans (.bind distinct)
  · exact .refl operation w

theorem prepared_congr (same : World.LooksSame operation w w') :
    World.LooksSame operation (operation.prepared host session w)
      (operation.prepared host session w') := by
  rw [prepared, prepared]
  split
  · exact ⟨(same.record_both _).journal, by simp [World.bind], same.sessions⟩
  · exact same

/-- The world after the operation alone was asked for its rank. -/
def asked (host : Host) (request : Document) (w : World) (operation : Operation) : World :=
  w.record (.probed operation request (w.seenBy operation) (operation.answer host w request))

theorem looksSame_asked (distinct : operation ≠ other) :
    World.LooksSame operation w (other.asked host request w) := by
  refine .record ?_
  simpa [Event.operation?] using distinct.symm

theorem asked_congr (same : World.LooksSame operation w w') :
    World.LooksSame operation (operation.asked host request w)
      (operation.asked host request w') := by
  rw [asked, asked, same.seen, Operation.answer_congr same]
  exact same.record_both _

end Operation

def Conflict.report (host : Host) (rank : Operation → Priority) :
    Except (Operation × Operation) Candidates → Except Conflict Candidates
  | .ok candidates => .ok candidates
  | .error (existing, conflicting) =>
    .error ⟨rank conflicting, existing.name host, conflicting.name host⟩

namespace Router

theorem bindAll_on {operations : List Operation} (nodup : operations.Nodup)
    (calm : ∀ o ∈ operations, o.requiresSession host = true →
      o.bindCrash? host w session = none) :
    ∃ w', (bindAll host session operations).on w = (.ok (), w') ∧
      (∀ o ∈ operations, World.LooksSame o (o.prepared host session w) w') ∧
      ∀ o, o ∉ operations → World.LooksSame o w w' := by
  induction operations generalizing w with
  | nil => exact ⟨w, rfl, by simp, fun o _ => .refl o w⟩
  | cons operation rest ih =>
    obtain ⟨fresh, nodup⟩ := List.nodup_cons.1 nodup
    let next := operation.prepared host session w
    have apart : ∀ o ∈ rest, o ≠ operation := fun o member same => fresh (same ▸ member)
    have later : ∀ o ∈ rest, World.LooksSame o w next :=
      fun o member => Operation.looksSame_prepared (apart o member)
    have still : ∀ o ∈ rest, o.requiresSession host = true →
        o.bindCrash? host next session = none := by
      intro o member requires
      rw [Operation.bindCrash?_congr (later o member)]
      exact calm o (List.mem_cons_of_mem _ member) requires
    obtain ⟨w', run, members, others⟩ := ih nodup still
    refine ⟨w', ?_, ?_, ?_⟩
    · rw [bindAll]
      split
      · next requires =>
        have first : next = (w.record (.bound operation session none)).bind operation session :=
          if_pos requires
        have bound := Operation.bind_on_of_none (calm operation List.mem_cons_self requires)
        rw [Run.on_bind_of_ok bound, ← first, run]
      · next requires =>
        have first : next = w := if_neg requires
        rw [← first, run]
    · intro o member
      rcases List.mem_cons.1 member with rfl | member
      · exact others o fresh
      · exact (Operation.prepared_congr (later o member)).trans (members o member)
    · intro o absent
      obtain ⟨distinct, absent⟩ := not_or.1 fun member => absent (List.mem_cons.2 member)
      exact (Operation.looksSame_prepared distinct).trans (others o absent)

theorem probeAll_on {rank : Operation → Priority} {operations : List Operation}
    (nodup : operations.Nodup)
    (answers : ∀ o ∈ operations, o.answer host w request = .ok (rank o))
    (candidates : Candidates) :
    ((probeAll host request operations candidates).on w).1 =
      .ok (Conflict.report host rank (Candidates.tally rank operations candidates)) := by
  induction operations generalizing w candidates with
  | nil => rfl
  | cons operation rest ih =>
    obtain ⟨fresh, nodup⟩ := List.nodup_cons.1 nodup
    let next := w.record (.probed operation request (w.seenBy operation) (.ok (rank operation)))
    have probed : (operation.probe host request).on w = (.ok (rank operation), next) := by
      rw [Operation.probe_on, answers operation List.mem_cons_self]
    have still : ∀ o ∈ rest, o.answer host next request = .ok (rank o) := by
      intro o member
      have foreign : (Event.probed operation request (w.seenBy operation)
          (.ok (rank operation))).operation? ≠ some o := by
        intro same
        cases same
        exact fresh member
      rw [Operation.answer_congr (.record foreign)]
      exact answers o (List.mem_cons_of_mem _ member)
    rw [probeAll, Run.on_bind_of_ok probed, Candidates.tally]
    cases candidates.offer (rank operation) operation with
    | declined => exact ih nodup still candidates
    | admitted more => exact ih nodup still more
    | conflicting holder => rfl

theorem bindAll_crashes (nodup : operations.Nodup) (member : operation ∈ operations)
    (requires : operation.requiresSession host = true) {left : Crash}
    (crash : operation.bindCrash? host w session = some left) :
    ∃ last, ((bindAll host session operations).on w).1 = .error last := by
  induction operations generalizing w with
  | nil => cases member
  | cons first rest ih =>
    obtain ⟨fresh, nodup⟩ := List.nodup_cons.1 nodup
    rw [bindAll]
    rcases List.mem_cons.1 member with rfl | member
    · rw [if_pos requires, Run.on_bind_of_error (Operation.bind_on_of_some crash)]
      exact ⟨left, rfl⟩
    · have distinct : operation ≠ first := fun same => fresh (same ▸ member)
      by_cases bound : first.requiresSession host = true
      · rw [if_pos bound]
        cases calm : first.bindCrash? host w session with
        | some last =>
          rw [Run.on_bind_of_error (Operation.bind_on_of_some calm)]
          exact ⟨last, rfl⟩
        | none =>
          rw [Run.on_bind_of_ok (Operation.bind_on_of_none calm)]
          have foreign : (Event.bound first session none).operation? ≠ some operation := by
            simpa [Event.operation?] using distinct.symm
          have later : World.LooksSame operation w
              ((w.record (.bound first session none)).bind first session) :=
            (World.LooksSame.record foreign).trans (.bind distinct)
          exact ih nodup member (by rw [Operation.bindCrash?_congr later, crash])
      · rw [if_neg bound]
        exact ih nodup member crash

theorem probeAll_crashes (nodup : operations.Nodup) (member : operation ∈ operations) {left : Crash}
    (crash : operation.answer host w request = .error left) (candidates more : Candidates) :
    ((probeAll host request operations candidates).on w).1 ≠ .ok (.ok more) := by
  induction operations generalizing w candidates with
  | nil => cases member
  | cons first rest ih =>
    obtain ⟨fresh, nodup⟩ := List.nodup_cons.1 nodup
    rw [probeAll]
    cases answer : first.answer host w request with
    | error last =>
      rw [Run.on_bind_of_error (by rw [Operation.probe_on, answer])]
      intro same
      cases same
    | ok rank =>
      rw [Run.on_bind_of_ok (by rw [Operation.probe_on, answer])]
      rcases List.mem_cons.1 member with rfl | member
      · rw [crash] at answer
        cases answer
      · have distinct : operation ≠ first := fun same => fresh (same ▸ member)
        have later : World.LooksSame operation w (first.asked host request w) :=
          Operation.looksSame_asked distinct
        rw [Operation.asked, answer] at later
        have still : operation.answer host _ request = .error left :=
          (Operation.answer_congr later).trans crash
        cases candidates.offer rank first with
        | declined => exact ih nodup member still candidates
        | admitted further => exact ih nodup member still further
        | conflicting holder =>
          intro same
          cases same

theorem probeAll_looks {rank : Operation → Priority} (nodup : operations.Nodup)
    (answers : ∀ o ∈ operations, o.answer host w request = .ok (rank o))
    {candidates more : Candidates}
    (tallied : Candidates.tally rank operations candidates = .ok more) :
    (∀ o ∈ operations, World.LooksSame o (o.asked host request w)
        ((probeAll host request operations candidates).on w).2) ∧
      ∀ o, o ∉ operations → World.LooksSame o w
        ((probeAll host request operations candidates).on w).2 := by
  induction operations generalizing w candidates with
  | nil => exact ⟨by simp, fun o _ => .refl o w⟩
  | cons first rest ih =>
    obtain ⟨fresh, nodup⟩ := List.nodup_cons.1 nodup
    have probed : (first.probe host request).on w = (.ok (rank first), first.asked host request w) := by
      rw [Operation.probe_on, Operation.asked, answers first List.mem_cons_self]
    have apart : ∀ o ∈ rest, o ≠ first := fun o member same => fresh (same ▸ member)
    have later : ∀ o ∈ rest, World.LooksSame o w (first.asked host request w) :=
      fun o member => Operation.looksSame_asked (apart o member)
    have still : ∀ o ∈ rest, o.answer host (first.asked host request w) request = .ok (rank o) := by
      intro o member
      rw [Operation.answer_congr (later o member)]
      exact answers o (List.mem_cons_of_mem _ member)
    have onward : ∀ further, Candidates.tally rank rest further = .ok more →
        (∀ o ∈ first :: rest, World.LooksSame o (o.asked host request w)
          ((probeAll host request rest further).on (first.asked host request w)).2) ∧
        ∀ o, o ∉ first :: rest → World.LooksSame o w
          ((probeAll host request rest further).on (first.asked host request w)).2 := by
      intro further tallied
      obtain ⟨members, others⟩ := ih nodup still tallied
      refine ⟨fun o member => ?_, fun o absent => ?_⟩
      · rcases List.mem_cons.1 member with rfl | member
        · exact others o fresh
        · exact (Operation.asked_congr (later o member)).trans (members o member)
      · obtain ⟨distinct, absent⟩ := not_or.1 fun member => absent (List.mem_cons.2 member)
        exact (Operation.looksSame_asked distinct).trans (others o absent)
    rw [probeAll, Run.on_bind_of_ok probed]
    rw [Candidates.tally] at tallied
    cases offered : candidates.offer (rank first) first with
    | declined =>
      rw [offered] at tallied
      exact onward candidates tallied
    | admitted further =>
      rw [offered] at tallied
      exact onward further tallied
    | conflicting holder =>
      rw [offered] at tallied
      cases tallied

end Router

end RpcRouting
