import RpcRouting.Proofs.Emits
import RpcRouting.Proofs.Execution
import RpcRouting.Proofs.Selection.Tally
/-!
The two phases of choosing a chain. First the session of the request is given to the operations that
require one, then all operations are asked for their ranks. A crash ends either phase, and the
second one ends also with the first rank that is claimed twice. Nothing else happens before an
operation is given the request, and nothing of this happens after that.
-/

set_option autoImplicit false
set_option relaxedAutoImplicit false

namespace RpcRouting

variable {host : Host} {request : Document} {session : SessionKey} {w w' : World}

/-- An operation that answered with its rank while it saw a session. -/
structure Ranked where
  operation : Operation
  seen : Option Session
  rank : Priority

namespace Ranked

def event (request : Document) (answer : Ranked) : Event :=
  .probed answer.operation request answer.seen (.ok answer.rank)

def Apart (answers : List Ranked) : Prop :=
  answers.Pairwise fun a b => a.rank = b.rank → a.rank = .cannotHandle

end Ranked

def Candidates.Keeps (candidates : Candidates) (answers : List Ranked) : Prop :=
  ∀ value operation, (value, operation) ∈ candidates.entries ↔
    ∃ answer ∈ answers, answer.operation = operation ∧ answer.rank = .real value

namespace Router

/-- The events of giving a session to the operations that require one, and how this ends. -/
inductive GivesAll (session : SessionKey) (requiring : List Operation) :
    Except Crash Unit → Journal → Prop
  | all : GivesAll session requiring (.ok ()) (requiring.map fun o => .bound o session none)
  | crashed {before after : List Operation} {operation : Operation} {left : Crash}
      (split : requiring = before ++ operation :: after) :
    GivesAll session requiring (.error left)
      (before.map (fun o => .bound o session none) ++ [.bound operation session (some left)])

/-- The events of asking operations for their ranks, and how this ends. -/
inductive AsksAll (host : Host) (request : Document) (operations : List Operation) :
    Except Crash (Except Conflict Candidates) → Journal → Prop
  | all {answers : List Ranked} {candidates : Candidates}
      (split : operations = answers.map (·.operation)) (apart : Ranked.Apart answers)
      (kept : candidates.Keeps answers) :
    AsksAll host request operations (.ok (.ok candidates)) (answers.map (·.event request))
  | crashed {answers : List Ranked} {operation : Operation} {seen : Option Session} {left : Crash}
      {after : List Operation}
      (split : operations = answers.map (·.operation) ++ operation :: after)
      (apart : Ranked.Apart answers) :
    AsksAll host request operations (.error left)
      (answers.map (·.event request) ++ [.probed operation request seen (.error left)])
  | contested {answers : List Ranked} {earlier last : Ranked} {after : List Operation}
      (split : operations = answers.map (·.operation) ++ last.operation :: after)
      (apart : Ranked.Apart answers) (member : earlier ∈ answers)
      (same : earlier.rank = last.rank) (real : last.rank ≠ .cannotHandle) :
    AsksAll host request operations
      (.ok (.error ⟨last.rank, earlier.operation.name host, last.operation.name host⟩))
      (answers.map (·.event request) ++ [last.event request])

/-- The events of collecting candidates, and how this ends. Nobody is asked if giving the session
ended with a crash. -/
inductive Collects (r : Router) (request : Document) (session : SessionKey) :
    Except Crash (Except Conflict Candidates) → Journal → Prop
  | unasked {left : Crash} {given : Journal}
      (gives : GivesAll session (r.registry.operations.filter (·.requiresSession r.host))
        (.error left) given) :
    Collects r request session (.error left) given
  | asked {ended : Except Crash (Except Conflict Candidates)} {given answered : Journal}
      (gives : GivesAll session (r.registry.operations.filter (·.requiresSession r.host))
        (.ok ()) given)
      (asks : AsksAll r.host request r.registry.operations ended answered) :
    Collects r request session ended (given ++ answered)

/-! ### Giving the session -/

theorem GivesAll.cons {requiring : List Operation} {ended : Except Crash Unit} {events : Journal}
    (gives : GivesAll session requiring ended events) (operation : Operation) :
    GivesAll session (operation :: requiring) ended (.bound operation session none :: events) := by
  cases gives with
  | all => exact .all
  | @crashed before after last left split =>
    have one_more : operation :: requiring = (operation :: before) ++ last :: after := by
      rw [split]
      rfl
    exact GivesAll.crashed one_more

theorem emits_bindAll (host : Host) (session : SessionKey) (operations : List Operation) :
    (bindAll host session operations).Emits
      (GivesAll session (operations.filter (·.requiresSession host))) := by
  induction operations with
  | nil => exact .pure .all
  | cons operation rest ih =>
    intro w
    rw [bindAll]
    by_cases requires : operation.requiresSession host = true
    · rw [if_pos requires, List.filter_cons_of_pos requires]
      cases crash : operation.bindCrash? host w session with
      | some left =>
        rw [Run.on_bind_of_error (Operation.bind_on_of_some crash)]
        have split : operation :: rest.filter (·.requiresSession host) =
            [] ++ operation :: rest.filter (·.requiresSession host) := rfl
        exact ⟨_, rfl, GivesAll.crashed split⟩
      | none =>
        rw [Run.on_bind_of_ok (Operation.bind_on_of_none crash)]
        obtain ⟨events, journal, gives⟩ :=
          ih ((w.record (.bound operation session none)).bind operation session)
        refine ⟨.bound operation session none :: events, ?_, gives.cons operation⟩
        rw [journal, World.bind_journal, World.record_journal, List.append_assoc]
        rfl
    · rw [if_neg requires, List.filter_cons_of_neg requires]
      exact ih w

/-! ### Asking for ranks -/

end Router

namespace Candidates.Keeps

variable {candidates more : Candidates} {answers : List Ranked} {answer : Ranked}

theorem empty : Candidates.empty.Keeps [] := by
  intro value operation
  simp [Candidates.empty]

theorem concat_of_refused (kept : candidates.Keeps answers) (refused : answer.rank = .cannotHandle) :
    candidates.Keeps (answers ++ [answer]) := by
  intro value operation
  rw [kept value operation]
  simp [or_and_right, exists_or, refused]

theorem concat_of_taken (kept : candidates.Keeps answers) {value : Int32}
    (known : answer.rank = .real value)
    (entries : more.entries = insertEntry value answer.operation candidates.entries) :
    more.Keeps (answers ++ [answer]) := by
  intro other operation
  rw [entries, mem_insertEntry, kept other operation]
  constructor
  · rintro (same | ⟨earlier, member, held⟩)
    · cases same
      exact ⟨answer, by simp, rfl, known⟩
    · exact ⟨earlier, List.mem_append_left _ member, held⟩
  · rintro ⟨holder, member, rfl, held⟩
    rcases List.mem_append.1 member with member | member
    · exact .inr ⟨holder, member, rfl, held⟩
    · rw [List.mem_singleton.1 member, known] at held
      cases held
      exact .inl (by rw [List.mem_singleton.1 member])

end Candidates.Keeps

namespace Ranked

variable {candidates : Candidates} {answers : List Ranked} {answer : Ranked}

theorem Apart.concat (apart : Apart answers)
    (fresh : ∀ earlier ∈ answers, earlier.rank = answer.rank → earlier.rank = .cannotHandle) :
    Apart (answers ++ [answer]) := by
  refine List.pairwise_append.2 ⟨apart, List.pairwise_singleton _ _, ?_⟩
  intro earlier member last same
  rw [List.mem_singleton.1 same]
  exact fresh earlier member

end Ranked

namespace Router

theorem emits_probeAll_from (host : Host) (request : Document) (rest : List Operation)
    {answers : List Ranked} {candidates : Candidates} (apart : Ranked.Apart answers)
    (kept : candidates.Keeps answers) :
    (probeAll host request rest candidates).Emits fun ended events =>
      AsksAll host request (answers.map (·.operation) ++ rest) ended
        (answers.map (·.event request) ++ events) := by
  -- On the operations that are left; `apart` and `kept` carry over to one answer more.
  induction rest generalizing answers candidates with
  | nil =>
    refine .pure ?_
    rw [List.append_nil, List.append_nil]
    exact .all rfl apart kept
  | cons operation rest ih =>
    intro w
    rw [probeAll]
    cases answered : operation.answer host w request with
    | error left =>
      rw [Run.on_bind_of_error (by rw [Operation.probe_on, answered])]
      exact ⟨_, rfl, .crashed rfl apart⟩
    | ok rank =>
      let answer : Ranked := ⟨operation, w.seenBy operation, rank⟩
      have probed : (operation.probe host request).on w = (.ok rank, w.record (answer.event request)) := by
        rw [Operation.probe_on, answered]
        rfl
      -- One answer more is one event more in front of those of the rest.
      have onward : ∀ {more : Candidates}, Ranked.Apart (answers ++ [answer]) →
          more.Keeps (answers ++ [answer]) →
          ∃ events, ((probeAll host request rest more).on (w.record (answer.event request))).2.journal =
              w.journal ++ events ∧
            AsksAll host request (answers.map (·.operation) ++ operation :: rest)
              ((probeAll host request rest more).on (w.record (answer.event request))).1
              (answers.map (·.event request) ++ events) := by
        intro more apart kept
        obtain ⟨events, journal, asks⟩ := ih apart kept (w.record (answer.event request))
        refine ⟨answer.event request :: events, ?_, ?_⟩
        · rw [journal, World.record_journal, List.append_assoc]
          rfl
        · simpa [answer] using asks
      rw [Run.on_bind_of_ok probed]
      rcases candidates.offer_cases rank operation with
        ⟨refused, offered⟩ | ⟨value, known, ⟨holder, held, offered⟩ | ⟨more, free, entries, offered⟩⟩
      · rw [offered]
        exact onward (apart.concat fun _ _ same => same.trans refused) (kept.concat_of_refused refused)
      · obtain ⟨earlier, member, rfl, claimed⟩ := (kept value holder).1 held
        rw [offered]
        refine ⟨[answer.event request], rfl, ?_⟩
        have split : answers.map (·.operation) ++ operation :: rest =
            answers.map (·.operation) ++ answer.operation :: rest := rfl
        exact AsksAll.contested split apart member (claimed.trans known.symm)
          (by simp [answer, known])
      · rw [offered]
        refine onward (apart.concat fun earlier member same => ?_) (kept.concat_of_taken known entries)
        have claimed : earlier.rank = .real value := same.trans known
        exact absurd rfl (free _ ((kept value earlier.operation).2 ⟨earlier, member, rfl, claimed⟩))

theorem emits_collect (r : Router) (request : Document) (session : SessionKey) :
    (r.collect request session).Emits (r.Collects request session) := by
  refine (emits_bindAll r.host session r.registry.operations).bind ?_ ?_
  · exact fun left given gives => .unasked gives
  · intro done given gives
    refine (emits_probeAll_from r.host request r.registry.operations List.Pairwise.nil
      Candidates.Keeps.empty).mono fun ended answered asks => ?_
    exact .asked gives asks

end Router

/-! ### Afterwards -/

def World.ChoosesNothing (w w' : World) : Prop :=
  ∃ events, w'.journal = w.journal ++ events ∧ ∀ e ∈ events, e.isChoosing = false

namespace World.ChoosesNothing

theorem of_eq (journal : w'.journal = w.journal) : World.ChoosesNothing w w' :=
  ⟨[], by rw [journal, List.append_nil], by simp⟩

theorem record (w : World) {event : Event} (other : event.isChoosing = false) :
    World.ChoosesNothing w (w.record event) :=
  ⟨[event], rfl, fun _ member => List.mem_singleton.1 member ▸ other⟩

theorem executing : Executing World.ChoosesNothing where
  refl _ := .of_eq rfl
  trans := by
    rintro u v w ⟨before, grown, early⟩ ⟨after, grown', late⟩
    refine ⟨before ++ after, by rw [grown', grown, List.append_assoc], fun e member => ?_⟩
    exact (List.mem_append.1 member).elim (early e) (late e)
  record w _ other := .record w other
  emit _ _ _ := .of_eq rfl
  act _ _ _ := .of_eq rfl
  mark _ _ := .of_eq rfl

end World.ChoosesNothing

namespace Router

private theorem journal_of_rejected {r : Router} {e : RoutingError}
    (rejected : ((r.select request session).run w).1 = .error e) :
    ((r.route request session).run w).2.journal =
      ((r.select request session).run w).2.journal := by
  rw [route_of_rejected (Prod.ext rejected rfl)]
  rfl

private theorem choosesNothing_route (r : Router) (request : Document) (session : SessionKey)
    (w : World) : World.ChoosesNothing ((r.select request session).run w).2
      ((r.route request session).run w).2 := by
  obtain ⟨v, quiet, final⟩ := exists_unreported World.ChoosesNothing.executing r request session w
    fun _ _ => .of_eq (announced_journal _)
  rw [final]
  cases r.left? request session w with
  | none => exact quiet
  | some e => exact World.ChoosesNothing.executing.trans quiet (.of_eq rfl)

theorem Collects.isChoosing {r : Router} {ended : Except Crash (Except Conflict Candidates)}
    {choice : Journal} (collects : r.Collects request session ended choice) :
    ∀ e ∈ choice, e.isChoosing = true := by
  have given : ∀ {requiring ended events}, GivesAll session requiring ended events →
      ∀ e ∈ events, e.isChoosing = true := by
    intro requiring ended events gives
    cases gives <;> simp [or_imp, forall_and, Event.isChoosing]
  have answered : ∀ answers : List Ranked,
      ∀ e ∈ answers.map (·.event request), e.isChoosing = true := by
    simp [Ranked.event, Event.isChoosing]
  cases collects with
  | unasked gives => exact given gives
  | asked gives asks =>
    refine List.forall_mem_append.2 ⟨given gives, ?_⟩
    cases asks with
    | all split apart kept => exact answered _
    | crashed split apart => exact List.forall_mem_append.2 ⟨answered _, by simp [Event.isChoosing]⟩
    | contested split apart member same real =>
      exact List.forall_mem_append.2 ⟨answered _, by simp [Ranked.event, Event.isChoosing]⟩

/-- The events of a request: those of choosing its chain, and those of handling it. -/
structure InPhases (r : Router) (request : Document) (session : SessionKey) (w : World)
    (choice later : Journal) : Prop where
  collects : r.Collects request session ((r.collect request session).on w).1 choice
  journal : ((r.collect request session).on w).2.journal = w.journal ++ choice
  /-- No operation is given the session or asked for its rank at any other time. -/
  whole : ((r.route request session).run w).2.journal = w.journal ++ choice ++ later
  choosing : (choice ++ later).filter (·.isChoosing) = choice
  /-- No operation is given the request before its chain has been chosen. -/
  handled : ∀ before operation document seen after,
    choice ++ later = before ++ .handling operation document seen :: after → choice <+: before
  rejected : ∀ e, ((r.select request session).run w).1 = .error e → later = []

/-- Whatever the operations of a registry do, a chain is chosen for a request in two phases, and all
of it happens before the first operation is given the request. -/
theorem route_inPhases (r : Router) (request : Document) (session : SessionKey) (w : World) :
    ∃ choice later, r.InPhases request session w choice later := by
  obtain ⟨choice, journal, collects⟩ := emits_collect r request session w
  obtain ⟨later, grown, quiet⟩ := choosesNothing_route r request session w
  have selected : ((r.select request session).run w).2 = ((r.collect request session).on w).2 := rfl
  rw [selected, journal] at grown
  have chosen := collects.isChoosing
  refine ⟨choice, later, collects, journal, grown, ?_, ?_, ?_⟩
  · have none : later.filter (·.isChoosing) = [] :=
      List.filter_eq_nil_iff.2 fun e member => by simp [quiet e member]
    rw [List.filter_append, none, List.append_nil]
    exact List.filter_eq_self.2 chosen
  · intro before operation document seen after split
    rcases List.append_eq_append_iff.1 split with ⟨within, rfl, -⟩ | ⟨within, rfl, beyond⟩
    · exact List.prefix_append choice within
    · cases within with
      | nil => exact (List.append_nil before).symm ▸ List.prefix_refl _
      | cons event within =>
        -- The request would have been handed over in the middle of the choice.
        obtain ⟨rfl, -⟩ := List.cons.inj beyond
        have own := chosen (.handling operation document seen) (by simp)
        cases own
  · intro e rejected
    have still := journal_of_rejected rejected
    rw [grown, selected, journal] at still
    exact List.append_right_eq_self.1 still

end Router

end RpcRouting
