import RpcRouting.Proofs.Routing.Calls
import RpcRouting.Proofs.Routing.Containment
import RpcRouting.Proofs.Routing.Reference
import RpcRouting.Proofs.Selection.Claims
/-!
Failures on their way up a chain. An operation that passes an error of the rest of its chain on as
its own answer does nothing else with it, and no operation does anything about a crash below it; so
a failure ends all calls above it one after the other, and the peer is told about it as if there
were no operations above.
-/

set_option autoImplicit false
set_option relaxedAutoImplicit false

namespace RpcRouting

def Failure.texts : Failure → List String
  | cause text => [text]
  | wrapped context inner => context :: inner.texts

theorem Failure.describe_eq_intercalate (failure : Failure) :
    failure.describe = ": ".intercalate failure.texts := by
  induction failure with
  | cause text => exact String.intercalate_singleton.symm
  | wrapped context inner ih =>
    have some : inner.texts ≠ [] := by cases inner <;> exact List.cons_ne_nil _ _
    rw [describe, ih, texts, String.intercalate_cons_of_ne_nil some]

def Failed (ended : Except Crash (Except OperationError Document)) : Prop :=
  ∀ reply, ended ≠ .ok (.ok reply)

/-- The steps end with an error of the rest of the chain once there is one. -/
inductive Handling.Propagates : Handling → Prop
  | finish {outcome : Except OperationError Document} : Propagates (.finish outcome)
  | crash {left : Crash} : Propagates (.crash left)
  | delegate {request : Document} {resume : Outcome → Handling}
      (failed : ∀ e, resume (.error e) = .finish (.error e))
      (next : ∀ reply, Propagates (resume (.ok reply))) : Propagates (.delegate request resume)
  | inspect {resume : List Operation → Handling} (next : ∀ rest, Propagates (resume rest)) :
    Propagates (.inspect resume)
  | consult {action : Option SessionAction} {resume : Option Session → Handling}
      (next : ∀ seen, Propagates (resume seen)) : Propagates (.consult action resume)

/-- The steps pass a document on, whatever is seen before. -/
inductive Handling.Delegates : Handling → Prop
  | delegate {request : Document} {resume : Outcome → Handling} :
    Delegates (.delegate request resume)
  | inspect {resume : List Operation → Handling} (next : ∀ rest, Delegates (resume rest)) :
    Delegates (.inspect resume)
  | consult {action : Option SessionAction} {resume : Option Session → Handling}
      (next : ∀ seen, Delegates (resume seen)) : Delegates (.consult action resume)

namespace Operation

def Propagates (host : Host) : Operation → Prop
  | builtin _ => True
  | contributed key =>
    ∀ history request, ((host.catalogue.operation key).handle history request).Propagates

def Delegates (host : Host) : Operation → Prop
  | builtin _ => False
  | contributed key =>
    ∀ history request, ((host.catalogue.operation key).handle history request).Delegates

/-- The events with which an operation ends when the rest of its chain failed: an error is taken
note of and passed on, and a crash is not even taken note of. -/
def givesUp (operation : Operation) :
    Except Crash (Except OperationError Document) → Journal
  | .ok outcome => [.delegated operation (outcome.map some), .handled operation (.ok outcome)]
  | .error left => [.handled operation (.error left)]

end Operation

/-- The events with which operations end, from the last one up, when the chain below them failed. -/
def unwinding : List Operation → Except Crash (Except OperationError Document) → Journal
  | [], _ => []
  | operation :: above, ended => unwinding above ended ++ operation.givesUp ended

variable {host : Host} {operation failing : Operation} {rest above below : List Operation}
  {onward : Onward} {request : Document} {events : Journal}
  {ended ended' : Except Crash (Except OperationError Document)} {outcome : Except Crash Outcome}

theorem Handling.Propagates.resume {resume : Outcome → Handling}
    (propagates : (Handling.delegate request resume).Propagates) (outcome : Outcome) :
    (resume outcome).Propagates := by
  cases propagates with
  | delegate failed next =>
    cases outcome with
    | ok reply => exact next reply
    | error e => exact failed e ▸ .finish

/-! ### What happens after a failure -/

/-- A failed call of an operation below is the last thing that happens in a call of the rest of the
chain, apart from the ends of the calls in between, and all these calls end in the same way. -/
def Onward.Unwinds (onward : Onward) (failing : Operation) (above : List Operation) : Prop :=
  ∀ {request outcome call before ended after}, onward request outcome call →
    call = before ++ .handled failing ended :: after → Failed ended →
    after = unwinding above ended ∧ outcome = ended.map (·.map some)

private theorem Handling.Works.unwinds {handling : Handling} (propagates : handling.Propagates)
    (unwinds : onward.Unwinds failing above) (distinct : operation ≠ failing)
    (works : handling.Works operation rest onward ended' events) {before after : Journal}
    (split : events = before ++ .handled failing ended :: after) (failed : Failed ended) :
    after = unwinding (operation :: above) ended ∧ ended' = ended := by
  have other : ∀ last : Except Crash (Except OperationError Document), ∀ {before after},
      [Event.handled operation last] ≠ before ++ .handled failing ended :: after := by
    intro last before after split
    have member : .handled failing ended ∈ [Event.handled operation last] := by simp [split]
    cases List.mem_singleton.1 member
    exact distinct rfl
  -- A failure within a call below decides how the operation ends; a later one is one of the rest.
  induction works generalizing before with
  | finish => exact absurd split (other _)
  | crash => exact absurd split (other _)
  | @answered request resume outcome ended' call later called next ih =>
    rw [List.cons_append] at split
    obtain ⟨before, -, split⟩ := split_of_cons split nofun
    rcases split_of_append split with ⟨inner, within, rfl⟩ | ⟨earlier, -, beyond⟩
    · obtain ⟨rfl, same⟩ := unwinds called within failed
      rcases ended with left | e | reply
      · cases same
      · cases same
        cases propagates with
        | delegate passes _ =>
          change (resume (.error e)).Works operation rest onward ended' later at next
          rw [passes e] at next
          cases next
          exact ⟨rfl, rfl⟩
      · exact absurd rfl (failed reply)
    · obtain ⟨before, -, split⟩ := split_of_cons beyond nofun
      exact ih (propagates.resume outcome) split
  | @broken request resume left call called =>
    rw [List.cons_append] at split
    obtain ⟨before, -, split⟩ := split_of_cons split nofun
    rcases split_of_append split with ⟨inner, within, rfl⟩ | ⟨earlier, -, beyond⟩
    · obtain ⟨rfl, same⟩ := unwinds called within failed
      cases ended with
      | ok result => cases same
      | error left =>
        cases same
        exact ⟨rfl, rfl⟩
    · exact absurd beyond (other _)
  | inspect next ih =>
    obtain ⟨before, -, split⟩ := split_of_cons split nofun
    cases propagates with
    | inspect onwards => exact ih (onwards rest) split
  | @consult action resume seen ended' later next ih =>
    obtain ⟨before, -, split⟩ := split_of_cons split nofun
    cases propagates with
    | consult onwards => exact ih (onwards seen) split

private theorem Operation.Called.unwinds (propagates : operation.Propagates host)
    (unwinds : onward.Unwinds failing above) (distinct : operation ≠ failing)
    (called : operation.Called host rest onward request ended' events) {before after : Journal}
    (split : events = before ++ .handled failing ended :: after) (failed : Failed ended) :
    after = unwinding (operation :: above) ended ∧ ended' = ended := by
  cases called with
  | @builtin b seen ended' inner asides =>
    have member : .handled failing ended ∈
        Event.handling (.builtin b) request seen :: inner ++ [.handled (.builtin b) ended'] := by
      simp [split]
    rcases List.mem_append.1 member with before | last
    · rcases List.mem_cons.1 before with first | within
      · cases first
      · cases (asides _ within).1
    · cases List.mem_singleton.1 last
      exact absurd rfl distinct
  | @contributed key seen history ended' inner works =>
    obtain ⟨before, -, split⟩ := split_of_cons split nofun
    exact works.unwinds (propagates history request) unwinds distinct split failed

theorem Chain.unwinds_called (nodup : (above ++ failing :: below).Nodup)
    (propagate : ∀ o ∈ above, o.Propagates host) :
    Onward.Unwinds ((Chain.ofList (above ++ failing :: below)).Called host) failing above := by
  induction above with
  | nil =>
    rintro request outcome call before ended after ⟨ended', called, rfl⟩ split failed
    have absent : failing ∉ below := (List.nodup_cons.1 nodup).1
    obtain ⟨seen, inner, rfl, free⟩ := called.exists_inner (Chain.spares_of_notMem absent)
    obtain ⟨before, -, split⟩ := split_of_cons split nofun
    rcases split_of_append split with ⟨later, rfl, -⟩ | ⟨earlier, -, beyond⟩
    · have own := free (.handled failing ended) (by simp)
      simp [Event.isBracketOf] at own
    · cases earlier with
      | nil =>
        cases beyond
        exact ⟨rfl, rfl⟩
      | cons first earlier => simp at beyond
  | cons top above ih =>
    rintro request outcome call before ended after ⟨ended', called, rfl⟩ split failed
    obtain ⟨absent, nodup⟩ := List.nodup_cons.1 nodup
    obtain ⟨propagates, propagate⟩ := List.forall_mem_cons.1 propagate
    have distinct : top ≠ failing := fun same => absent (by simp [same])
    obtain ⟨rfl, rfl⟩ := called.unwinds propagates (ih nodup propagate) distinct split failed
    exact ⟨rfl, rfl⟩

/-! ### Whether a failure happens -/

def Journal.HasFailed (failing : Operation) (events : Journal) : Prop :=
  ∃ ended, Failed ended ∧ .handled failing ended ∈ events

theorem Journal.HasFailed.mono {call : Journal} (within : call ⊆ events)
    (reached : call.HasFailed failing) : events.HasFailed failing := by
  obtain ⟨ended, failed, member⟩ := reached
  exact ⟨ended, failed, within member⟩

private theorem Handling.Works.hasFailed {handling : Handling} (delegates : handling.Delegates)
    (works : handling.Works operation rest (fun _ _ call => Journal.HasFailed failing call) ended
      events) : Journal.HasFailed failing events := by
  induction works with
  | finish => cases delegates
  | crash => cases delegates
  | answered called next ih => exact called.mono (by simp)
  | broken called => exact called.mono (by simp)
  | inspect next ih =>
    cases delegates with
    | inspect onwards => exact (ih (onwards rest)).mono (by simp)
  | @consult action resume seen ended later next ih =>
    cases delegates with
    | consult onwards => exact (ih (onwards seen)).mono (by simp)

theorem Chain.hasFailed_execute (nodup : (above ++ failing :: below).Nodup)
    (delegate : ∀ o ∈ above, o.Delegates host)
    (fails : ∀ document w,
      Failed ((failing.handle host below ((Chain.ofList below).execute host) document).on w).1)
    (request : Document) :
    ((Chain.ofList (above ++ failing :: below)).execute host request).Emits
      fun _ events => Journal.HasFailed failing events := by
  induction above generalizing request with
  | nil =>
    have handled : (failing.handle host below ((Chain.ofList below).execute host) request).Emits
        fun _ events => Journal.HasFailed failing events := by
      intro w
      have executed : ∀ request, ((Chain.ofList below).execute host request).Emits
          ((Chain.ofList below).Called host request) := (Chain.ofList below).emits_execute
      obtain ⟨events, journal, called⟩ := failing.emits_handle below executed request w
      have absent : failing ∉ below := (List.nodup_cons.1 nodup).1
      obtain ⟨seen, inner, rfl, -⟩ := called.exists_inner (Chain.spares_of_notMem absent)
      exact ⟨_, journal, _, fails request w, by simp⟩
    rw [List.nil_append, ofList, execute, operations_ofList]
    refine handled.bind (fun _ _ reached => reached) fun outcome events reached => .pure ?_
    rwa [List.append_nil]
  | cons top above ih =>
    obtain ⟨delegates, delegate⟩ := List.forall_mem_cons.1 delegate
    let lower : Chain := .ofList (above ++ failing :: below)
    have handled : (top.handle host lower.operations (lower.execute host) request).Emits
        (top.Called host lower.operations (fun _ _ call => Journal.HasFailed failing call) request) :=
      top.emits_handle lower.operations (ih (List.nodup_cons.1 nodup).2 delegate) request
    have reached : ∀ {ended events}, top.Called host lower.operations
        (fun _ _ call => Journal.HasFailed failing call) request ended events →
        Journal.HasFailed failing events := by
      intro ended events called
      cases called with
      | builtin asides => cases delegates
      | contributed works => exact (works.hasFailed (delegates _ _)).mono (by simp)
    refine handled.bind (fun _ _ called => reached called) fun outcome events called => .pure ?_
    rw [List.append_nil]
    exact reached called

/-! ### What the peer is told -/

namespace Router

variable {r : Router} {session : SessionKey} {w : World}

theorem exists_events_of_chosen {chain : Chain} {P : Except Crash Outcome → Journal → Prop}
    (chosen : ((r.select request session).run w).1 = .ok chain)
    (emits : (chain.execute r.host request).Emits P) :
    ∃ events ended, ((r.route request session).run w).2.journal =
        ((r.select request session).run w).2.journal ++ events ∧
      P (ended.map (·.map some)) events ∧ ((r.route request session).run w).1 = told ended := by
  obtain ⟨head, rest, rfl⟩ := exists_link_of_chosen chosen
  obtain ⟨w', answered, final⟩ := route_of_chain chosen
  obtain ⟨events, journal, holds⟩ := emits
    (r.announced request session (.link head rest) ((r.select request session).run w).2)
  have executed : ((Chain.link head rest).execute r.host request).on
      (r.announced request session (.link head rest) ((r.select request session).run w).2) =
        ((r.handled request session w head rest).1.map (·.map some),
          (r.handled request session w head rest).2) :=
    Chain.execute_link_on rfl
  rw [executed] at journal holds
  rw [announced_journal] at journal
  refine ⟨events, _, ?_, holds, congrArg Prod.fst answered⟩
  rw [answered]
  rcases final with rfl | ⟨line, rfl⟩ <;> exact journal

/-- What becomes of a failure of one operation of a chain. -/
structure Surfaces (r : Router) (request : Document) (session : SessionKey) (w : World)
    (above : List Operation) (failing : Operation) (below : List Operation)
    (events : Journal) : Prop where
  journal : ((r.route request session).run w).2.journal =
    ((r.select request session).run w).2.journal ++ events
  /-- Whenever the operation failed, those above do nothing but end, one after the other. -/
  unwinds : ∀ {before ended after}, events = before ++ .handled failing ended :: after →
    Failed ended → after = unwinding above ended
  documented : ∀ {e}, .handled failing (.ok (.error (.documented e))) ∈ events →
    ((r.route request session).run w).1 = .error e
  /-- An internal failure shows in the detail of a generic error, with all contexts. -/
  internal : ∀ {failure}, .handled failing (.ok (.error (.internal failure))) ∈ events →
    ∃ e, ((r.route request session).run w).1 = .error e ∧
      e.Generic (": ".intercalate failure.texts)
  crashed : ∀ {left}, .handled failing (.error left) ∈ events →
    ∃ e, ((r.route request session).run w).1 = .error e ∧
      e.Generic (left.text?.getD "panic with a non-string payload")
  reached : (∀ o ∈ above, o.Delegates r.host) →
    (∀ document w', Failed
      ((failing.handle r.host below ((Chain.ofList below).execute r.host) document).on w').1) →
    ∃ before ended, Failed ended ∧
      events = before ++ .handled failing ended :: unwinding above ended

private theorem map_map_some_inj {ended ended' : Except Crash (Except OperationError Document)}
    (same : ended.map (·.map some) = ended'.map (·.map some)) : ended = ended' := by
  rcases ended with left | e | reply <;> rcases ended' with left' | e' | reply' <;>
    simp_all [Except.map]

/-- A failure of an operation travels up a chain of operations that pass errors on, however many
there are, and reaches the peer as if there were none. -/
theorem route_surfaces (host : Host) (limit : Nat) (request : Document) (session : SessionKey)
    (w : World) (above : List Operation) (failing : Operation) (below : List Operation)
    (chosen : ((select ⟨.ofHost host, limit⟩ request session).run w).1 =
      .ok (.ofList (above ++ failing :: below)))
    (propagate : ∀ o ∈ above, o.Propagates host) :
    ∃ events, Surfaces ⟨.ofHost host, limit⟩ request session w above failing below events := by
  have nodup := nodup_of_chosen (Registry.nodup_operations host) chosen
  have executed : ((Chain.ofList (above ++ failing :: below)).execute host request).Emits
      ((Chain.ofList (above ++ failing :: below)).Called host request) := Chain.emits_execute _ request
  obtain ⟨events, ended, journal, called, answer⟩ := exists_events_of_chosen chosen executed
  have unwinds : Onward.Unwinds ((Chain.ofList (above ++ failing :: below)).Called host) failing
      above := Chain.unwinds_called nodup propagate
  -- The answer is that to the failure, since all calls above end as the failed one did.
  have ends : ∀ {left}, .handled failing left ∈ events → Failed left →
      ((route ⟨.ofHost host, limit⟩ request session).run w).1 = told left := by
    intro left member failed
    obtain ⟨before, after, split⟩ := List.append_of_mem member
    rw [answer, map_map_some_inj (unwinds called split failed).2]
  refine ⟨events, journal, fun split failed => (unwinds called split failed).1, ?_, ?_, ?_, ?_⟩
  · intro e member
    exact ends member nofun
  · intro failure member
    refine ⟨_, ends member nofun, RpcError.generic_iff.2 ?_⟩
    rw [← failure.describe_eq_intercalate]
  · intro left member
    exact ⟨_, ends member nofun, RpcError.generic_iff.2 rfl⟩
  · intro delegate fails
    obtain ⟨events', ended', journal', ⟨left, failed, member⟩, -⟩ := exists_events_of_chosen chosen
      (Chain.hasFailed_execute nodup delegate fails request)
    obtain rfl := List.append_cancel_left (journal.symm.trans journal')
    obtain ⟨before, after, split⟩ := List.append_of_mem member
    obtain rfl := (unwinds called split failed).1
    exact ⟨before, left, failed, split⟩

def wreckage : Failure := .of "no carrier" ["line", "port"]

/-- Two operations that pass requests on, above one that fails. -/
def wreckedHost : Host where
  catalogue :=
    { operation := fun key => ⟨key.value, false, fun _ _ => none,
        fun _ _ _ => .ok (.real (if key.value = "top" then 3 else if key.value = "middle" then 2 else 1)),
        fun _ request =>
          if key.value = "bottom" then .finish (.error (.internal wreckage))
          else .delegate request fun outcome =>
            match outcome with
            | .ok reply => .finish (.ok (reply.getD request.okReply))
            | .error e => .finish (.error e)⟩
      leaf := fun _ => ⟨[⟨"bottom"⟩, ⟨"middle"⟩, ⟨"top"⟩], fun _ => .finish (.ok ())⟩ }
  sessionId := ⟨1⟩
  backend := .leaf ⟨0⟩

theorem propagates_wreckedHost (operation : Operation) : operation.Propagates wreckedHost := by
  cases operation with
  | builtin b => trivial
  | contributed key =>
    intro history request
    simp only [wreckedHost]
    split
    · exact .finish
    · exact .delegate (fun _ => rfl) fun _ => .finish

def relaying : List Operation := [.contributed ⟨"top"⟩, .contributed ⟨"middle"⟩]

theorem route_surfaces_wreckedHost :
    ((select ⟨.ofHost wreckedHost, defaultLimit⟩ layeredRequest ⟨0, ⟨1⟩⟩).run (.initial none)).1 =
        .ok (.ofList (relaying ++ [.contributed ⟨"bottom"⟩])) ∧
      (∃ events, Surfaces ⟨.ofHost wreckedHost, defaultLimit⟩ layeredRequest ⟨0, ⟨1⟩⟩ (.initial none)
          relaying (.contributed ⟨"bottom"⟩) [] events ∧
        ∃ before ended, Failed ended ∧
          events = before ++ .handled (.contributed ⟨"bottom"⟩) ended :: unwinding relaying ended) ∧
      ∃ e, ((route ⟨.ofHost wreckedHost, defaultLimit⟩ layeredRequest ⟨0, ⟨1⟩⟩).run
          (.initial none)).1 = .error e ∧ e.Generic "port: line: no carrier" := by
  have chosen : ((select ⟨.ofHost wreckedHost, defaultLimit⟩ layeredRequest ⟨0, ⟨1⟩⟩).run
      (.initial none)).1 = .ok (.ofList (relaying ++ [.contributed ⟨"bottom"⟩])) := rfl
  obtain ⟨events, surfaces⟩ := route_surfaces wreckedHost defaultLimit layeredRequest ⟨0, ⟨1⟩⟩
    (.initial none) relaying (.contributed ⟨"bottom"⟩) [] chosen
    fun operation _ => propagates_wreckedHost operation
  have passed : ∀ o ∈ relaying, o.Delegates wreckedHost := by
    intro o member
    rcases List.mem_pair.1 member with rfl | rfl <;> exact fun _ _ => .delegate
  have whole : ((route ⟨.ofHost wreckedHost, defaultLimit⟩ layeredRequest ⟨0, ⟨1⟩⟩).run
      (.initial none)).2.journal = ((select ⟨.ofHost wreckedHost, defaultLimit⟩ layeredRequest
        ⟨0, ⟨1⟩⟩).run (.initial none)).2.journal ++
      [.handling (.contributed ⟨"top"⟩) layeredRequest none,
        .delegating (.contributed ⟨"top"⟩) layeredRequest,
        .handling (.contributed ⟨"middle"⟩) layeredRequest none,
        .delegating (.contributed ⟨"middle"⟩) layeredRequest,
        .handling (.contributed ⟨"bottom"⟩) layeredRequest none,
        .handled (.contributed ⟨"bottom"⟩) (.ok (.error (.internal wreckage))),
        .delegated (.contributed ⟨"middle"⟩) (.error (.internal wreckage)),
        .handled (.contributed ⟨"middle"⟩) (.ok (.error (.internal wreckage))),
        .delegated (.contributed ⟨"top"⟩) (.error (.internal wreckage)),
        .handled (.contributed ⟨"top"⟩) (.ok (.error (.internal wreckage)))] := rfl
  have same := List.append_cancel_left (surfaces.journal.symm.trans whole)
  have texts : ": ".intercalate wreckage.texts = "port: line: no carrier" := by decide
  refine ⟨chosen, ⟨events, surfaces, surfaces.reached passed fun document w' => nofun⟩, ?_⟩
  rw [← texts]
  exact surfaces.internal (by rw [same]; simp)

end Router

end RpcRouting
