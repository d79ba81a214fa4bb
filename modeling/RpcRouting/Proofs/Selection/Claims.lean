import RpcRouting.Proofs.Alike
import RpcRouting.Proofs.Routing.Reference
/-!
What decides over a request as long as nobody handles it: whether an operation crashes, and whether
two claim one rank. Both are said of the operations one by one, as if each were the only one, and so
without the order in which they are asked.
-/

set_option autoImplicit false
set_option relaxedAutoImplicit false

namespace RpcRouting

variable {host : Host} {request : Document} {session : SessionKey} {w w' : World}
  {operation : Operation} {operations : List Operation}

namespace Router

/-- An operation crashes over the session, or as if it were the only one over the question for its
rank. -/
inductive Crashing (host : Host) (request : Document) (session : SessionKey) (w : World)
    (operations : List Operation) : Prop
  | bound {operation : Operation} {left : Crash} (member : operation ∈ operations)
      (requires : operation.requiresSession host = true)
      (crash : operation.bindCrash? host w session = some left)
  | asked {operation : Operation} {left : Crash} (member : operation ∈ operations)
      (crash : operation.answer host (operation.prepared host session w) request = .error left)

theorem Crashing.of_alike {operations' : List Operation}
    (crashing : Crashing host request session w operations) (alike : w.Alike w')
    (all : operations ⊆ operations') : Crashing host request session w' operations' := by
  cases crashing with
  | bound member requires crash =>
    exact .bound (all member) requires ((Operation.bindCrash?_congr (alike.looks _)).trans crash)
  | @asked o left member crash =>
    have same : World.LooksSame o (o.prepared host session w) (o.prepared host session w') :=
      Operation.prepared_congr (alike.looks o)
    exact .asked (all member) ((Operation.answer_congr same).trans crash)

def claimed (host : Host) (request : Document) (session : SessionKey) (w : World)
    (operation : Operation) : Priority :=
  match operation.answer host (operation.prepared host session w) request with
  | .ok rank => rank
  | .error _ => .cannotHandle

theorem claimed_of_alike (alike : w.Alike w') :
    claimed host request session w' = claimed host request session w := by
  funext o
  rw [claimed, claimed, Operation.answer_congr (Operation.prepared_congr (alike.looks o))]

/-- Two operations claim one rank. -/
def Contested (rank : Operation → Priority) (operations : List Operation) : Prop :=
  ∃ a ∈ operations, ∃ b ∈ operations, a ≠ b ∧ rank a = rank b ∧ rank a ≠ .cannotHandle

theorem Contested.of_subset {rank : Operation → Priority} {operations' : List Operation}
    (contested : Contested rank operations) (all : operations ⊆ operations') :
    Contested rank operations' := by
  obtain ⟨a, ha, b, hb, claims⟩ := contested
  exact ⟨a, all ha, b, all hb, claims⟩

variable {r : Router}

private def Uncollected (r : Router) (request : Document) (session : SessionKey) (w : World) :
    Prop :=
  ∀ candidates, ((r.collect request session).on w).1 ≠ .ok (.ok candidates)

private theorem tag_of_uncollected (none : Uncollected r request session w) :
    ((r.select request session).run w).1.mapError RoutingError.tag = .error .operationFailed := by
  rw [select_run]
  cases collected : ((r.collect request session).on w).1 with
  | error left => rfl
  | ok result =>
    cases result with
    | error conflict => rfl
    | ok candidates => exact absurd collected (none candidates)

private theorem uncollected_of_bound (nodup : r.registry.operations.Nodup)
    (member : operation ∈ r.registry.operations)
    (requires : operation.requiresSession r.host = true) {left : Crash}
    (crash : operation.bindCrash? r.host w session = some left) :
    Uncollected r request session w := by
  intro candidates
  obtain ⟨last, broken⟩ := bindAll_crashes nodup member requires crash
  rw [collect, Run.on_bind_of_error (Prod.ext broken rfl)]
  intro same
  cases same

private theorem uncollected_of_asked (nodup : r.registry.operations.Nodup)
    (member : operation ∈ r.registry.operations) {left : Crash}
    (crash : operation.answer r.host (operation.prepared r.host session w) request = .error left) :
    Uncollected r request session w := by
  by_cases calm : ∀ o ∈ r.registry.operations, o.requiresSession r.host = true →
      o.bindCrash? r.host w session = none
  · intro candidates
    obtain ⟨w', bound, members, -⟩ := bindAll_on nodup calm
    have crash' : operation.answer r.host w' request = .error left :=
      (Operation.answer_congr (members operation member)).trans crash
    rw [collect, Run.on_bind_of_ok bound]
    exact probeAll_crashes nodup member crash' .empty candidates
  · push Not at calm
    obtain ⟨o, own, requires, crashes⟩ := calm
    obtain ⟨last, crashes⟩ := Option.ne_none_iff_exists'.1 crashes
    exact uncollected_of_bound nodup own requires crashes

theorem select_of_crashing (nodup : r.registry.operations.Nodup)
    (crashing : Crashing r.host request session w r.registry.operations) :
    ((r.select request session).run w).1.mapError RoutingError.tag = .error .operationFailed := by
  cases crashing with
  | bound member requires crash =>
    exact tag_of_uncollected (uncollected_of_bound nodup member requires crash)
  | asked member crash => exact tag_of_uncollected (uncollected_of_asked nodup member crash)

theorem Ranks.of_calm (calm : ¬ Crashing r.host request session w r.registry.operations) :
    r.Ranks request session w (claimed r.host request session w) := by
  refine ⟨fun o member requires => ?_, fun o member => ?_⟩
  · by_contra crash
    obtain ⟨left, crash⟩ := Option.ne_none_iff_exists'.1 crash
    exact calm (.bound member requires crash)
  · cases answer : o.answer r.host (o.prepared r.host session w) request with
    | error left => exact absurd (.asked member answer) calm
    | ok rank => rw [claimed, answer]

theorem select_of_contested (nodup : r.registry.operations.Nodup)
    (calm : ¬ Crashing r.host request session w r.registry.operations)
    (contested : Contested (claimed r.host request session w) r.registry.operations) :
    ((r.select request session).run w).1.mapError RoutingError.tag = .error .operationFailed := by
  have chooses := (Ranks.of_calm calm).chooses nodup
  obtain ⟨a, first, b, second, apart, same, real⟩ := contested
  generalize ((r.select request session).run w).1 = result at chooses
  cases chooses with
  | nobody refused => exact absurd (refused a first) real
  | conflict twins => rfl
  | @chain head rest members descending =>
    have mem_members : ∀ o ∈ r.registry.operations, claimed r.host request session w o ≠
        .cannotHandle → o ∈ head :: rest := fun o member real => members.mem_iff.2
      (List.mem_filter.2 ⟨member, Candidates.canHandle_iff.2 real⟩)
    exact absurd (eq_of_descending descending (mem_members a first real)
      (mem_members b second (same ▸ real)) same) apart

theorem select_of_uncontested (nodup : r.registry.operations.Nodup)
    (calm : ¬ Crashing r.host request session w r.registry.operations)
    (uncontested : ¬ Contested (claimed r.host request session w) r.registry.operations) :
    (∀ o ∈ r.registry.operations, claimed r.host request session w o = .cannotHandle) ∧
        ((r.select request session).run w).1 = .error (.noHandler (r.shown request)) ∨
      ∃ members, ((r.select request session).run w).1 = .ok (.ofList members) ∧ members ≠ [] ∧
        members.Perm (r.registry.operations.filter fun o =>
          (claimed r.host request session w o).canHandle) ∧
        members.Pairwise fun a b =>
          claimed r.host request session w b < claimed r.host request session w a := by
  have chooses := (Ranks.of_calm calm).chooses nodup
  generalize ((r.select request session).run w).1 = result at chooses
  cases chooses with
  | nobody refused => exact .inl ⟨refused, rfl⟩
  | conflict first => exact absurd (first.exists_ne nodup) uncontested
  | @chain head rest members descending =>
    exact .inr ⟨head :: rest, rfl, by simp, members, descending⟩

/-- After a chain was looked for without crash and conflict, every operation has the history of one
that was alone. -/
theorem looksSame_of_uncontested (nodup : r.registry.operations.Nodup)
    (calm : ¬ Crashing r.host request session w r.registry.operations)
    (uncontested : ¬ Contested (claimed r.host request session w) r.registry.operations) :
    (∀ o ∈ r.registry.operations, World.LooksSame o
      (o.asked r.host request (o.prepared r.host session w)) ((r.select request session).run w).2) ∧
    ∀ o, o ∉ r.registry.operations → World.LooksSame o w ((r.select request session).run w).2 := by
  have ranks := Ranks.of_calm calm
  obtain ⟨v, bound, members, others⟩ := bindAll_on nodup ranks.calm
  have answers : ∀ o ∈ r.registry.operations,
      o.answer r.host v request = .ok (claimed r.host request session w o) := by
    intro o member
    rw [Operation.answer_congr (members o member)]
    exact ranks.answers o member
  have selected : ((r.select request session).run w).2 =
      ((probeAll r.host request r.registry.operations .empty).on v).2 := by
    rw [select_run, collect, Run.on_bind_of_ok bound]
  rw [selected]
  rcases (Candidates.holds_empty (claimed r.host request session w)).tally r.registry.operations with
    ⟨more, tallied, -⟩ | ⟨existing, conflicting, -, first⟩
  · obtain ⟨asked, others'⟩ := probeAll_looks nodup answers tallied
    refine ⟨fun o member => ?_, fun o absent => (others o absent).trans (others' o absent)⟩
    exact (Operation.asked_congr (members o member)).trans (asked o member)
  · exact absurd (first.exists_ne nodup) uncontested

section Chosen

variable {chain : Chain} (nodup : r.registry.operations.Nodup)
  (chosen : ((r.select request session).run w).1 = .ok chain)

include nodup chosen

theorem not_crashing_of_chosen : ¬ Crashing r.host request session w r.registry.operations := by
  intro crashing
  have failed := select_of_crashing nodup crashing
  rw [chosen] at failed
  cases failed

theorem not_contested_of_chosen :
    ¬ Contested (claimed r.host request session w) r.registry.operations := by
  intro contested
  have failed := select_of_contested nodup (not_crashing_of_chosen nodup chosen) contested
  rw [chosen] at failed
  cases failed

theorem members_of_chosen :
    chain.operations.Perm (r.registry.operations.filter fun o =>
        (claimed r.host request session w o).canHandle) ∧
      chain.operations.Pairwise fun a b =>
        claimed r.host request session w b < claimed r.host request session w a := by
  rcases select_of_uncontested nodup (not_crashing_of_chosen nodup chosen)
    (not_contested_of_chosen nodup chosen) with
    ⟨-, rejected⟩ | ⟨members, chosen', -, all, descending⟩
  · rw [chosen] at rejected
    cases rejected
  · obtain rfl : chain = .ofList members := Except.ok.inj (chosen.symm.trans chosen')
    rw [Chain.operations_ofList]
    exact ⟨all, descending⟩

theorem seenBy_of_chosen (member : operation ∈ r.registry.operations)
    (requires : operation.requiresSession r.host = true) :
    ((r.select request session).run w).2.seenBy operation = w.sessions.get? session := by
  have same := (looksSame_of_uncontested nodup (not_crashing_of_chosen nodup chosen)
    (not_contested_of_chosen nodup chosen)).1 operation member
  have binding : (operation.prepared r.host session w).bindings operation = .ofKey session := by
    simp [Operation.prepared, requires, World.bind]
  have sessions := (World.choosing_chose.leads_select r request session w).sessions
  rw [World.seenBy, same.binding, Operation.asked, World.record_bindings, binding, sessions]
  rfl

end Chosen

theorem nodup_of_chosen (nodup : r.registry.operations.Nodup) {members : List Operation}
    (chosen : ((r.select request session).run w).1 = .ok (.ofList members)) : members.Nodup := by
  have all := (members_of_chosen nodup chosen).1
  rw [Chain.operations_ofList] at all
  exact all.nodup_iff.2 (nodup.filter _)

end Router

end RpcRouting
