import RpcRouting.Proofs.Selection.Ranking
/-!
Routing against its reference: rank all operations, refuse if none can handle the request or if two
have one rank, and else sort by descending rank and run.
-/

set_option autoImplicit false
set_option relaxedAutoImplicit false

namespace RpcRouting

/-- Gives a request to the first of some operations, which may pass it on to the others. -/
def runInOrder (host : Host) : List Operation → Document → Run Outcome
  | [], _ => return .ok none
  | operation :: rest, request => do
    let outcome ← operation.handle host rest (runInOrder host rest) request
    return outcome.map some

theorem Chain.execute_ofList (host : Host) (operations : List Operation) :
    (ofList operations).execute host = runInOrder host operations := by
  induction operations with
  | nil => rfl
  | cons operation rest ih =>
    funext request
    rw [ofList, execute, runInOrder, Chain.operations_ofList, ih]

private theorem nodup_eraseDups (operations : List Operation) : operations.eraseDups.Nodup := by
  match operations with
  | [] => simp
  | operation :: rest =>
    rw [List.eraseDups_cons, List.nodup_cons]
    have fresh : operation ∉ (rest.filter fun o => !o == operation).eraseDups := by
      simp
    exact ⟨fresh, nodup_eraseDups _⟩
termination_by operations.length
decreasing_by exact Nat.lt_succ_of_le (List.length_filter_le _ _)

theorem Registry.nodup_operations (host : Host) : (ofHost host).operations.Nodup :=
  nodup_eraseDups _

namespace Router

variable (r : Router) (request : Document) (session : SessionKey) (w : World)
  (rank : Operation → Priority)

/-- No operation crashes over the session or over the question for its rank, and each one that was
given the session answers with the given rank. -/
structure Ranks : Prop where
  calm : ∀ o ∈ r.registry.operations, o.requiresSession r.host = true →
    o.bindCrash? r.host w session = none
  answers : ∀ o ∈ r.registry.operations,
    o.answer r.host (o.prepared r.host session w) request = .ok (rank o)

structure FailsWith (e : RoutingError) : Prop where
  rejected : ((r.select request session).run w).1 = .error e
  answer : ((r.route request session).run w).1 =
    .error (e.toRpcError (r.shown request) session.id)

def handedOver (members : List Operation) : World :=
  r.announced request session (.ofList members) ((r.select request session).run w).2

/-- The request runs through all operations that can handle it, from the highest rank to the
lowest, and is answered as the first one ends. -/
structure RunsThrough (head : Operation) (rest : List Operation) : Prop where
  members : (head :: rest).Perm (r.registry.operations.filter fun o => (rank o).canHandle)
  descending : (head :: rest).Pairwise fun a b => rank b < rank a
  chosen : ((r.select request session).run w).1 = .ok (.ofList (head :: rest))
  answer : ((r.route request session).run w).1 =
    told ((head.handle r.host rest (runInOrder r.host rest) request).on
      (r.handedOver request session w (head :: rest))).1

/-- The routing of a request is what the ranks of the operations say. -/
structure RoutesBy : Prop where
  noHandler : r.FailsWith request session w (.noHandler (r.shown request)) ↔
    ∀ o ∈ r.registry.operations, rank o = .cannotHandle
  ambiguous : (∃ conflict, r.FailsWith request session w (.ambiguous (r.shown request) conflict)) ↔
    ∃ a ∈ r.registry.operations, ∃ b ∈ r.registry.operations,
      a ≠ b ∧ rank a = rank b ∧ rank a ≠ .cannotHandle
  reported : ∀ conflict, r.FailsWith request session w (.ambiguous (r.shown request) conflict) →
    ∃ existing conflicting, FirstConflict rank r.registry.operations existing conflicting ∧
      conflict = ⟨rank conflicting, existing.name r.host, conflicting.name r.host⟩
  otherwise : (∃ o ∈ r.registry.operations, rank o ≠ .cannotHandle) →
    (∀ a ∈ r.registry.operations, ∀ b ∈ r.registry.operations,
      rank a = rank b → rank a ≠ .cannotHandle → a = b) →
    ∃ head rest, r.RunsThrough request session w rank head rest

variable {r request session w rank}

theorem Ranks.collect_on (ranks : r.Ranks request session w rank)
    (nodup : r.registry.operations.Nodup) :
    ((r.collect request session).on w).1 =
      .ok (Conflict.report r.host rank (Candidates.tally rank r.registry.operations .empty)) := by
  obtain ⟨w', bound, members, -⟩ := bindAll_on nodup ranks.calm
  have answers : ∀ o ∈ r.registry.operations, o.answer r.host w' request = .ok (rank o) := by
    intro o member
    rw [Operation.answer_congr (members o member)]
    exact ranks.answers o member
  rw [collect, Run.on_bind_of_ok bound]
  exact probeAll_on nodup answers .empty

/-- The three ways in which candidates that were collected by ranks are chosen from. -/
inductive Chooses (r : Router) (request : Document) (rank : Operation → Priority) :
    Except RoutingError Chain → Prop
  | nobody (refused : ∀ o ∈ r.registry.operations, rank o = .cannotHandle) :
    Chooses r request rank (.error (.noHandler (r.shown request)))
  | conflict {existing conflicting : Operation}
      (first : FirstConflict rank r.registry.operations existing conflicting) :
    Chooses r request rank (.error (.ambiguous (r.shown request)
      ⟨rank conflicting, existing.name r.host, conflicting.name r.host⟩))
  | chain {head : Operation} {rest : List Operation}
      (members : (head :: rest).Perm (r.registry.operations.filter fun o => (rank o).canHandle))
      (descending : (head :: rest).Pairwise fun a b => rank b < rank a) :
    Chooses r request rank (.ok (.ofList (head :: rest)))

theorem Ranks.chooses (ranks : r.Ranks request session w rank)
    (nodup : r.registry.operations.Nodup) :
    Chooses r request rank ((r.select request session).run w).1 := by
  rw [select_run, ranks.collect_on nodup]
  rcases (Candidates.holds_empty rank).tally r.registry.operations with
    ⟨more, tallied, holds⟩ | ⟨existing, conflicting, tallied, first⟩
  · rw [tallied]
    cases entries : more.members with
    | nil =>
      have none : more.isEmpty = true := by
        simpa [Candidates.isEmpty, Candidates.members] using entries
      have chosen : r.verdict request (.ok (.ok more)) = .error (.noHandler (r.shown request)) :=
        if_pos none
      rw [Conflict.report, chosen]
      exact .nobody (holds.isEmpty_iff.1 none)
    | cons head rest =>
      have some : ¬ more.isEmpty = true := by
        intro none
        have absent : more.members = [] := by
          simpa [Candidates.isEmpty, Candidates.members] using none
        rw [absent] at entries
        cases entries
      have chosen : r.verdict request (.ok (.ok more)) = .ok (.ofList (head :: rest)) := by
        rw [← entries]
        exact if_neg some
      rw [Conflict.report, chosen]
      exact .chain (entries ▸ holds.members_perm nodup) (entries ▸ holds.members_descend)
  · rw [tallied]
    exact .conflict first

private theorem failsWith_of_rejected {e : RoutingError}
    (rejected : ((r.select request session).run w).1 = .error e) :
    r.FailsWith request session w e :=
  ⟨rejected, congrArg Prod.fst (route_of_rejected (Prod.ext rejected rfl))⟩

private theorem answer_of_chosen {head : Operation} {rest : List Operation}
    (chosen : ((r.select request session).run w).1 = .ok (.ofList (head :: rest))) :
    ((r.route request session).run w).1 =
      told ((head.handle r.host rest (runInOrder r.host rest) request).on
        (r.handedOver request session w (head :: rest))).1 := by
  obtain ⟨w', run, -⟩ := route_of_chain chosen
  have same : r.handled request session w head (.ofList rest) =
      (head.handle r.host rest (runInOrder r.host rest) request).on
        (r.handedOver request session w (head :: rest)) := by
    rw [handled, Chain.operations_ofList, Chain.execute_ofList]
    rfl
  rw [← same]
  exact congrArg Prod.fst run

/-- If no operation crashes before the request is handled, then routing does what the ranks of the
operations say. -/
theorem routesBy_of_ranks (host : Host) (limit : Nat) (request : Document) (session : SessionKey)
    (w : World) (rank : Operation → Priority)
    (ranks : Ranks ⟨.ofHost host, limit⟩ request session w rank) :
    RoutesBy ⟨.ofHost host, limit⟩ request session w rank := by
  have nodup := Registry.nodup_operations host
  have chooses := ranks.chooses nodup
  generalize chosen : ((select ⟨.ofHost host, limit⟩ request session).run w).1 = result at chooses
  cases chooses with
  | nobody refused =>
    have fails := failsWith_of_rejected chosen
    refine ⟨⟨fun _ => refused, fun _ => fails⟩, ⟨?_, ?_⟩, ?_, ?_⟩
    · rintro ⟨conflict, ambiguous⟩
      cases chosen.symm.trans ambiguous.rejected
    · rintro ⟨a, member, -, -, -, -, real⟩
      exact absurd (refused a member) real
    · intro conflict ambiguous
      cases chosen.symm.trans ambiguous.rejected
    · rintro ⟨o, member, real⟩
      exact absurd (refused o member) real
  | @conflict existing conflicting first =>
    have fails := failsWith_of_rejected chosen
    have twins := first.exists_ne nodup
    refine ⟨⟨?_, ?_⟩, ⟨fun _ => twins, fun _ => ⟨_, fails⟩⟩, ?_, ?_⟩
    · intro refused
      cases chosen.symm.trans refused.rejected
    · intro refused
      obtain ⟨a, member, -, -, -, -, real⟩ := twins
      exact absurd (refused a member) real
    · intro conflict ambiguous
      cases chosen.symm.trans ambiguous.rejected
      exact ⟨existing, conflicting, first, rfl⟩
    · rintro - distinct
      obtain ⟨a, ha, b, hb, apart, same, real⟩ := twins
      exact absurd (distinct a ha b hb same real) apart
  | @chain head rest members descending =>
    have mem_members : ∀ o, rank o ≠ .cannotHandle → o ∈ (Registry.ofHost host).operations →
        o ∈ head :: rest := fun o real member =>
      members.mem_iff.2 (List.mem_filter.2 ⟨member, Candidates.canHandle_iff.2 real⟩)
    refine ⟨⟨?_, ?_⟩, ⟨?_, ?_⟩, ?_, fun _ _ => ⟨head, rest, members, descending, chosen,
      answer_of_chosen chosen⟩⟩
    · intro refused
      cases chosen.symm.trans refused.rejected
    · intro refused
      obtain ⟨own, real⟩ := List.mem_filter.1 (members.mem_iff.1 List.mem_cons_self)
      exact absurd (refused head own) (Candidates.canHandle_iff.1 real)
    · rintro ⟨conflict, ambiguous⟩
      cases chosen.symm.trans ambiguous.rejected
    · rintro ⟨a, ha, b, hb, apart, same, real⟩
      have first := mem_members a real ha
      have second := mem_members b (same ▸ real) hb
      exact absurd (eq_of_descending descending first second same) apart
    · intro conflict ambiguous
      cases chosen.symm.trans ambiguous.rejected

/-- An operation that replies if it sees a session, behind one that passes every request on. -/
def layeredHost : Host where
  catalogue :=
    { operation := fun key => ⟨key.value, key.value = "inner", fun _ _ => none,
        fun _ _ seen => .ok <|
          if key.value = "outer" then .real 10 else if seen.isSome then .real 5 else .cannotHandle,
        fun _ request =>
          if key.value = "outer" then .delegate request fun outcome => .finish <|
            match outcome with
            | .ok (some reply) => .ok reply
            | .ok none => .error (.internal (.cause "nothing to pass on"))
            | .error e => .error e
          else .finish (.ok request.okReply)⟩
      leaf := fun _ => ⟨[⟨"inner"⟩, ⟨"outer"⟩], fun _ => .finish (.ok ())⟩ }
  sessionId := ⟨1⟩
  backend := .leaf ⟨0⟩

def layeredRank : Operation → Priority
  | .builtin _ => .cannotHandle
  | .contributed key => if key.value = "outer" then .real 10 else .real 5

def layeredRequest : Document := .request "1" (.named "get")

def layeredWorld : World := { World.initial none with sessions := (Sessions.empty.begin ⟨1⟩).1 }

theorem routesBy_of_layers :
    Ranks ⟨.ofHost layeredHost, defaultLimit⟩ layeredRequest ⟨0, ⟨1⟩⟩ layeredWorld layeredRank ∧
      RoutesBy ⟨.ofHost layeredHost, defaultLimit⟩ layeredRequest ⟨0, ⟨1⟩⟩ layeredWorld
        layeredRank := by
  have operations : (Registry.ofHost layeredHost).operations =
      [.builtin .closeSession, .builtin .startExi, .builtin .stopExi, .contributed ⟨"inner"⟩,
        .contributed ⟨"outer"⟩] := rfl
  have ranks : Ranks ⟨.ofHost layeredHost, defaultLimit⟩ layeredRequest ⟨0, ⟨1⟩⟩ layeredWorld
      layeredRank := by
    refine ⟨fun o _ _ => by cases o <;> rfl, fun o member => ?_⟩
    simp only [operations, List.mem_cons, List.not_mem_nil, or_false] at member
    rcases member with rfl | rfl | rfl | rfl | rfl <;> rfl
  exact ⟨ranks, routesBy_of_ranks layeredHost defaultLimit layeredRequest ⟨0, ⟨1⟩⟩ layeredWorld
    layeredRank ranks⟩

end Router

end RpcRouting
