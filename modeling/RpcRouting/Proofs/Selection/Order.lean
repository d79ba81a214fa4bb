import RpcRouting.Proofs.Selection.Claims
/-!
The order of registration. Asking operations for their ranks stops at the first conflict or crash,
so two orders ask different operations and report different details. Whether the request has a
chain, nobody to handle it or a failed selection is a matter of the set of operations alone, and so
is the chain; after it was chosen no operation can tell the orders apart.
-/

set_option autoImplicit false
set_option relaxedAutoImplicit false

namespace RpcRouting

variable {host : Host} {request : Document} {session : SessionKey} {w w' : World}

namespace Router

variable {r r' : Router}

/-- Two routers over the same host whose operations stand in different orders. -/
structure Reorders (r r' : Router) : Prop where
  host : r'.host = r.host
  nodup : r.registry.operations.Nodup
  perm : r'.registry.operations.Perm r.registry.operations

namespace Reorders

variable (reorders : Reorders r r') (alike : w.Alike w')

include reorders alike

private theorem crashing_iff : Crashing r'.host request session w' r'.registry.operations ↔
    Crashing r.host request session w r.registry.operations := by
  rw [reorders.host]
  exact ⟨fun crashing => crashing.of_alike alike.symm reorders.perm.subset,
    fun crashing => crashing.of_alike alike reorders.perm.symm.subset⟩

private theorem contested_iff :
    Contested (claimed r'.host request session w') r'.registry.operations ↔
      Contested (claimed r.host request session w) r.registry.operations := by
  rw [reorders.host, claimed_of_alike alike]
  exact ⟨fun contested => contested.of_subset reorders.perm.subset,
    fun contested => contested.of_subset reorders.perm.symm.subset⟩

theorem select : ((r'.select request session).run w').1.mapError RoutingError.tag =
    ((r.select request session).run w).1.mapError RoutingError.tag := by
  have nodup' := reorders.perm.nodup_iff.2 reorders.nodup
  by_cases crashing : Crashing r.host request session w r.registry.operations
  · rw [select_of_crashing reorders.nodup crashing,
      select_of_crashing nodup' ((reorders.crashing_iff alike).2 crashing)]
  have calm' := mt (reorders.crashing_iff alike).1 crashing
  by_cases contested : Contested (claimed r.host request session w) r.registry.operations
  · rw [select_of_contested reorders.nodup crashing contested,
      select_of_contested nodup' calm' ((reorders.contested_iff alike).2 contested)]
  have uncontested' := mt (reorders.contested_iff alike).1 contested
  have chosen' := select_of_uncontested nodup' calm' uncontested'
  rw [reorders.host, claimed_of_alike alike] at chosen'
  have real_of_perm : ∀ {s : Router} {members}, members ≠ [] →
      members.Perm (s.registry.operations.filter fun o =>
        (claimed r.host request session w o).canHandle) →
      ∃ o ∈ s.registry.operations, claimed r.host request session w o ≠ .cannotHandle := by
    intro s members some all
    obtain ⟨o, member⟩ := List.exists_mem_of_ne_nil members some
    obtain ⟨own, real⟩ := List.mem_filter.1 (all.subset member)
    exact ⟨o, own, Candidates.canHandle_iff.1 real⟩
  rcases select_of_uncontested reorders.nodup crashing contested with
    ⟨refused, chosen⟩ | ⟨members, chosen, some, all, descending⟩
  · rcases chosen' with ⟨-, chosen'⟩ | ⟨members', -, some, all, -⟩
    · rw [chosen, chosen']
      rfl
    · obtain ⟨o, own, real⟩ := real_of_perm some all
      exact absurd (refused o (reorders.perm.subset own)) real
  · rcases chosen' with ⟨refused, -⟩ | ⟨members', chosen', -, all', descending'⟩
    · obtain ⟨o, own, real⟩ := real_of_perm some all
      exact absurd (refused o (reorders.perm.symm.subset own)) real
    · have order : members' = members := eq_of_perm_of_descending
        (all'.trans ((reorders.perm.filter _).trans all.symm)) descending' descending
      rw [chosen, chosen', order]

theorem alike_of_chosen {chain : Chain}
    (chosen : ((r.select request session).run w).1 = .ok chain) :
    ((r.select request session).run w).2.Alike ((r'.select request session).run w').2 := by
  have nodup' := reorders.perm.nodup_iff.2 reorders.nodup
  have calm := not_crashing_of_chosen reorders.nodup chosen
  have uncontested := not_contested_of_chosen reorders.nodup chosen
  have chose := World.choosing_chose.leads_select r request session w
  have chose' := World.choosing_chose.leads_select r' request session w'
  obtain ⟨own, foreign⟩ := looksSame_of_uncontested reorders.nodup calm uncontested
  obtain ⟨own', foreign'⟩ := looksSame_of_uncontested nodup'
    (mt (reorders.crashing_iff alike).1 calm) (mt (reorders.contested_iff alike).1 uncontested)
  rw [reorders.host] at own'
  refine ⟨fun o => ?_, fun leaf => ?_, ?_⟩
  · by_cases member : o ∈ r.registry.operations
    · have both : World.LooksSame o (o.asked r.host request (o.prepared r.host session w))
          (o.asked r.host request (o.prepared r.host session w')) :=
        Operation.asked_congr (Operation.prepared_congr (alike.looks o))
      exact (own o member).symm.trans (both.trans (own' o (reorders.perm.symm.subset member)))
    · have absent : o ∉ r'.registry.operations := fun own => member (reorders.perm.subset own)
      exact (foreign o member).symm.trans ((alike.looks o).trans (foreign' o absent))
  · rw [chose'.closings, chose.closings, alike.closings]
  · rw [chose'.released, chose.released, alike.released]

private theorem handled_of_chosen {head : Operation} {rest : Chain}
    (chosen : ((r.select request session).run w).1 = .ok (.link head rest)) :
    (r'.handled request session w' head rest).1 = (r.handled request session w head rest).1 ∧
      World.WentOn ((r.select request session).run w).2 ((r'.select request session).run w').2
        (r.handled request session w head rest).2 (r'.handled request session w' head rest).2 := by
  let early := ((r.select request session).run w).2
  let early' := ((r'.select request session).run w').2
  have started : World.WentOn early early'
      (r.announced request session (.link head rest) early)
      (r'.announced request session (.link head rest) early') :=
    ⟨(reorders.alike_of_chosen alike chosen).of_logged
      (.inr ⟨_, r.announced_eq request session _ early⟩)
      (.inr ⟨_, r'.announced_eq request session _ early'⟩), [], by simp, by simp⟩
  rw [handled, handled, reorders.host]
  have lockstep := World.lockstep_wentOn r.host early early'
  exact lockstep.handle rest.operations (lockstep.execute rest) request head _ _ started

end Reorders

/-- The routers treat a request alike, each in its own world. -/
structure TreatAlike (r r' : Router) (request : Document) (session : SessionKey)
    (w w' : World) : Prop where
  chosen : ((r'.select request session).run w').1.mapError RoutingError.tag =
    ((r.select request session).run w).1.mapError RoutingError.tag
  refused : ∀ tag, ((r.select request session).run w).1.mapError RoutingError.tag = .error tag →
    (tag = .operationNotSupported ∨ tag = .operationFailed) ∧
      (∃ e, ((r.route request session).run w).1 = .error e ∧ e.tag = tag) ∧
      ∃ e, ((r'.route request session).run w').1 = .error e ∧ e.tag = tag
  carriedOut : ∀ chain, ((r.select request session).run w).1 = .ok chain →
    ((r'.route request session).run w').1 = ((r.route request session).run w).1 ∧
      World.WentOn ((r.select request session).run w).2 ((r'.select request session).run w').2
        ((r.route request session).run w).2 ((r'.route request session).run w').2

private theorem exists_tag_of_failed {tag : ErrorTag}
    (failed : ((r.select request session).run w).1.mapError RoutingError.tag = .error tag) :
    (tag = .operationNotSupported ∨ tag = .operationFailed) ∧
      ∃ told, ((r.route request session).run w).1 = .error told ∧ told.tag = tag := by
  cases rejected : ((r.select request session).run w).1 with
  | ok chain =>
    rw [rejected] at failed
    cases failed
  | error e =>
    rw [rejected] at failed
    cases failed
    have answer : ((r.route request session).run w).1 = _ :=
      congrArg Prod.fst (route_of_rejected (Prod.ext rejected rfl))
    cases e with
    | noHandler shown => exact ⟨.inl rfl, _, answer, rfl⟩
    | ambiguous shown conflict => exact ⟨.inr rfl, _, answer, rfl⟩
    | unexpected stage detail => exact ⟨.inr rfl, _, answer, rfl⟩

private theorem chosen_of_mapError {chain : Chain}
    (chosen : ((r.select request session).run w).1.mapError RoutingError.tag = .ok chain) :
    ((r.select request session).run w).1 = .ok chain := by
  cases result : ((r.select request session).run w).1 with
  | error e =>
    rw [result] at chosen
    cases chosen
  | ok own =>
    rw [result] at chosen
    cases chosen
    rfl

theorem Reorders.treatAlike (reorders : Reorders r r') (alike : w.Alike w') :
    TreatAlike r r' request session w w' := by
  have same : ((r'.select request session).run w').1.mapError RoutingError.tag =
      ((r.select request session).run w).1.mapError RoutingError.tag := reorders.select alike
  refine ⟨same, fun tag failed => ?_, fun chain chosen => ?_⟩
  · obtain ⟨kind, told⟩ := exists_tag_of_failed failed
    exact ⟨kind, told, (exists_tag_of_failed (same.trans failed)).2⟩
  · obtain ⟨head, rest, rfl⟩ := exists_link_of_chosen chosen
    have chosen' : ((r'.select request session).run w').1 = .ok (.link head rest) :=
      chosen_of_mapError (same.trans (by rw [chosen]; rfl))
    obtain ⟨ended, wentOn, events, journal, journal'⟩ := reorders.handled_of_chosen alike chosen
    obtain ⟨v, answered, final⟩ := route_of_chain chosen
    obtain ⟨v', answered', final'⟩ := route_of_chain chosen'
    rw [answered, answered', ended]
    refine ⟨rfl, wentOn.of_logged final final', events, ?_, ?_⟩
    · rcases final with rfl | ⟨line, rfl⟩ <;> exact journal
    · rcases final' with rfl | ⟨line, rfl⟩ <;> exact journal'

end Router

/-- The host with other operations contributed by its single backends, which are released as
before. -/
def Host.contributing (host : Host) (contributed : LeafKey → List OperationKey) : Host :=
  { host with
    catalogue :=
      { host.catalogue with
        leaf := fun leaf => { host.catalogue.leaf leaf with operations := contributed leaf } } }

namespace Host

variable (contributed : LeafKey → List OperationKey)

mutual

private theorem close_contributing (again : Run (Except Failure Unit)) : (backend : Backend) →
    Backend.close (host.contributing contributed).catalogue again backend =
      Backend.close host.catalogue again backend
  | .leaf _ => rfl
  | .aggregate members => by
    rw [Backend.close, Backend.close, closeAll_contributing again members]

private theorem closeAll_contributing (again : Run (Except Failure Unit)) :
    (members : List Backend) →
    Backend.closeAll (host.contributing contributed).catalogue again members =
      Backend.closeAll host.catalogue again members
  | [] => rfl
  | member :: rest => by
    rw [Backend.closeAll, Backend.closeAll, close_contributing again member,
      closeAll_contributing again rest]

end

private theorem releaseWithin_contributing (depth : Nat) :
    (host.contributing contributed).releaseWithin depth = host.releaseWithin depth := by
  induction depth with
  | zero => rfl
  | succ depth ih =>
    rw [releaseWithin, releaseWithin, ih, close_contributing]
    rfl

private theorem release_contributing :
    (host.contributing contributed).release = host.release := by
  rw [release, release, releaseWithin_contributing]

private theorem handle_contributing (rest : List Operation) (proceed : Document → Run Outcome)
    (request : Document) (operation : Operation) :
    operation.handle (host.contributing contributed) rest proceed request =
      operation.handle host rest proceed request := by
  cases operation with
  | contributed key => rfl
  | builtin b =>
    cases b with
    | startExi => rfl
    | stopExi => rfl
    | closeSession =>
      have same : Builtin.handleCloseSession (host.contributing contributed) request =
          Builtin.handleCloseSession host request := by
        rw [Builtin.handleCloseSession, Builtin.handleCloseSession, release_contributing]
        rfl
      rw [Operation.handle, Operation.handle]
      simp only [Builtin.handle, same]

private theorem execute_contributing (chain : Chain) :
    chain.execute (host.contributing contributed) = chain.execute host := by
  induction chain with
  | terminus => rfl
  | link operation rest ih =>
    funext request
    rw [Chain.execute, Chain.execute, ih, handle_contributing]

private theorem bindAll_contributing (session : SessionKey) (operations : List Operation) :
    Router.bindAll (host.contributing contributed) session operations =
      Router.bindAll host session operations := by
  induction operations with
  | nil => rfl
  | cons operation rest ih =>
    rw [Router.bindAll, Router.bindAll, ih]
    cases operation <;> rfl

private theorem probeAll_contributing (request : Document) (operations : List Operation)
    (candidates : Candidates) :
    Router.probeAll (host.contributing contributed) request operations candidates =
      Router.probeAll host request operations candidates := by
  have name : ∀ o : Operation, o.name (host.contributing contributed) = o.name host := by
    intro o
    cases o <;> rfl
  have probe : ∀ o : Operation,
      o.probe (host.contributing contributed) request = o.probe host request := by
    intro o
    cases o <;> rfl
  induction operations generalizing candidates with
  | nil => rfl
  | cons operation rest ih =>
    rw [Router.probeAll, Router.probeAll, probe]
    simp only [ih, name]

end Host

namespace Router

variable {r r' : Router} {contributed contributed' : LeafKey → List OperationKey}

theorem select_contributing (operations : List Operation) (limit : Nat) :
    select ⟨⟨host.contributing contributed, operations⟩, limit⟩ request session =
      select ⟨⟨host, operations⟩, limit⟩ request session := by
  have collects : collect ⟨⟨host.contributing contributed, operations⟩, limit⟩ request session =
      collect ⟨⟨host, operations⟩, limit⟩ request session := by
    simp only [collect, Router.host, Host.bindAll_contributing, Host.probeAll_contributing]
  rw [select, select, collects]
  rfl

theorem route_contributing (operations : List Operation) (limit : Nat) :
    route ⟨⟨host.contributing contributed, operations⟩, limit⟩ request session =
      route ⟨⟨host, operations⟩, limit⟩ request session := by
  have announces : announce ⟨⟨host.contributing contributed, operations⟩, limit⟩ request session =
      announce ⟨⟨host, operations⟩, limit⟩ request session := by
    funext chain
    cases chain with
    | terminus => rfl
    | link operation rest => cases operation <;> rfl
  rw [route, route, select_contributing, announces]
  simp only [Router.host, Host.execute_contributing]
  rfl

theorem TreatAlike.contributing {operations operations' : List Operation} {limit : Nat}
    (alike : TreatAlike ⟨⟨host, operations⟩, limit⟩ ⟨⟨host, operations'⟩, limit⟩ request session w w') :
    TreatAlike ⟨⟨host.contributing contributed, operations⟩, limit⟩
      ⟨⟨host.contributing contributed', operations'⟩, limit⟩ request session w w' := by
  obtain ⟨chosen, refused, carriedOut⟩ := alike
  constructor
  · rwa [select_contributing, select_contributing]
  · rwa [select_contributing, route_contributing, route_contributing]
  · rwa [select_contributing, select_contributing, route_contributing, route_contributing]

/-- Two routers treat every request alike if their backends contribute the same operations in
different orders, whatever these do. An operation answers by its own history, the request and the
session; hence the order cannot reach it. -/
theorem treatAlike_of_perm (host : Host) (contributed contributed' : LeafKey → List OperationKey)
    (perm : (host.backend.leaves.flatMap contributed').Perm
      (host.backend.leaves.flatMap contributed))
    (limit : Nat) (request : Document) (session : SessionKey) (w w' : World)
    (alike : w.Alike w') :
    TreatAlike ⟨.ofHost (host.contributing contributed), limit⟩
      ⟨.ofHost (host.contributing contributed'), limit⟩ request session w w' := by
  let operations := (Registry.ofHost (host.contributing contributed)).operations
  let operations' := (Registry.ofHost (host.contributing contributed')).operations
  have nodup : operations.Nodup := Registry.nodup_operations _
  have nodup' : operations'.Nodup := Registry.nodup_operations _
  have listed : (Builtin.all.map Operation.builtin ++
      (host.backend.leaves.flatMap contributed').map Operation.contributed).Perm
        (Builtin.all.map Operation.builtin ++
          (host.backend.leaves.flatMap contributed).map Operation.contributed) :=
    (perm.map _).append_left _
  have registered : operations'.Perm operations := by
    refine (List.perm_ext_iff_of_nodup nodup' nodup).2 fun o => ?_
    simp only [operations, operations', Registry.ofHost, List.mem_eraseDups]
    exact listed.mem_iff
  have reorders : Reorders ⟨⟨host, operations⟩, limit⟩ ⟨⟨host, operations'⟩, limit⟩ :=
    ⟨rfl, nodup, registered⟩
  exact (reorders.treatAlike alike).contributing

/-- Two layers, contributed from the inside out or from the outside in. -/
theorem treatAlike_of_layers :
    ([⟨"outer"⟩, ⟨"inner"⟩] : List OperationKey).Perm [⟨"inner"⟩, ⟨"outer"⟩] ∧
      ((select ⟨.ofHost (layeredHost.contributing fun _ => [⟨"inner"⟩, ⟨"outer"⟩]), defaultLimit⟩
        layeredRequest ⟨0, ⟨1⟩⟩).run layeredWorld).1 =
          .ok (.ofList [.contributed ⟨"outer"⟩, .contributed ⟨"inner"⟩]) ∧
      TreatAlike ⟨.ofHost (layeredHost.contributing fun _ => [⟨"inner"⟩, ⟨"outer"⟩]), defaultLimit⟩
        ⟨.ofHost (layeredHost.contributing fun _ => [⟨"outer"⟩, ⟨"inner"⟩]), defaultLimit⟩
        layeredRequest ⟨0, ⟨1⟩⟩ layeredWorld layeredWorld := by
  have perm : ([⟨"outer"⟩, ⟨"inner"⟩] : List OperationKey).Perm [⟨"inner"⟩, ⟨"outer"⟩] := .swap ..
  have contributions : (layeredHost.backend.leaves.flatMap fun _ =>
      ([⟨"outer"⟩, ⟨"inner"⟩] : List OperationKey)).Perm
        (layeredHost.backend.leaves.flatMap fun _ => [⟨"inner"⟩, ⟨"outer"⟩]) := perm
  exact ⟨perm, rfl, treatAlike_of_perm layeredHost (fun _ => [⟨"inner"⟩, ⟨"outer"⟩])
    (fun _ => [⟨"outer"⟩, ⟨"inner"⟩]) contributions defaultLimit layeredRequest ⟨0, ⟨1⟩⟩ layeredWorld
    layeredWorld (.refl layeredWorld)⟩

end Router

end RpcRouting
