import RpcRouting.Proofs.Builtin.Choice
import RpcRouting.Proofs.Routing.Containment
import RpcRouting.Proofs.Routing.Unwinding
import RpcRouting.Proofs.Selection.Flattening
/-!
Built-in operations come last. They rank lowest for the one request that they answer, and a rank is
held once, so that every other operation that can handle the request stands in front of a built-in
one and has to pass the request on to it. Whoever claims the lowest rank as well is in conflict with
it, and the request fails before anybody is given it.
-/

set_option autoImplicit false
set_option relaxedAutoImplicit false

namespace RpcRouting

theorem Priority.not_lt_lowest {p : Priority} (real : p ≠ .cannotHandle) : ¬ p < lowest := by
  cases p with
  | cannotHandle => exact absurd rfl real
  | real value =>
    intro below
    have least : Int32.minValue.toInt ≤ value.toInt := value.minValue_le_toInt
    exact absurd (Int32.lt_iff_toInt_lt.1 below) (Int.not_lt.2 least)

theorem RoutingError.tag_toRpcError (e : RoutingError) (request : String) (session : SessionId) :
    (e.toRpcError request session).tag = e.tag := by
  cases e <;> rfl

variable {host : Host} {limit : Nat} {request : Document} {session : SessionKey} {w : World}

theorem exists_last_of_descending {rank : Operation → Priority} {operations : List Operation}
    (lowest : ∀ b, .builtin b ∈ operations → rank (.builtin b) = .lowest)
    (real : ∀ o ∈ operations, rank o ≠ .cannotHandle)
    (descending : operations.Pairwise fun a b => rank b < rank a) :
    ∃ (keys : List OperationKey) (last : Option Builtin),
      operations = keys.map .contributed ++ last.toList.map .builtin := by
  induction operations with
  | nil => exact ⟨[], none, rfl⟩
  | cons first rest ih =>
    obtain ⟨above, ordered⟩ := List.pairwise_cons.1 descending
    obtain ⟨-, others⟩ := List.forall_mem_cons.1 real
    cases first with
    | contributed key =>
      obtain ⟨keys, last, rfl⟩ :=
        ih (fun b member => lowest b (List.mem_cons_of_mem _ member)) others ordered
      exact ⟨key :: keys, last, rfl⟩
    | builtin b =>
      -- There is no rank left for another operation.
      have none : rest = [] := by
        refine List.eq_nil_iff_forall_not_mem.2 fun o member => ?_
        have below := above o member
        rw [lowest b List.mem_cons_self] at below
        exact Priority.not_lt_lowest (others o member) below
      exact ⟨[], some b, by rw [none]; rfl⟩

namespace Router

/-- The rank with which a contributed operation answers a request of a session. -/
def Claims (host : Host) (request : Document) (session : SessionKey) (w : World)
    (key : OperationKey) (rank : Priority) : Prop :=
  let operation := Operation.contributed key
  operation.answer host (operation.prepared host session w) request = .ok rank

theorem claimed_of_claims {key : OperationKey} {rank : Priority}
    (claims : Claims host request session w key rank) :
    claimed host request session w (.contributed key) = rank := by
  rw [claimed, claims]

theorem claimed_ne_iff {key : OperationKey} :
    claimed host request session w (.contributed key) ≠ .cannotHandle ↔
      ∃ rank, Claims host request session w key rank ∧ rank ≠ .cannotHandle := by
  constructor
  · intro real
    rw [claimed] at real
    split at real
    · next rank answer => exact ⟨rank, answer, real⟩
    · exact absurd rfl real
  · rintro ⟨rank, claims, real⟩
    rwa [claimed_of_claims claims]

/-- A chain of contributed operations, with a built-in one behind them or none. -/
structure LastResort (host : Host) (limit : Nat) (request : Document) (session : SessionKey)
    (w : World) (chain : Chain) (keys : List OperationKey) (last : Option Builtin) : Prop where
  chain : chain = .ofList (keys.map .contributed ++ last.toList.map .builtin)
  asked : ∀ b, last = some b ↔ b.IsAsked request
  claims : ∀ key, key ∈ keys ↔ key ∈ host.contributions ∧
    ∃ rank, Claims host request session w key rank ∧ rank ≠ .cannotHandle
  /-- It is given a document only after all of them have passed one on. -/
  reached : ∃ events,
    ((route ⟨.ofHost host, limit⟩ request session).run w).2.journal = w.journal ++ events ∧
      ∀ {before after : Journal} {b document seen},
        events = before ++ .handling (.builtin b) document seen :: after →
          last = some b ∧ ∀ key ∈ keys, before.PassedOn (.contributed key)

section Chosen

variable {chain : Chain}
  (chosen : ((select ⟨.ofHost host, limit⟩ request session).run w).1 = .ok chain)

include chosen

private theorem mem_iff_of_chosen {operation : Operation} :
    operation ∈ chain.operations ↔ operation ∈ (Registry.ofHost host).operations ∧
      claimed host request session w operation ≠ .cannotHandle := by
  have members := (members_of_chosen (r := ⟨.ofHost host, limit⟩)
    (Registry.nodup_operations host) chosen).1
  rw [members.mem_iff, List.mem_filter, Candidates.canHandle_iff]
  rfl

private theorem builtin_mem_iff_of_chosen {b : Builtin} :
    .builtin b ∈ chain.operations ↔ b.IsAsked request := by
  have claim : claimed host request session w (.builtin b) = b.rank request := rfl
  rw [mem_iff_of_chosen chosen, claim]
  constructor
  · exact fun member => Builtin.isAsked_of_rank member.2
  · intro asked
    refine ⟨Registry.builtin_mem_ofHost host b, ?_⟩
    rw [Builtin.rank_of_isAsked asked]
    exact nofun

private theorem exists_last_of_chosen : ∃ (keys : List OperationKey) (last : Option Builtin),
    chain.operations = keys.map .contributed ++ last.toList.map .builtin := by
  have descending := (members_of_chosen (r := ⟨.ofHost host, limit⟩)
    (Registry.nodup_operations host) chosen).2
  exact exists_last_of_descending
    (fun b member => Builtin.rank_of_isAsked ((builtin_mem_iff_of_chosen chosen).1 member))
    (fun o member => ((mem_iff_of_chosen chosen).1 member).2) descending

private theorem passedOn_of_chosen : ∃ events,
    ((route ⟨.ofHost host, limit⟩ request session).run w).2.journal = w.journal ++ events ∧
      ∀ {before after : Journal} {operation document seen},
        events = before ++ .handling operation document seen :: after →
          operation ∈ chain.operations ∧ ∀ above below, chain.operations = above ++ below →
            operation ∉ above → ∀ o ∈ above, before.PassedOn o := by
  obtain ⟨choice, selected, choosing⟩ := (World.choosing_chose.leads_select
    ⟨.ofHost host, limit⟩ request session w).journal
  obtain ⟨events, ended, journal, called, -⟩ :=
    exists_events_of_chosen chosen (chain.emits_execute request)
  refine ⟨choice ++ events, by rw [journal, selected, List.append_assoc], ?_⟩
  intro before after operation document seen split
  rcases split_of_append split with ⟨later, within, -⟩ | ⟨inner, rfl, beyond⟩
  · have own := choosing (.handling operation document seen) (by simp [within])
    cases own
  · rw [← chain.ofList_operations] at called
    have given : .handling operation document seen ∈ events := by simp [beyond]
    refine ⟨called.mem_of_operation? _ given operation rfl, ?_⟩
    intro above below parts absent o member
    rw [parts] at called
    exact (called.passedOn absent beyond o member).mono (List.subset_append_right _ _)

theorem lastResort_of_chosen :
    ∃ keys last, LastResort host limit request session w chain keys last := by
  obtain ⟨keys, last, shape⟩ := exists_last_of_chosen chosen
  obtain ⟨events, journal, reached⟩ := passedOn_of_chosen chosen
  have last_iff : ∀ b, .builtin b ∈ chain.operations ↔ last = some b := by
    intro b
    simp [shape]
  have key_iff : ∀ key, .contributed key ∈ chain.operations ↔ key ∈ keys := by
    intro key
    simp [shape]
  refine ⟨keys, last, ?_, fun b => ?_, fun key => ?_, events, journal, ?_⟩
  · rw [← shape, chain.ofList_operations]
  · rw [← last_iff, builtin_mem_iff_of_chosen chosen]
  · rw [← key_iff, mem_iff_of_chosen chosen, Registry.contributed_mem_ofHost, claimed_ne_iff]
  · intro before after b document seen split
    obtain ⟨member, passed⟩ := reached split
    have others := passed _ _ shape (by simp)
    exact ⟨(last_iff b).1 member, fun key among => others _ (List.mem_map_of_mem among)⟩

end Chosen

/-- The request fails before any operation is given it. -/
def FailsUntouched (r : Router) (request : Document) (session : SessionKey) (w : World) : Prop :=
  (∃ e, ((r.route request session).run w).1 = .error e ∧ e.tag = .operationFailed) ∧
    w.Chose ((r.route request session).run w).2

theorem failsUntouched_of_lowest {b : Builtin} {key : OperationKey} (asked : b.IsAsked request)
    (member : key ∈ host.contributions) (claims : Claims host request session w key .lowest) :
    FailsUntouched ⟨.ofHost host, limit⟩ request session w := by
  have nodup := Registry.nodup_operations host
  have failed : ((select ⟨.ofHost host, limit⟩ request session).run w).1.mapError
      RoutingError.tag = .error .operationFailed := by
    by_cases crashing : Crashing host request session w (Registry.ofHost host).operations
    · exact select_of_crashing nodup crashing
    · refine select_of_contested nodup crashing ⟨.contributed key,
        Registry.contributed_mem_ofHost.2 member, .builtin b, Registry.builtin_mem_ofHost host b,
        nofun, ?_, ?_⟩
      · exact (claimed_of_claims claims).trans (Builtin.rank_of_isAsked asked).symm
      · exact fun refused => nomatch (claimed_of_claims claims).symm.trans refused
  cases rejected : ((select ⟨.ofHost host, limit⟩ request session).run w).1 with
  | ok chain =>
    rw [rejected] at failed
    cases failed
  | error e =>
    rw [rejected] at failed
    have refuses := refuses_of_rejected rejected
    refine ⟨⟨_, refuses.answer, ?_⟩, refuses.unchanged⟩
    rw [RoutingError.tag_toRpcError]
    exact Except.error.inj failed

/-- Whatever is contributed: a built-in operation is the last resort of a request, behind all others
that can handle it, and none of these can take its place by claiming its rank. -/
theorem builtins_last (host : Host) (limit : Nat) (request : Document) (session : SessionKey)
    (w : World) :
    (∀ chain, ((select ⟨.ofHost host, limit⟩ request session).run w).1 = .ok chain →
      ∃ keys last, LastResort host limit request session w chain keys last) ∧
    ∀ (b : Builtin) key, b.IsAsked request → key ∈ host.contributions →
      Claims host request session w key .lowest →
      FailsUntouched ⟨.ofHost host, limit⟩ request session w :=
  ⟨fun _ => lastResort_of_chosen, fun _ _ => failsUntouched_of_lowest⟩

/-- An operation that passes requests on, and one that claims the lowest rank for one request. -/
def guardedHost : Host where
  catalogue :=
    { operation := fun key => ⟨key.value, false, fun _ _ => none,
        fun _ request _ =>
          if key.value = "guard" then .ok (.real 7)
          else if request.operationName? = some "stop-exi" then .ok .lowest
          else .ok .cannotHandle,
        fun _ request => .delegate request fun outcome => .finish <|
          match outcome with
          | .ok reply => .ok (reply.getD request.okReply)
          | .error e => .error e⟩
      leaf := fun _ => ⟨[⟨"rival"⟩, ⟨"guard"⟩], fun _ => .finish (.ok ())⟩ }
  sessionId := ⟨1⟩
  backend := .leaf ⟨0⟩

def guardedChain : Chain := .ofList [.contributed ⟨"guard"⟩, .builtin .closeSession]

theorem builtins_last_guardedHost :
    let closing : Document := .request "1" (.within "close-session" baseNamespace)
    let stopping : Document := .request "2" (.within "stop-exi" exiNamespace)
    ((select ⟨.ofHost guardedHost, defaultLimit⟩ closing ⟨0, ⟨1⟩⟩).run (.initial none)).1 =
        .ok guardedChain ∧
      (∃ keys last, LastResort guardedHost defaultLimit closing ⟨0, ⟨1⟩⟩ (.initial none)
        guardedChain keys last) ∧
      Builtin.stopExi.IsAsked stopping ∧
      Claims guardedHost stopping ⟨0, ⟨1⟩⟩ (.initial none) ⟨"rival"⟩ .lowest ∧
      FailsUntouched ⟨.ofHost guardedHost, defaultLimit⟩ stopping ⟨0, ⟨1⟩⟩ (.initial none) := by
  intro closing stopping
  have chosen : ((select ⟨.ofHost guardedHost, defaultLimit⟩ closing ⟨0, ⟨1⟩⟩).run
      (.initial none)).1 = .ok guardedChain := rfl
  have asked : Builtin.stopExi.IsAsked stopping := rfl
  have contributed : ⟨"rival"⟩ ∈ guardedHost.contributions := List.mem_cons_self
  have claims : Claims guardedHost stopping ⟨0, ⟨1⟩⟩ (.initial none) ⟨"rival"⟩ .lowest := rfl
  have first := (builtins_last guardedHost defaultLimit closing ⟨0, ⟨1⟩⟩ (.initial none)).1
  have second := (builtins_last guardedHost defaultLimit stopping ⟨0, ⟨1⟩⟩ (.initial none)).2
  exact ⟨chosen, first guardedChain chosen, asked, claims,
    second .stopExi ⟨"rival"⟩ asked contributed claims⟩

end Router

end RpcRouting
