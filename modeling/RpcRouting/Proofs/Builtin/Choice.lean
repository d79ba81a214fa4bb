import RpcRouting.Proofs.Selection.Claims
/-!
The choice among the built-in operations. Each answers requests of one name, so that no request is
for two of them; without contributed operations the chain of a request is the one that answers it,
or there is none.
-/

set_option autoImplicit false
set_option relaxedAutoImplicit false

namespace RpcRouting

variable {host : Host} {request : Document} {session : SessionKey} {w : World} {b b' : Builtin}

theorem Document.operationName?_of_asksFor {name uri : String}
    (asks : request.asksFor name uri = true) : request.operationName? = some name := by
  rw [asksFor] at asks
  cases operation : request.operation? with
  | none =>
    rw [operation] at asks
    cases asks
  | some element =>
    rw [operation, Option.any_some, Bool.and_eq_true, decide_eq_true_eq] at asks
    rw [operationName?, operation, Option.map_some, asks.1]

namespace Builtin

/-- The request is for the built-in operation. -/
def IsAsked (b : Builtin) (request : Document) : Prop :=
  request.asksFor b.requestName b.namespaceUri = true

instance : Decidable (b.IsAsked request) := inferInstanceAs (Decidable (_ = true))

theorem mem_all (b : Builtin) : b ∈ all := by
  cases b <;> simp [all]

theorem requestName_injective : Function.Injective requestName := by
  intro b b' same
  cases b <;> cases b' <;> first | rfl | simp [requestName] at same

theorem IsAsked.eq (asked : b.IsAsked request) (asked' : b'.IsAsked request) : b = b' := by
  have name := Document.operationName?_of_asksFor asked
  have name' := Document.operationName?_of_asksFor asked'
  exact requestName_injective (Option.some.inj (name.symm.trans name'))

theorem rank_of_isAsked (asked : b.IsAsked request) : b.rank request = .lowest := if_pos asked

theorem rank_of_not_isAsked (other : ¬ b.IsAsked request) : b.rank request = .cannotHandle :=
  if_neg other

theorem isAsked_of_rank (real : b.rank request ≠ .cannotHandle) : b.IsAsked request := by
  by_contra other
  exact real (rank_of_not_isAsked other)

end Builtin

def Host.ContributesNone (host : Host) : Prop :=
  host.backend.operations host.catalogue.leaf = []

theorem Registry.operations_of_contributesNone (none : host.ContributesNone) :
    (ofHost host).operations = Builtin.all.map .builtin := by
  rw [ofHost, none]
  rfl

namespace Router

variable {limit : Nat} (none : host.ContributesNone)

include none

private theorem exists_builtin {operation : Operation}
    (member : operation ∈ (Registry.ofHost host).operations) : ∃ b, operation = .builtin b := by
  rw [Registry.operations_of_contributesNone none] at member
  obtain ⟨b, -, same⟩ := List.mem_map.1 member
  exact ⟨b, same.symm⟩

theorem builtin_mem_operations (b : Builtin) :
    .builtin b ∈ (Registry.ofHost host).operations := by
  rw [Registry.operations_of_contributesNone none]
  exact List.mem_map_of_mem b.mem_all

private theorem not_crashing :
    ¬ Crashing host request session w (Registry.ofHost host).operations := by
  intro crashing
  cases crashing with
  | bound member requires crash =>
    obtain ⟨b, rfl⟩ := exists_builtin none member
    cases crash
  | asked member crash =>
    obtain ⟨b, rfl⟩ := exists_builtin none member
    cases crash

private theorem not_contested :
    ¬ Contested (claimed host request session w) (Registry.ofHost host).operations := by
  rintro ⟨first, member, second, member', apart, same, real⟩
  obtain ⟨b, rfl⟩ := exists_builtin none member
  obtain ⟨b', rfl⟩ := exists_builtin none member'
  have asked : b.IsAsked request := Builtin.isAsked_of_rank real
  have asked' : b'.IsAsked request := Builtin.isAsked_of_rank fun refused =>
    real (same.trans refused)
  exact apart (congrArg Operation.builtin (asked.eq asked'))

private theorem filter_canHandle (asked : b.IsAsked request) :
    (Registry.ofHost host).operations.filter
      (fun o => (claimed host request session w o).canHandle) = [.builtin b] := by
  have only : ∀ o ∈ (Registry.ofHost host).operations,
      (claimed host request session w o).canHandle = decide (o = .builtin b) := by
    intro o member
    obtain ⟨b', rfl⟩ := exists_builtin none member
    have rank : claimed host request session w (.builtin b') = b'.rank request := rfl
    by_cases asked' : b'.IsAsked request
    · rw [rank, Builtin.rank_of_isAsked asked', asked'.eq asked, decide_eq_true rfl]
      rfl
    · have other : ¬ Operation.builtin b' = .builtin b := by
        intro same
        cases same
        exact asked' asked
      rw [rank, Builtin.rank_of_not_isAsked asked', decide_eq_false other]
      rfl
  rw [List.filter_congr only, Registry.operations_of_contributesNone none]
  cases b <;> rfl

theorem select_of_isAsked (asked : b.IsAsked request) :
    ((select ⟨.ofHost host, limit⟩ request session).run w).1 =
      .ok (.link (.builtin b) .terminus) := by
  rcases select_of_uncontested (r := ⟨.ofHost host, limit⟩) (Registry.nodup_operations host)
    (not_crashing none) (not_contested none) with
    ⟨refused, -⟩ | ⟨members, chosen, -, all, -⟩
  · have refuses : b.rank request = .cannotHandle := refused _ (builtin_mem_operations none b)
    rw [Builtin.rank_of_isAsked asked] at refuses
    cases refuses
  · have only : members.Perm [.builtin b] := filter_canHandle none asked ▸ all
    rw [chosen, List.perm_singleton.1 only]
    rfl

theorem select_of_not_isAsked (other : ∀ b : Builtin, ¬ b.IsAsked request) :
    ((select ⟨.ofHost host, limit⟩ request session).run w).1 =
      .error (.noHandler (shown ⟨.ofHost host, limit⟩ request)) := by
  rcases select_of_uncontested (r := ⟨.ofHost host, limit⟩) (Registry.nodup_operations host)
    (not_crashing none) (not_contested none) with
    ⟨-, rejected⟩ | ⟨members, -, some, all, -⟩
  · exact rejected
  · obtain ⟨o, member⟩ := List.exists_mem_of_ne_nil members some
    obtain ⟨own, real⟩ := List.mem_filter.1 (all.subset member)
    obtain ⟨b, rfl⟩ := exists_builtin none own
    exact absurd (Builtin.isAsked_of_rank (Candidates.canHandle_iff.1 real)) (other b)

end Router

end RpcRouting
