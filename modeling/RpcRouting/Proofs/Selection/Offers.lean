import RpcRouting.Operation.Probe
import RpcRouting.Proofs.Selection.Tally
import Mathlib.Data.Finset.Card
import Mathlib.Data.Finset.Dedup
/-!
Offers made one after another, whatever the answers. A rank stays with the operation that was the
first to be offered under it, and whoever offers another one is told so; in the end the chain has
these first operations, from the highest rank to the lowest.
-/

set_option autoImplicit false
set_option relaxedAutoImplicit false

namespace RpcRouting

abbrev Offers := List (Priority × Operation)

namespace Offers

/-- The first operation that is offered under a rank. -/
def claimant? (offers : Offers) (p : Priority) : Option Operation :=
  (offers.find? fun offer => offer.1 = p).map (·.2)

structure IsFirst (offers : Offers) (p : Priority) (place : Nat) (operation : Operation) : Prop where
  offered : offers[place]? = some (p, operation)
  earliest : ∀ earlier < place, ∀ other, offers[earlier]? ≠ some (p, other)

def ranks (offers : Offers) : Finset Priority :=
  (offers.map (·.1)).toFinset.erase .cannotHandle

variable {offers : Offers} {p : Priority} {operation : Operation} {place : Nat}

theorem mem_ranks : p ∈ offers.ranks ↔ p ≠ .cannotHandle ∧ ∃ operation, (p, operation) ∈ offers := by
  simp [ranks]

theorem claimant?_concat (offers : Offers) (offer : Priority × Operation) (p : Priority) :
    claimant? (offers ++ [offer]) p =
      (offers.claimant? p).or (if offer.1 = p then some offer.2 else none) := by
  rw [claimant?, claimant?, List.find?_append, Option.map_or, List.find?_singleton]
  by_cases same : offer.1 = p <;> simp [same]

theorem exists_claimant?_iff :
    (∃ operation, offers.claimant? p = some operation) ↔ ∃ operation, (p, operation) ∈ offers := by
  rw [← Option.isSome_iff_exists, claimant?, Option.isSome_map, List.find?_isSome]
  constructor
  · rintro ⟨⟨q, operation⟩, member, same⟩
    exact ⟨operation, of_decide_eq_true same ▸ member⟩
  · rintro ⟨operation, member⟩
    exact ⟨(p, operation), member, decide_eq_true rfl⟩

theorem claimant?_take_eq_some_iff :
    claimant? (offers.take place) p = some operation ↔
      ∃ first < place, offers.IsFirst p first operation := by
  constructor
  · intro claimed
    obtain ⟨offer, found, rfl⟩ := Option.map_eq_some_iff.1 claimed
    obtain ⟨own, first, within, rfl, earlier⟩ := List.find?_eq_some_iff_getElem.1 found
    rw [List.length_take] at within
    rw [List.getElem_take] at own ⊢
    refine ⟨first, by omega, ?_, ?_⟩
    · rw [List.getElem?_eq_getElem (by omega), ← of_decide_eq_true own]
    · intro before below other same
      obtain ⟨inside, same⟩ := List.getElem?_eq_some_iff.1 same
      have apart := earlier before below
      rw [List.getElem_take, same] at apart
      simp at apart
  · rintro ⟨first, below, offered, earliest⟩
    obtain ⟨inside, same⟩ := List.getElem?_eq_some_iff.1 offered
    have within : first < (offers.take place).length := by
      rw [List.length_take]
      omega
    refine Option.map_eq_some_iff.2 ⟨(p, operation), List.find?_eq_some_iff_getElem.2 ?_, rfl⟩
    refine ⟨by simp, first, within, by rw [List.getElem_take, same], ?_⟩
    intro before lower
    have apart := earliest before lower
    rw [List.getElem?_eq_getElem (lower.trans inside)] at apart
    rw [List.getElem_take]
    have distinct : offers[before].1 ≠ p := fun held => apart offers[before].2 (by rw [← held])
    simp [distinct]

theorem claimant?_eq_some_iff :
    offers.claimant? p = some operation ↔ ∃ place, offers.IsFirst p place operation := by
  have whole := @claimant?_take_eq_some_iff offers p operation offers.length
  rw [List.take_length] at whole
  rw [whole]
  constructor
  · rintro ⟨place, -, isFirst⟩
    exact ⟨place, isFirst⟩
  · rintro ⟨place, isFirst⟩
    exact ⟨place, (List.getElem?_eq_some_iff.1 isFirst.offered).1, isFirst⟩

theorem claimant?_take_eq_none_iff :
    claimant? (offers.take place) p = none ↔
      ∀ earlier < place, ∀ other, offers[earlier]? ≠ some (p, other) := by
  rw [claimant?, Option.map_eq_none_iff, List.find?_eq_none]
  constructor
  · intro absent earlier below other offered
    have member : (p, other) ∈ offers.take place :=
      List.mem_take_iff_getElem.2 (by
        obtain ⟨inside, same⟩ := List.getElem?_eq_some_iff.1 offered
        exact ⟨earlier, by omega, same⟩)
    simpa using absent _ member
  · intro absent offer member held
    obtain ⟨earlier, within, rfl⟩ := List.mem_take_iff_getElem.1 member
    rw [lt_min_iff] at within
    refine absent earlier within.1 offers[earlier].2 ?_
    rw [List.getElem?_eq_getElem within.2, ← of_decide_eq_true held]

end Offers

namespace Candidates

def Admission.told (host : Host) (p : Priority) (operation : Operation) :
    Admission → Except Conflict Bool
  | .declined => .ok false
  | .conflicting holder => .error ⟨p, holder.name host, operation.name host⟩
  | .admitted _ => .ok true

theorem Admission.candidates_of_told {host : Host} {p : Priority} {operation : Operation}
    {admission : Admission} {before : Candidates}
    (turnedDown : admission.told host p operation ≠ .ok true) :
    admission.candidates before = before := by
  cases admission with
  | declined => rfl
  | conflicting holder => rfl
  | admitted more => exact absurd rfl turnedDown

/-- Makes offers one after another, also after one that was turned down: what is told each time,
and the candidates in the end. -/
def offerAll (host : Host) : Offers → Candidates → List (Except Conflict Bool) × Candidates
  | [], c => ([], c)
  | (p, operation) :: rest, c =>
    let admission := c.offer p operation
    let later := offerAll host rest (admission.candidates c)
    (admission.told host p operation :: later.1, later.2)

/-- What is told to whoever makes the offer at a place. -/
structure Answered (host : Host) (offers : Offers) (place : Nat) (p : Priority)
    (operation : Operation) (told : Except Conflict Bool) : Prop where
  declined : told = .ok false ↔ p = .cannotHandle
  conflicting : ∀ conflict, told = .error conflict ↔
    p ≠ .cannotHandle ∧ ∃ first < place, ∃ holder, offers.IsFirst p first holder ∧
      conflict = ⟨p, holder.name host, operation.name host⟩
  admitted : told = .ok true ↔
    p ≠ .cannotHandle ∧ ∀ earlier < place, ∀ other, offers[earlier]? ≠ some (p, other)

/-- The candidates are the first operations that were offered under their ranks. -/
def Claimed (c : Candidates) (offers : Offers) : Prop :=
  ∀ value operation, (value, operation) ∈ c.entries ↔
    offers.claimant? (.real value) = some operation

variable {c : Candidates} {offers : Offers}

theorem claimed_empty : empty.Claimed [] := by
  intro value operation
  simp [empty, Offers.claimant?]

theorem Claimed.concat (claimed : c.Claimed offers) (offer : Priority × Operation) :
    ((c.offer offer.1 offer.2).candidates c).Claimed (offers ++ [offer]) := by
  obtain ⟨p, operation⟩ := offer
  intro value o
  rw [Offers.claimant?_concat]
  rcases c.offer_cases p operation with
    ⟨refused, offered⟩ | ⟨claim, known, ⟨holder, held, offered⟩ | ⟨more, free, entries, offered⟩⟩
  · rw [offered, Admission.candidates, claimed, refused]
    simp
  · rw [offered, Admission.candidates, claimed, known]
    have first := (claimed claim holder).1 held
    by_cases same : claim = value
    · subst same
      simp [first]
    · simp [same]
  · rw [offered, Admission.candidates, entries, mem_insertEntry, claimed, known]
    by_cases same : claim = value
    · subst same
      have unclaimed : offers.claimant? (.real claim) = none := by
        cases first : offers.claimant? (.real claim) with
        | none => rfl
        | some holder => exact absurd rfl (free _ ((claimed claim holder).2 first))
      simp [unclaimed, eq_comm]
    · simp [same, Ne.symm same]

theorem claimed_offerAll (host : Host) {before : Offers} (claimed : c.Claimed before)
    (offers : Offers) : (offerAll host offers c).2.Claimed (before ++ offers) := by
  induction offers generalizing before c with
  | nil => simpa [offerAll] using claimed
  | cons offer rest ih =>
    have whole : before ++ offer :: rest = (before ++ [offer]) ++ rest := by simp
    rw [whole]
    exact ih (claimed.concat offer)

theorem length_offerAll (host : Host) (offers : Offers) (c : Candidates) :
    (offerAll host offers c).1.length = offers.length := by
  induction offers generalizing c with
  | nil => rfl
  | cons offer rest ih => simp only [offerAll, List.length_cons, ih]

section Place

variable {host : Host} {place : Nat} {p : Priority} {operation : Operation}
  (offered : offers[place]? = some (p, operation))

include offered

theorem told_offerAll (c : Candidates) :
    (offerAll host offers c).1[place]? =
      some (((offerAll host (offers.take place) c).2.offer p operation).told host p operation) := by
  induction offers generalizing place c with
  | nil => cases offered
  | cons offer rest ih =>
    cases place with
    | zero =>
      cases offered
      rfl
    | succ place => exact ih offered _

theorem offerAll_take_succ (c : Candidates) :
    (offerAll host (offers.take (place + 1)) c).2 =
      let before := (offerAll host (offers.take place) c).2
      (before.offer p operation).candidates before := by
  induction offers generalizing place c with
  | nil => cases offered
  | cons offer rest ih =>
    cases place with
    | zero =>
      cases offered
      rfl
    | succ place => exact ih offered _

end Place

theorem Claimed.told_eq (claimed : c.Claimed offers) (host : Host) (p : Priority)
    (operation : Operation) :
    (c.offer p operation).told host p operation =
      if p = .cannotHandle then .ok false
      else (offers.claimant? p).elim (.ok true) fun holder =>
        .error ⟨p, holder.name host, operation.name host⟩ := by
  rcases c.offer_cases p operation with
    ⟨refused, offered⟩ | ⟨value, rfl, ⟨holder, held, offered⟩ | ⟨more, free, -, offered⟩⟩
  · rw [offered, if_pos refused]
    rfl
  · rw [offered, if_neg (by simp), (claimed value holder).1 held]
    rfl
  · have unclaimed : offers.claimant? (.real value) = none := by
      cases first : offers.claimant? (.real value) with
      | none => rfl
      | some holder => exact absurd rfl (free _ ((claimed value holder).2 first))
    rw [offered, if_neg (by simp), unclaimed]
    rfl

theorem Claimed.answered {place : Nat} (claimed : c.Claimed (offers.take place)) (host : Host)
    (p : Priority) (operation : Operation) :
    Answered host offers place p operation ((c.offer p operation).told host p operation) := by
  rw [claimed.told_eq]
  by_cases refused : p = .cannotHandle
  · rw [if_pos refused]
    exact ⟨by simp [refused], by simp [refused], by simp [refused]⟩
  · rw [if_neg refused]
    cases first : Offers.claimant? (offers.take place) p with
    | none =>
      have free := Offers.claimant?_take_eq_none_iff.1 first
      refine ⟨by simp [refused], ?_, iff_of_true rfl ⟨refused, free⟩⟩
      intro conflict
      refine iff_of_false (by simp) ?_
      rintro ⟨-, earlier, below, holder, isFirst, -⟩
      exact free earlier below holder isFirst.offered
    | some holder =>
      obtain ⟨earlier, below, isFirst⟩ := Offers.claimant?_take_eq_some_iff.1 first
      refine ⟨by simp [refused], ?_, ?_⟩
      · intro conflict
        constructor
        · intro told
          exact ⟨refused, earlier, below, holder, isFirst, (Except.error.inj told).symm⟩
        · rintro ⟨-, earlier', below', holder', isFirst', rfl⟩
          have claims := Offers.claimant?_take_eq_some_iff.2 ⟨earlier', below', isFirst'⟩
          rw [Option.some.inj (first.symm.trans claims)]
          rfl
      · refine iff_of_false (by simp) ?_
        rintro ⟨-, free⟩
        exact free earlier below holder isFirst.offered

def claims (c : Candidates) : Offers := c.entries.map fun e => (.real e.1, e.2)

theorem claims_descend (c : Candidates) : c.claims.Pairwise fun a b => b.1 < a.1 :=
  List.pairwise_map.2 c.descending

theorem toChain_eq (c : Candidates) : c.toChain = .ofList (c.claims.map (·.2)) := by
  rw [toChain, claims, List.map_map]
  rfl

theorem highest?_eq (c : Candidates) : c.highest? = c.claims.head?.map (·.1) := by
  rw [highest?, claims, List.head?_map, Option.map_map]
  rfl

namespace Claimed

variable (claimed : c.Claimed offers)

include claimed

theorem mem_claims {p : Priority} {operation : Operation} :
    (p, operation) ∈ c.claims ↔ p ≠ .cannotHandle ∧ offers.claimant? p = some operation := by
  rw [claims, List.mem_map]
  constructor
  · rintro ⟨⟨value, operation⟩, member, ⟨⟩⟩
    exact ⟨by simp, (claimed value operation).1 member⟩
  · rintro ⟨real, first⟩
    cases p with
    | cannotHandle => exact absurd rfl real
    | real value => exact ⟨(value, operation), (claimed value operation).2 first, rfl⟩

theorem mem_ranks_iff {p : Priority} : p ∈ offers.ranks ↔ ∃ operation, (p, operation) ∈ c.claims := by
  rw [Offers.mem_ranks, ← Offers.exists_claimant?_iff]
  simp only [claimed.mem_claims, exists_and_left]

theorem size_eq : c.size = offers.ranks.card := by
  have nodup : (c.claims.map (·.1)).Nodup := by
    refine List.pairwise_map.2 (c.claims_descend.imp ?_)
    intro a b below same
    exact Priority.lt_irrefl b.1 (same ▸ below)
  have same : (c.claims.map (·.1)).toFinset = offers.ranks := by
    ext p
    rw [claimed.mem_ranks_iff, List.mem_toFinset, List.mem_map]
    simp
  rw [← same, List.toFinset_card_of_nodup nodup, claims, List.length_map, List.length_map, size]

theorem highest?_eq_some_iff {p : Priority} :
    c.highest? = some p ↔ p ∈ offers.ranks ∧ ∀ q ∈ offers.ranks, q ≤ p := by
  have descend := c.claims_descend
  simp only [claimed.mem_ranks_iff]
  rw [highest?_eq]
  cases claims : c.claims with
  | nil => simp
  | cons top rest =>
    rw [claims] at descend
    have lower := (List.pairwise_cons.1 descend).1
    have greatest : ∀ q operation, (q, operation) ∈ top :: rest → q ≤ top.1 := by
      intro q operation member
      rcases List.mem_cons.1 member with rfl | later
      · exact Priority.lt_irrefl _
      · exact Priority.lt_asymm (lower _ later)
    constructor
    · intro same
      cases same
      exact ⟨⟨top.2, List.mem_cons_self⟩, fun q ⟨operation, member⟩ => greatest q operation member⟩
    · rintro ⟨⟨operation, member⟩, above⟩
      rcases List.mem_cons.1 member with rfl | later
      · rfl
      · exact absurd (lower _ later) (above top.1 ⟨top.2, List.mem_cons_self⟩)

theorem highest?_eq_none_iff : c.highest? = none ↔ offers.ranks = ∅ := by
  rw [highest?_eq, Option.map_eq_none_iff, List.head?_eq_none_iff, Finset.eq_empty_iff_forall_notMem,
    List.eq_nil_iff_forall_not_mem]
  simp only [claimed.mem_ranks_iff, not_exists, Prod.forall]

end Claimed

/-- What comes of offers that are made one after another, from no candidate on. -/
structure FirstComes (host : Host) (offers : Offers) : Prop where
  length : (offerAll host offers .empty).1.length = offers.length
  answered : ∀ place p operation, offers[place]? = some (p, operation) →
    ∃ told, (offerAll host offers .empty).1[place]? = some told ∧
      Answered host offers place p operation told
  unchanged : ∀ place, (offerAll host offers .empty).1[place]? ≠ some (.ok true) →
    (offerAll host (offers.take (place + 1)) .empty).2 = (offerAll host (offers.take place) .empty).2
  size : (offerAll host offers .empty).2.size = offers.ranks.card
  highest : ∀ p, (offerAll host offers .empty).2.highest? = some p ↔
    p ∈ offers.ranks ∧ ∀ q ∈ offers.ranks, q ≤ p
  unheld : (offerAll host offers .empty).2.highest? = none ↔ offers.ranks = ∅
  chain : ∃ members : Offers, members.Pairwise (fun a b => b.1 < a.1) ∧
    (∀ p operation, (p, operation) ∈ members ↔
      p ≠ .cannotHandle ∧ ∃ place, offers.IsFirst p place operation) ∧
    (offerAll host offers .empty).2.toChain = .ofList (members.map (·.2))

/-- A rank stays with the operation that was the first to be offered under it. -/
theorem firstComes_offerAll (host : Host) (offers : Offers) : FirstComes host offers where
  length := length_offerAll host offers .empty
  answered place p operation offered := by
    have before := claimed_offerAll host claimed_empty (offers.take place)
    exact ⟨_, told_offerAll offered .empty, Claimed.answered before host p operation⟩
  unchanged place refused := by
    cases offered : offers[place]? with
    | none =>
      have short := List.getElem?_eq_none_iff.1 offered
      rw [List.take_of_length_le short, List.take_of_length_le (by omega)]
    | some offer =>
      rw [told_offerAll offered] at refused
      rw [offerAll_take_succ offered]
      exact Admission.candidates_of_told fun told => refused (congrArg some told)
  size := (claimed_offerAll host claimed_empty offers).size_eq
  highest p := (claimed_offerAll host claimed_empty offers).highest?_eq_some_iff
  unheld := (claimed_offerAll host claimed_empty offers).highest?_eq_none_iff
  chain := by
    have claimed := claimed_offerAll host claimed_empty offers
    refine ⟨_, claims_descend _, fun p operation => ?_, toChain_eq _⟩
    rw [claimed.mem_claims, List.nil_append, Offers.claimant?_eq_some_iff]

example (host : Host) :
    (offerAll host [(.real 5, .builtin .startExi), (.real 5, .builtin .stopExi),
      (.cannotHandle, .builtin .stopExi), (.real 7, .builtin .closeSession)] .empty).2.toChain =
        .ofList [.builtin .closeSession, .builtin .startExi] := by
  rfl

end Candidates

end RpcRouting
