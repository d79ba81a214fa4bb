import RpcRouting.Operation.Candidates
import Mathlib.Data.List.Nodup
/-!
Candidates collected from operations whose ranks are known. The candidates hold exactly the
operations so far that can handle the request, each under its own rank, until an operation claims a
rank that is held; so the first such operation is found, and with it the one it conflicts with.
-/

set_option autoImplicit false
set_option relaxedAutoImplicit false

namespace RpcRouting

variable {rank : Operation → Priority}

/-- The first operation whose rank an operation before it has, and that operation. -/
structure FirstConflict (rank : Operation → Priority) (operations : List Operation)
    (existing conflicting : Operation) : Prop where
  split : ∃ before after, operations = before ++ conflicting :: after ∧ existing ∈ before ∧
    (∀ o ∈ before, rank o = rank conflicting → o = existing) ∧
    ∀ a ∈ before, ∀ b ∈ before, rank a = rank b → rank a ≠ .cannotHandle → a = b
  same : rank existing = rank conflicting
  real : rank conflicting ≠ .cannotHandle

theorem FirstConflict.exists_ne {operations : List Operation} {existing conflicting : Operation}
    (first : FirstConflict rank operations existing conflicting) (nodup : operations.Nodup) :
    ∃ a ∈ operations, ∃ b ∈ operations, a ≠ b ∧ rank a = rank b ∧ rank a ≠ .cannotHandle := by
  obtain ⟨before, after, rfl, member, -, -⟩ := first.split
  have apart := (List.nodup_append.1 nodup).2.2 existing member conflicting List.mem_cons_self
  refine ⟨existing, by simp [member], conflicting, by simp, apart, first.same, ?_⟩
  rw [first.same]
  exact first.real

theorem eq_of_descending {members : List Operation}
    (descending : members.Pairwise fun a b => rank b < rank a) {a b : Operation}
    (ha : a ∈ members) (hb : b ∈ members) (same : rank a = rank b) : a = b := by
  have apart : (members.map rank).Nodup := by
    refine List.pairwise_map.2 (descending.imp ?_)
    intro a b below equal
    exact Priority.lt_irrefl _ (equal ▸ below)
  exact List.inj_on_of_nodup_map apart ha hb same

theorem Priority.lt_asymm {p q : Priority} (below : p < q) : ¬ q < p := by
  cases p <;> cases q
  · exact below.elim
  · exact id
  · exact below.elim
  · exact Int32.lt_asymm below

theorem eq_of_perm_of_descending {rank : Operation → Priority} {members members' : List Operation}
    (perm : members.Perm members') (descending : members.Pairwise fun a b => rank b < rank a)
    (descending' : members'.Pairwise fun a b => rank b < rank a) : members = members' :=
  perm.eq_of_pairwise (fun _ _ _ _ below above => absurd above (Priority.lt_asymm below))
    descending descending'

namespace Candidates

def tally (rank : Operation → Priority) :
    List Operation → Candidates → Except (Operation × Operation) Candidates
  | [], candidates => .ok candidates
  | operation :: rest, candidates =>
    match candidates.offer (rank operation) operation with
    | .declined => tally rank rest candidates
    | .admitted more => tally rank rest more
    | .conflicting holder => .error (holder, operation)

/-- The candidates are those of the operations that can handle the request, under their ranks. -/
def Holds (c : Candidates) (rank : Operation → Priority) (operations : List Operation) : Prop :=
  ∀ value operation, (value, operation) ∈ c.entries ↔
    operation ∈ operations ∧ rank operation = .real value

variable {c : Candidates} {operations : List Operation} {operation : Operation}

theorem holds_empty (rank : Operation → Priority) : empty.Holds rank [] := by
  intro value operation
  simp [empty]

theorem mem_of_holder? {value : Int32} {holder : Operation} (h : c.holder? value = some holder) :
    (value, holder) ∈ c.entries := by
  obtain ⟨entry, found, same⟩ := Option.map_eq_some_iff.1 h
  have member := List.mem_of_find?_eq_some found
  have held : entry.1 = value := by simpa using List.find?_some found
  rw [← held, ← same]
  exact member

theorem offer_cases (candidates : Candidates) (rank : Priority) (operation : Operation) :
    (rank = .cannotHandle ∧ candidates.offer rank operation = .declined) ∨
      ∃ value, rank = .real value ∧
        ((∃ holder, (value, holder) ∈ candidates.entries ∧
            candidates.offer rank operation = .conflicting holder) ∨
          ∃ more, (∀ entry ∈ candidates.entries, entry.1 ≠ value) ∧
            more.entries = insertEntry value operation candidates.entries ∧
            candidates.offer rank operation = .admitted more) := by
  cases rank with
  | cannotHandle => exact .inl ⟨rfl, rfl⟩
  | real value =>
    refine .inr ⟨value, rfl, ?_⟩
    rw [offer]
    split
    · next holder held => exact .inl ⟨holder, mem_of_holder? held, rfl⟩
    · next free => exact .inr ⟨_, ne_of_holder?_eq_none free, rfl, rfl⟩

theorem Holds.concat_of_declined (holds : c.Holds rank operations)
    (h : c.offer (rank operation) operation = .declined) :
    c.Holds rank (operations ++ [operation]) := by
  have refused : rank operation = .cannotHandle := by
    rcases c.offer_cases (rank operation) operation with
      ⟨refused, -⟩ | ⟨value, -, ⟨holder, -, offered⟩ | ⟨more, -, -, offered⟩⟩
    · exact refused
    · cases h.symm.trans offered
    · cases h.symm.trans offered
  intro value o
  rw [holds value o, List.mem_append, List.mem_singleton]
  constructor
  · rintro ⟨member, known⟩
    exact ⟨.inl member, known⟩
  · rintro ⟨member | rfl, known⟩
    · exact ⟨member, known⟩
    · rw [refused] at known
      cases known

theorem Holds.concat_of_admitted (holds : c.Holds rank operations) {more : Candidates}
    (h : c.offer (rank operation) operation = .admitted more) :
    more.Holds rank (operations ++ [operation]) := by
  obtain ⟨claimed, known, entries⟩ : ∃ claimed, rank operation = .real claimed ∧
      more.entries = insertEntry claimed operation c.entries := by
    rcases c.offer_cases (rank operation) operation with
      ⟨-, offered⟩ | ⟨value, known, ⟨holder, -, offered⟩ | ⟨taken, -, entries, offered⟩⟩
    · cases h.symm.trans offered
    · cases h.symm.trans offered
    · cases h.symm.trans offered
      exact ⟨value, known, entries⟩
  intro value o
  rw [entries, mem_insertEntry, holds value o, List.mem_append, List.mem_singleton]
  constructor
  · rintro (same | ⟨member, known'⟩)
    · cases same
      exact ⟨.inr rfl, known⟩
    · exact ⟨.inl member, known'⟩
  · rintro ⟨member | rfl, known'⟩
    · exact .inr ⟨member, known'⟩
    · rw [known] at known'
      cases known'
      exact .inl rfl

theorem Holds.holder_of_conflicting (holds : c.Holds rank operations) {holder : Operation}
    (h : c.offer (rank operation) operation = .conflicting holder) :
    holder ∈ operations ∧ rank holder = rank operation ∧ rank operation ≠ .cannotHandle := by
  rcases c.offer_cases (rank operation) operation with
    ⟨-, offered⟩ | ⟨value, known, ⟨holder', held, offered⟩ | ⟨more, -, -, offered⟩⟩
  · cases h.symm.trans offered
  · cases h.symm.trans offered
    obtain ⟨member, same⟩ := (holds value holder).1 held
    exact ⟨member, same.trans known.symm, by simp [known]⟩
  · cases h.symm.trans offered

theorem nodup_ranks (c : Candidates) : (c.entries.map (·.1)).Nodup := by
  refine List.pairwise_map.2 (c.descending.imp ?_)
  intro a b below same
  rw [same] at below
  exact Int32.lt_irrefl below

theorem Holds.eq_of_rank_eq (holds : c.Holds rank operations) {a b : Operation}
    (ha : a ∈ operations) (hb : b ∈ operations) (same : rank a = rank b)
    (real : rank a ≠ .cannotHandle) : a = b := by
  cases known : rank a with
  | cannotHandle => exact absurd known real
  | real value =>
    have first := (holds value a).2 ⟨ha, known⟩
    have second := (holds value b).2 ⟨hb, same ▸ known⟩
    exact congrArg Prod.snd (List.inj_on_of_nodup_map c.nodup_ranks first second rfl)

/-- What collecting comes to: candidates that hold all operations, or the first conflict. -/
theorem Holds.tally {before : List Operation} (holds : c.Holds rank before)
    (operations : List Operation) :
    (∃ more, Candidates.tally rank operations c = .ok more ∧
      more.Holds rank (before ++ operations)) ∨
    ∃ existing conflicting, Candidates.tally rank operations c = .error (existing, conflicting) ∧
      FirstConflict rank (before ++ operations) existing conflicting := by
  induction operations generalizing before c with
  | nil => exact .inl ⟨c, rfl, by simpa using holds⟩
  | cons operation rest ih =>
    have whole : before ++ operation :: rest = (before ++ [operation]) ++ rest := by simp
    rw [Candidates.tally, whole]
    cases offered : c.offer (rank operation) operation with
    | declined => exact ih (holds.concat_of_declined offered)
    | admitted more => exact ih (holds.concat_of_admitted offered)
    | conflicting holder =>
      obtain ⟨member, same, real⟩ := holds.holder_of_conflicting offered
      refine .inr ⟨holder, operation, rfl, ⟨before, rest, by simp, member, ?_, ?_⟩, same, real⟩
      · intro o ho known
        exact holds.eq_of_rank_eq ho member (known.trans same.symm) (known ▸ real)
      · intro a ha b hb known
        exact holds.eq_of_rank_eq ha hb known

def members (c : Candidates) : List Operation := c.entries.map (·.2)

theorem Holds.mem_members (holds : c.Holds rank operations) {o : Operation} :
    o ∈ c.members ↔ o ∈ operations ∧ rank o ≠ .cannotHandle := by
  constructor
  · intro member
    obtain ⟨⟨value, o'⟩, entry, rfl⟩ := List.mem_map.1 member
    obtain ⟨own, known⟩ := (holds value o').1 entry
    exact ⟨own, by simp [known]⟩
  · rintro ⟨own, real⟩
    cases known : rank o with
    | cannotHandle => exact absurd known real
    | real value => exact List.mem_map.2 ⟨(value, o), (holds value o).2 ⟨own, known⟩, rfl⟩

theorem Holds.members_descend (holds : c.Holds rank operations) :
    c.members.Pairwise fun a b => rank b < rank a := by
  refine List.pairwise_map.2 (c.descending.imp_of_mem ?_)
  intro a b ha hb below
  rw [((holds a.1 a.2).1 ha).2, ((holds b.1 b.2).1 hb).2]
  exact below

theorem Holds.members_nodup (holds : c.Holds rank operations) : c.members.Nodup := by
  refine holds.members_descend.imp ?_
  rintro a b below rfl
  exact Priority.lt_irrefl _ below

theorem Holds.isEmpty_iff (holds : c.Holds rank operations) :
    c.isEmpty = true ↔ ∀ o ∈ operations, rank o = .cannotHandle := by
  have none : c.isEmpty = true ↔ c.members = [] := by simp [isEmpty, members]
  rw [none, List.eq_nil_iff_forall_not_mem]
  constructor
  · intro absent o own
    by_contra real
    exact absent o (holds.mem_members.2 ⟨own, real⟩)
  · intro refused o member
    obtain ⟨own, real⟩ := holds.mem_members.1 member
    exact real (refused o own)

theorem canHandle_iff {p : Priority} : p.canHandle = true ↔ p ≠ .cannotHandle := by
  cases p <;> simp [Priority.canHandle, Priority.value?]

theorem Holds.members_perm (holds : c.Holds rank operations) (nodup : operations.Nodup) :
    c.members.Perm (operations.filter fun o => (rank o).canHandle) := by
  refine (List.perm_ext_iff_of_nodup holds.members_nodup (nodup.filter _)).2 fun o => ?_
  rw [holds.mem_members, List.mem_filter, canHandle_iff]

end Candidates

end RpcRouting
