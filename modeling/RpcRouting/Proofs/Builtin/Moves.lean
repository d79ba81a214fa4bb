import Mathlib.Data.List.Induction
import RpcRouting.Operation.Chain
import RpcRouting.Session.Store
/-!
What can happen to sessions and to built-in operations outside a router, and what a course of it
says about them: which sessions are alive, and which session an operation was bound to last.
-/

set_option autoImplicit false
set_option relaxedAutoImplicit false

namespace RpcRouting

/-- Sessions begin and are dropped, and a built-in operation is bound to a session or is given a
request, with whatever is left of a chain. -/
inductive Move
  | begin (id : SessionId)
  | drop (session : SessionKey)
  | bind (b : Builtin) (session : SessionKey)
  | handle (b : Builtin) (request : Document) (subsequent : Chain)
deriving DecidableEq

namespace Move

def isBegin : Move → Bool
  | begin _ => true
  | _ => false

def isBindOf (b : Builtin) : Move → Bool
  | bind b' _ => b' = b
  | _ => false

end Move

abbrev Moves := List Move

namespace Moves

/-- Some move was as wanted, given the moves before it, and each move after it was an allowed
one. -/
def Since (wanted : Moves → Move → Prop) (allowed : Move → Prop) (moves : Moves) : Prop :=
  ∃ n, ∃ inside : n < moves.length,
    wanted (moves.take n) moves[n] ∧ ∀ later ∈ moves.drop (n + 1), allowed later

def begun (moves : Moves) : Nat := moves.countP Move.isBegin

/-- The session begins with the move. Its slot is the number of sessions before it, so a later
session of the same number is another one. -/
def Begins (session : SessionKey) (before : Moves) (move : Move) : Prop :=
  move = .begin session.id ∧ session.slot = before.begun

def Began (moves : Moves) (session : SessionKey) : Prop :=
  moves.Since (Begins session) fun _ => True

def Alive (moves : Moves) (session : SessionKey) : Prop :=
  moves.Since (Begins session) (· ≠ .drop session)

def LastBound (moves : Moves) (b : Builtin) (session : SessionKey) : Prop :=
  moves.Since (fun _ move => move = .bind b session) (·.isBindOf b = false)

instance (wanted : Moves → Move → Prop) (allowed : Move → Prop) (moves : Moves)
    [∀ before move, Decidable (wanted before move)] [DecidablePred allowed] :
    Decidable (moves.Since wanted allowed) :=
  inferInstanceAs (Decidable (∃ n, ∃ inside : n < moves.length,
    wanted (moves.take n) moves[n] ∧ ∀ later ∈ moves.drop (n + 1), allowed later))

instance (session : SessionKey) (before : Moves) (move : Move) :
    Decidable (Begins session before move) := inferInstanceAs (Decidable (_ ∧ _))

instance (moves : Moves) (session : SessionKey) : Decidable (moves.Alive session) :=
  inferInstanceAs (Decidable (Since ..))

instance (moves : Moves) (b : Builtin) (session : SessionKey) :
    Decidable (moves.LastBound b session) :=
  inferInstanceAs (Decidable (Since ..))

/-- The move can come after the given ones: only who holds a session can drop it or give it to an
operation. -/
def Allows (moves : Moves) : Move → Prop
  | .drop session => moves.Alive session
  | .bind _ session => moves.Alive session
  | _ => True

instance (moves : Moves) : (move : Move) → Decidable (moves.Allows move)
  | .begin _ => isTrue trivial
  | .drop session => inferInstanceAs (Decidable (moves.Alive session))
  | .bind _ session => inferInstanceAs (Decidable (moves.Alive session))
  | .handle _ _ _ => isTrue trivial

def Possible (moves : Moves) : Prop :=
  ∀ n, ∀ inside : n < moves.length, Allows (moves.take n) moves[n]

instance (moves : Moves) : Decidable moves.Possible :=
  inferInstanceAs (Decidable (∀ n, ∀ inside : n < moves.length, Allows (moves.take n) moves[n]))

/-- The session that an operation acts on: the one that it was last bound to if that is alive, and
none otherwise. -/
def Attended (moves : Moves) (b : Builtin) : Option SessionKey → Prop
  | some session => moves.LastBound b session ∧ moves.Alive session
  | none => ∀ session, moves.LastBound b session → ¬ moves.Alive session

variable {moves : Moves} {move : Move} {session session' : SessionKey} {b : Builtin}

section Concat

variable {wanted : Moves → Move → Prop} {allowed allowed' : Move → Prop}

theorem at_concat_of_lt {n : Nat} (earlier : n < moves.length)
    (inside : n < (moves ++ [move]).length) :
    wanted ((moves ++ [move]).take n) (moves ++ [move])[n] ↔ wanted (moves.take n) moves[n] := by
  rw [List.take_append_of_le_length (Nat.le_of_lt earlier), List.getElem_append_left earlier]

theorem at_concat_length (inside : moves.length < (moves ++ [move]).length) :
    wanted ((moves ++ [move]).take moves.length) (moves ++ [move])[moves.length] ↔
      wanted moves move := by
  rw [List.take_left, List.getElem_concat_length rfl]

theorem lt_or_eq_of_lt_concat {n : Nat} (inside : n < (moves ++ [move]).length) :
    n < moves.length ∨ n = moves.length := by
  rw [List.length_append, List.length_singleton] at inside
  exact Nat.lt_succ_iff_lt_or_eq.1 inside

theorem not_since_nil : ¬ Since wanted allowed [] := by
  rintro ⟨n, inside, -⟩
  exact absurd inside (Nat.not_lt_zero n)

theorem since_concat : Since wanted allowed (moves ++ [move]) ↔
    wanted moves move ∨ (moves.Since wanted allowed ∧ allowed move) := by
  constructor
  · rintro ⟨n, inside, now, since⟩
    rcases lt_or_eq_of_lt_concat inside with earlier | rfl
    · rw [List.drop_append_of_le_length earlier] at since
      refine .inr ⟨⟨n, earlier, (at_concat_of_lt earlier inside).1 now, ?_⟩, ?_⟩
      · exact fun later member => since later (List.mem_append_left _ member)
      · exact since move (List.mem_append_right _ List.mem_cons_self)
    · exact .inl ((at_concat_length inside).1 now)
  · rintro (now | ⟨⟨n, earlier, now, since⟩, last⟩)
    · have inside : moves.length < (moves ++ [move]).length := by simp
      refine ⟨moves.length, inside, (at_concat_length inside).2 now, fun later member => ?_⟩
      rw [List.drop_eq_nil_of_le (by simp)] at member
      cases member
    · have inside : n < (moves ++ [move]).length := by simp; omega
      refine ⟨n, inside, (at_concat_of_lt earlier inside).2 now, fun later member => ?_⟩
      rw [List.drop_append_of_le_length earlier, List.mem_append, List.mem_singleton] at member
      rcases member with member | rfl
      · exact since later member
      · exact last

theorem Since.mono (since : moves.Since wanted allowed) (wider : ∀ m, allowed m → allowed' m) :
    moves.Since wanted allowed' := by
  obtain ⟨n, inside, now, since⟩ := since
  exact ⟨n, inside, now, fun later member => wider later (since later member)⟩

theorem possible_concat :
    Possible (moves ++ [move]) ↔ moves.Possible ∧ moves.Allows move := by
  constructor
  · intro possible
    have inside : moves.length < (moves ++ [move]).length := by simp
    refine ⟨fun n earlier => ?_, (at_concat_length inside).1 (possible moves.length inside)⟩
    have within : n < (moves ++ [move]).length := by simp; omega
    exact (at_concat_of_lt earlier within).1 (possible n within)
  · rintro ⟨possible, last⟩ n inside
    rcases lt_or_eq_of_lt_concat inside with earlier | rfl
    · exact (at_concat_of_lt earlier inside).2 (possible n earlier)
    · exact (at_concat_length inside).2 last

theorem begun_concat (moves : Moves) (move : Move) :
    begun (moves ++ [move]) = moves.begun + if move.isBegin then 1 else 0 := by
  rw [begun, List.countP_append, List.countP_singleton]
  rfl

end Concat

theorem began_concat :
    Began (moves ++ [move]) session ↔ Begins session moves move ∨ moves.Began session := by
  rw [Began, Began, since_concat, and_true]

theorem began_concat_of_not_isBegin (other : move.isBegin = false) :
    Began (moves ++ [move]) session ↔ moves.Began session := by
  rw [began_concat, or_iff_right_iff_imp]
  rintro ⟨rfl, -⟩
  cases other

theorem Alive.began (alive : moves.Alive session) : moves.Began session :=
  Since.mono alive fun _ _ => trivial

theorem alive_concat_begin {id : SessionId} :
    Alive (moves ++ [.begin id]) session ↔
      Begins session moves (.begin id) ∨ moves.Alive session := by
  rw [Alive, since_concat, Alive]
  simp

theorem alive_concat_drop :
    Alive (moves ++ [.drop session']) session ↔ moves.Alive session ∧ session' ≠ session := by
  rw [Alive, since_concat, Alive]
  simp [Begins]

theorem alive_concat_of_still (other : move.isBegin = false) (kept : move ≠ .drop session) :
    Alive (moves ++ [move]) session ↔ moves.Alive session := by
  rw [Alive, since_concat, Alive, and_iff_left kept, or_iff_right_iff_imp]
  rintro ⟨rfl, -⟩
  cases other

theorem Began.slot_lt (began : moves.Began session) : session.slot < moves.begun := by
  induction moves using List.reverseRecOn with
  | nil => exact absurd began not_since_nil
  | append_singleton before move ih =>
    rw [begun_concat]
    rcases began_concat.1 began with ⟨rfl, slot⟩ | earlier
    · rw [slot]
      exact Nat.lt_succ_self _
    · exact Nat.lt_add_right _ (ih earlier)

theorem Began.eq_of_slot_eq (began : moves.Began session) (began' : moves.Began session')
    (same : session.slot = session'.slot) : session = session' := by
  induction moves using List.reverseRecOn with
  | nil => exact absurd began not_since_nil
  | append_singleton before move ih =>
    rcases began_concat.1 began with ⟨rfl, slot⟩ | earlier <;>
      rcases began_concat.1 began' with ⟨begins', slot'⟩ | earlier'
    · obtain ⟨slot₁, id⟩ := session
      obtain ⟨slot₂, id'⟩ := session'
      cases begins'
      exact congrArg (SessionKey.mk · id) same
    · exact absurd (slot ▸ same ▸ earlier'.slot_lt) (Nat.lt_irrefl _)
    · exact absurd (slot' ▸ same ▸ earlier.slot_lt) (Nat.lt_irrefl _)
    · exact ih earlier earlier'

theorem lastBound_concat_bind {b' : Builtin} :
    LastBound (moves ++ [.bind b' session']) b session ↔
      if b' = b then session' = session else moves.LastBound b session := by
  rw [LastBound, since_concat]
  by_cases same : b' = b <;> simp [LastBound, Move.isBindOf, same]

theorem lastBound_concat_of_not_isBindOf (other : move.isBindOf b = false) :
    LastBound (moves ++ [move]) b session ↔ moves.LastBound b session := by
  rw [LastBound, since_concat, LastBound, and_iff_left other, or_iff_right_iff_imp]
  rintro rfl
  simp [Move.isBindOf] at other

theorem LastBound.began (possible : moves.Possible) (bound : moves.LastBound b session) :
    moves.Began session := by
  induction moves using List.reverseRecOn with
  | nil => exact absurd bound not_since_nil
  | append_singleton before move ih =>
    obtain ⟨past, allows⟩ := possible_concat.1 possible
    rcases since_concat.1 bound with rfl | ⟨earlier, -⟩
    · exact began_concat.2 (.inr (Alive.began allows))
    · exact began_concat.2 (.inr (ih past earlier))

end Moves

end RpcRouting
