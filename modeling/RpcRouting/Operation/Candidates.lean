import RpcRouting.Operation.Chain
/-!
The operations that are willing to handle one request. Each rank is held by one operation, the
first that claimed it, and an operation that cannot handle the request is never kept.
-/

set_option autoImplicit false
set_option relaxedAutoImplicit false

namespace RpcRouting

/-- Operations by the number of their rank, highest first. -/
@[ext] structure Candidates where
  entries : List (Int32 × Operation)
  descending : entries.Pairwise (fun a b => b.1 < a.1)
deriving DecidableEq

namespace Candidates

def empty : Candidates := ⟨[], .nil⟩

def insertEntry (rank : Int32) (operation : Operation) :
    List (Int32 × Operation) → List (Int32 × Operation)
  | [] => [(rank, operation)]
  | e :: rest =>
    if e.1 < rank then (rank, operation) :: e :: rest else e :: insertEntry rank operation rest

theorem mem_insertEntry {rank : Int32} {operation : Operation} {e : Int32 × Operation}
    {es : List (Int32 × Operation)} :
    e ∈ insertEntry rank operation es ↔ e = (rank, operation) ∨ e ∈ es := by
  induction es with
  | nil => simp [insertEntry]
  | cons head rest ih =>
    rw [insertEntry]
    split
    · simp
    · simp only [List.mem_cons, ih]
      exact or_left_comm

theorem pairwise_insertEntry {rank : Int32} {operation : Operation}
    {es : List (Int32 × Operation)} (h : es.Pairwise (fun a b => b.1 < a.1))
    (hfree : ∀ e ∈ es, e.1 ≠ rank) :
    (insertEntry rank operation es).Pairwise (fun a b => b.1 < a.1) := by
  induction es with
  | nil => simp [insertEntry]
  | cons head rest ih =>
    obtain ⟨hhead, hrest⟩ := List.pairwise_cons.1 h
    rw [insertEntry]
    split
    · next hlt =>
      refine List.pairwise_cons.2 ⟨fun e he => ?_, h⟩
      rcases List.mem_cons.1 he with rfl | he
      · exact hlt
      · exact Int32.lt_trans (hhead e he) hlt
    · next hnlt =>
      refine List.pairwise_cons.2 ⟨fun e he => ?_, ih hrest fun e he =>
        hfree e (List.mem_cons_of_mem _ he)⟩
      rcases mem_insertEntry.1 he with rfl | he
      · have hne : head.1 ≠ rank := hfree head List.mem_cons_self
        show rank < head.1
        grind
      · exact hhead e he

def holder? (c : Candidates) (rank : Int32) : Option Operation :=
  (c.entries.find? fun e => e.1 = rank).map (·.2)

theorem ne_of_holder?_eq_none {c : Candidates} {rank : Int32} (h : c.holder? rank = none) :
    ∀ e ∈ c.entries, e.1 ≠ rank := by
  simpa [holder?] using h

def insert (c : Candidates) (rank : Int32) (operation : Operation)
    (free : c.holder? rank = none) : Candidates :=
  ⟨insertEntry rank operation c.entries,
    pairwise_insertEntry c.descending (ne_of_holder?_eq_none free)⟩

inductive Admission
  | declined
  | conflicting (holder : Operation)
  | admitted (candidates : Candidates)

/-- Offers an operation under a rank. Refusal is ignored, and a rank that is held stays with its
holder. -/
def offer (c : Candidates) (p : Priority) (operation : Operation) : Admission :=
  match p with
  | .cannotHandle => .declined
  | .real rank =>
    match h : c.holder? rank with
    | some holder => .conflicting holder
    | none => .admitted (c.insert rank operation h)

def Admission.candidates (before : Candidates) : Admission → Candidates
  | .declined => before
  | .conflicting _ => before
  | .admitted after => after

def size (c : Candidates) : Nat := c.entries.length

def isEmpty (c : Candidates) : Bool := c.entries.isEmpty

def highest? (c : Candidates) : Option Priority := c.entries.head?.map fun e => .real e.1

def toChain (c : Candidates) : Chain := .ofList (c.entries.map (·.2))

end Candidates

/-- Two operations that claim one rank, by their names. -/
structure Conflict where
  priority : Priority
  existing : String
  conflicting : String
deriving DecidableEq

def Conflict.describe (c : Conflict) : String :=
  "multiple operations available with priority " ++ c.priority.text ++ ": " ++ c.conflicting ++
    " and " ++ c.existing

end RpcRouting
