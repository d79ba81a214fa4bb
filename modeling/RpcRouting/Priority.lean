/-!
Ranks that operations claim for a request. Refusal ranks below every number.
-/

set_option autoImplicit false
set_option relaxedAutoImplicit false

namespace RpcRouting

/-- The rank of an operation for one request. -/
inductive Priority
  | cannotHandle
  | real (value : Int32)
deriving DecidableEq

namespace Priority

instance : Inhabited Priority := ⟨cannotHandle⟩

def lowest : Priority := real Int32.minValue

def highest : Priority := real Int32.maxValue

def value? : Priority → Option Int32
  | cannotHandle => none
  | real value => some value

def canHandle (p : Priority) : Bool := p.value?.isSome

/-- The sum of a number and the amount by which it is raised, in the width that holds every sum. -/
def raisedSum (value : Int32) (amount : UInt32) : Int64 :=
  value.toInt64 + amount.toUInt64.toInt64

def narrow? (n : Int64) : Option Int32 :=
  if Int32.minValue.toInt64 ≤ n ∧ n ≤ Int32.maxValue.toInt64 then some n.toInt32 else none

/-- The number raised by an amount. A sum that does not fit counts as the highest number. -/
def raiseValue (value : Int32) (amount : UInt32) : Int32 :=
  (narrow? (raisedSum value amount)).getD Int32.maxValue

/-- The rank raised by an amount, at most the highest one; refusal stays refusal. -/
def raise (p : Priority) (amount : UInt32) : Priority :=
  match p with
  | cannotHandle => cannotHandle
  | real value => real (raiseValue value amount)

/-- Refusal is below every number, and numbers are ordered as such. -/
protected def lt : Priority → Priority → Prop
  | cannotHandle, cannotHandle => False
  | cannotHandle, real _ => True
  | real _, cannotHandle => False
  | real a, real b => a < b

instance : LT Priority := ⟨Priority.lt⟩

instance (p q : Priority) : Decidable (p < q) :=
  match p, q with
  | cannotHandle, cannotHandle => .isFalse id
  | cannotHandle, real _ => .isTrue trivial
  | real _, cannotHandle => .isFalse id
  | real a, real b => inferInstanceAs (Decidable (a < b))

theorem lt_irrefl (p : Priority) : ¬ p < p := by
  cases p with
  | cannotHandle => exact id
  | real value => exact Int32.lt_irrefl

protected def le (p q : Priority) : Prop := ¬ q < p

instance : LE Priority := ⟨Priority.le⟩

instance (p q : Priority) : Decidable (p ≤ q) := inferInstanceAs (Decidable (¬ q < p))

instance : Ord Priority := ⟨fun p q => if p < q then .lt else if p = q then .eq else .gt⟩

def text : Priority → String
  | cannotHandle => "cannot-handle"
  | real value => toString value.toInt

def ascending (ranks : List Priority) : List Priority := ranks.mergeSort fun p q => p ≤ q

end Priority

end RpcRouting
