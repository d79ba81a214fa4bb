import RpcRouting.Priority
/-!
Ranks that are raised. The sum is taken in a width that holds it, and the way back to the width of
ranks fails at the upper end only, where the highest rank takes its place. So raising adds up to the
highest rank and stays there: amounts act on ranks through their saturating sum, and the order of
ranks is kept.
-/

set_option autoImplicit false
set_option relaxedAutoImplicit false

namespace RpcRouting.Priority

variable {p q : Priority} {value other : Int32} {amount more : UInt32}

theorem real_lt_real_iff : real value < real other ↔ value.toInt < other.toInt :=
  Int32.lt_iff_toInt_lt

theorem real_le_real_iff : real value ≤ real other ↔ value.toInt ≤ other.toInt := by
  have above : real value ≤ real other ↔ ¬ real other < real value := Iff.rfl
  rw [above, real_lt_real_iff, Int.not_lt]

theorem real_eq_highest_iff : real value = highest ↔ value.toInt = Int32.maxValue.toInt := by
  rw [highest, real.injEq, Int32.toInt_inj]

theorem cannotHandle_lt_real : cannotHandle < real value := trivial

theorem cannotHandle_le (p : Priority) : cannotHandle ≤ p := by
  intro below
  cases p with
  | cannotHandle => exact below
  | real value => exact below

theorem not_real_le_cannotHandle : ¬ real value ≤ cannotHandle :=
  fun least => least cannotHandle_lt_real

/-- The amount that two amounts come to, at most the largest one. -/
def amountSum (amount more : UInt32) : UInt32 := .ofNatClamp (amount.toNat + more.toNat)

theorem toNat_amountSum (amount more : UInt32) :
    (amountSum amount more).toNat = min (amount.toNat + more.toNat) (UInt32.size - 1) := by
  by_cases fits : amount.toNat + more.toNat < UInt32.size
  · have exact : (amountSum amount more).toNat = amount.toNat + more.toNat :=
      UInt32.toNat_ofNatClamp_of_lt fits
    omega
  · have clamped : (amountSum amount more).toNat = UInt32.size - 1 :=
      UInt32.toNat_ofNatClamp_of_le (Nat.not_lt.1 fits)
    omega

theorem toInt_raisedSum (value : Int32) (amount : UInt32) :
    (raisedSum value amount).toInt = value.toInt + amount.toNat := by
  have least : -2 ^ 31 ≤ value.toInt := value.le_toInt
  have most : value.toInt < 2 ^ 31 := value.toInt_lt
  have bound : amount.toNat < 2 ^ 32 := amount.toNat_lt
  have widened : amount.toUInt64.toInt64.toInt = amount.toNat := by
    -- The widened amount stays clear of the sign bit.
    have fits : 2 * amount.toUInt64.toBitVec.toNat < 2 ^ 64 := by
      have same : amount.toUInt64.toBitVec.toNat = amount.toNat := amount.toNat_toUInt64
      omega
    have kept : amount.toUInt64.toInt64.toInt = amount.toUInt64.toBitVec.toNat :=
      BitVec.toInt_eq_toNat_of_lt fits
    rw [kept]
    exact congrArg Nat.cast amount.toNat_toUInt64
  rw [raisedSum, Int64.toInt_add, Int32.toInt_toInt64, widened]
  apply Int.bmod_eq_of_le <;> omega

theorem narrow?_eq_none_iff {n : Int64} :
    narrow? n = none ↔ n.toInt < Int32.minValue.toInt ∨ Int32.maxValue.toInt < n.toInt := by
  rw [narrow?]
  simp only [Int64.le_iff_toInt_le, Int32.toInt_toInt64]
  split
  · simp only [reduceCtorEq, false_iff]
    omega
  · simp only [true_iff]
    omega

theorem toInt_of_narrow? {n : Int64} (fits : narrow? n = some value) : value.toInt = n.toInt := by
  rw [narrow?] at fits
  split at fits
  · next within =>
    rw [Int64.le_iff_toInt_le, Int64.le_iff_toInt_le, Int32.toInt_toInt64, Int32.toInt_toInt64,
      Int32.toInt_minValue, Int32.toInt_maxValue] at within
    rw [← Option.some.inj fits, Int64.toInt_toInt32]
    apply Int.bmod_eq_of_le <;> omega
  · cases fits

theorem narrow?_raisedSum_eq_none_iff (value : Int32) (amount : UInt32) :
    narrow? (raisedSum value amount) = none ↔
      Int32.maxValue.toInt < value.toInt + amount.toNat := by
  have least : Int32.minValue.toInt ≤ value.toInt := value.minValue_le_toInt
  rw [narrow?_eq_none_iff, toInt_raisedSum]
  omega

theorem toInt_raiseValue (value : Int32) (amount : UInt32) :
    (raiseValue value amount).toInt =
      min (value.toInt + amount.toNat) Int32.maxValue.toInt := by
  rw [raiseValue]
  cases narrowed : narrow? (raisedSum value amount) with
  | none =>
    have above := (narrow?_raisedSum_eq_none_iff value amount).1 narrowed
    rw [Option.getD_none]
    omega
  | some raised =>
    have exact : raised.toInt = value.toInt + amount.toNat := by
      rw [toInt_of_narrow? narrowed, toInt_raisedSum]
    have most : raised.toInt ≤ Int32.maxValue.toInt := raised.toInt_le
    rw [Option.getD_some]
    omega

theorem raise_eq_highest_iff (value : Int32) (amount : UInt32) :
    (real value).raise amount = highest ↔
      Int32.maxValue.toInt ≤ value.toInt + amount.toNat := by
  rw [raise, real_eq_highest_iff, toInt_raiseValue]
  omega

theorem raise_raise (p : Priority) (amount more : UInt32) :
    (p.raise amount).raise more = p.raise (amountSum amount more) := by
  cases p with
  | cannotHandle => rfl
  | real value =>
    have least : -2 ^ 31 ≤ value.toInt := value.le_toInt
    have most : Int32.maxValue.toInt = 2 ^ 31 - 1 := Int32.toInt_maxValue
    have size : UInt32.size = 2 ^ 32 := rfl
    have same : (raiseValue (raiseValue value amount) more).toInt =
        (raiseValue value (amountSum amount more)).toInt := by
      rw [toInt_raiseValue, toInt_raiseValue, toInt_raiseValue, toNat_amountSum]
      omega
    exact congrArg real (Int32.toInt_inj.1 same)

theorem raise_comm (p : Priority) (amount more : UInt32) :
    (p.raise amount).raise more = (p.raise more).raise amount := by
  rw [raise_raise, raise_raise, amountSum, amountSum, Nat.add_comm]

theorem raise_le_raise (ranks : p ≤ q) (amounts : amount ≤ more) :
    p.raise amount ≤ q.raise more := by
  cases p with
  | cannotHandle => exact cannotHandle_le _
  | real value =>
    cases q with
    | cannotHandle => exact absurd ranks not_real_le_cannotHandle
    | real other =>
      have values : value.toInt ≤ other.toInt := real_le_real_iff.1 ranks
      have steps : amount.toNat ≤ more.toNat := UInt32.le_iff_toNat_le.1 amounts
      apply real_le_real_iff.2
      rw [toInt_raiseValue, toInt_raiseValue]
      omega

theorem raise_lt_raise_iff (below : p < q) (amount : UInt32) :
    p.raise amount < q.raise amount ↔
      ¬ (p ≠ cannotHandle ∧ p.raise amount = highest ∧ q.raise amount = highest) := by
  cases p with
  | cannotHandle =>
    cases q with
    | cannotHandle => exact below.elim
    | real other => exact iff_of_true trivial fun both => both.1 rfl
  | real value =>
    cases q with
    | cannotHandle => exact below.elim
    | real other =>
      have values : value.toInt < other.toInt := real_lt_real_iff.1 below
      have order : (real value).raise amount < (real other).raise amount ↔
          (raiseValue value amount).toInt < (raiseValue other amount).toInt := real_lt_real_iff
      rw [order, raise_eq_highest_iff, raise_eq_highest_iff, toInt_raiseValue, toInt_raiseValue]
      simp only [ne_eq, reduceCtorEq, not_false_eq_true, true_and]
      omega

theorem lt_all_real_iff (p : Priority) : (∀ value, p < real value) ↔ p = cannotHandle := by
  constructor
  · intro below
    cases p with
    | cannotHandle => rfl
    | real value => exact absurd (below value) (lt_irrefl _)
  · rintro rfl value
    exact cannotHandle_lt_real

theorem raise_eq_cannotHandle_iff : p.raise amount = cannotHandle ↔ p = cannotHandle := by
  cases p <;> simp [raise]

/-- Amounts act on ranks: one after another as their saturating sum at once, without a change of
order, and with an end at the highest rank. Refusal alone is below all other ranks, and raising does
not take it from there. -/
structure SaturatingAction (act : Priority → UInt32 → Priority) : Prop where
  act_act : ∀ p amount more, act (act p amount) more = act p (amountSum amount more)
  comm : ∀ p amount more, act (act p amount) more = act (act p more) amount
  mono : ∀ p q amount more, p ≤ q → amount ≤ more → act p amount ≤ act q more
  strict : ∀ p q amount, p < q → (act p amount < act q amount ↔
    ¬ (p ≠ cannotHandle ∧ act p amount = highest ∧ act q amount = highest))
  ends : ∀ value amount, act (real value) amount = highest ↔
    Int32.maxValue.toInt ≤ value.toInt + amount.toNat
  refusal : ∀ p, (∀ value, p < real value) ↔ p = cannotHandle
  refusal_stays : ∀ p amount, (∀ value, act p amount < real value) ↔ p = cannotHandle

/-- Raising is such an action, since sums are exact and are too large at worst. -/
theorem saturatingAction_raise :
    SaturatingAction raise ∧ ∀ value amount,
      (raisedSum value amount).toInt = value.toInt + amount.toNat ∧
      (narrow? (raisedSum value amount) = none ↔
        Int32.maxValue.toInt < value.toInt + amount.toNat) := by
  refine ⟨?_, fun value amount =>
    ⟨toInt_raisedSum value amount, narrow?_raisedSum_eq_none_iff value amount⟩⟩
  constructor
  case act_act => exact raise_raise
  case comm => exact raise_comm
  case mono => exact fun p q amount more => raise_le_raise
  case strict => exact fun p q amount below => raise_lt_raise_iff below amount
  case ends => exact raise_eq_highest_iff
  case refusal => exact lt_all_real_iff
  case refusal_stays =>
    intro p amount
    rw [lt_all_real_iff, raise_eq_cannotHandle_iff]

example : lowest.raise 4294967294 = real 2147483646 ∧ lowest.raise 4294967295 = highest := by
  decide

end RpcRouting.Priority
