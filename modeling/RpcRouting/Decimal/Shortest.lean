import RpcRouting.Decimal.Binary64
/-!
The fewest decimal digits that read back as a binary floating point number.

The numbers that round to a given one form an interval. The coarsest grid of powers of ten with a
point other than zero in that interval gives the fewest digits. Of two such points the nearer one is
taken, and of two equally near ones the even one.
-/

set_option autoImplicit false
set_option relaxedAutoImplicit false

namespace RpcRouting

structure DecimalDigits where
  digits : Nat
  exponent : Int
deriving DecidableEq

namespace Binary64

/-- Quarter steps `n` of the last mantissa bit, measured in the unit `10 ^ exponent`: the fraction
`(numerator, denominator)`. -/
def measured (x : Binary64) (exponent : Int) (n : Nat) : Nat × Nat :=
  let binary := x.scale - 2
  (n * Nat.pow 2 binary.toNat * Nat.pow 10 (-exponent).toNat,
    Nat.pow 2 (-binary).toNat * Nat.pow 10 exponent.toNat)

/-- The point other than zero nearest to the number on the grid of multiples of `10 ^ exponent`,
among those that read back as the number. -/
def onGrid? (x : Binary64) (exponent : Int) : Option Nat :=
  let centre := 4 * x.mantissa
  let (value, unit) := x.measured exponent centre
  let (low, _) := x.measured exponent (centre - if x.isNarrowBelow then 1 else 2)
  let (high, _) := x.measured exponent (centre + 2)
  let readsBack := fun n : Nat =>
    n ≠ 0 && (if x.mantissa % 2 = 0 then low ≤ n * unit && n * unit ≤ high
      else low < n * unit && n * unit < high)
  let below := value / unit
  let above := below + 1
  let down := value - below * unit
  let up := above * unit - value
  match readsBack below, readsBack above with
  | true, true => if down < up ∨ down = up ∧ below % 2 = 0 then some below else some above
  | true, false => some below
  | false, true => some above
  | false, false => none

/-- The digits on the coarsest of `count` grids, the finest of which is `10 ^ finest`. -/
def digitsFrom (x : Binary64) (finest : Int) : Nat → DecimalDigits
  | 0 => ⟨0, 0⟩
  | count + 1 =>
    match x.onGrid? (finest + count) with
    | some digits => ⟨digits, finest + count⟩
    | none => digitsFrom x finest count

def shortest (x : Binary64) : DecimalDigits :=
  if x.mantissa = 0 then ⟨0, 0⟩ else x.digitsFrom (-324) 634

end Binary64

end RpcRouting
