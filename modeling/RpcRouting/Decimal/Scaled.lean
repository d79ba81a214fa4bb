import RpcRouting.Decimal.Binary64
/-!
The binary number for decimal figures and a power of ten, in two roundings: the figures that fit
into 64 bits are rounded first, then their product or quotient with the power of ten.
-/

set_option autoImplicit false
set_option relaxedAutoImplicit false

namespace RpcRouting

/-- Takes figures as long as the number they form fits into 64 bits: that number and the figures
left over. -/
def absorbFigures (value : Nat) : List Char → Nat × List Char
  | [] => (value, [])
  | figure :: rest =>
    let next := value * 10 + (figure.toNat - '0'.toNat)
    if next < 0x10000000000000000 then absorbFigures next rest else (value, figure :: rest)

namespace Binary64

def greatestPower : Nat := 308

def powerOfTen (power : Nat) : Float := Float.ofScientific 1 false power

def dividedByPower (x : Float) (power : Nat) : Float :=
  if power ≤ greatestPower then x / powerOfTen power
  else if x == 0 then x
  else dividedByPower (x / powerOfTen greatestPower) (power - greatestPower)
termination_by power
decreasing_by simp only [greatestPower] at *; omega

def scaled? (significand : Nat) (exponent : Int) : Option Float :=
  let x := significand.toUInt64.toFloat
  if exponent < 0 then some (dividedByPower x exponent.natAbs)
  else if exponent ≤ greatestPower then
    let product := x * powerOfTen exponent.natAbs
    if product.isInf then none else some product
  else if x == 0 then some x
  else none

/-- The number of a sign, the figures before and behind the point, and an exponent. A figure that
does not fit raises the exponent if it stands before the point and is dropped behind it. -/
def ofFigures? (negative : Bool) (whole fraction : List Char) (exponent : Int) :
    Option Binary64 := do
  let (significand, excess) := absorbFigures 0 whole
  let (significand, dropped) := absorbFigures significand fraction
  let places := fraction.length - dropped.length
  let magnitude ← scaled? significand (exponent + excess.length - places)
  return ⟨(if negative then -magnitude else magnitude).toBits⟩

end Binary64

end RpcRouting
