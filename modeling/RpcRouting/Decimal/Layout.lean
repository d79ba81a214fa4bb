import RpcRouting.Decimal.Shortest
/-!
Decimal numbers as text: positional where the first digit stands near the point, and otherwise with
one digit before the point and an exponent.
-/

set_option autoImplicit false
set_option relaxedAutoImplicit false

namespace RpcRouting

/-- Which numbers are written positionally, and how an exponent is written for the others. -/
structure DecimalLayout where
  lowest : Int
  highest : Int
  plus : String
deriving DecidableEq

namespace DecimalDigits

def figures (d : DecimalDigits) : List Char := Nat.toDigits 10 d.digits

def leading (d : DecimalDigits) : Int := d.exponent + d.figures.length - 1

def positional (d : DecimalDigits) : String :=
  let padded := d.figures ++ List.replicate d.exponent.toNat '0'
  let places := (-d.exponent).toNat
  let wide := List.replicate (places + 1 - padded.length) '0' ++ padded
  let whole := wide.take (wide.length - places)
  let fraction := wide.drop (wide.length - places)
  String.ofList whole ++ "." ++ String.ofList (if fraction.isEmpty then ['0'] else fraction)

def scientific (d : DecimalDigits) (plus : String) : String :=
  let fraction := d.figures.drop 1
  String.ofList (d.figures.take 1) ++
    (if fraction.isEmpty then "" else "." ++ String.ofList fraction) ++
    "e" ++ (if d.leading < 0 then "-" else plus) ++ toString d.leading.natAbs

end DecimalDigits

/-- The text of a finite number: its sign and the fewest digits that read back. -/
def Binary64.text (x : Binary64) (layout : DecimalLayout) : String :=
  let d := x.shortest
  (if x.isNegative then "-" else "") ++
    if layout.lowest ≤ d.leading ∧ d.leading ≤ layout.highest then d.positional
    else d.scientific layout.plus

end RpcRouting
