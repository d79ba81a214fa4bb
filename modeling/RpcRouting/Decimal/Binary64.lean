/-!
Binary floating point numbers of 64 bits, taken apart: a finite one has the magnitude
`mantissa * 2 ^ scale`.
-/

set_option autoImplicit false
set_option relaxedAutoImplicit false

namespace RpcRouting

/-- A 64-bit binary floating point number, by its bits. -/
structure Binary64 where
  bits : UInt64
deriving DecidableEq

namespace Binary64

def isNegative (x : Binary64) : Bool := x.bits >>> 63 != 0

def exponentBits (x : Binary64) : Nat := ((x.bits >>> 52) &&& 0x7FF).toNat

def fractionBits (x : Binary64) : Nat := (x.bits &&& 0xFFFFFFFFFFFFF).toNat

def mantissa (x : Binary64) : Nat :=
  if x.exponentBits = 0 then x.fractionBits else x.fractionBits + 0x10000000000000

def scale (x : Binary64) : Int :=
  if x.exponentBits = 0 then -1074 else (x.exponentBits : Int) - 1075

def isNarrowBelow (x : Binary64) : Bool := x.fractionBits = 0 && 1 < x.exponentBits

end Binary64

end RpcRouting
