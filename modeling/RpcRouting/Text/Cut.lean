/-!
Cutting a text at a byte limit without dividing a character. Lengths are counted in the bytes of
the UTF-8 form.
-/

set_option autoImplicit false
set_option relaxedAutoImplicit false

namespace RpcRouting.Text

def bytes : List Char → Nat
  | [] => 0
  | c :: rest => c.utf8Size + bytes rest

def isBoundary : List Char → Nat → Bool
  | _, 0 => true
  | [], _ + 1 => false
  | c :: rest, offset => c.utf8Size ≤ offset && isBoundary rest (offset - c.utf8Size)

/-- The nearest boundary at or before an offset. -/
def boundaryBefore (cs : List Char) : Nat → Nat
  | 0 => 0
  | offset + 1 => if isBoundary cs (offset + 1) then offset + 1 else boundaryBefore cs offset

def takeBytes : List Char → Nat → List Char
  | [], _ => []
  | c :: rest, limit => if c.utf8Size ≤ limit then c :: takeBytes rest (limit - c.utf8Size) else []

def ellipsis : List Char := ['.', '.', '.']

/-- The characters themselves if they fit into `limit` bytes, else what fits and an ellipsis. -/
def cut (cs : List Char) (limit : Nat) : List Char :=
  if bytes cs ≤ limit then cs else takeBytes cs (boundaryBefore cs limit) ++ ellipsis

end RpcRouting.Text
