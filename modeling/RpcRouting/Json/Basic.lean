import RpcRouting.Decimal.Layout
/-!
JSON values and their compact text.
-/

set_option autoImplicit false
set_option relaxedAutoImplicit false

namespace RpcRouting

/-- A JSON value. Whole numbers are kept apart from numbers with a fraction or an exponent. -/
inductive Json
  | null
  | boolean (value : Bool)
  | integer (value : Int)
  | floating (value : Binary64)
  | text (value : String)
  | array (items : List Json)
  | object (fields : List (String × Json))

namespace Json

/-- Numbers from a hundred-thousandth up to ten to the sixteenth are written positionally, and an
exponent always has a sign. -/
def numberLayout : DecimalLayout := ⟨-5, 15, "+"⟩

def hexadecimal4 (c : Char) : List Char :=
  [c.toNat / 4096 % 16, c.toNat / 256 % 16, c.toNat / 16 % 16, c.toNat % 16].map Nat.digitChar

def stringChar (c : Char) : List Char :=
  if c = '"' then ['\\', '"']
  else if c = '\\' then ['\\', '\\']
  else if c = '\x08' then ['\\', 'b']
  else if c = '\x0c' then ['\\', 'f']
  else if c = '\n' then ['\\', 'n']
  else if c = '\r' then ['\\', 'r']
  else if c = '\t' then ['\\', 't']
  else if c.toNat < 0x20 then ['\\', 'u'] ++ hexadecimal4 c
  else [c]

def stringChars (s : String) : List Char := '"' :: s.toList.flatMap stringChar ++ ['"']

mutual

def chars : Json → List Char
  | null => ['n', 'u', 'l', 'l']
  | boolean value => if value then ['t', 'r', 'u', 'e'] else ['f', 'a', 'l', 's', 'e']
  | integer value => (toString value).toList
  | floating value => (value.text numberLayout).toList
  | text value => stringChars value
  | array items => '[' :: itemsChars items ++ [']']
  | object fields => '\x7b' :: fieldsChars fields ++ ['\x7d']

def itemsChars : List Json → List Char
  | [] => []
  | [item] => chars item
  | item :: rest => chars item ++ ',' :: itemsChars rest

def fieldsChars : List (String × Json) → List Char
  | [] => []
  | [(key, value)] => stringChars key ++ ':' :: chars value
  | (key, value) :: rest => stringChars key ++ ':' :: chars value ++ ',' :: fieldsChars rest

end

def compact (j : Json) : String := String.ofList j.chars

end Json

end RpcRouting
