import RpcRouting.Json.Basic
import RpcRouting.Text.Map
import RpcRouting.Text.Quoted
/-!
Reading records, maps, texts and variants out of JSON values, with the reasons for refusal and
their wording.

A record is an object or the array of its fields in the order of their declaration. Of an object
every known field is read, in the order of the names, before a missing one is reported.
-/

set_option autoImplicit false
set_option relaxedAutoImplicit false

namespace RpcRouting

inductive Expected
  | text
  | map
  | sequence
  | record (name : String)
  | unsigned32
  | variant
  | nothing

def Expected.describe : Expected → String
  | text => "a string"
  | map => "a map"
  | sequence => "a sequence"
  | record name => "struct " ++ name
  | unsigned32 => "u32"
  | variant => "string or map"
  | nothing => "unit"

inductive DecodeError
  | wrongKind (found : Json) (expected : Expected)
  | outOfRange (value : Int) (expected : Expected)
  | missingField (name : String)
  | tooShort (length : Nat) (record : String) (fields : Nat)
  | tooLong (length : Nat)
  | unknownVariant (found : String) (known : List String)
  | notSingleKey

/-- A value as a refusal names it: its kind, and its content if it is a scalar. -/
def Json.describe : Json → String
  | null => "null"
  | boolean value => "boolean `" ++ (if value then "true" else "false") ++ "`"
  | integer value => "integer `" ++ toString value ++ "`"
  | floating value => "floating point `" ++ value.text numberLayout ++ "`"
  | text value => "string " ++ Text.quote value
  | array _ => "sequence"
  | object _ => "map"

namespace DecodeError

def alternatives (known : List String) : String :=
  match known.map fun name => "`" ++ name ++ "`" with
  | [first, second] => first ++ " or " ++ second
  | names => "one of " ++ ", ".intercalate names

def message : DecodeError → String
  | wrongKind found expected =>
    "invalid type: " ++ found.describe ++ ", expected " ++ expected.describe
  | outOfRange value expected =>
    "invalid value: integer `" ++ toString value ++ "`, expected " ++ expected.describe
  | missingField name => "missing field `" ++ name ++ "`"
  | tooShort length record fields =>
    "invalid length " ++ toString length ++ ", expected struct " ++ record ++ " with " ++
      toString fields ++ (if fields = 1 then " element" else " elements")
  | tooLong length =>
    "invalid length " ++ toString length ++ ", expected fewer elements in array"
  | unknownVariant found known =>
    "unknown variant `" ++ found ++ "`, expected " ++ alternatives known
  | notSingleKey => "invalid value: map, expected map with a single key"

end DecodeError

namespace Json

def asText : Json → Except DecodeError String
  | text value => .ok value
  | other => .error (.wrongKind other .text)

def asText? : Json → Except DecodeError (Option String)
  | null => .ok none
  | other => some <$> other.asText

def asTexts : Json → Except DecodeError (TextMap String)
  | object fields => do
    let entries ← (TextMap.ofList fields).entries.mapM fun e => do
      return (e.1, ← e.2.asText)
    return TextMap.ofList entries
  | other => .error (.wrongKind other .map)

/-- The last value under a key of an object. -/
def field? (fields : List (String × Json)) (key : String) : Option Json :=
  (fields.reverse.find? (fun f => f.1 = key)).map (·.2)

def fieldWith? {α : Type} (fields : List (String × Json)) (key : String)
    (read : Json → Except DecodeError α) : Except DecodeError (Option α) :=
  (field? fields key).mapM read

def require {α : Type} (key : String) : Option α → Except DecodeError α
  | some value => .ok value
  | none => .error (.missingField key)

def nothingLeft (length : Nat) : List Json → Except DecodeError Unit
  | [] => .ok ()
  | _ :: _ => .error (.tooLong length)

def variantNamed {α : Type} (known : List (String × α)) (name : String) :
    Except DecodeError α :=
  match known.find? (fun v => v.1 = name) with
  | some v => .ok v.2
  | none => .error (.unknownVariant name (known.map (·.1)))

/-- Reads one of the known variants: its name, or an object with that one key and no content. -/
def asVariant {α : Type} (known : List (String × α)) : Json → Except DecodeError α
  | text name => variantNamed known name
  | object fields =>
    match (TextMap.ofList fields).entries with
    | [(name, content)] => do
      let value ← variantNamed known name
      match content with
      | null => return value
      | other => throw (.wrongKind other .nothing)
    | _ => .error .notSingleKey
  | other => .error (.wrongKind other .variant)

end Json

end RpcRouting
