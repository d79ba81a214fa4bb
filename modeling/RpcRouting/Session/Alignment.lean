import RpcRouting.Json.Decode
/-!
How a compressed stream is aligned, and the parameters that a session negotiates for it.
-/

set_option autoImplicit false
set_option relaxedAutoImplicit false

namespace RpcRouting

inductive Alignment
  | bitPacked
  | byteAligned
  | preCompression
  | compression
deriving DecidableEq

namespace Alignment

instance : Inhabited Alignment := ⟨bitPacked⟩

def text : Alignment → String
  | bitPacked => "bit-packed"
  | byteAligned => "byte-aligned"
  | preCompression => "pre-compression"
  | compression => "compression"

def all : List Alignment := [bitPacked, byteAligned, preCompression, compression]

def ofText? (name : String) : Option Alignment := all.find? fun a => a.text = name

def toJson (a : Alignment) : Json := .text a.text

def ofJson : Json → Except DecodeError Alignment :=
  Json.asVariant (all.map fun a => (a.text, a))

end Alignment

/-- The parameters of a compressed stream. -/
structure ExiParameters where
  alignment : Alignment
deriving DecidableEq, Inhabited

namespace ExiParameters

def toJson (p : ExiParameters) : Json := .object [("alignment", p.alignment.toJson)]

def recordName : String := "ExiParameters"

def ofJson : Json → Except DecodeError ExiParameters
  | .object fields => do
    let alignment ← Json.fieldWith? fields "alignment" Alignment.ofJson
    return ⟨← Json.require "alignment" alignment⟩
  | .array [] => .error (.tooShort 0 recordName 1)
  | .array (alignment :: rest) => do
    let alignment ← Alignment.ofJson alignment
    Json.nothingLeft (1 + rest.length) rest
    return ⟨alignment⟩
  | other => .error (.wrongKind other (.record recordName))

end ExiParameters

end RpcRouting
