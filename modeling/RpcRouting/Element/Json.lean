import RpcRouting.Element.Basic
import RpcRouting.Json.Decode
/-!
Elements as JSON: a record whose absent and empty parts are left out, and its reader.
-/

set_option autoImplicit false
set_option relaxedAutoImplicit false

namespace RpcRouting

def TextMap.toJson (m : TextMap String) : Json :=
  .object (m.entries.map fun e => (e.1, .text e.2))

def TextMap.toField (key : String) (m : TextMap String) : List (String × Json) :=
  if m.isEmpty then [] else [(key, m.toJson)]

namespace Element

/-- A text as the one field of a record, left out if it is absent. -/
def textField (key : String) (text : Option String) : List (String × Json) :=
  text.toList.map fun t => (key, .text t)

mutual

def toJson : Element → Json
  | ⟨name, uri, attributes, children, text⟩ =>
    .object (("name", .text name) :: textField "namespace" uri ++
      attributes.toField "attributes" ++
      (match children with
        | [] => []
        | c :: cs => [("children", .array (toJson c :: toJsonAll cs))]) ++
      textField "text" text)

def toJsonAll : List Element → List Json
  | [] => []
  | e :: rest => toJson e :: toJsonAll rest

end

def recordName : String := "XmlElement"

mutual

def ofJson : Json → Except DecodeError Element
  | .object fields => do
    let attributes ← Json.fieldWith? fields "attributes" Json.asTexts
    let children ← ofJsonField fields
    let name ← Json.fieldWith? fields "name" Json.asText
    let uri ← Json.fieldWith? fields "namespace" Json.asText?
    let text ← Json.fieldWith? fields "text" Json.asText?
    let name ← Json.require "name" name
    return ⟨name, uri.join, attributes.getD .empty, children.getD [], text.join⟩
  | .array [] => .error (.tooShort 0 recordName 5)
  | .array [name] => do
    return ⟨← name.asText, none, .empty, [], none⟩
  | .array [name, uri] => do
    return ⟨← name.asText, ← uri.asText?, .empty, [], none⟩
  | .array [name, uri, attributes] => do
    return ⟨← name.asText, ← uri.asText?, ← attributes.asTexts, [], none⟩
  | .array [name, uri, attributes, children] => do
    return ⟨← name.asText, ← uri.asText?, ← attributes.asTexts, ← ofJsonItems children, none⟩
  | .array (name :: uri :: attributes :: children :: text :: rest) => do
    let e : Element := ⟨← name.asText, ← uri.asText?, ← attributes.asTexts,
      ← ofJsonItems children, ← text.asText?⟩
    Json.nothingLeft (5 + rest.length) rest
    return e
  | other => .error (.wrongKind other (.record recordName))

/-- Reads the children out of the fields of an object; the last such field counts. -/
def ofJsonField : List (String × Json) → Except DecodeError (Option (List Element))
  | [] => .ok none
  | (key, value) :: rest =>
    if rest.any (fun f => f.1 = "children") then ofJsonField rest
    else if key = "children" then some <$> ofJsonItems value
    else .ok none

def ofJsonItems : Json → Except DecodeError (List Element)
  | .array items => ofJsonAll items
  | other => .error (.wrongKind other .sequence)

def ofJsonAll : List Json → Except DecodeError (List Element)
  | [] => .ok []
  | item :: rest => do return (← ofJson item) :: (← ofJsonAll rest)

end

end Element

end RpcRouting
