import RpcRouting.Element.Json
import RpcRouting.Element.Render
import RpcRouting.Text.Cut
/-!
Messages: requests, which carry one operation element, and their replies.
-/

set_option autoImplicit false
set_option relaxedAutoImplicit false

namespace RpcRouting

def baseNamespace : String := "urn:ietf:params:xml:ns:netconf:base:1.0"

def exiNamespace : String := "urn:ietf:params:xml:ns:netconf:exi:1.0"

def requestName : String := "rpc"

def replyName : String := "rpc-reply"

def messageIdName : String := "message-id"

structure Document where
  root : Element
deriving DecidableEq

namespace Document

instance : Inhabited Document := ⟨⟨default⟩⟩

def request (messageId : String) (operation : Element) : Document :=
  ⟨((Element.within requestName baseNamespace).withAttribute messageIdName messageId).withChild
    operation⟩

def operation? (d : Document) : Option Element :=
  if d.root.answersTo requestName baseNamespace then d.root.children.head? else none

def operationName? (d : Document) : Option String := d.operation?.map (·.name)

/-- Whether the message asks for the operation of a name and a namespace; the namespace may be
declared by the operation element or by the root. -/
def asksFor (d : Document) (name uri : String) : Bool :=
  d.operation?.any fun operation =>
    operation.name = name && operation.uri.or d.root.uri = some uri

def messageId? (d : Document) : Option String := d.root.attributes.get? messageIdName

/-- The reply that carries `body` and repeats the attributes of the request's root. -/
def replyTo (request : Document) (body : Element) : Document :=
  ⟨{ (Element.within replyName baseNamespace).withChild body with
      attributes := request.root.attributes }⟩

def okReply (request : Document) : Document := request.replyTo (.named "ok")

def isOkReply (d : Document) : Bool :=
  d.root.answersTo replyName baseNamespace && (d.root.child? "ok").isSome

def chars (d : Document) : List Char := d.root.chars none

def render (d : Document) : String := d.root.render

/-- The text of the message, cut to about `limit` bytes. -/
def renderWithin (d : Document) (limit : Nat) : String := String.ofList (Text.cut d.chars limit)

def toJson (d : Document) : Json := .object [("root", d.root.toJson)]

def recordName : String := "Document"

def ofJson : Json → Except DecodeError Document
  | .object fields => do
    let root ← Json.fieldWith? fields "root" Element.ofJson
    return ⟨← Json.require "root" root⟩
  | .array [] => .error (.tooShort 0 recordName 1)
  | .array (root :: rest) => do
    let root ← Element.ofJson root
    Json.nothingLeft (1 + rest.length) rest
    return ⟨root⟩
  | other => .error (.wrongKind other (.record recordName))

end Document

end RpcRouting
