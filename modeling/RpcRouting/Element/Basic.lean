import RpcRouting.Text.Blank
import RpcRouting.Text.Map
/-!
Elements of a message: a name, a namespace that may be inherited, attributes, child elements and
text.
-/

set_option autoImplicit false
set_option relaxedAutoImplicit false

namespace RpcRouting

/-- An element with its attributes, its child elements and its text. -/
structure Element where
  name : String
  uri : Option String
  /-- The attributes, in the order of their names. -/
  attributes : TextMap String
  children : List Element
  /-- The text, which stands in front of the children. -/
  text : Option String

namespace Element

mutual

def decideEq : (a b : Element) → Decidable (a = b)
  | ⟨n, u, as, cs, t⟩, ⟨n', u', as', cs', t'⟩ =>
    match decideEqAll cs cs' with
    | .isTrue h => decidable_of_iff ((n, u, as, t) = (n', u', as', t')) (by simp [h])
    | .isFalse h => .isFalse (by simp [h])

def decideEqAll : (as bs : List Element) → Decidable (as = bs)
  | [], [] => .isTrue rfl
  | [], _ :: _ => .isFalse (by simp)
  | _ :: _, [] => .isFalse (by simp)
  | a :: as, b :: bs =>
    match decideEq a b, decideEqAll as bs with
    | .isTrue h, .isTrue h' => .isTrue (by rw [h, h'])
    | .isFalse h, _ => .isFalse (by simp [h])
    | _, .isFalse h => .isFalse (by simp [h])

end

instance : DecidableEq Element := decideEq

def named (name : String) : Element := ⟨name, none, .empty, [], none⟩

instance : Inhabited Element := ⟨named ""⟩

def within (name uri : String) : Element := ⟨name, some uri, .empty, [], none⟩

def withAttribute (e : Element) (key value : String) : Element :=
  { e with attributes := e.attributes.insert key value }

def withChild (e child : Element) : Element := { e with children := e.children ++ [child] }

def withText (e : Element) (text : String) : Element := { e with text := some text }

def nested (name : String) (e : Element) : Nat → Element
  | 0 => e
  | times + 1 => (named name).withChild (nested name e times)

def child? (e : Element) (name : String) : Option Element :=
  e.children.find? (fun c => c.name = name)

def childText? (e : Element) (name : String) : Option String := do
  let c ← e.child? name
  return Text.trim (← c.text)

/-- Whether the element has the name and does not declare another namespace. -/
def answersTo (e : Element) (name uri : String) : Bool :=
  e.name = name && e.uri.all (· = uri)

end Element

end RpcRouting
