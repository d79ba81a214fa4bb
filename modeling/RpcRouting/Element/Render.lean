import RpcRouting.Element.Basic
/-!
The text of an element in diagnostics and logs. A namespace is declared where it differs from the
one in force, and the five special characters of text and values are escaped.
-/

set_option autoImplicit false
set_option relaxedAutoImplicit false

namespace RpcRouting.Element

def escapeChar (c : Char) : List Char :=
  if c = '<' then ['&', 'l', 't', ';']
  else if c = '>' then ['&', 'g', 't', ';']
  else if c = '&' then ['&', 'a', 'm', 'p', ';']
  else if c = '"' then ['&', 'q', 'u', 'o', 't', ';']
  else if c = '\'' then ['&', 'a', 'p', 'o', 's', ';']
  else [c]

def escape (s : String) : List Char := s.toList.flatMap escapeChar

def attributeChars (key value : String) : List Char :=
  ' ' :: key.toList ++ ['=', '"'] ++ escape value ++ ['"']

/-- The declaration of an element's namespace where another one is in force. -/
def declarationChars (inherited uri : Option String) : List Char :=
  match uri with
  | none => []
  | some u => if inherited = some u then [] else attributeChars "xmlns" u

def openingChars (inherited : Option String) (name : String) (uri : Option String)
    (attributes : TextMap String) : List Char :=
  '<' :: name.toList ++ declarationChars inherited uri ++
    attributes.entries.flatMap fun a => attributeChars a.1 a.2

/-- The namespace in force inside an element. -/
def inForce (inherited uri : Option String) : Option String := uri.or inherited

mutual

/-- The characters of an element where `inherited` is the namespace in force. -/
def chars (inherited : Option String) : Element → List Char
  | ⟨name, uri, attributes, children, text⟩ =>
    openingChars inherited name uri attributes ++
      match children, text with
      | [], none => ['/', '>']
      | _, _ =>
        '>' :: (text.elim [] escape) ++ charsAll (inForce inherited uri) children ++
          ['<', '/'] ++ name.toList ++ ['>']

def charsAll (inherited : Option String) : List Element → List Char
  | [] => []
  | e :: rest => chars inherited e ++ charsAll inherited rest

end

def render (e : Element) : String := String.ofList (e.chars none)

end RpcRouting.Element
