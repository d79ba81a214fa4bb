import RpcRouting.Element.Render
/-!
What the text of an element leaves out: declarations of a namespace that is in force already, and
empty texts in front of children. An element without these parts has the same text.
-/

set_option autoImplicit false
set_option relaxedAutoImplicit false

namespace RpcRouting

def Text.marks : List Char := [' ', '"', '<', '>', '/', '=', '&']

/-- The text can stand as a name in a tag: it is not empty and has no marks. -/
def Text.IsName (name : String) : Prop := name ≠ "" ∧ ∀ c ∈ name.toList, c ∉ marks

instance (name : String) : Decidable (Text.IsName name) :=
  -- Only the characters of the name are looked at, not all there are.
  have : Decidable (∀ c ∈ name.toList, c ∉ Text.marks) := List.decidableBAll _ name.toList
  inferInstanceAs (Decidable (_ ∧ _))

namespace Element

mutual

/-- All elements and attributes have names, and no attribute has the name by which a namespace is
declared. -/
def Named : Element → Prop
  | ⟨name, _, attributes, children, _⟩ =>
    Text.IsName name ∧ (∀ a ∈ attributes.entries, Text.IsName a.1 ∧ a.1 ≠ "xmlns") ∧
      AllNamed children

def AllNamed : List Element → Prop
  | [] => True
  | e :: rest => e.Named ∧ AllNamed rest

end

mutual

def decideNamed : (e : Element) → Decidable e.Named
  | ⟨name, _, attributes, children, _⟩ =>
    have := decideAllNamed children
    inferInstanceAs (Decidable (Text.IsName name ∧
      (∀ a ∈ attributes.entries, Text.IsName a.1 ∧ a.1 ≠ "xmlns") ∧ AllNamed children))

def decideAllNamed : (es : List Element) → Decidable (AllNamed es)
  | [] => .isTrue trivial
  | e :: rest =>
    have := decideNamed e
    have := decideAllNamed rest
    inferInstanceAs (Decidable (e.Named ∧ AllNamed rest))

end

instance (e : Element) : Decidable e.Named := decideNamed e

/-- The namespace of an element, unless it is in force already. -/
def ownUri (inherited uri : Option String) : Option String :=
  if uri = inherited then none else uri

/-- The text of an element, unless it is empty and children follow. -/
def ownText (children : List Element) (text : Option String) : Option String :=
  if children.isEmpty then text else text.filter (· ≠ "")

mutual

def normal (inherited : Option String) : Element → Element
  | ⟨name, uri, attributes, children, text⟩ =>
    ⟨name, ownUri inherited uri, attributes, normalAll (inForce inherited uri) children,
      ownText children text⟩

def normalAll (inherited : Option String) : List Element → List Element
  | [] => []
  | e :: rest => normal inherited e :: normalAll inherited rest

end

/-- The element that stands alone without what is redundant. No namespace is in force around it, so
it keeps its own. -/
def normalize (e : Element) : Element := e.normal none

theorem inForce_ownUri (inherited uri : Option String) :
    inForce inherited (ownUri inherited uri) = inForce inherited uri := by
  rw [ownUri]
  split
  · next same =>
    rw [same, inForce, inForce, Option.none_or]
    cases inherited <;> rfl
  · rfl

theorem declarationChars_ownUri (inherited uri : Option String) :
    declarationChars inherited (ownUri inherited uri) = declarationChars inherited uri := by
  rw [ownUri]
  split
  · next same =>
    subst same
    cases uri with
    | none => rfl
    | some u => exact (if_pos rfl).symm
  · rfl

theorem ownText_elim {children : List Element} (text : Option String) :
    (ownText children text).elim [] escape = text.elim [] escape := by
  rw [ownText]
  split
  · rfl
  · cases text with
    | none => rfl
    | some t =>
      by_cases empty : t = ""
      · subst empty
        rfl
      · rw [Option.filter_some, if_pos (by simpa using empty)]

def bodyChars (inside : Option String) (name : String) (children : List Element)
    (text : Option String) : List Char :=
  if children = [] ∧ text = none then ['/', '>']
  else '>' :: (text.elim [] escape ++
    (charsAll inside children ++ '<' :: '/' :: (name.toList ++ ['>'])))

theorem chars_eq (inherited : Option String) (name : String) (uri : Option String)
    (attributes : TextMap String) (children : List Element) (text : Option String) :
    chars inherited ⟨name, uri, attributes, children, text⟩ =
      openingChars inherited name uri attributes ++
        bodyChars (inForce inherited uri) name children text := by
  by_cases empty : children = [] ∧ text = none
  · obtain ⟨rfl, rfl⟩ := empty
    rw [chars]
    rfl
  · rw [chars, bodyChars, if_neg empty]
    · simp only [List.cons_append, List.append_assoc, List.nil_append]
    · exact fun none absent => empty ⟨none, absent⟩

mutual

theorem chars_normal (inherited : Option String) : (e : Element) →
    chars inherited (normal inherited e) = chars inherited e
  | ⟨name, uri, attributes, children, text⟩ => by
    have inner := charsAll_normalAll (inForce inherited uri) children
    have opening : openingChars inherited name (ownUri inherited uri) attributes =
        openingChars inherited name uri attributes := by
      rw [openingChars, openingChars, declarationChars_ownUri]
    have empty : (normalAll (inForce inherited uri) children = [] ∧
        ownText children text = none) ↔ (children = [] ∧ text = none) := by
      cases children <;> simp [normalAll, ownText]
    rw [normal, chars_eq, chars_eq, opening, inForce_ownUri, bodyChars, bodyChars, inner,
      ownText_elim]
    simp only [empty]

theorem charsAll_normalAll (inherited : Option String) : (es : List Element) →
    charsAll inherited (normalAll inherited es) = charsAll inherited es
  | [] => rfl
  | e :: rest => by
    rw [normalAll, charsAll, charsAll, chars_normal inherited e, charsAll_normalAll inherited rest]

end

/-- What is redundant in an element does not show in its text. -/
theorem render_normalize (e : Element) : e.normalize.render = e.render := by
  rw [render, render, normalize, chars_normal]

end Element

end RpcRouting
