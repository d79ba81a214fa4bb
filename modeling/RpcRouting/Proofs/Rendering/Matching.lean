import RpcRouting.Operation.Basic
import RpcRouting.Proofs.Rendering.Reading
/-!
Matching against the text of a message. What decides about a request is read off its root and the
first of its children, and the namespace that a child inherits there is the one that the text leaves
undeclared. So messages of one text are matched alike, however redundant they are.
-/

set_option autoImplicit false
set_option relaxedAutoImplicit false

namespace RpcRouting

namespace Element

variable (inherited : Option String) (e : Element)

@[simp] theorem normal_name : (e.normal inherited).name = e.name := by
  cases e
  rfl

@[simp] theorem normal_uri : (e.normal inherited).uri = ownUri inherited e.uri := by
  cases e
  rfl

@[simp] theorem normal_attributes : (e.normal inherited).attributes = e.attributes := by
  cases e
  rfl

theorem normalAll_eq_map (es : List Element) :
    normalAll inherited es = es.map (normal inherited) := by
  induction es with
  | nil => rfl
  | cons e rest ih => rw [normalAll, ih, List.map_cons]

@[simp] theorem normal_children :
    (e.normal inherited).children = e.children.map (normal (inForce inherited e.uri)) := by
  cases e
  exact normalAll_eq_map _ _

@[simp] theorem ownUri_none (uri : Option String) : ownUri none uri = uri := by
  cases uri <;> rfl

theorem answersTo_normalize (name uri : String) :
    e.normalize.answersTo name uri = e.answersTo name uri := by
  simp only [answersTo, normalize, normal_name, normal_uri, ownUri_none]

theorem child?_normalize (name : String) :
    e.normalize.child? name = (e.child? name).map (normal (inForce none e.uri)) := by
  simp only [child?, normalize, normal_children, List.find?_map, Function.comp_def, normal_name]

end Element

namespace Document

variable (d : Document)

/-- The message without what is redundant. -/
def normalize : Document := ⟨d.root.normalize⟩

theorem messageId?_normalize : d.normalize.messageId? = d.messageId? := by
  simp only [messageId?, normalize, Element.normalize, Element.normal_attributes]

theorem operation?_normalize :
    d.normalize.operation? = d.operation?.map (·.normal (Element.inForce none d.root.uri)) := by
  rw [operation?, operation?, normalize, Element.answersTo_normalize]
  split
  · rw [Element.normalize, Element.normal_children, List.head?_map]
  · rfl

theorem operationName?_normalize : d.normalize.operationName? = d.operationName? := by
  simp only [operationName?, operation?_normalize, Option.map_map, Function.comp_def,
    Element.normal_name]

theorem isOkReply_normalize : d.normalize.isOkReply = d.isOkReply := by
  simp only [isOkReply, normalize, Element.answersTo_normalize, Element.child?_normalize,
    Option.isSome_map]

theorem asksFor_eq_inForce (name uri : String) :
    d.asksFor name uri = d.operation?.any fun operation =>
      operation.name = name &&
        Element.inForce (Element.inForce none d.root.uri) operation.uri = some uri := by
  rw [asksFor]
  simp only [Element.inForce, Option.or_none]

theorem asksFor_normalize (name uri : String) :
    d.normalize.asksFor name uri = d.asksFor name uri := by
  have root : d.normalize.root.uri = d.root.uri := by
    simp only [normalize, Element.normalize, Element.normal_uri, Element.ownUri_none]
  simp only [asksFor_eq_inForce, operation?_normalize, root, Option.any_map, Element.normal_name,
    Element.normal_uri, Element.inForce_ownUri]

/-- Two messages are matched alike. -/
structure MatchAlike (d d' : Document) : Prop where
  messageId : d.messageId? = d'.messageId?
  operationName : d.operationName? = d'.operationName?
  okReply : d.isOkReply = d'.isOkReply
  asksFor : ∀ name uri, d.asksFor name uri = d'.asksFor name uri
  rank : ∀ b : Builtin, b.rank d = b.rank d'

variable {d} {d' : Document}

theorem MatchAlike.of_normalize (same : d.normalize = d'.normalize) : d.MatchAlike d' := by
  have asksFor : ∀ name uri, d.asksFor name uri = d'.asksFor name uri := by
    intro name uri
    rw [← asksFor_normalize, same, asksFor_normalize]
  refine ⟨?_, ?_, ?_, asksFor, fun b => ?_⟩
  · rw [← messageId?_normalize, same, messageId?_normalize]
  · rw [← operationName?_normalize, same, operationName?_normalize]
  · rw [← isOkReply_normalize, same, isOkReply_normalize]
  · rw [Builtin.rank, Builtin.rank, asksFor]

/-- Messages of one text are matched alike, and for both a namespace is inherited as in the text. -/
theorem matchAlike_of_render_eq (named : d.root.Named) (named' : d'.root.Named)
    (same : d.render = d'.render) :
    d.MatchAlike d' ∧ ∀ name uri, d.asksFor name uri = d.operation?.any fun operation =>
      operation.name = name &&
        Element.inForce (Element.inForce none d.root.uri) operation.uri = some uri := by
  have normal : d.normalize = d'.normalize :=
    congrArg mk (Element.normalize_eq_of_render_eq named named' same)
  exact ⟨.of_normalize normal, d.asksFor_eq_inForce⟩

/-- A request whose operation repeats the namespace of its root, behind an empty text. -/
def wordyRequest : Document :=
  ⟨(request "1" (.within "close-session" baseNamespace)).root.withText ""⟩

def terseRequest : Document := request "1" (.named "close-session")

theorem matchAlike_of_wordyRequest :
    wordyRequest.root.Named ∧ terseRequest.root.Named ∧ wordyRequest ≠ terseRequest ∧
      wordyRequest.render = terseRequest.render ∧ wordyRequest.MatchAlike terseRequest ∧
      Builtin.closeSession.rank terseRequest = .lowest := by
  have named : wordyRequest.root.Named := by decide
  have named' : terseRequest.root.Named := by decide
  have normal : wordyRequest.root.normalize = terseRequest.root.normalize := by decide
  have same : wordyRequest.render = terseRequest.render := by
    rw [render, render, ← Element.render_normalize, normal, Element.render_normalize]
  exact ⟨named, named', by decide, same, (matchAlike_of_render_eq named named' same).1, rfl⟩

end Document

end RpcRouting
