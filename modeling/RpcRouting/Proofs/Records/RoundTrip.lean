import RpcRouting.Document
import RpcRouting.Proofs.Records.Fields
import RpcRouting.RpcError.Json
/-!
Records are read back. What an element, a message or an error is written as, with the fields of all
objects in any order, reads as that element, message or error again. Texts that are absent and
collections that are empty are left out, and nothing else is.
-/

set_option autoImplicit false
set_option relaxedAutoImplicit false

namespace RpcRouting

open Json

theorem TextMap.field?_toField (key key' : String) (m : TextMap String) :
    field? (m.toField key) key' =
      if key = key' then if m.isEmpty then none else some m.toJson else none := by
  rw [toField]
  split
  · simp [field?]
  · exact field?_singleton _ _

namespace Json

theorem eq_texts_of_ordered {fields : List (String × Json)} {entries : List (String × String)}
    (same : fields.map (fun f => (f.1, f.2.ordered)) = entries.map fun e => (e.1, .text e.2)) :
    fields = entries.map fun e => (e.1, .text e.2) := by
  induction fields generalizing entries with
  | nil =>
    rw [List.map_nil] at same
    rw [← same]
  | cons field rest ih =>
    obtain ⟨e, entries, rfl⟩ : ∃ e es, entries = e :: es :=
      List.exists_cons_of_ne_nil (by rintro rfl; cases same)
    obtain ⟨first, others⟩ := List.cons.inj same
    obtain ⟨key, text⟩ := Prod.mk.inj first
    rw [List.map_cons, ← ih others, ← key, ← ordered_eq_text_iff.1 text]

theorem mapM_asText (entries : List (String × String)) :
    (entries.map fun e => (e.1, text e.2)).mapM
      (fun e => do return (e.1, ← e.2.asText) :
        String × Json → Except DecodeError (String × String)) = .ok entries := by
  induction entries with
  | nil => rfl
  | cons e rest ih =>
    rw [List.map_cons, List.mapM_cons, ih]
    rfl

theorem Same.asTexts {m : TextMap String} {j : Json} (same : j.Same m.toJson) :
    j.asTexts = .ok m := by
  obtain ⟨fields, rfl, entries⟩ := same.exists_object
  have texts : (TextMap.ofList fields).entries = m.entries.map fun e => (e.1, .text e.2) := by
    apply eq_texts_of_ordered
    rw [← TextMap.entries_ofList_map, entries, TextMap.entries_ofList_map,
      TextMap.entries_ofList_map, TextMap.ofList_entries, List.map_map]
    rfl
  rw [Json.asTexts, texts, mapM_asText]
  exact congrArg Except.ok m.ofList_entries

end Json

namespace Json.SameFields

variable {fields fields' : List (String × Json)} {key : String} (same : SameFields fields fields')

include same

theorem read_text {s : String} (present : field? fields' key = some (.text s)) :
    fieldWith? fields key asText = .ok (some s) :=
  same.fieldWith?_of_some present fun _ own => by rw [own.eq_text]; rfl

theorem read_text? {text : Option String} (present : field? fields' key = text.map .text) :
    fieldWith? fields key asText? = .ok (text.map some) := by
  cases text with
  | none => exact same.fieldWith?_of_none present
  | some s => exact same.fieldWith?_of_some present fun _ own => by rw [own.eq_text]; rfl

theorem read_texts {m : TextMap String}
    (present : field? fields' key = if m.isEmpty then none else some m.toJson) :
    ∃ texts, fieldWith? fields key asTexts = .ok texts ∧ texts.getD .empty = m := by
  cases empty : m.isEmpty with
  | true =>
    rw [if_pos empty] at present
    exact ⟨none, same.fieldWith?_of_none present, TextMap.ext (List.isEmpty_iff.1 empty).symm⟩
  | false =>
    rw [if_neg (by simp [empty])] at present
    exact ⟨some m, same.fieldWith?_of_some present fun _ own => own.asTexts, rfl⟩

end Json.SameFields

namespace Element

theorem field?_textField (key key' : String) (text : Option String) :
    field? (textField key text) key' = if key = key' then text.map .text else none := by
  cases text with
  | none => simp [textField, field?]
  | some t => exact field?_singleton _ _

/-- The fields of the record of an element: its name, and what else it has. -/
structure Recorded (e : Element) (fields : List (String × Json)) : Prop where
  name : field? fields "name" = some (.text e.name)
  uri : field? fields "namespace" = e.uri.map .text
  attributes : field? fields "attributes" =
    if e.attributes.isEmpty then none else some e.attributes.toJson
  children : field? fields "children" =
    if e.children = [] then none else some (.array (e.children.map toJson))
  text : field? fields "text" = e.text.map .text
  others : ∀ key, key ∉ ["name", "namespace", "attributes", "children", "text"] →
    field? fields key = none

theorem toJsonAll_eq_map (es : List Element) : toJsonAll es = es.map toJson := by
  induction es with
  | nil => rfl
  | cons e rest ih => rw [toJsonAll, List.map_cons, ih]

def childrenField (children : List Element) : List (String × Json) :=
  if children = [] then [] else [("children", .array (children.map toJson))]

theorem toJson_eq (e : Element) :
    e.toJson = .object (("name", .text e.name) :: textField "namespace" e.uri ++
      e.attributes.toField "attributes" ++ childrenField e.children ++ textField "text" e.text) := by
  obtain ⟨name, uri, attributes, children, text⟩ := e
  cases children with
  | nil => rfl
  | cons first rest => rw [toJson, toJsonAll_eq_map]; rfl

theorem field?_childrenField (children : List Element) (key : String) :
    field? (childrenField children) key =
      if "children" = key then
        if children = [] then none else some (.array (children.map toJson))
      else none := by
  rw [childrenField]
  split
  · simp [field?]
  · exact field?_singleton _ _

theorem recorded_toJson (e : Element) : ∃ fields, e.toJson = .object fields ∧ e.Recorded fields := by
  refine ⟨_, e.toJson_eq, ?_⟩
  constructor
  case others =>
    intro key other
    simp only [List.mem_cons, List.not_mem_nil, or_false, not_or] at other
    obtain ⟨name, uri, attributes, children, text⟩ := other
    simp only [field?_append, field?_cons, field?_textField, TextMap.field?_toField,
      field?_childrenField, if_neg (Ne.symm name), if_neg (Ne.symm uri), if_neg (Ne.symm attributes),
      if_neg (Ne.symm children), if_neg (Ne.symm text), Option.or_none]
  all_goals
    simp only [field?_append, field?_cons, field?_textField, TextMap.field?_toField,
      field?_childrenField, String.reduceEq, if_true, if_false, Option.none_or, Option.or_none]

theorem ofJsonField_eq (fields : List (String × Json)) :
    ofJsonField fields = fieldWith? fields "children" ofJsonItems := by
  induction fields with
  | nil => rw [ofJsonField]; rfl
  | cons field rest ih =>
    obtain ⟨key, value⟩ := field
    rw [ofJsonField, any_eq_isSome, fieldWith?, field?_cons, ih, fieldWith?]
    cases field? rest "children" with
    | some later => rfl
    | none =>
      rw [Option.isSome_none, if_neg Bool.false_ne_true, Option.none_or]
      split
      · rw [Option.mapM_some]
      · rfl

mutual

theorem ofJson_of_same : ∀ (e : Element) (j : Json), j.Same e.toJson → ofJson j = .ok e
  | ⟨name, uri, attributes, children, text⟩, j, same => by
    obtain ⟨fields', object, recorded⟩ := recorded_toJson ⟨name, uri, attributes, children, text⟩
    rw [object] at same
    obtain ⟨fields, rfl, alike⟩ := same.exists_sameFields
    have nested : ∃ read, ofJsonField fields = .ok read ∧ read.getD [] = children := by
      rw [ofJsonField_eq]
      have present := recorded.children
      by_cases none : children = []
      · rw [if_pos none] at present
        exact ⟨_, alike.fieldWith?_of_none present, none.symm⟩
      · rw [if_neg none] at present
        refine ⟨some children, alike.fieldWith?_of_some present fun value own => ?_, rfl⟩
        obtain ⟨items, rfl, records⟩ := own.exists_array
        exact ofJsonAll_of_same children items records
    obtain ⟨texts, readTexts, restored⟩ := alike.read_texts recorded.attributes
    obtain ⟨read, readChildren, own⟩ := nested
    rw [ofJson, readTexts, readChildren, alike.read_text recorded.name, alike.read_text? recorded.uri,
      alike.read_text? recorded.text]
    subst restored own
    cases uri <;> cases text <;> rfl

theorem ofJsonAll_of_same : ∀ (es : List Element) (items : List Json),
    items.map ordered = (es.map toJson).map ordered → ofJsonAll items = .ok es
  | [], items, same => by
    rw [List.map_nil, List.map_nil, List.map_eq_nil_iff] at same
    rw [same]
    rfl
  | e :: es, items, same => by
    rw [List.map_cons, List.map_cons] at same
    obtain ⟨item, rest, rfl, first, others⟩ := List.map_eq_cons_iff.1 same
    rw [ofJsonAll, ofJson_of_same e item first, ofJsonAll_of_same es rest others]
    rfl

end

end Element

theorem ErrorType.ofJson_text (t : ErrorType) : ErrorType.ofJson (.text t.text) = .ok t := by
  cases t <;> rfl

theorem ErrorTag.ofJson_text (t : ErrorTag) : ErrorTag.ofJson (.text t.text) = .ok t := by
  cases t <;> rfl

theorem Severity.ofJson_text (s : Severity) : Severity.ofJson (.text s.text) = .ok s := by
  cases s <;> rfl

theorem Document.ofJson_of_same {d : Document} {j : Json} (same : j.Same d.toJson) :
    Document.ofJson j = .ok d := by
  obtain ⟨fields, rfl, alike⟩ := same.exists_sameFields
  have root : fieldWith? fields "root" Element.ofJson = .ok (some d.root) :=
    alike.fieldWith?_of_some rfl d.root.ofJson_of_same
  rw [Document.ofJson, root]
  rfl

namespace RpcError

/-- The fields of the record of an error: its message, its classification and its entries. -/
structure Recorded (e : RpcError) (fields : List (String × Json)) : Prop where
  message : field? fields "message" = some (.text e.message)
  type : field? fields "error_type" = some (.text e.type.text)
  tag : field? fields "error_tag" = some (.text e.tag.text)
  severity : field? fields "severity" = some (.text e.severity.text)
  info : field? fields "info" = if e.info.isEmpty then none else some e.info.toJson
  others : ∀ key, key ∉ ["message", "error_type", "error_tag", "severity", "info"] →
    field? fields key = none

theorem recorded_toJson (e : RpcError) :
    ∃ fields, e.toJson = .object fields ∧ e.Recorded fields := by
  refine ⟨_, rfl, ?_⟩
  constructor
  case others =>
    intro key other
    simp only [List.mem_cons, List.not_mem_nil, or_false, not_or] at other
    obtain ⟨message, type, tag, severity, info⟩ := other
    simp only [List.cons_append, List.nil_append, field?_cons, TextMap.field?_toField,
      if_neg (Ne.symm message), if_neg (Ne.symm type), if_neg (Ne.symm tag),
      if_neg (Ne.symm severity), if_neg (Ne.symm info), Option.or_none]
  all_goals
    simp only [List.cons_append, List.nil_append, field?_cons, TextMap.field?_toField,
      String.reduceEq, if_true, if_false, Option.none_or, Option.or_none]

theorem ofJson_of_same {e : RpcError} {j : Json} (same : j.Same e.toJson) :
    RpcError.ofJson j = .ok e := by
  obtain ⟨written, object, recorded⟩ := e.recorded_toJson
  rw [object] at same
  obtain ⟨fields, rfl, alike⟩ := same.exists_sameFields
  have type : fieldWith? fields "error_type" ErrorType.ofJson = .ok (some e.type) :=
    alike.fieldWith?_of_some recorded.type fun _ own => own.eq_text ▸ e.type.ofJson_text
  have tag : fieldWith? fields "error_tag" ErrorTag.ofJson = .ok (some e.tag) :=
    alike.fieldWith?_of_some recorded.tag fun _ own => own.eq_text ▸ e.tag.ofJson_text
  have severity : fieldWith? fields "severity" Severity.ofJson = .ok (some e.severity) :=
    alike.fieldWith?_of_some recorded.severity fun _ own => own.eq_text ▸ e.severity.ofJson_text
  obtain ⟨entries, readInfo, restored⟩ := alike.read_texts recorded.info
  rw [RpcError.ofJson, tag, type, readInfo, alike.read_text recorded.message, severity]
  exact congrArg (fun info => Except.ok { e with info }) restored

end RpcError

/-- What is written is read back, in whatever order the fields stand, so that no two values are
written alike. -/
structure Json.RoundTrips {α : Type} (write : α → Json) (read : Json → Except DecodeError α) :
    Prop where
  restores : ∀ a, read (write a) = .ok a
  restores_any_order : ∀ a j, j.Same (write a) → read j = .ok a
  injective : ∀ a b, (write a).Same (write b) → a = b

theorem Json.RoundTrips.of_same {α : Type} {write : α → Json} {read : Json → Except DecodeError α}
    (restores : ∀ a j, j.Same (write a) → read j = .ok a) : RoundTrips write read where
  restores a := restores a _ rfl
  restores_any_order := restores
  injective a b same := by
    have other : read (write a) = .ok b := restores b _ same
    rw [restores a _ rfl] at other
    exact Except.ok.inj other

/-- Elements of any depth, messages and errors are read back from their records, and a record has
a field for each part that is there, be it an empty text, and none for a part that is absent. -/
theorem records_round_trip :
    RoundTrips Element.toJson Element.ofJson ∧ RoundTrips Document.toJson Document.ofJson ∧
      RoundTrips RpcError.toJson RpcError.ofJson ∧
      (∀ e : Element, ∃ fields, e.toJson = .object fields ∧ e.Recorded fields) ∧
      (∀ d : Document, d.toJson = .object [("root", d.root.toJson)]) ∧
      ∀ e : RpcError, ∃ fields, e.toJson = .object fields ∧ e.Recorded fields :=
  ⟨.of_same Element.ofJson_of_same, .of_same fun _ _ => Document.ofJson_of_same,
    .of_same fun _ _ => RpcError.ofJson_of_same, Element.recorded_toJson, fun _ => rfl,
    RpcError.recorded_toJson⟩

example : Element.toJson ⟨"close", some "", .empty, [], none⟩ =
    .object [("name", .text "close"), ("namespace", .text "")] := rfl

end RpcRouting
