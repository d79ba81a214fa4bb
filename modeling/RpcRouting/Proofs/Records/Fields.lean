import RpcRouting.Json.Decode
import RpcRouting.Proofs.Records.Entries
/-!
Values up to the order of the fields of their objects. Two objects are the same if every key leads
to the same value in both, of two fields with one key the later one; what is read out of a field of
one of them is read out of the other.
-/

set_option autoImplicit false
set_option relaxedAutoImplicit false

namespace RpcRouting

namespace Json

variable {fields fields' : List (String × Json)} {key : String}

theorem field?_append (fields fields' : List (String × Json)) (key : String) :
    field? (fields ++ fields') key = (field? fields' key).or (field? fields key) := by
  rw [field?, field?, field?, List.reverse_append, List.find?_append, Option.map_or]

theorem field?_singleton (field : String × Json) (key : String) :
    field? [field] key = if field.1 = key then some field.2 else none := by
  by_cases same : field.1 = key <;> simp [field?, same]

theorem field?_cons (field : String × Json) (rest : List (String × Json)) (key : String) :
    field? (field :: rest) key =
      (field? rest key).or (if field.1 = key then some field.2 else none) := by
  rw [← List.singleton_append, field?_append, field?_singleton]

theorem any_eq_isSome (fields : List (String × Json)) (key : String) :
    fields.any (fun f => f.1 = key) = (field? fields key).isSome := by
  rw [field?, Option.isSome_map, List.isSome_find?, List.any_reverse]

theorem get?_ofList (fields : List (String × Json)) (key : String) :
    (TextMap.ofList fields).get? key = field? fields key :=
  TextMap.get?_ofList fields key

mutual

/-- The value with the fields of all objects in the order of their keys. -/
def ordered : Json → Json
  | array items => array (orderedAll items)
  | object fields => object (TextMap.ofList (orderedFields fields)).entries
  | other => other

def orderedAll : List Json → List Json
  | [] => []
  | item :: rest => item.ordered :: orderedAll rest

def orderedFields : List (String × Json) → List (String × Json)
  | [] => []
  | (key, value) :: rest => (key, value.ordered) :: orderedFields rest

end

/-- Two values differ in nothing but the order of the fields of objects. -/
def Same (j j' : Json) : Prop := j.ordered = j'.ordered

theorem orderedAll_eq_map (items : List Json) : orderedAll items = items.map ordered := by
  induction items with
  | nil => rfl
  | cons item rest ih => rw [orderedAll, List.map_cons, ih]

theorem orderedFields_eq_map (fields : List (String × Json)) :
    orderedFields fields = fields.map fun f => (f.1, f.2.ordered) := by
  induction fields with
  | nil => rfl
  | cons field rest ih => rw [orderedFields, List.map_cons, ih]

theorem ordered_eq_text_iff {j : Json} {s : String} : j.ordered = text s ↔ j = text s := by
  cases j <;> simp [ordered]

namespace Same

variable {j : Json}

theorem eq_text {s : String} (same : j.Same (text s)) : j = text s := ordered_eq_text_iff.1 same

theorem exists_array {items : List Json} (same : j.Same (array items)) :
    ∃ items', j = array items' ∧ items'.map ordered = items.map ordered := by
  cases j with
  | array items' =>
    rw [Same, ordered, ordered, orderedAll_eq_map, orderedAll_eq_map] at same
    exact ⟨items', rfl, array.inj same⟩
  | _ => cases same

theorem exists_object (same : j.Same (object fields)) :
    ∃ fields', j = object fields' ∧
      (TextMap.ofList (fields'.map fun f => (f.1, f.2.ordered))).entries =
        (TextMap.ofList (fields.map fun f => (f.1, f.2.ordered))).entries := by
  cases j with
  | object fields' =>
    rw [Same, ordered, ordered, orderedFields_eq_map, orderedFields_eq_map] at same
    exact ⟨fields', rfl, object.inj same⟩
  | _ => cases same

end Same

def SameFields (fields fields' : List (String × Json)) : Prop :=
  ∀ key, (field? fields key).map ordered = (field? fields' key).map ordered

theorem field?_ordered (fields : List (String × Json)) (key : String) :
    field? (fields.map fun f => (f.1, f.2.ordered)) key = (field? fields key).map ordered := by
  induction fields using List.reverseRecOn with
  | nil => rfl
  | append_singleton before field ih =>
    rw [List.map_append, List.map_singleton, field?_append, field?_append, ih, field?_singleton,
      field?_singleton, Option.map_or]
    split <;> rfl

theorem Same.exists_sameFields {j : Json} (same : j.Same (object fields)) :
    ∃ fields', j = object fields' ∧ SameFields fields' fields := by
  obtain ⟨fields', rfl, entries⟩ := same.exists_object
  refine ⟨fields', rfl, fun key => ?_⟩
  rw [← field?_ordered, ← field?_ordered, ← get?_ofList, ← get?_ofList, TextMap.ext entries]

namespace SameFields

variable (same : SameFields fields fields')

include same

theorem field?_eq_none (absent : field? fields' key = none) : field? fields key = none := by
  have ordered := same key
  rw [absent] at ordered
  exact Option.map_eq_none_iff.1 ordered

theorem exists_field? {value' : Json} (present : field? fields' key = some value') :
    ∃ value, field? fields key = some value ∧ value.Same value' := by
  have ordered := same key
  rw [present, Option.map_some] at ordered
  exact Option.map_eq_some_iff.1 ordered

variable {α : Type} {read : Json → Except DecodeError α}

theorem fieldWith?_of_none (absent : field? fields' key = none) :
    fieldWith? fields key read = .ok none := by
  rw [fieldWith?, same.field?_eq_none absent]
  rfl

theorem fieldWith?_of_some {value' : Json} {a : α} (present : field? fields' key = some value')
    (reads : ∀ value : Json, value.Same value' → read value = .ok a) :
    fieldWith? fields key read = .ok (some a) := by
  obtain ⟨value, there, own⟩ := same.exists_field? present
  rw [fieldWith?, there, Option.mapM_some, reads value own]
  rfl

end SameFields

end Json

end RpcRouting
