import RpcRouting.Proofs.Records.RoundTrip
import RpcRouting.Proofs.Rendering.Normal
/-!
Elements and errors do not tell how their maps were filled in. Attributes that are set one after
another come to the same element if every key is given the same value last, and so do the diagnostic
entries of an error. Texts and records show each key once, in order, with that value. A reply has
the attributes of its request, so it does not tell either.
-/

set_option autoImplicit false
set_option relaxedAutoImplicit false

namespace RpcRouting

open TextMap

variable {calls calls' : List (String × String)}

section Filling

variable {α : Type} {set : α → String → String → α} {map : α → TextMap String}
  {text : α → String} {record : α → Json} {Shows : α → List (String × String) → Prop} {a : α}

def setAll (set : α → String → String → α) (a : α) (calls : List (String × String)) : α :=
  calls.foldl (fun a call => set a call.1 call.2) a

/-- Calls that set entries come to the same as others, and the map is shown with each key once, in
order, under the value that it was given last or else had before. -/
structure FilledAlike (set : α → String → String → α) (map : α → TextMap String)
    (text : α → String) (record : α → Json) (Shows : α → List (String × String) → Prop) (a : α)
    (calls calls' : List (String × String)) : Prop where
  same : setAll set a calls = setAll set a calls'
  text : text (setAll set a calls) = text (setAll set a calls')
  record : record (setAll set a calls) = record (setAll set a calls')
  shown : ∃ entries, Shows (setAll set a calls) entries ∧
    Lists entries fun key => (lastValue? calls key).or ((map a).get? key)

theorem setAll_eq {replace : TextMap String → α} (own : replace (map a) = a)
    (step : ∀ m key value, set (replace m) key value = replace (m.insert key value))
    (calls : List (String × String)) :
    setAll set a calls = replace ((map a).insertAll calls) := by
  have hom : calls.foldl (fun a call => set a call.1 call.2) (replace (map a)) =
      replace ((map a).insertAll calls) := by
    apply List.foldl_hom replace
    intro m call
    exact step m call.1 call.2
  rwa [own] at hom

theorem FilledAlike.of_lastValues (replace : TextMap String → α) (own : replace (map a) = a)
    (step : ∀ m key value, set (replace m) key value = replace (m.insert key value))
    (map_replace : ∀ m, map (replace m) = m) (shows_entries : ∀ a, Shows a (map a).entries)
    (last : ∀ key, lastValue? calls key = lastValue? calls' key) :
    FilledAlike set map text record Shows a calls calls' := by
  have filled := setAll_eq own step
  have same : setAll set a calls = setAll set a calls' := by
    have maps : (map a).insertAll calls = (map a).insertAll calls' := by
      apply (insertAll_eq_iff (map a) calls calls').2
      intro key
      rw [last key]
    rw [filled, filled, maps]
  constructor
  case same => exact same
  case text => rw [same]
  case record => rw [same]
  case shown =>
    have found : (map (setAll set a calls)).get? =
        fun key => (lastValue? calls key).or ((map a).get? key) := by
      funext key
      rw [filled, map_replace, get?_insertAll]
    refine ⟨_, shows_entries _, ?_⟩
    rw [← found]
    exact lists_entries _

end Filling

def entriesField (key : String) (entries : List (String × String)) : List (String × Json) :=
  if entries = [] then [] else [(key, .object (entries.map fun e => (e.1, .text e.2)))]

theorem TextMap.toField_eq (key : String) (m : TextMap String) :
    m.toField key = entriesField key m.entries := by
  rw [toField, entriesField, toJson, isEmpty]
  simp only [List.isEmpty_iff]

/-- The attributes that an element has and shows: in its text they stand behind its name and the
namespace that it declares, and in its record they are one object. -/
structure Element.Shows (e : Element) (shown : List (String × String)) : Prop where
  entries : e.attributes.entries = shown
  chars : ∀ inherited, e.chars inherited =
    '<' :: e.name.toList ++ declarationChars inherited e.uri ++
      (shown.flatMap fun a => attributeChars a.1 a.2) ++
      bodyChars (inForce inherited e.uri) e.name e.children e.text
  record : e.toJson = .object (("name", .text e.name) :: textField "namespace" e.uri ++
    entriesField "attributes" shown ++ childrenField e.children ++ textField "text" e.text)

theorem Element.shows_entries (e : Element) : e.Shows e.attributes.entries where
  entries := rfl
  chars inherited := by
    obtain ⟨name, uri, attributes, children, text⟩ := e
    rw [chars_eq, openingChars]
  record := by
    rw [toJson_eq, toField_eq]

/-- The diagnostic entries that an error has and that its record shows as one object. -/
structure RpcError.Shows (e : RpcError) (shown : List (String × String)) : Prop where
  entries : e.info.entries = shown
  record : e.toJson = .object ([("message", .text e.message), ("error_type", .text e.type.text),
    ("error_tag", .text e.tag.text), ("severity", .text e.severity.text)] ++
      entriesField "info" shown)

theorem RpcError.shows_entries (e : RpcError) : e.Shows e.info.entries where
  entries := rfl
  record := by
    rw [toJson, toField_eq]

theorem Element.filledAlike (e : Element)
    (last : ∀ key, lastValue? calls key = lastValue? calls' key) :
    FilledAlike withAttribute attributes render toJson Shows e calls calls' := by
  -- An element has elements in it, so it is its parts put together only once it is taken apart.
  obtain ⟨name, uri, attributes, children, text⟩ := e
  apply FilledAlike.of_lastValues fun m => ⟨name, uri, m, children, text⟩
  case own => rfl
  case step => exact fun m key value => rfl
  case map_replace => exact fun m => rfl
  case shows_entries => exact shows_entries
  case last => exact last

theorem RpcError.filledAlike (e : RpcError)
    (last : ∀ key, lastValue? calls key = lastValue? calls' key) :
    FilledAlike withInfo info describe toJson Shows e calls calls' := by
  apply FilledAlike.of_lastValues fun m => { e with info := m }
  case own => rfl
  case step => exact fun m key value => rfl
  case map_replace => exact fun m => rfl
  case shows_entries => exact shows_entries
  case last => exact last

/-- Calls that give every key the same value last cannot be told from each other by an element, by
an error or by the reply to a request. -/
theorem filledAlike_of_lastValues
    (last : ∀ key, lastValue? calls key = lastValue? calls' key) :
    (∀ e : Element, FilledAlike Element.withAttribute Element.attributes Element.render
      Element.toJson Element.Shows e calls calls') ∧
    (∀ e : RpcError, FilledAlike RpcError.withInfo RpcError.info RpcError.describe
      RpcError.toJson RpcError.Shows e calls calls') ∧
    ∀ e body : Element,
      ((Document.mk (setAll Element.withAttribute e calls)).replyTo body).root.attributes =
        (setAll Element.withAttribute e calls).attributes ∧
      (Document.mk (setAll Element.withAttribute e calls)).replyTo body =
        (Document.mk (setAll Element.withAttribute e calls')).replyTo body := by
  refine ⟨fun e => e.filledAlike last, fun e => e.filledAlike last, fun e body => ⟨rfl, ?_⟩⟩
  rw [(e.filledAlike last).same]

/-- Calls that give one key a value twice; the last values are those of `resolvedCalls`. -/
def hesitantCalls : List (String × String) := [("ü", "1"), ("a", "2"), ("ü", "3")]

def resolvedCalls : List (String × String) := [("a", "0"), ("ü", "3"), ("a", "2")]

theorem filledAlike_of_hesitant :
    (∀ key, lastValue? hesitantCalls key = lastValue? resolvedCalls key) ∧
      FilledAlike Element.withAttribute Element.attributes Element.render Element.toJson
        Element.Shows (.named "x") hesitantCalls resolvedCalls ∧
      (setAll Element.withAttribute (.named "x") hesitantCalls).attributes.entries =
        [("a", "2"), ("ü", "3")] := by
  have last : ∀ key, lastValue? hesitantCalls key = lastValue? resolvedCalls key := by
    intro key
    by_cases first : "a" = key
    · rw [← first]
      decide
    · by_cases second : "ü" = key <;> simp [hesitantCalls, resolvedCalls, lastValue?, first, second]
  exact ⟨last, (filledAlike_of_lastValues last).1 (.named "x"), by decide⟩

end RpcRouting
