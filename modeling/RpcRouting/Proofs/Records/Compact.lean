import RpcRouting.Proofs.Records.Lexing
import RpcRouting.Proofs.Records.RoundTrip
import RpcRouting.Session.Alignment
import RpcRouting.Session.Id
/-!
Compact texts are read back. The parser makes of the tokens of a value that value, with the fields
of its objects in the order of their keys. So whatever is written as a record is known from the text
of the record.
-/

set_option autoImplicit false
set_option relaxedAutoImplicit false

namespace RpcRouting

namespace Json

/-- A value may begin. -/
def ParseMode.AwaitsValue (mode : ParseMode) : Prop := mode = .value ∨ mode = .firstItem

/-- The name of a field may begin. -/
def ParseMode.AwaitsKey (mode : ParseMode) : Prop := mode = .key ∨ mode = .firstKey

namespace Parser

variable {mode : ParseMode}

theorem step?_of_awaitsValue (awaits : mode.AwaitsValue) (stack : List Frame) {t : Token}
    (other : t ≠ .mark ']') : step? ⟨stack, mode⟩ t = begin? stack t := by
  obtain rfl | rfl := awaits
  · rfl
  · simp only [step?]

theorem foldlM_name (awaits : mode.AwaitsKey) (stack : List Frame) (done : List (String × Json))
    (key : String) (ts : List Token) :
    (.text key :: .mark ':' :: ts).foldlM step? ⟨.fields done :: stack, mode⟩ =
      ts.foldlM step? ⟨.field done key :: stack, .value⟩ := by
  obtain rfl | rfl := awaits <;> rfl

theorem foldlM_single (awaits : mode.AwaitsValue) (stack : List Frame) {t : Token} {j : Json}
    (begun : begin? stack t = some ⟨stack, .complete j⟩) (other : t ≠ .mark ']') :
    [t].foldlM step? ⟨stack, mode⟩ = some ⟨stack, .complete j⟩ := by
  rw [foldlM_cons_of_some ((step?_of_awaitsValue awaits stack other).trans begun)]
  rfl

end Parser

mutual

theorem foldlM_tokens : ∀ (j : Json) {mode : ParseMode}, mode.AwaitsValue → ∀ stack : List Frame,
    j.tokens.foldlM Parser.step? ⟨stack, mode⟩ = some ⟨stack, .complete j.ordered⟩
  | null, _, awaits, stack | boolean _, _, awaits, stack | integer _, _, awaits, stack
  | floating _, _, awaits, stack | text _, _, awaits, stack =>
    Parser.foldlM_single awaits stack rfl (by simp)
  | array items, _, awaits, stack => by
    rw [tokens, List.cons_append, List.foldlM_cons,
      Parser.step?_of_awaitsValue awaits stack (by simp)]
    by_cases none : items = []
    · subst none
      rfl
    · exact foldlM_itemsTokens items none (.inr rfl) stack []
  | object fields, _, awaits, stack => by
    rw [tokens, List.cons_append, List.foldlM_cons,
      Parser.step?_of_awaitsValue awaits stack (by simp)]
    by_cases none : fields = []
    · subst none
      rfl
    · exact foldlM_fieldsTokens fields none (.inr rfl) stack []

theorem foldlM_itemsTokens : ∀ items : List Json, items ≠ [] → ∀ {mode : ParseMode},
    mode.AwaitsValue → ∀ (stack : List Frame) (done : List Json),
    (itemsTokens items ++ [Token.mark ']']).foldlM Parser.step? ⟨.items done :: stack, mode⟩ =
      some ⟨stack, .complete (.array (done.reverse ++ orderedAll items))⟩
  | [], full, _, _, _, _ => absurd rfl full
  | [item], _, _, awaits, stack, done => by
    have closed : Parser.step? ⟨.items done :: stack, .complete item.ordered⟩ (.mark ']') =
        some ⟨stack, .complete (.array (item.ordered :: done).reverse)⟩ := rfl
    rw [itemsTokens, foldlM_append_of_some (foldlM_tokens item awaits _),
      foldlM_cons_of_some closed, List.reverse_cons]
    rfl
  | item :: next :: rest, _, _, awaits, stack, done => by
    have comma : Parser.step? ⟨.items done :: stack, .complete item.ordered⟩ (.mark ',') =
        some ⟨.items (item.ordered :: done) :: stack, .value⟩ := rfl
    have others := foldlM_itemsTokens (next :: rest) (List.cons_ne_nil _ _) (.inl rfl) stack
      (item.ordered :: done)
    rw [List.reverse_cons, List.append_assoc] at others
    rw [itemsTokens, List.append_assoc, foldlM_append_of_some (foldlM_tokens item awaits _),
      List.cons_append, foldlM_cons_of_some comma]
    · exact others
    · exact List.cons_ne_nil _ _

theorem foldlM_fieldsTokens : ∀ fields : List (String × Json), fields ≠ [] →
    ∀ {mode : ParseMode}, mode.AwaitsKey → ∀ (stack : List Frame) (done : List (String × Json)),
    (fieldsTokens fields ++ [Token.mark '\x7d']).foldlM Parser.step?
        ⟨.fields done :: stack, mode⟩ =
      some ⟨stack, .complete
        (.object (TextMap.ofList (done.reverse ++ orderedFields fields)).entries)⟩
  | [], full, _, _, _, _ => absurd rfl full
  | [(key, value)], _, _, awaits, stack, done => by
    have closed : Parser.step? ⟨.field done key :: stack, .complete value.ordered⟩
        (.mark '\x7d') = some ⟨stack, .complete (.object
          (TextMap.ofList ((key, value.ordered) :: done).reverse).entries)⟩ := rfl
    rw [fieldsTokens, List.cons_append, List.cons_append, Parser.foldlM_name awaits,
      foldlM_append_of_some (foldlM_tokens value (.inl rfl) _), foldlM_cons_of_some closed,
      List.reverse_cons]
    rfl
  | (key, value) :: next :: rest, _, _, awaits, stack, done => by
    have comma : Parser.step? ⟨.field done key :: stack, .complete value.ordered⟩ (.mark ',') =
        some ⟨.fields ((key, value.ordered) :: done) :: stack, .key⟩ := rfl
    have others := foldlM_fieldsTokens (next :: rest) (List.cons_ne_nil _ _) (.inl rfl) stack
      ((key, value.ordered) :: done)
    rw [List.reverse_cons, List.append_assoc] at others
    rw [fieldsTokens, List.cons_append, List.cons_append, List.cons_append, List.cons_append,
      Parser.foldlM_name awaits, List.append_assoc,
      foldlM_append_of_some (foldlM_tokens value (.inl rfl) _), List.cons_append,
      foldlM_cons_of_some comma]
    · exact others
    · exact List.cons_ne_nil _ _

end

theorem ofText?_compact {j : Json} (whole : j.Whole) : ofText? j.compact = some j.ordered := by
  have begun : ParseMode.value.AwaitsValue := .inl rfl
  have parsed := foldlM_tokens j begun []
  simp [ofText?, compact, tokens?_chars whole, parsed]

mutual

theorem ordered_ordered : ∀ j : Json, j.ordered.ordered = j.ordered
  | null | boolean _ | integer _ | floating _ | text _ => rfl
  | array items => by
    rw [ordered, ordered, orderedAll_orderedAll items]
  | object fields => by
    have again : orderedFields (TextMap.ofList (orderedFields fields)).entries =
        (TextMap.ofList (orderedFields fields)).entries := by
      rw [orderedFields_eq_map (TextMap.ofList _).entries, ← TextMap.entries_ofList_map,
        ← orderedFields_eq_map, orderedFields_orderedFields fields]
    rw [ordered, ordered, again, TextMap.ofList_entries]

theorem orderedAll_orderedAll : ∀ items : List Json,
    orderedAll (orderedAll items) = orderedAll items
  | [] => rfl
  | item :: rest => by
    rw [orderedAll, orderedAll, ordered_ordered item, orderedAll_orderedAll rest]

theorem orderedFields_orderedFields : ∀ fields : List (String × Json),
    orderedFields (orderedFields fields) = orderedFields fields
  | [] => rfl
  | (key, value) :: rest => by
    rw [orderedFields, orderedFields, ordered_ordered value, orderedFields_orderedFields rest]

end

theorem same_ordered (j : Json) : j.ordered.Same j := j.ordered_ordered

theorem wholeAll_iff {items : List Json} : WholeAll items ↔ ∀ item ∈ items, item.Whole := by
  induction items with
  | nil => simp [WholeAll]
  | cons item rest ih => simp [WholeAll, ih]

theorem wholeFields_append {fields fields' : List (String × Json)} :
    WholeFields (fields ++ fields') ↔ WholeFields fields ∧ WholeFields fields' := by
  induction fields with
  | nil => simp [WholeFields]
  | cons f rest ih => simp [WholeFields, ih, and_assoc]

theorem wholeFields_texts (entries : List (String × String)) :
    WholeFields (entries.map fun e => (e.1, .text e.2)) := by
  induction entries with
  | nil => trivial
  | cons e rest ih => exact ⟨trivial, ih⟩

end Json

theorem TextMap.whole_toField (key : String) (m : TextMap String) :
    Json.WholeFields (m.toField key) := by
  rw [toField]
  split
  · trivial
  · exact ⟨Json.wholeFields_texts m.entries, trivial⟩

namespace Element

theorem whole_textField (key : String) (text : Option String) :
    Json.WholeFields (textField key text) := by
  cases text with
  | none => trivial
  | some t => exact ⟨trivial, trivial⟩

mutual

theorem whole_toJson : ∀ e : Element, e.toJson.Whole
  | ⟨name, uri, attributes, children, text⟩ => by
    have nested : Json.WholeFields (childrenField children) := by
      rw [childrenField]
      split
      · trivial
      · exact ⟨Json.wholeAll_iff.2 (whole_of_mem_toJson children), trivial⟩
    rw [toJson_eq, Json.Whole]
    simp only [Json.wholeFields_append]
    exact ⟨⟨⟨⟨trivial, whole_textField _ uri⟩, attributes.whole_toField _⟩, nested⟩,
      whole_textField _ text⟩

theorem whole_of_mem_toJson : ∀ (es : List Element), ∀ j ∈ es.map toJson, j.Whole
  | [], _, member => by cases member
  | e :: rest, j, member => by
    obtain rfl | later := List.mem_cons.1 member
    · exact whole_toJson e
    · exact whole_of_mem_toJson rest j later

end

end Element

theorem RpcError.whole_toJson (e : RpcError) : e.toJson.Whole :=
  Json.wholeFields_append.2 ⟨⟨trivial, trivial, trivial, trivial, trivial⟩, e.info.whole_toField _⟩

theorem SessionId.value_lt (id : SessionId) : id.value.toNat < 0x100000000 := id.value.toNat_lt_size

theorem SessionId.whole_toJson (id : SessionId) : id.toJson.Whole := by
  have fits := id.value_lt
  constructor <;> omega

theorem SessionId.ofJson_of_same {id : SessionId} {j : Json} (same : j.Same id.toJson) :
    SessionId.ofJson j = .ok id := by
  have written : j = .integer id.value.toNat := by
    cases j <;> simp_all [Json.Same, Json.ordered, SessionId.toJson]
  have inside : 0 ≤ (id.value.toNat : Int) ∧ (id.value.toNat : Int) < 0x100000000 := by
    have fits := id.value_lt
    omega
  have back : (id.value.toNat : Int).toNat.toUInt32 = id.value := UInt32.ofNat_toNat
  rw [written, SessionId.ofJson, if_pos inside, back]

theorem ExiParameters.ofJson_of_same {p : ExiParameters} {j : Json} (same : j.Same p.toJson) :
    ExiParameters.ofJson j = .ok p := by
  obtain ⟨fields, rfl, alike⟩ := same.exists_sameFields
  have text : Alignment.ofJson (.text p.alignment.text) = .ok p.alignment := by
    cases p.alignment <;> rfl
  have alignment : Json.fieldWith? fields "alignment" Alignment.ofJson = .ok (some p.alignment) :=
    alike.fieldWith?_of_some rfl fun _ own => own.eq_text ▸ text
  rw [ExiParameters.ofJson, alignment]
  rfl

/-- What is written as a record is known from the compact text of the record. -/
structure Json.TextRoundTrips {α : Type} (write : α → Json)
    (read : Json → Except DecodeError α) : Prop where
  restores : ∀ a, ∃ j, ofText? (write a).compact = some j ∧ read j = .ok a
  injective : ∀ a b, (write a).compact = (write b).compact → a = b

theorem Json.TextRoundTrips.of_same {α : Type} {write : α → Json}
    {read : Json → Except DecodeError α} (whole : ∀ a, (write a).Whole)
    (restores : ∀ a j, j.Same (write a) → read j = .ok a) : TextRoundTrips write read := by
  have own : ∀ a, ofText? (write a).compact = some (write a).ordered ∧
      read (write a).ordered = .ok a :=
    fun a => ⟨ofText?_compact (whole a), restores a _ (write a).same_ordered⟩
  refine ⟨fun a => ⟨_, own a⟩, ?_⟩
  intro a b same
  have texts : some (write a).ordered = some (write b).ordered := by
    rw [← (own a).1, ← (own b).1, same]
  have other : read (write a).ordered = .ok b := by
    rw [Option.some.inj texts]
    exact (own b).2
  rw [(own a).2] at other
  exact Except.ok.inj other

/-- All that the program writes as a record is read back from the compact text. -/
theorem records_text_round_trip :
    Json.TextRoundTrips Element.toJson Element.ofJson ∧
      Json.TextRoundTrips Document.toJson Document.ofJson ∧
      Json.TextRoundTrips RpcError.toJson RpcError.ofJson ∧
      Json.TextRoundTrips SessionId.toJson SessionId.ofJson ∧
      Json.TextRoundTrips ExiParameters.toJson ExiParameters.ofJson :=
  ⟨.of_same Element.whole_toJson Element.ofJson_of_same,
    .of_same (fun d => ⟨d.root.whole_toJson, trivial⟩) fun _ _ => Document.ofJson_of_same,
    .of_same RpcError.whole_toJson fun _ _ => RpcError.ofJson_of_same,
    .of_same SessionId.whole_toJson fun _ _ => SessionId.ofJson_of_same,
    .of_same (fun _ => ⟨trivial, trivial⟩) fun _ _ => ExiParameters.ofJson_of_same⟩

end RpcRouting
