import Mathlib.Data.List.Induction
import Mathlib.Data.List.Nodup
import RpcRouting.Proofs.Records.ByteOrder
import RpcRouting.Text.Map
/-!
Maps are canonical. What is found under each key determines the entries of a map, since they stand
in the order of their keys and no key has two of them; so it does not matter in which order entries
were put in, nor which ones were replaced later.
-/

set_option autoImplicit false
set_option relaxedAutoImplicit false

namespace RpcRouting.TextMap

variable {ν μ : Type} {value? : String → Option ν}

theorem entries_insert (m : TextMap ν) (key : String) (value : ν) :
    (m.insert key value).entries = insertEntry key value m.entries := rfl

def insertAll (m : TextMap ν) (entries : List (String × ν)) : TextMap ν :=
  entries.foldl (fun m e => m.insert e.1 e.2) m

theorem insertAll_concat (m : TextMap ν) (entries : List (String × ν)) (e : String × ν) :
    m.insertAll (entries ++ [e]) = (m.insertAll entries).insert e.1 e.2 := by
  rw [insertAll, List.foldl_append]
  rfl

theorem ofList_concat (entries : List (String × ν)) (e : String × ν) :
    ofList (entries ++ [e]) = (ofList entries).insert e.1 e.2 :=
  insertAll_concat empty entries e

theorem insertEntry_of_below {key : String} (value : ν) {entries : List (String × ν)}
    (below : ∀ e ∈ entries, e.1 < key) :
    insertEntry key value entries = entries ++ [(key, value)] := by
  induction entries with
  | nil => rfl
  | cons first rest ih =>
    have less := below first List.mem_cons_self
    have other : ¬ key = first.1 := fun same => String.lt_irrefl _ (same ▸ less)
    rw [insertEntry, if_neg (String.lt_asymm less), if_neg other,
      ih fun e member => below e (List.mem_cons_of_mem _ member)]
    rfl

theorem entries_ofList {entries : List (String × ν)}
    (ascending : entries.Pairwise fun a b => a.1 < b.1) : (ofList entries).entries = entries := by
  induction entries using List.reverseRecOn with
  | nil => rfl
  | append_singleton before e ih =>
    obtain ⟨earlier, -, below⟩ := List.pairwise_append.1 ascending
    rw [ofList_concat, entries_insert, ih earlier]
    exact insertEntry_of_below e.2 fun a member => below a member e List.mem_cons_self

theorem ofList_entries (m : TextMap ν) : ofList m.entries = m :=
  TextMap.ext (entries_ofList m.ascending)

theorem insertEntry_map (f : ν → μ) (key : String) (value : ν) (entries : List (String × ν)) :
    insertEntry key (f value) (entries.map fun e => (e.1, f e.2)) =
      (insertEntry key value entries).map fun e => (e.1, f e.2) := by
  induction entries with
  | nil => rfl
  | cons first rest ih =>
    rw [List.map_cons, insertEntry, insertEntry]
    split
    · rfl
    · split
      · rfl
      · rw [List.map_cons, ih]

theorem entries_ofList_map (f : ν → μ) (entries : List (String × ν)) :
    (ofList (entries.map fun e => (e.1, f e.2))).entries =
      (ofList entries).entries.map fun e => (e.1, f e.2) := by
  induction entries using List.reverseRecOn with
  | nil => rfl
  | append_singleton before e ih =>
    rw [List.map_append, List.map_singleton, ofList_concat, ofList_concat, entries_insert, ih]
    exact insertEntry_map f e.1 e.2 _

/-- The value that a key is given last. -/
def lastValue? (entries : List (String × ν)) (key : String) : Option ν :=
  (entries.reverse.find? fun e => e.1 = key).map (·.2)

theorem lastValue?_concat (entries : List (String × ν)) (e : String × ν) (key : String) :
    lastValue? (entries ++ [e]) key = if e.1 = key then some e.2 else lastValue? entries key := by
  by_cases same : e.1 = key <;> simp [lastValue?, same]

theorem get?_insertAll (m : TextMap ν) (entries : List (String × ν)) (key : String) :
    (m.insertAll entries).get? key = (lastValue? entries key).or (m.get? key) := by
  induction entries using List.reverseRecOn with
  | nil => rfl
  | append_singleton before e ih =>
    rw [insertAll_concat, lastValue?_concat]
    by_cases same : e.1 = key
    · rw [← same, get?_insert_self, if_pos rfl, Option.some_or]
    · rw [get?_insert_of_ne _ (Ne.symm same), ih, if_neg same]

theorem get?_ofList (entries : List (String × ν)) (key : String) :
    (ofList entries).get? key = lastValue? entries key := by
  have found : (ofList entries).get? key = (lastValue? entries key).or none :=
    get?_insertAll empty entries key
  rw [found, Option.or_none]

/-- Entries list what is found under keys: each key under which something is found stands there
once, in ascending order of code points and of bytes. -/
structure Lists (entries : List (String × ν)) (value? : String → Option ν) : Prop where
  ascending : entries.Pairwise fun a b => a.1 < b.1
  ascending_octets : entries.Pairwise fun a b => Text.octets a.1 < Text.octets b.1
  once : ∀ key, entries.filter (fun e => e.1 = key) = (value? key).toList.map fun v => (key, v)

theorem filter_key_of_ascending {entries : List (String × ν)}
    (ascending : entries.Pairwise fun a b => a.1 < b.1) (key : String) :
    entries.filter (fun e => e.1 = key) = (entries.find? fun e => e.1 = key).toList := by
  induction entries with
  | nil => rfl
  | cons first rest ih =>
    obtain ⟨above, ordered⟩ := List.pairwise_cons.1 ascending
    by_cases same : first.1 = key
    · have others : rest.filter (fun e => e.1 = key) = [] := by
        rw [List.filter_eq_nil_iff]
        intro e member
        have less : key < e.1 := same ▸ above e member
        simpa using (ne_of_lt less).symm
      simp [same, others]
    · simpa [same] using ih ordered

theorem lists_entries (m : TextMap ν) : Lists m.entries m.get? where
  ascending := m.ascending
  ascending_octets := m.ascending.imp fun below => (Text.octets_lt_iff _ _).2 below
  once key := by
    rw [filter_key_of_ascending m.ascending, get?]
    cases found : m.entries.find? fun e => e.1 = key with
    | none => rfl
    | some e =>
      have own : e.1 = key := by simpa using List.find?_some found
      subst own
      rfl

namespace Lists

variable {entries entries' : List (String × ν)}

theorem mem_iff (lists : Lists entries value?) (e : String × ν) :
    e ∈ entries ↔ value? e.1 = some e.2 := by
  have filtered : e ∈ entries ↔ e ∈ entries.filter fun a => a.1 = e.1 := by simp
  rw [filtered, lists.once]
  simp [Prod.ext_iff]

theorem eq (lists : Lists entries value?) (lists' : Lists entries' value?) :
    entries = entries' := by
  have distinct : ∀ {es : List (String × ν)}, Lists es value? → es.Nodup := by
    intro es lists
    refine lists.ascending.imp ?_
    rintro a b below rfl
    exact lt_irrefl _ below
  have perm : entries.Perm entries' := by
    apply (List.perm_ext_iff_of_nodup (distinct lists) (distinct lists')).2
    intro e
    rw [lists.mem_iff, lists'.mem_iff]
  apply perm.eq_of_pairwise ?_ lists.ascending lists'.ascending
  intro a b _ _ below above
  exact absurd above (lt_asymm below)

end Lists

theorem eq_of_get?_eq {m m' : TextMap ν} (same : ∀ key, m.get? key = m'.get? key) : m = m' := by
  have found : m.get? = m'.get? := funext same
  apply TextMap.ext
  exact m.lists_entries.eq (found ▸ m'.lists_entries)

/-- Two ways to fill a map in lead to the same map if they leave the same under each key, and only
then. -/
theorem insertAll_eq_iff (m : TextMap ν) (entries entries' : List (String × ν)) :
    m.insertAll entries = m.insertAll entries' ↔
      ∀ key, (lastValue? entries key).or (m.get? key) =
        (lastValue? entries' key).or (m.get? key) := by
  constructor
  · intro same key
    rw [← get?_insertAll, same, get?_insertAll]
  · intro same
    apply eq_of_get?_eq
    intro key
    rw [get?_insertAll, get?_insertAll, same key]

example : ofList [("b", 1), ("a", 2), ("b", 3)] = ofList [("a", 0), ("b", 3), ("a", 2)] := by
  decide

end RpcRouting.TextMap
