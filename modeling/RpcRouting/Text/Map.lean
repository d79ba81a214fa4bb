/-!
Maps keyed by texts. A map is the list of its entries in strictly ascending code point order of
their keys, so each key has one value and two maps with the same content are equal.
-/

set_option autoImplicit false
set_option relaxedAutoImplicit false

namespace RpcRouting

/-- A finite map from texts, listed in strictly ascending order of its keys. -/
@[ext] structure TextMap (ν : Type) where
  entries : List (String × ν)
  ascending : entries.Pairwise (fun a b => a.1 < b.1)
deriving DecidableEq

namespace TextMap

variable {ν : Type}

def empty : TextMap ν := ⟨[], .nil⟩

instance : Inhabited (TextMap ν) := ⟨empty⟩

def isEmpty (m : TextMap ν) : Bool := m.entries.isEmpty

/-- Puts one entry into ascending entries, replacing the value that its key has. -/
def insertEntry (key : String) (value : ν) : List (String × ν) → List (String × ν)
  | [] => [(key, value)]
  | (k, v) :: rest =>
    if key < k then (key, value) :: (k, v) :: rest
    else if key = k then (key, value) :: rest
    else (k, v) :: insertEntry key value rest

theorem mem_insertEntry {key : String} {value : ν} {e : String × ν} {es : List (String × ν)}
    (h : e ∈ insertEntry key value es) : e = (key, value) ∨ e ∈ es := by
  induction es with
  | nil => simpa [insertEntry] using h
  | cons head rest ih =>
    obtain ⟨k, v⟩ := head
    rw [insertEntry] at h
    split at h
    · simpa using h
    · split at h
      · exact (List.mem_cons.1 h).imp id (List.mem_cons_of_mem _)
      · rcases List.mem_cons.1 h with rfl | h
        · exact .inr List.mem_cons_self
        · exact (ih h).imp id (List.mem_cons_of_mem _)

theorem pairwise_insertEntry {key : String} {value : ν} {es : List (String × ν)}
    (h : es.Pairwise (fun a b => a.1 < b.1)) :
    (insertEntry key value es).Pairwise (fun a b => a.1 < b.1) := by
  induction es with
  | nil => simp [insertEntry]
  | cons head rest ih =>
    obtain ⟨k, v⟩ := head
    obtain ⟨hk, hrest⟩ := List.pairwise_cons.1 h
    rw [insertEntry]
    split
    · next hlt =>
      refine List.pairwise_cons.2 ⟨fun e he => ?_, h⟩
      rcases List.mem_cons.1 he with rfl | he
      · exact hlt
      · exact String.lt_trans hlt (hk e he)
    · next hlt =>
      split
      · next heq => exact heq ▸ List.pairwise_cons.2 ⟨hk, hrest⟩
      · next hne =>
        refine List.pairwise_cons.2 ⟨fun e he => ?_, ih hrest⟩
        rcases mem_insertEntry he with rfl | he
        · show k < key
          grind
        · exact hk e he

def insert (m : TextMap ν) (key : String) (value : ν) : TextMap ν :=
  ⟨insertEntry key value m.entries, pairwise_insertEntry m.ascending⟩

/-- The map of a list of entries; of two entries with one key the later one counts. -/
def ofList (entries : List (String × ν)) : TextMap ν :=
  entries.foldl (fun m e => m.insert e.1 e.2) empty

def get? (m : TextMap ν) (key : String) : Option ν :=
  (m.entries.find? (fun e => e.1 = key)).map (·.2)

private theorem find?_insertEntry_self (key : String) (value : ν) (es : List (String × ν)) :
    (insertEntry key value es).find? (fun e => e.1 = key) = some (key, value) := by
  induction es with
  | nil => simp [insertEntry]
  | cons head rest ih =>
    obtain ⟨k, v⟩ := head
    rw [insertEntry]
    split
    · simp
    · split
      · simp
      · next hne => simpa [Ne.symm hne] using ih

private theorem find?_insertEntry_of_ne {key other : String} (h : other ≠ key) (value : ν)
    (es : List (String × ν)) :
    (insertEntry key value es).find? (fun e => e.1 = other) =
      es.find? (fun e => e.1 = other) := by
  induction es with
  | nil => simp [insertEntry, Ne.symm h]
  | cons head rest ih =>
    obtain ⟨k, v⟩ := head
    rw [insertEntry]
    split
    · simp [Ne.symm h]
    · split
      · next heq => simp [← heq, Ne.symm h]
      · by_cases hk : k = other <;> simp [hk, ih]

@[simp] theorem get?_insert_self (m : TextMap ν) (key : String) (value : ν) :
    (m.insert key value).get? key = some value := by
  simp [get?, insert, find?_insertEntry_self]

@[simp] theorem get?_insert_of_ne (m : TextMap ν) {key other : String} (h : other ≠ key)
    (value : ν) : (m.insert key value).get? other = m.get? other := by
  simp [get?, insert, find?_insertEntry_of_ne h]

end TextMap

end RpcRouting
