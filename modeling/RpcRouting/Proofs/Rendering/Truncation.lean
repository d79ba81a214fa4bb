import Mathlib.Data.List.Infix
import RpcRouting.Document
import RpcRouting.Proofs.Rendering.Normal
/-!
Messages as errors and logs show them. A text that does not fit into a number of bytes is cut at the
last boundary between characters that does, which is at most three bytes before the limit, and gets
an ellipsis. As the text of every element ends in a bracket, the ellipsis tells that it was cut.
-/

set_option autoImplicit false
set_option relaxedAutoImplicit false

namespace RpcRouting

namespace Text

variable {cs front : List Char} {c : Char} {offset limit : Nat}

@[simp] theorem bytes_append (cs ds : List Char) : bytes (cs ++ ds) = bytes cs + bytes ds := by
  induction cs with
  | nil => simp [bytes]
  | cons c rest ih => simp [bytes, ih, Nat.add_assoc]

theorem utf8ByteSize_ofList (cs : List Char) : (String.ofList cs).utf8ByteSize = bytes cs := by
  induction cs with
  | nil => rfl
  | cons c rest ih =>
    rw [← List.singleton_append, String.ofList_append, String.utf8ByteSize_append, ih]
    simp [bytes]

theorem isBoundary_iff :
    isBoundary cs offset = true ↔ ∃ front, front <+: cs ∧ bytes front = offset := by
  induction cs generalizing offset with
  | nil =>
    cases offset with
    | zero => simp [isBoundary, bytes]
    | succ offset => simp [isBoundary, bytes]
  | cons c rest ih =>
    cases offset with
    | zero => exact iff_of_true rfl ⟨[], List.nil_prefix, rfl⟩
    | succ offset =>
      have split : isBoundary (c :: rest) (offset + 1) =
          (decide (c.utf8Size ≤ offset + 1) && isBoundary rest (offset + 1 - c.utf8Size)) := rfl
      rw [split, Bool.and_eq_true, decide_eq_true_eq, ih]
      constructor
      · rintro ⟨fits, front, start, size⟩
        exact ⟨c :: front, by simpa using start, by rw [bytes, size]; omega⟩
      · rintro ⟨front, start, size⟩
        cases front with
        | nil => cases size
        | cons d front =>
          obtain ⟨rfl, start'⟩ := List.cons_prefix_cons.1 start
          rw [bytes] at size
          exact ⟨by omega, front, start', by omega⟩

theorem isBoundary_boundaryBefore (cs : List Char) (offset : Nat) :
    isBoundary cs (boundaryBefore cs offset) = true := by
  induction offset with
  | zero => cases cs <;> rfl
  | succ offset ih =>
    rw [boundaryBefore]
    split
    · assumption
    · exact ih

theorem boundaryBefore_le (cs : List Char) (offset : Nat) : boundaryBefore cs offset ≤ offset := by
  induction offset with
  | zero => exact le_rfl
  | succ offset ih =>
    rw [boundaryBefore]
    split
    · exact le_rfl
    · exact ih.trans (Nat.le_succ offset)

theorem le_boundaryBefore {boundary : Nat} (own : isBoundary cs boundary = true)
    (before : boundary ≤ offset) : boundary ≤ boundaryBefore cs offset := by
  induction offset with
  | zero => exact before
  | succ offset ih =>
    rw [boundaryBefore]
    split
    · exact before
    · next inside =>
      have apart : boundary ≠ offset + 1 := fun same => inside (same ▸ own)
      exact ih (by omega)

theorem takeBytes_append (front rest : List Char) :
    takeBytes (front ++ rest) (bytes front) = front := by
  induction front with
  | nil =>
    cases rest with
    | nil => rfl
    | cons c rest =>
      have some := c.utf8Size_pos
      exact if_neg (by rw [bytes]; omega)
  | cons c front ih =>
    rw [List.cons_append, takeBytes, bytes, if_pos (Nat.le_add_right _ _), Nat.add_sub_cancel_left,
      ih]

theorem bytes_eq_zero_iff : bytes cs = 0 ↔ cs = [] := by
  cases cs with
  | nil => simp [bytes]
  | cons c rest =>
    have some := c.utf8Size_pos
    simp only [bytes, reduceCtorEq, iff_false]
    omega

theorem exists_prefix_near (within : offset ≤ bytes cs) :
    ∃ front, front <+: cs ∧ bytes front ≤ offset ∧ offset ≤ bytes front + 3 := by
  induction cs generalizing offset with
  | nil => exact ⟨[], List.nil_prefix, Nat.zero_le _, within.trans (Nat.zero_le _)⟩
  | cons c rest ih =>
    rw [bytes] at within
    by_cases fits : c.utf8Size ≤ offset
    · obtain ⟨front, start, before, near⟩ := @ih (offset - c.utf8Size) (by omega)
      refine ⟨c :: front, by simpa using start, ?_, ?_⟩
      · rw [bytes]
        omega
      · rw [bytes]
        omega
    · have size := c.utf8Size_le_four
      exact ⟨[], List.nil_prefix, Nat.zero_le _, by rw [bytes]; omega⟩

/-- The first characters that are left of a text when it is cut. -/
structure Kept (cs : List Char) (limit : Nat) (front : List Char) : Prop where
  start : front <+: cs
  bytes_eq : bytes front = boundaryBefore cs limit
  longest : ∀ other, other <+: cs → bytes other ≤ limit → other <+: front

theorem kept_takeBytes (cs : List Char) (limit : Nat) :
    Kept cs limit (takeBytes cs (boundaryBefore cs limit)) := by
  obtain ⟨front, start, size⟩ := isBoundary_iff.1 (isBoundary_boundaryBefore cs limit)
  have taken : takeBytes cs (boundaryBefore cs limit) = front := by
    obtain ⟨rest, rfl⟩ := start
    rw [← size, takeBytes_append]
  rw [taken]
  refine ⟨start, size, ?_⟩
  intro other own fits
  have before := le_boundaryBefore (isBoundary_iff.2 ⟨other, own, rfl⟩) fits
  rcases List.prefix_or_prefix_of_prefix own start with shorter | ⟨more, rfl⟩
  · exact shorter
  · -- Whatever is longer than `front` has more bytes than fit.
    rw [bytes_append, size] at before
    have none : more = [] := bytes_eq_zero_iff.1 (by omega)
    rw [none, List.append_nil]

/-- A search for a boundary between two characters, one byte back at a time, ends at an offset. There
is no step back from the beginning. -/
inductive SearchEnds (s : String) : Nat → Nat → Prop
  | here {offset : Nat} (boundary : (String.Pos.Raw.mk offset).IsValid s) :
    SearchEnds s offset offset
  | back {offset ends : Nat} (inside : ¬ (String.Pos.Raw.mk (offset + 1)).IsValid s)
    (further : SearchEnds s offset ends) : SearchEnds s (offset + 1) ends

theorem isValid_ofList_iff :
    (String.Pos.Raw.mk offset).IsValid (String.ofList cs) ↔ isBoundary cs offset = true := by
  rw [String.Pos.Raw.isValid_iff_exists_append, isBoundary_iff]
  constructor
  · rintro ⟨front, rest, whole, place⟩
    refine ⟨front.toList, ⟨rest.toList, ?_⟩, ?_⟩
    · rw [← String.toList_append, ← whole, String.toList_ofList]
    · rw [← utf8ByteSize_ofList, String.ofList_toList]
      exact (congrArg String.Pos.Raw.byteIdx place).symm
  · rintro ⟨front, ⟨rest, rfl⟩, size⟩
    refine ⟨String.ofList front, String.ofList rest, String.ofList_append, ?_⟩
    rw [← size, ← utf8ByteSize_ofList]
    rfl

theorem searchEnds_boundaryBefore (cs : List Char) (limit : Nat) :
    SearchEnds (String.ofList cs) limit (boundaryBefore cs limit) := by
  induction limit with
  | zero => exact .here (isValid_ofList_iff.2 (isBoundary_boundaryBefore cs 0))
  | succ limit ih =>
    rw [boundaryBefore]
    split
    · next boundary => exact .here (isValid_ofList_iff.2 boundary)
    · next inside => exact .back (fun valid => inside (isValid_ofList_iff.1 valid)) ih

/-- A text is the longest one within a number of bytes with which another one begins. -/
structure LongestStart (whole : String) (limit : Nat) (start : String) : Prop where
  starts : ∃ rest, whole = start ++ rest
  fits : start.utf8ByteSize ≤ limit
  longest : ∀ other rest, whole = other ++ rest → other.utf8ByteSize ≤ limit →
    ∃ more, start = other ++ more

/-- What is shown of a text within a number of bytes: all of it, or as much as fits and an
ellipsis. -/
structure ShownWithin (whole : String) (limit : Nat) (shown : String) : Prop where
  search : SearchEnds whole limit (boundaryBefore whole.toList limit)
  fits : whole.utf8ByteSize ≤ limit → shown = whole
  cut : limit < whole.utf8ByteSize → ∃ start, shown = start ++ "..." ∧
    LongestStart whole limit start ∧ SearchEnds whole limit start.utf8ByteSize ∧
    limit ≤ start.utf8ByteSize + 3 ∧ shown.utf8ByteSize ≤ limit + 3

theorem Kept.longestStart (kept : Kept cs limit front) :
    LongestStart (String.ofList cs) limit (String.ofList front) := by
  refine ⟨?_, ?_, ?_⟩
  · obtain ⟨rest, rfl⟩ := kept.start
    exact ⟨String.ofList rest, String.ofList_append⟩
  · rw [utf8ByteSize_ofList, kept.bytes_eq]
    exact boundaryBefore_le cs limit
  · intro other rest whole size
    have chars : other.toList ++ rest.toList = cs := by
      rw [← String.toList_append, ← whole, String.toList_ofList]
    have fits : bytes other.toList ≤ limit := by
      rw [← utf8ByteSize_ofList, String.ofList_toList]
      exact size
    obtain ⟨more, rfl⟩ := kept.longest other.toList ⟨rest.toList, chars⟩ fits
    exact ⟨String.ofList more, by rw [String.ofList_append, String.ofList_toList]⟩

theorem Kept.near (kept : Kept cs limit front) (within : limit ≤ bytes cs) :
    limit ≤ bytes front + 3 := by
  obtain ⟨other, start, before, near⟩ := exists_prefix_near within
  have reached := le_boundaryBefore (isBoundary_iff.2 ⟨other, start, rfl⟩) before
  rw [kept.bytes_eq]
  omega

theorem shownWithin_cut (cs : List Char) (limit : Nat) :
    ShownWithin (String.ofList cs) limit (String.ofList (cut cs limit)) where
  search := by
    rw [String.toList_ofList]
    exact searchEnds_boundaryBefore cs limit
  fits size := by
    rw [utf8ByteSize_ofList] at size
    rw [cut, if_pos size]
  cut size := by
    rw [utf8ByteSize_ofList] at size
    have kept := kept_takeBytes cs limit
    have shown : String.ofList (cut cs limit) =
        String.ofList (takeBytes cs (boundaryBefore cs limit)) ++ "..." := by
      rw [cut, if_neg (Nat.not_le.2 size), String.ofList_append]
      rfl
    rw [shown, String.utf8ByteSize_append, utf8ByteSize_ofList]
    refine ⟨_, rfl, kept.longestStart, ?_, ?_, ?_⟩
    · rw [utf8ByteSize_ofList, kept.bytes_eq]
      exact searchEnds_boundaryBefore cs limit
    · rw [utf8ByteSize_ofList]
      exact kept.near size.le
    · rw [kept.bytes_eq]
      exact Nat.add_le_add_right (boundaryBefore_le cs limit) 3

example : String.ofList (cut ['a', 'ö', 'b'] 2) = "a..." := by
  decide

end Text

theorem Element.exists_chars_eq (inherited : Option String) (e : Element) :
    ∃ front, e.chars inherited = front ++ ['>'] := by
  obtain ⟨name, uri, attributes, children, text⟩ := e
  rw [chars_eq, bodyChars]
  split
  · exact ⟨openingChars inherited name uri attributes ++ ['/'], by simp⟩
  · refine ⟨openingChars inherited name uri attributes ++ '>' :: (text.elim [] escape ++
      (charsAll (inForce inherited uri) children ++ '<' :: '/' :: name.toList)), ?_⟩
    simp

namespace Document

theorem exists_render_eq (d : Document) : ∃ front, d.render = front ++ ">" := by
  obtain ⟨front, ends⟩ := d.root.exists_chars_eq none
  refine ⟨String.ofList front, ?_⟩
  rw [render, Element.render, ends, String.ofList_append]

/-- A message is shown within any number of bytes as a text is, and an ellipsis at its end tells that
it was cut. -/
theorem shownWithin_renderWithin (d : Document) (limit : Nat) :
    Text.ShownWithin d.render limit (d.renderWithin limit) ∧ (∃ front, d.render = front ++ ">") ∧
      ((∃ front, d.renderWithin limit = front ++ "...") ↔ limit < d.render.utf8ByteSize) := by
  have shown : Text.ShownWithin d.render limit (d.renderWithin limit) :=
    Text.shownWithin_cut d.chars limit
  refine ⟨shown, d.exists_render_eq, ?_, ?_⟩
  · rintro ⟨front, marked⟩
    by_contra fits
    obtain ⟨whole, ends⟩ := d.exists_render_eq
    have same : (whole ++ ">").toList = (front ++ "...").toList := by
      rw [← ends, ← marked, shown.fits (Nat.not_lt.1 fits)]
    have last := congrArg List.getLast? same
    simp at last
  · intro size
    obtain ⟨start, marked, -⟩ := shown.cut size
    exact ⟨start, marked⟩

end Document

end RpcRouting
