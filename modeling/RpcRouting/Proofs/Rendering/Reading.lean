import RpcRouting.Proofs.Rendering.Normal
import Mathlib.Tactic.SplitIfs
/-!
Reading the text of an element. Names end at a mark, and the escaped form of a text or a value has
neither quotes nor brackets; so the text of an element tells where it ends, whatever follows, and
what the element is, but for what is redundant in it (`Element.normal_eq_of_append`).
-/

set_option autoImplicit false
set_option relaxedAutoImplicit false

namespace RpcRouting

namespace Text

theorem eq_of_append_of_stop {xs ys : List Char} {c d : Char} {r s : List Char} (stop : d ∉ xs)
    (stop' : c ∉ ys) (same : xs ++ c :: r = ys ++ d :: s) : xs = ys ∧ c :: r = d :: s := by
  induction xs generalizing ys with
  | nil =>
    cases ys with
    | nil => exact ⟨rfl, same⟩
    | cons y ys =>
      obtain ⟨rfl, -⟩ := List.cons.inj same
      exact absurd List.mem_cons_self stop'
  | cons x xs ih =>
    cases ys with
    | nil =>
      obtain ⟨rfl, -⟩ := List.cons.inj same
      exact absurd List.mem_cons_self stop
    | cons y ys =>
      obtain ⟨rfl, tail⟩ := List.cons.inj same
      obtain ⟨rfl, rest⟩ := ih (fun member => stop (List.mem_cons_of_mem x member))
        (fun member => stop' (List.mem_cons_of_mem x member)) tail
      exact ⟨rfl, rest⟩

namespace IsName

variable {name : String} (isName : IsName name)

include isName

theorem mark_notMem {c : Char} (mark : c ∈ marks) : c ∉ name.toList :=
  fun member => isName.2 c member mark

theorem exists_cons : ∃ c cs, name.toList = c :: cs := by
  cases chars : name.toList with
  | nil => exact absurd (String.toList_eq_nil_iff.1 chars) isName.1
  | cons c cs => exact ⟨c, cs, rfl⟩

end IsName

end Text

namespace Element

theorem notMem_escape {c : Char} (ends : c = '"' ∨ c = '<') (s : String) : c ∉ escape s := by
  intro member
  obtain ⟨d, -, own⟩ := List.mem_flatMap.1 member
  rw [escapeChar] at own
  rcases ends with rfl | rfl <;> split_ifs at own <;> simp at own <;> grind

theorem escapeChar_ne_nil (c : Char) : escapeChar c ≠ [] := by
  rw [escapeChar]
  split_ifs <;> simp

theorem eq_of_escapeChar_append {c d : Char} {r s : List Char}
    (same : escapeChar c ++ r = escapeChar d ++ s) : c = d ∧ r = s := by
  rw [escapeChar, escapeChar] at same
  split_ifs at same <;> simp at same <;> grind

theorem escape_injective {s t : String} (same : escape s = escape t) : s = t := by
  refine String.toList_injective ?_
  rw [escape, escape] at same
  -- The induction is on the characters, so that they are no longer those of a string.
  generalize s.toList = cs at same
  generalize t.toList = ds at same
  induction cs generalizing ds with
  | nil =>
    cases ds with
    | nil => rfl
    | cons d ds => simp [escapeChar_ne_nil] at same
  | cons c cs ih =>
    cases ds with
    | nil => simp [escapeChar_ne_nil] at same
    | cons d ds =>
      rw [List.flatMap_cons, List.flatMap_cons] at same
      obtain ⟨rfl, rest⟩ := eq_of_escapeChar_append same
      rw [ih ds rest]

/-- The attributes that are shown, the declaration of a namespace in front. -/
def shownAttributes (inherited uri : Option String) (attributes : TextMap String) :
    List (String × String) :=
  (ownUri inherited uri).toList.map (fun u => ("xmlns", u)) ++ attributes.entries

theorem openingChars_append (inherited : Option String) (name : String) (uri : Option String)
    (attributes : TextMap String) (rest : List Char) :
    openingChars inherited name uri attributes ++ rest = '<' :: (name.toList ++
      (((shownAttributes inherited uri attributes).flatMap fun a => attributeChars a.1 a.2) ++
        rest)) := by
  have declared : declarationChars inherited uri =
      ((ownUri inherited uri).toList.map fun u => ("xmlns", u)).flatMap
        fun a => attributeChars a.1 a.2 := by
    cases uri with
    | none => rw [ownUri, ite_self]; rfl
    | some u =>
      rw [declarationChars, ownUri]
      by_cases same : inherited = some u
      · rw [if_pos same, if_pos same.symm]
        rfl
      · rw [if_neg same, if_neg (Ne.symm same)]
        simp
  rw [openingChars, declared, shownAttributes, List.flatMap_append]
  simp only [List.cons_append, List.append_assoc]

theorem attributeChars_append (key value : String) (r : List Char) :
    attributeChars key value ++ r =
      ' ' :: (key.toList ++ '=' :: '"' :: (escape value ++ '"' :: r)) := by
  simp [attributeChars]

theorem eq_of_attributes_append {as bs : List (String × String)} {c d : Char} {r s : List Char}
    (named : ∀ a ∈ as, Text.IsName a.1) (named' : ∀ b ∈ bs, Text.IsName b.1) (stop : c ≠ ' ')
    (stop' : d ≠ ' ')
    (same : (as.flatMap fun a => attributeChars a.1 a.2) ++ c :: r =
      (bs.flatMap fun b => attributeChars b.1 b.2) ++ d :: s) : as = bs ∧ c :: r = d :: s := by
  induction as generalizing bs with
  | nil =>
    cases bs with
    | nil => exact ⟨rfl, same⟩
    | cons b bs => exact absurd (List.cons.inj same).1 stop
  | cons a as ih =>
    cases bs with
    | nil => exact absurd (List.cons.inj same).1.symm stop'
    | cons b bs =>
      obtain ⟨isName, named⟩ := List.forall_mem_cons.1 named
      obtain ⟨isName', named'⟩ := List.forall_mem_cons.1 named'
      rw [List.flatMap_cons, List.flatMap_cons, List.append_assoc, List.append_assoc,
        attributeChars_append, attributeChars_append] at same
      obtain ⟨key, afterKey⟩ := Text.eq_of_append_of_stop (isName.mark_notMem (by decide))
        (isName'.mark_notMem (by decide)) (List.cons.inj same).2
      obtain ⟨value, afterValue⟩ := Text.eq_of_append_of_stop (notMem_escape (.inl rfl) a.2)
        (notMem_escape (.inl rfl) b.2) (List.cons.inj (List.cons.inj afterKey).2).2
      obtain ⟨rfl, rest⟩ := ih named named' (List.cons.inj afterValue).2
      have first : a = b := Prod.ext (String.toList_injective key) (escape_injective value)
      exact ⟨by rw [first], rest⟩

section Opening

variable {inherited uri : Option String} {attributes : TextMap String}

private theorem isName_of_shown (named : ∀ a ∈ attributes.entries, Text.IsName a.1) :
    ∀ a ∈ shownAttributes inherited uri attributes, Text.IsName a.1 := by
  intro a member
  rcases List.mem_append.1 member with declared | own
  · obtain ⟨u, -, rfl⟩ := List.mem_map.1 declared
    show Text.IsName "xmlns"
    decide
  · exact named a own

private theorem ownUri_of_shown (named : ∀ a ∈ attributes.entries, a.1 ≠ "xmlns") :
    ownUri inherited uri =
      ((shownAttributes inherited uri attributes).find? (·.1 = "xmlns")).map (·.2) := by
  have absent : attributes.entries.find? (·.1 = "xmlns") = none := by simpa using named
  rw [shownAttributes]
  cases ownUri inherited uri with
  | none => simp [absent]
  | some u => simp

private theorem entries_of_shown (named : ∀ a ∈ attributes.entries, a.1 ≠ "xmlns") :
    attributes.entries =
      (shownAttributes inherited uri attributes).filter (·.1 ≠ "xmlns") := by
  have kept : attributes.entries.filter (·.1 ≠ "xmlns") = attributes.entries :=
    List.filter_eq_self.2 fun a member => by simpa using named a member
  rw [shownAttributes, List.filter_append, kept]
  cases ownUri inherited uri <;> simp

private theorem exists_behind_name (shown : List (String × String)) {c : Char} {r : List Char}
    (stop : c = '/' ∨ c = '>') :
    ∃ d s, (shown.flatMap fun a => attributeChars a.1 a.2) ++ c :: r = d :: s ∧
      ∀ {name : String}, Text.IsName name → d ∉ name.toList := by
  cases shown with
  | nil =>
    refine ⟨c, r, rfl, fun isName => isName.mark_notMem ?_⟩
    rcases stop with rfl | rfl <;> decide
  | cons a rest =>
    rw [List.flatMap_cons, List.append_assoc, attributeChars_append]
    exact ⟨' ', _, rfl, fun isName => isName.mark_notMem (by decide)⟩

theorem eq_of_openingChars_append {uri' : Option String} {name name' : String}
    {attributes' : TextMap String} {c d : Char} {r s : List Char}
    (isName : Text.IsName name) (isName' : Text.IsName name')
    (named : ∀ a ∈ attributes.entries, Text.IsName a.1 ∧ a.1 ≠ "xmlns")
    (named' : ∀ a ∈ attributes'.entries, Text.IsName a.1 ∧ a.1 ≠ "xmlns")
    (stop : c = '/' ∨ c = '>') (stop' : d = '/' ∨ d = '>')
    (same : openingChars inherited name uri attributes ++ c :: r =
      openingChars inherited name' uri' attributes' ++ d :: s) :
    name = name' ∧ ownUri inherited uri = ownUri inherited uri' ∧ attributes = attributes' ∧
      c :: r = d :: s := by
  rw [openingChars_append, openingChars_append] at same
  obtain ⟨e, t, front, outside⟩ :=
    exists_behind_name (shownAttributes inherited uri attributes) (r := r) stop
  obtain ⟨e', t', front', outside'⟩ :=
    exists_behind_name (shownAttributes inherited uri' attributes') (r := s) stop'
  -- Where the name ends is told by the one character behind it, whether attributes follow or not.
  rw [front, front'] at same
  obtain ⟨key, after⟩ :=
    Text.eq_of_append_of_stop (outside' isName) (outside isName') (List.cons.inj same).2
  rw [← front, ← front'] at after
  have noSpace : ∀ {x : Char}, x = '/' ∨ x = '>' → x ≠ ' ' := by
    rintro x (rfl | rfl) <;> decide
  obtain ⟨shown, ends⟩ := eq_of_attributes_append
    (isName_of_shown fun a member => (named a member).1)
    (isName_of_shown fun a member => (named' a member).1) (noSpace stop) (noSpace stop') after
  have own : ∀ a ∈ attributes.entries, a.1 ≠ "xmlns" := fun a member => (named a member).2
  have own' : ∀ a ∈ attributes'.entries, a.1 ≠ "xmlns" := fun a member => (named' a member).2
  refine ⟨String.toList_injective key, ?_, TextMap.ext ?_, ends⟩
  · rw [ownUri_of_shown own, shown, ← ownUri_of_shown own']
  · rw [entries_of_shown own, shown, ← entries_of_shown own']

end Opening

section Body

variable {inside : Option String} {name : String} {children children' : List Element}
  {text text' : Option String} {r s : List Char}

private theorem exists_bodyChars (inside : Option String) (name : String) (children : List Element)
    (text : Option String) :
    ∃ c rest, bodyChars inside name children text = c :: rest ∧ (c = '/' ∨ c = '>') := by
  rw [bodyChars]
  split
  · exact ⟨'/', ['>'], rfl, .inl rfl⟩
  · exact ⟨'>', _, rfl, .inr rfl⟩

private theorem exists_bracket (inherited : Option String) (es : List Element) (r : List Char) :
    ∃ s, charsAll inherited es ++ '<' :: r = '<' :: s := by
  cases es with
  | nil => exact ⟨r, rfl⟩
  | cons e rest =>
    obtain ⟨name, uri, attributes, children, text⟩ := e
    rw [charsAll, chars_eq, List.append_assoc, List.append_assoc, openingChars_append]
    exact ⟨_, rfl⟩

private theorem bodyChars_append_of_full (full : ¬(children = [] ∧ text = none)) :
    bodyChars inside name children text ++ r = '>' :: (text.elim [] escape ++
      (charsAll inside children ++ '<' :: '/' :: (name.toList ++ '>' :: r))) := by
  rw [bodyChars, if_neg full]
  simp

private theorem bracket_notMem_text (text : Option String) : '<' ∉ text.elim [] escape := by
  cases text with
  | none => exact List.not_mem_nil
  | some t => exact notMem_escape (.inr rfl) t

private theorem normalAll_eq_nil_iff {es : List Element} : normalAll inside es = [] ↔ es = [] := by
  cases es <;> simp [normalAll]

private theorem ne_end_of_named {inherited : Option String} {e : Element} (named : e.Named)
    (rest : List Element) :
    charsAll inherited (e :: rest) ++ r ≠ '<' :: '/' :: s := by
  obtain ⟨name, uri, attributes, children, text⟩ := e
  obtain ⟨c, cs, letters⟩ := named.1.exists_cons
  rw [charsAll, chars_eq, List.append_assoc, List.append_assoc, openingChars_append, letters]
  intro same
  obtain ⟨rfl, -⟩ := List.cons.inj (List.cons.inj same).2
  exact named.1.mark_notMem (by decide) (letters ▸ List.mem_cons_self)

private theorem ownText_eq_of_elim (full : ¬(children = [] ∧ text = none))
    (full' : ¬(children' = [] ∧ text' = none)) (childless : children = [] ↔ children' = [])
    (same : text.elim [] escape = text'.elim [] escape) :
    ownText children text = ownText children' text' := by
  have content : text.getD "" = text'.getD "" := by
    refine escape_injective ?_
    cases text <;> cases text' <;> exact same
  rw [ownText, ownText]
  by_cases none : children = []
  · have none' := childless.1 none
    obtain ⟨t, rfl⟩ := Option.ne_none_iff_exists'.1 fun absent => full ⟨none, absent⟩
    obtain ⟨t', rfl⟩ := Option.ne_none_iff_exists'.1 fun absent => full' ⟨none', absent⟩
    rw [none, none']
    exact congrArg some content
  · have none' := mt childless.2 none
    rw [if_neg (by simpa using none), if_neg (by simpa using none')]
    have shown : ∀ text : Option String, text.filter (· ≠ "") =
        if text.getD "" = "" then .none else some (text.getD "") := by
      intro text
      cases text with
      | none => rfl
      | some t => by_cases empty : t = "" <;> simp [empty]
    rw [shown, shown, content]

private theorem eq_of_bodyChars_append
    (told : ∀ r s, charsAll inside children ++ '<' :: '/' :: r =
      charsAll inside children' ++ '<' :: '/' :: s →
        normalAll inside children = normalAll inside children' ∧ r = s)
    (same : bodyChars inside name children text ++ r = bodyChars inside name children' text' ++ s) :
    normalAll inside children = normalAll inside children' ∧
      ownText children text = ownText children' text' ∧ r = s := by
  by_cases empty : children = [] ∧ text = none
  · by_cases empty' : children' = [] ∧ text' = none
    · rw [bodyChars, bodyChars, if_pos empty, if_pos empty'] at same
      obtain ⟨rfl, rfl⟩ := empty
      obtain ⟨rfl, rfl⟩ := empty'
      exact ⟨rfl, rfl, List.append_cancel_left same⟩
    · rw [bodyChars, bodyChars, if_pos empty, if_neg empty'] at same
      exact absurd (List.cons.inj same).1 (by decide)
  · by_cases empty' : children' = [] ∧ text' = none
    · rw [bodyChars, bodyChars, if_neg empty, if_pos empty'] at same
      exact absurd (List.cons.inj same).1 (by decide)
    · rw [bodyChars_append_of_full empty, bodyChars_append_of_full empty'] at same
      obtain ⟨x, front⟩ := exists_bracket inside children ('/' :: (name.toList ++ '>' :: r))
      obtain ⟨y, front'⟩ := exists_bracket inside children' ('/' :: (name.toList ++ '>' :: s))
      rw [front, front'] at same
      obtain ⟨content, after⟩ := Text.eq_of_append_of_stop (bracket_notMem_text text)
        (bracket_notMem_text text') (List.cons.inj same).2
      rw [← front, ← front'] at after
      obtain ⟨all, ends⟩ := told _ _ after
      have childless : children = [] ↔ children' = [] := by
        rw [← normalAll_eq_nil_iff, all, normalAll_eq_nil_iff]
      exact ⟨all, ownText_eq_of_elim empty empty' childless content,
        (List.cons.inj (List.append_cancel_left ends)).2⟩

end Body

mutual

/-- The text of an element tells where it ends and what the element is, but for what is redundant
in it. -/
theorem normal_eq_of_append (inherited : Option String) : (e e' : Element) → e.Named → e'.Named →
    ∀ r s, chars inherited e ++ r = chars inherited e' ++ s →
      normal inherited e = normal inherited e' ∧ r = s
  | ⟨name, uri, attributes, children, text⟩, ⟨name', uri', attributes', children', text'⟩ => by
    rintro ⟨isName, named, inner⟩ ⟨isName', named', inner'⟩ r s same
    have told := normalAll_eq_of_append (inForce inherited uri) children children' inner inner'
    obtain ⟨c, t, front, stop⟩ := exists_bodyChars (inForce inherited uri) name children text
    obtain ⟨c', t', front', stop'⟩ :=
      exists_bodyChars (inForce inherited uri') name' children' text'
    rw [chars_eq, chars_eq, List.append_assoc, List.append_assoc, front, front', List.cons_append,
      List.cons_append] at same
    obtain ⟨rfl, own, rfl, body⟩ :=
      eq_of_openingChars_append isName isName' named named' stop stop' same
    -- The namespace in force inside is the same, as it is told but for what is in force outside.
    have inside : inForce inherited uri' = inForce inherited uri := by
      rw [← inForce_ownUri inherited uri', ← own, inForce_ownUri]
    rw [← List.cons_append, ← List.cons_append, ← front, ← front', inside] at body
    obtain ⟨children, text, rest⟩ := eq_of_bodyChars_append told body
    exact ⟨by rw [normal, normal, inside, own, children, text], rest⟩

theorem normalAll_eq_of_append (inherited : Option String) : (es es' : List Element) →
    AllNamed es → AllNamed es' →
    ∀ r s, charsAll inherited es ++ '<' :: '/' :: r = charsAll inherited es' ++ '<' :: '/' :: s →
      normalAll inherited es = normalAll inherited es' ∧ r = s
  | [], [] => fun _ _ r s same => ⟨rfl, by simpa [charsAll] using same⟩
  | [], _ :: rest' => fun _ all' _ _ same => absurd same.symm (ne_end_of_named all'.1 rest')
  | _ :: rest, [] => fun all _ _ _ same => absurd same (ne_end_of_named all.1 rest)
  | e :: rest, e' :: rest' => by
    rintro ⟨named, inner⟩ ⟨named', inner'⟩ r s same
    rw [charsAll, charsAll, List.append_assoc, List.append_assoc] at same
    obtain ⟨first, after⟩ := normal_eq_of_append inherited e e' named named' _ _ same
    obtain ⟨others, ends⟩ := normalAll_eq_of_append inherited rest rest' inner inner' r s after
    exact ⟨by rw [normalAll, normalAll, first, others], ends⟩

end

theorem normalize_eq_of_render_eq {e e' : Element} (named : e.Named) (named' : e'.Named)
    (same : e.render = e'.render) : e.normalize = e'.normalize := by
  have chars : chars none e ++ [] = chars none e' ++ [] := by
    rw [render, render] at same
    rw [String.ofList_injective same]
  exact (normal_eq_of_append none e e' named named' [] [] chars).1

/-- Two elements have the same text if and only if they differ in nothing but what is redundant.
Hence no text, namespace or value of an attribute makes an element read as another one. -/
theorem render_eq_render_iff {e e' : Element} (named : e.Named) (named' : e'.Named) :
    e.render = e'.render ↔ e.normalize = e'.normalize := by
  constructor
  · exact normalize_eq_of_render_eq named named'
  · intro same
    rw [← render_normalize e, same, render_normalize]

/-- An element with a child that repeats the namespace in force, behind an empty text. -/
def wordy : Element :=
  ⟨"filter", some "urn:x", .empty,
    [⟨"select", some "urn:x", TextMap.empty.insert "at" "\"top\"", [], some "1 < 2"⟩], some ""⟩

def terse : Element :=
  ⟨"filter", some "urn:x", .empty,
    [⟨"select", none, TextMap.empty.insert "at" "\"top\"", [], some "1 < 2"⟩], none⟩

/-- An element whose text looks like the child of `terse`. -/
def forged : Element :=
  ⟨"filter", some "urn:x", .empty, [], some "<select at=\"&quot;top&quot;\">1 &lt; 2</select>"⟩

theorem render_eq_render_iff_of_forged :
    wordy.Named ∧ terse.Named ∧ forged.Named ∧ wordy ≠ terse ∧ wordy.render = terse.render ∧
      forged.render ≠ terse.render := by
  have named : wordy.Named := by decide
  have named' : terse.Named := by decide
  have named'' : forged.Named := by decide
  have same : wordy.render = terse.render := (render_eq_render_iff named named').2 rfl
  have distinct : forged.render ≠ terse.render := fun alike =>
    absurd ((render_eq_render_iff named'' named').1 alike) (by decide)
  exact ⟨named, named', named'', by decide, same, distinct⟩

end Element

end RpcRouting
