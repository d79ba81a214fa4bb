import Mathlib.Tactic.SplitIfs
import RpcRouting.Proofs.Rendering.Reading
import RpcRouting.Text.Quoted
/-!
Quoted texts. Everything in them is printed, a quoted text tells where it ends, and it tells which
text it is. So the list of names in a diagnostic is known from what is shown.
-/

set_option autoImplicit false
set_option relaxedAutoImplicit false

namespace RpcRouting.Text

theorem exists_digitChar {n : Nat} {c : Char} (member : c ∈ Nat.toDigits 16 n) :
    ∃ d < 16, c = d.digitChar := by
  induction n using Nat.strongRecOn with
  | ind n ih =>
    rw [Nat.toDigits_eq_if (by decide)] at member
    split at member
    · next small => exact ⟨n, small, List.mem_singleton.1 member⟩
    · obtain earlier | last := List.mem_append.1 member
      · exact ih (n / 16) (by omega) earlier
      · exact ⟨n % 16, Nat.mod_lt n (by decide), List.mem_singleton.1 last⟩

theorem eq_of_digitChar_eq : ∀ d < 16, ∀ e < 16, d.digitChar = e.digitChar → d = e := by decide

theorem eq_of_toDigits_eq {m n : Nat} (same : Nat.toDigits 16 m = Nat.toDigits 16 n) : m = n := by
  induction m using Nat.strongRecOn generalizing n with
  | ind m ih =>
    -- One figure is not a figure behind others.
    have single : ∀ k c d, [c] ≠ Nat.toDigits 16 k ++ [d] := by
      intro k c d equal
      have split : [] ++ [c] = Nat.toDigits 16 k ++ [d] := equal
      obtain ⟨none, -⟩ := List.append_inj' split rfl
      exact Nat.toDigits_ne_nil none.symm
    rw [Nat.toDigits_eq_if (by decide), Nat.toDigits_eq_if (n := n) (by decide)] at same
    split_ifs at same with small small' small'
    · exact eq_of_digitChar_eq m small n small' (List.cons.inj same).1
    · exact absurd same (single _ _ _)
    · exact absurd same.symm (single _ _ _)
    · obtain ⟨high, low⟩ := List.append_inj' same rfl
      have quotient := ih (m / 16) (by omega) high
      have remainder := eq_of_digitChar_eq _ (Nat.mod_lt m (by decide)) _
        (Nat.mod_lt n (by decide)) (List.cons.inj low).1
      omega

theorem printed_of_ascii {c : Char} (low : 0x20 ≤ c.toNat) (high : c.toNat < 0x7F) :
    isUnprinted c = false := by
  have inside : (decide (c.toNat < 0x20) || decide (0x7F ≤ c.toNat)) = false := by
    simp
    omega
  rw [isUnprinted, inside, Bool.false_and]

theorem ascii_digitChar : ∀ d < 16, 0x20 ≤ d.digitChar.toNat ∧ d.digitChar.toNat < 0x7F ∧
    d.digitChar ≠ '\x7d' := by decide

theorem end_notMem_hexadecimal (c : Char) : '\x7d' ∉ hexadecimal c := by
  intro member
  obtain ⟨d, digit, same⟩ := exists_digitChar member
  exact (ascii_digitChar d digit).2.2 same.symm

/-- The characters that have an escape of their own, with what stands behind the backslash. -/
def escapes : List (Char × Char) :=
  [('"', '"'), ('\\', '\\'), ('\n', 'n'), ('\r', 'r'), ('\t', 't'), ('\x00', '0')]

/-- The forms of a character between quotes: an escape of its own, its code point, or itself. -/
inductive QuotedAs (c : Char) : List Char → Prop
  | escape {e : Char} (known : (c, e) ∈ escapes) : QuotedAs c ['\\', e]
  | codePoint : QuotedAs c ('\\' :: 'u' :: '\x7b' :: (hexadecimal c ++ ['\x7d']))
  | plain (printed : isUnprinted c = false) (quote : c ≠ '"') (backslash : c ≠ '\\') :
    QuotedAs c [c]

theorem quotedAs (c : Char) : QuotedAs c (quoteChar c) := by
  rw [quoteChar]
  split_ifs with quote backslash line carriage tab nul unprinted
  · exact .escape (by simp [escapes, quote])
  · exact .escape (by simp [escapes, backslash])
  · exact .escape (by simp [escapes, line])
  · exact .escape (by simp [escapes, carriage])
  · exact .escape (by simp [escapes, tab])
  · exact .escape (by simp [escapes, nul])
  · exact .codePoint
  · exact .plain (by simpa using unprinted) quote backslash

namespace QuotedAs

variable {c d : Char} {cs ds r s : List Char}

theorem printed (form : QuotedAs c cs) (member : d ∈ cs) : isUnprinted d = false := by
  cases form with
  | escape known =>
    have escapes : ∀ p ∈ escapes, isUnprinted p.2 = false := by decide
    obtain rfl | rfl : d = '\\' ∨ d = _ := by simpa using member
    · rfl
    · exact escapes _ known
  | codePoint =>
    obtain rfl | rfl | rfl | figure | rfl :
        d = '\\' ∨ d = 'u' ∨ d = '\x7b' ∨ d ∈ hexadecimal c ∨ d = '\x7d' := by
      simpa using member
    · rfl
    · rfl
    · rfl
    · obtain ⟨digit, small, rfl⟩ := exists_digitChar figure
      obtain ⟨low, high, -⟩ := ascii_digitChar digit small
      exact printed_of_ascii low high
    · rfl
  | plain printed =>
    obtain rfl := List.mem_singleton.1 member
    exact printed

theorem exists_head (form : QuotedAs c cs) : ∃ first rest, cs = first :: rest ∧ first ≠ '"' := by
  cases form with
  | escape => exact ⟨_, _, rfl, by decide⟩
  | codePoint => exact ⟨_, _, rfl, by decide⟩
  | plain _ quote => exact ⟨_, _, rfl, quote⟩

theorem eq_of_append (form : QuotedAs c cs) (form' : QuotedAs d ds) (same : cs ++ r = ds ++ s) :
    c = d ∧ r = s := by
  have other : ∀ p ∈ escapes, p.2 ≠ 'u' := by decide
  have own : ∀ p ∈ escapes, ∀ q ∈ escapes, p.2 = q.2 → p.1 = q.1 := by decide
  cases form with
  | @escape e known =>
    cases form' with
    | @escape e' known' =>
      obtain ⟨equal, rest⟩ : e = e' ∧ r = s := by simpa using same
      exact ⟨own _ known _ known' equal, rest⟩
    | codePoint => exact absurd (List.cons.inj (List.cons.inj same).2).1 (other _ known)
    | plain _ _ backslash => exact absurd (List.cons.inj same).1.symm backslash
  | codePoint =>
    cases form' with
    | escape known' => exact absurd (List.cons.inj (List.cons.inj same).2).1.symm (other _ known')
    | codePoint =>
      have figures : hexadecimal c ++ '\x7d' :: r = hexadecimal d ++ '\x7d' :: s := by
        simpa using same
      obtain ⟨point, rest⟩ := eq_of_append_of_stop (end_notMem_hexadecimal c)
        (end_notMem_hexadecimal d) figures
      exact ⟨Char.toNat_inj.1 (eq_of_toDigits_eq point), (List.cons.inj rest).2⟩
    | plain _ _ backslash => exact absurd (List.cons.inj same).1.symm backslash
  | plain _ _ backslash =>
    cases form' with
    | escape => exact absurd (List.cons.inj same).1 backslash
    | codePoint => exact absurd (List.cons.inj same).1 backslash
    | plain => exact List.cons.inj same

end QuotedAs

theorem eq_of_quoted_append {cs ds r s : List Char}
    (same : cs.flatMap quoteChar ++ '"' :: r = ds.flatMap quoteChar ++ '"' :: s) :
    cs = ds ∧ r = s := by
  induction cs generalizing ds with
  | nil =>
    cases ds with
    | nil => exact ⟨rfl, (List.cons.inj same).2⟩
    | cons d ds =>
      obtain ⟨first, rest, form, other⟩ := (quotedAs d).exists_head
      rw [List.flatMap_cons, form] at same
      exact absurd (List.cons.inj same).1.symm other
  | cons c cs ih =>
    cases ds with
    | nil =>
      obtain ⟨first, rest, form, other⟩ := (quotedAs c).exists_head
      rw [List.flatMap_cons, form] at same
      exact absurd (List.cons.inj same).1 other
    | cons d ds =>
      rw [List.flatMap_cons, List.flatMap_cons, List.append_assoc, List.append_assoc] at same
      obtain ⟨rfl, others⟩ := (quotedAs c).eq_of_append (quotedAs d) same
      obtain ⟨rfl, rest⟩ := ih others
      exact ⟨rfl, rest⟩

theorem quote_append (t : String) (r : List Char) :
    (quote t).toList ++ r = '"' :: (t.toList.flatMap quoteChar ++ '"' :: r) := by
  simp [quote]

/-- A quoted text tells where it ends and which text it is. -/
theorem eq_of_quote_append {t u : String} {r s : List Char}
    (same : (quote t).toList ++ r = (quote u).toList ++ s) : t = u ∧ r = s := by
  rw [quote_append, quote_append] at same
  obtain ⟨texts, rest⟩ := eq_of_quoted_append (List.cons.inj same).2
  exact ⟨String.toList_injective texts, rest⟩

theorem printed_quote (t : String) {c : Char} (member : c ∈ (quote t).toList) :
    isUnprinted c = false := by
  have shown := quote_append t []
  rw [List.append_nil] at shown
  rw [shown] at member
  obtain rfl | later := List.mem_cons.1 member
  · rfl
  obtain inside | last := List.mem_append.1 later
  · obtain ⟨d, -, own⟩ := List.mem_flatMap.1 inside
    exact (quotedAs d).printed own
  · obtain rfl := List.mem_singleton.1 last
    rfl

def listChars (texts : List String) : List Char :=
  ", ".toList.intercalate (texts.map fun t => (quote t).toList)

theorem toList_quoteList (texts : List String) :
    (quoteList texts).toList = '[' :: (listChars texts ++ [']']) := by
  simp [quoteList, listChars, String.toList_append, String.toList_intercalate, Function.comp_def]

theorem listChars_cons (t : String) (rest : List String) (r : List Char) :
    listChars (t :: rest) ++ r = (quote t).toList ++
      (if rest = [] then r else ',' :: ' ' :: (listChars rest ++ r)) := by
  cases rest with
  | nil => simp [listChars]
  | cons u rest => simp [listChars]

theorem eq_of_listChars_append {texts texts' : List String}
    (same : listChars texts ++ [']'] = listChars texts' ++ [']']) : texts = texts' := by
  -- A list with a text in it is not shown as the end of one.
  have full : ∀ t rest, [']'] ≠ listChars (t :: rest) ++ [']'] := by
    intro t rest equal
    rw [listChars_cons, quote_append] at equal
    cases equal
  induction texts generalizing texts' with
  | nil =>
    cases texts' with
    | nil => rfl
    | cons u rest' => exact absurd same (full u rest')
  | cons t rest ih =>
    cases texts' with
    | nil => exact absurd same.symm (full t rest)
    | cons u rest' =>
      rw [listChars_cons, listChars_cons] at same
      obtain ⟨rfl, others⟩ := eq_of_quote_append same
      split_ifs at others with none none' none'
      · rw [none, none']
      · cases others
      · cases others
      · have tails := (List.cons.inj (List.cons.inj others).2).2
        rw [ih tails]

theorem printed_listChars {texts : List String} {c : Char} (member : c ∈ listChars texts) :
    isUnprinted c = false := by
  induction texts with
  | nil => cases member
  | cons t rest ih =>
    have shown := listChars_cons t rest []
    rw [List.append_nil, List.append_nil] at shown
    rw [shown] at member
    obtain first | later := List.mem_append.1 member
    · exact printed_quote t first
    · split_ifs at later
      · cases later
      · obtain rfl | rfl | inside : c = ',' ∨ c = ' ' ∨ c ∈ listChars rest := by simpa using later
        · rfl
        · rfl
        · exact ih inside

/-- A list of quoted texts is printed as a whole, and no two lists are shown alike. -/
theorem quoteList_printed_injective :
    (∀ texts, ∀ c ∈ (quoteList texts).toList, isUnprinted c = false) ∧
      ∀ texts texts', quoteList texts = quoteList texts' → texts = texts' := by
  constructor
  · intro texts c member
    rw [toList_quoteList] at member
    obtain rfl | later := List.mem_cons.1 member
    · rfl
    obtain inside | last := List.mem_append.1 later
    · exact printed_listChars inside
    · obtain rfl := List.mem_singleton.1 last
      rfl
  · intro texts texts' same
    have chars := congrArg String.toList same
    rw [toList_quoteList, toList_quoteList] at chars
    exact eq_of_listChars_append (List.cons.inj chars).2

end RpcRouting.Text
