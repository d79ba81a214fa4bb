import Mathlib.Data.List.TakeDrop
import Mathlib.Data.List.TakeWhile
import Mathlib.Tactic.FinCases
import Mathlib.Tactic.IntervalCases
import RpcRouting.Json.Read
/-!
The tokens of a value are found in its compact text: strings are unescaped, numbers and constants
end where a mark follows, and the marks are the tokens between them (`Json.tokens?_chars`).
-/

set_option autoImplicit false
set_option relaxedAutoImplicit false

namespace RpcRouting

theorem foldlM_append_of_some {σ α : Type} {step : σ → α → Option σ} {s s' : σ} {xs : List α}
    (run : xs.foldlM step s = some s') (ys : List α) :
    (xs ++ ys).foldlM step s = ys.foldlM step s' := by
  rw [List.foldlM_append, run]
  rfl

theorem foldlM_cons_of_some {σ α : Type} {step : σ → α → Option σ} {s s' : σ} {x : α}
    (first : step s x = some s') (xs : List α) :
    (x :: xs).foldlM step s = xs.foldlM step s' := by
  rw [List.foldlM_cons, first]
  rfl

namespace Json

mutual

/-- All numbers in the value are whole and fit into 64 bits, with a sign or without one. -/
def Whole : Json → Prop
  | integer value => -0x8000000000000000 ≤ value ∧ value < 0x10000000000000000
  | floating _ => False
  | array items => WholeAll items
  | object fields => WholeFields fields
  | _ => True

def WholeAll : List Json → Prop
  | [] => True
  | item :: rest => item.Whole ∧ WholeAll rest

def WholeFields : List (String × Json) → Prop
  | [] => True
  | (_, value) :: rest => value.Whole ∧ WholeFields rest

end

mutual

/-- The tokens in the text of a value. -/
def tokens : Json → List Token
  | text value => [.text value]
  | array items => .mark '[' :: itemsTokens items ++ [.mark ']']
  | object fields => .mark '\x7b' :: fieldsTokens fields ++ [.mark '\x7d']
  | value => [.scalar value]

def itemsTokens : List Json → List Token
  | [] => []
  | [item] => tokens item
  | item :: rest => tokens item ++ .mark ',' :: itemsTokens rest

def fieldsTokens : List (String × Json) → List Token
  | [] => []
  | [(key, value)] => .text key :: .mark ':' :: tokens value
  | (key, value) :: rest =>
    .text key :: .mark ':' :: tokens value ++ .mark ',' :: fieldsTokens rest

end

theorem head?_toDigits_ne_zero {n : Nat} (positive : 0 < n) :
    (Nat.toDigits 10 n).head? ≠ some '0' := by
  induction n using Nat.strongRecOn with
  | ind n ih =>
    rw [Nat.toDigits_eq_if (by decide)]
    split
    · have other : n ≠ 0 := by omega
      simpa using other
    · have earlier := ih (n / 10) (by omega) (by omega)
      rwa [List.head?_append_of_ne_nil _ Nat.toDigits_ne_nil]

theorem span_toDigits (n : Nat) :
    (Nat.toDigits 10 n).span Char.isDigit = (Nat.toDigits 10 n, []) := by
  have digits : ∀ c ∈ Nat.toDigits 10 n, c.isDigit := by
    intro c member
    exact Nat.isDigit_of_mem_toDigits (by decide) (by decide) member
  rw [List.span_eq_takeWhile_dropWhile, List.takeWhile_eq_self_iff.2 digits,
    List.dropWhile_eq_nil_iff.2 digits]

theorem plain_toDigits (n : Nat) : ¬ (Nat.toDigits 10 n = [] ∨
    ((Nat.toDigits 10 n).head? = some '0' ∧ 1 < (Nat.toDigits 10 n).length)) := by
  rintro (empty | ⟨zero, long⟩)
  · exact Nat.toDigits_ne_nil empty
  · have none : n = 0 := by
      by_contra other
      exact head?_toDigits_ne_zero (Nat.pos_of_ne_zero other) zero
    subst none
    simp at long

theorem unsigned?_toDigits (negative : Bool) {n : Nat}
    (fits : if negative then 0 < n ∧ n ≤ 0x8000000000000000 else n < 0x10000000000000000) :
    unsigned? negative (Nat.toDigits 10 n) =
      some (integer (if negative then -(n : Int) else n)) := by
  have value : digitsValue (Nat.toDigits 10 n) = n := Nat.ofDigitChars_ten_toDigits
  have plain := plain_toDigits n
  rw [unsigned?, span_toDigits]
  simp only [value, if_neg plain]
  cases negative <;> simp_all

/-- Neither blank nor a mark nor a quote. -/
def InWord (c : Char) : Prop :=
  ¬ (c = ' ' ∨ c = '\t' ∨ c = '\n' ∨ c = '\r') ∧ c ∉ ['[', ']', '\x7b', '\x7d', ':', ','] ∧ c ≠ '"'

instance : DecidablePred InWord := fun _ => inferInstanceAs (Decidable (_ ∧ _ ∧ _))

theorem inWord_of_isDigit {c : Char} (digit : c.isDigit) : InWord c := by
  refine ⟨?_, ?_, ?_⟩
  · rintro (rfl | rfl | rfl | rfl) <;> cases digit
  · intro member
    fin_cases member <;> cases digit
  · rintro rfl
    cases digit

theorem scalar?_toDigits (n : Nat) :
    scalar? (Nat.toDigits 10 n) = unsigned? false (Nat.toDigits 10 n) := by
  obtain ⟨c, cs, digits⟩ := List.exists_cons_of_ne_nil (Nat.toDigits_ne_nil (n := n) (b := 10))
  have digit : c.isDigit := by
    apply Nat.isDigit_of_mem_toDigits (b := 10) (n := n) (by decide) (by decide)
    rw [digits]
    exact List.mem_cons_self
  have other : ∀ d, d.isDigit = false → c ≠ d := by
    rintro d none rfl
    rw [digit] at none
    cases none
  have sign := other '-' rfl
  rw [digits, scalar?]
  simp only [List.cons.injEq, other 'n' rfl, other 't' rfl, other 'f' rfl, false_and, if_false]
  intro rest same
  exact sign (List.cons.inj same).1

theorem exists_word {value : Int} (whole : (integer value).Whole) :
    (toString value).toList ≠ [] ∧ (∀ c ∈ (toString value).toList, InWord c) ∧
      scalar? (toString value).toList = some (integer value) := by
  have inWord : ∀ n, ∀ c ∈ Nat.toDigits 10 n, InWord c := by
    intro n c member
    exact inWord_of_isDigit (Nat.isDigit_of_mem_toDigits (by decide) (by decide) member)
  obtain ⟨low, high⟩ := whole
  rw [Int.toString_eq_repr, Int.repr_eq_if]
  split
  · next positive =>
    have read := unsigned?_toDigits false (n := value.toNat) (by simp; omega)
    rw [Nat.toList_repr]
    refine ⟨Nat.toDigits_ne_nil, inWord _, ?_⟩
    rw [scalar?_toDigits, read]
    simp [Int.toNat_of_nonneg positive]
  · next negative =>
    have read := unsigned?_toDigits true (n := (-value).toNat) (by simp; omega)
    have chars : ("-" ++ (-value).toNat.repr).toList = '-' :: Nat.toDigits 10 (-value).toNat := by
      rw [String.toList_append, Nat.toList_repr]
      rfl
    rw [chars]
    refine ⟨List.cons_ne_nil _ _, ?_, ?_⟩
    · intro c member
      rcases List.mem_cons.1 member with rfl | member
      · decide
      · exact inWord _ c member
    · have magnitude : -((-value).toNat : Int) = value := by omega
      have word : scalar? ('-' :: Nat.toDigits 10 (-value).toNat) =
          unsigned? true (Nat.toDigits 10 (-value).toNat) := by
        simp [scalar?]
      rw [word, read, if_pos rfl, magnitude]

namespace Lexer

/-- From between two tokens on, the lexer finds the tokens in the characters; then it stands between
two tokens again. -/
def Lexes (cs : List Char) (ts : List Token) : Prop :=
  ∀ before, cs.foldlM step? ⟨before, .between⟩ = some ⟨ts.reverse ++ before, .between⟩

/-- As `Lexes`, but the last token may be a word that goes on. -/
def Reads (cs : List Char) (ts : List Token) : Prop :=
  ∀ before, ∃ l, cs.foldlM step? ⟨before, .between⟩ = some l ∧
    l.endWord? = some ⟨ts.reverse ++ before, .between⟩

variable {cs cs' : List Char} {ts ts' : List Token}

theorem Lexes.reads (lexes : Lexes cs ts) : Reads cs ts := fun before => ⟨_, lexes before, rfl⟩

theorem Lexes.append (lexes : Lexes cs ts) (lexes' : Lexes cs' ts') :
    Lexes (cs ++ cs') (ts ++ ts') := by
  intro before
  rw [foldlM_append_of_some (lexes before), lexes', List.reverse_append, List.append_assoc]

theorem Lexes.append_reads (lexes : Lexes cs ts) (reads : Reads cs' ts') :
    Reads (cs ++ cs') (ts ++ ts') := by
  intro before
  obtain ⟨l, run, ended⟩ := reads (ts.reverse ++ before)
  refine ⟨l, ?_, ?_⟩
  · rw [foldlM_append_of_some (lexes before), run]
  · rw [ended, List.reverse_append, List.append_assoc]

/-- What stands outside a string ends a word. -/
theorem step?_of_endWord? {l l' : Lexer} (ended : l.endWord? = some l') (c : Char) :
    l.step? c = l.outside? c := by
  obtain ⟨tokens, mode⟩ := l
  cases mode <;> first | rfl | cases ended

theorem Reads.mark {c : Char} (mark : c ∈ ['[', ']', '\x7b', '\x7d', ':', ','])
    (reads : Reads cs ts) :
    Lexes (cs ++ [c]) (ts ++ [.mark c]) := by
  intro before
  obtain ⟨l, run, ended⟩ := reads before
  have printed : ¬ (c = ' ' ∨ c = '\t' ∨ c = '\n' ∨ c = '\r') := by
    fin_cases mark <;> decide
  have step : l.step? c = some ⟨.mark c :: (ts.reverse ++ before), .between⟩ := by
    rw [step?_of_endWord? ended, outside?, if_neg printed, if_pos mark, ended, Option.map_some]
  rw [foldlM_append_of_some run, foldlM_cons_of_some step]
  simp

theorem lexes_nil : Lexes [] [] := fun _ => rfl

theorem lexes_mark {c : Char} (mark : c ∈ ['[', ']', '\x7b', '\x7d', ':', ',']) :
    Lexes [c] [.mark c] :=
  lexes_nil.reads.mark mark

theorem foldlM_word {word done : List Char} (inWord : ∀ c ∈ word, InWord c) (before : List Token) :
    word.foldlM step? ⟨before, .word done⟩ = some ⟨before, .word (word.reverse ++ done)⟩ := by
  induction word generalizing done with
  | nil => rfl
  | cons c rest ih =>
    obtain ⟨printed, inner, -⟩ := inWord c List.mem_cons_self
    have step : step? ⟨before, .word done⟩ c = some ⟨before, .word (c :: done)⟩ := by
      rw [step?, outside?, if_neg printed, if_neg inner]
    rw [foldlM_cons_of_some step, ih fun c member => inWord c (List.mem_cons_of_mem _ member),
      List.reverse_cons, List.append_assoc, List.singleton_append]

theorem reads_word {word : List Char} {value : Json} (full : word ≠ [])
    (inWord : ∀ c ∈ word, InWord c) (scalar : scalar? word = some value) :
    Reads word [.scalar value] := by
  intro before
  obtain ⟨c, rest, rfl⟩ := List.exists_cons_of_ne_nil full
  obtain ⟨printed, inner, quote⟩ := inWord c List.mem_cons_self
  have step : step? ⟨before, .between⟩ c = some ⟨before, .word [c]⟩ := by
    rw [step?, outside?, if_neg printed, if_neg inner, if_neg quote]
  refine ⟨⟨before, .word (rest.reverse ++ [c])⟩, ?_, ?_⟩
  · rw [foldlM_cons_of_some step]
    exact foldlM_word (fun c member => inWord c (List.mem_cons_of_mem _ member)) before
  · have word : (rest.reverse ++ [c]).reverse = c :: rest := by simp
    simp only [endWord?, word, scalar]
    rfl

end Lexer

/-- How a character of a string is read back. -/
def unit (c : Char) : StringUnit :=
  if c.toNat < 0x20 ∧ c ∉ ['\x08', '\x0c', '\n', '\r', '\t'] then .escaped c.toNat else .plain c

theorem charsOfUnits?_escaped {control : Nat} (low : control < 0x20) (units : List StringUnit) :
    charsOfUnits? (.escaped control :: units) =
      (charsOfUnits? units).map (Char.ofNat control :: ·) := by
  have high : ¬ (0xD800 ≤ control ∧ control < 0xDC00) := by omega
  have highest : ¬ (0xDC00 ≤ control ∧ control < 0xE000) := by omega
  have surrogate : ¬ (0xD800 ≤ control ∧ control < 0xE000) := by omega
  rcases units with - | ⟨- | -, rest⟩
  · simp [charsOfUnits?, surrogate]
  · simp [charsOfUnits?, surrogate]
  · rw [charsOfUnits?, if_neg high, if_neg highest]

theorem charsOfUnits?_unit (cs : List Char) : charsOfUnits? (cs.map unit) = some cs := by
  induction cs with
  | nil => rfl
  | cons c rest ih =>
    rw [List.map_cons, unit]
    split
    · next control =>
      rw [charsOfUnits?_escaped control.1, ih, Option.map_some, Char.ofNat_toNat]
    · rw [charsOfUnits?, ih, Option.map_some]

theorem hexDigit?_digitChar {d : Nat} (digit : d < 16) : hexDigit? d.digitChar = some d := by
  interval_cases d <;> decide

namespace Lexer

variable (before : List Token) (done : List StringUnit)

theorem foldlM_escape {short c : Char} (escape : shortEscape? short = some c)
    (other : short ≠ 'u') :
    ['\\', short].foldlM step? ⟨before, .string done⟩ =
      some ⟨before, .string (.plain c :: done)⟩ := by
  have begun : step? ⟨before, .string done⟩ '\\' = some ⟨before, .escape done⟩ := rfl
  have ended : step? ⟨before, .escape done⟩ short = some ⟨before, .string (.plain c :: done)⟩ := by
    simp only [step?, if_neg other, escape]
    rfl
  rw [foldlM_cons_of_some begun, foldlM_cons_of_some ended]
  rfl

theorem step?_unicode {d : Nat} (digit : d < 16) (digits value : Nat) :
    step? ⟨before, .unicode done digits value⟩ d.digitChar =
      some ⟨before, if digits = 3 then .string (.escaped (value * 16 + d) :: done)
        else .unicode done (digits + 1) (value * 16 + d)⟩ := by
  simp only [step?, hexDigit?_digitChar digit]
  rfl

theorem foldlM_hexadecimal4 {c : Char} (short : c.toNat < 0x10000) :
    (['\\', 'u'] ++ hexadecimal4 c).foldlM step? ⟨before, .string done⟩ =
      some ⟨before, .string (.escaped c.toNat :: done)⟩ := by
  have begun : ['\\', 'u'].foldlM step? ⟨before, .string done⟩ =
      some ⟨before, .unicode done 0 0⟩ := rfl
  have value : (((0 * 16 + c.toNat / 4096 % 16) * 16 + c.toNat / 256 % 16) * 16 +
      c.toNat / 16 % 16) * 16 + c.toNat % 16 = c.toNat := by omega
  have digit : ∀ n, n % 16 < 16 := fun n => Nat.mod_lt n (by decide)
  rw [foldlM_append_of_some begun, hexadecimal4]
  simp only [List.map_cons, List.map_nil, List.foldlM_cons, step?_unicode _ _ (digit _),
    Option.bind_eq_bind, Option.bind_some, Nat.reduceEqDiff, Nat.reduceAdd, reduceIte, value]
  rfl

theorem foldlM_stringChar (c : Char) :
    (stringChar c).foldlM step? ⟨before, .string done⟩ =
      some ⟨before, .string (unit c :: done)⟩ := by
  rw [stringChar]
  split_ifs with quote backslash backspace feed line carriage tab control
  · subst quote
    exact foldlM_escape before done rfl (by decide)
  · subst backslash
    exact foldlM_escape before done rfl (by decide)
  · subst backspace
    exact foldlM_escape before done rfl (by decide)
  · subst feed
    exact foldlM_escape before done rfl (by decide)
  · subst line
    exact foldlM_escape before done rfl (by decide)
  · subst carriage
    exact foldlM_escape before done rfl (by decide)
  · subst tab
    exact foldlM_escape before done rfl (by decide)
  · have escaped : unit c = .escaped c.toNat := by
      rw [unit, if_pos]
      simp [control, backspace, feed, line, carriage, tab]
    rw [escaped]
    exact foldlM_hexadecimal4 before done (by omega)
  · have plain : unit c = .plain c := by
      rw [unit, if_neg fun low => control low.1]
    rw [plain, List.foldlM_cons]
    simp only [step?, if_neg quote, if_neg backslash, if_neg control]
    rfl

theorem foldlM_flatMap_stringChar (cs : List Char) :
    (cs.flatMap stringChar).foldlM step? ⟨before, .string done⟩ =
      some ⟨before, .string ((cs.map unit).reverse ++ done)⟩ := by
  induction cs generalizing done with
  | nil => rfl
  | cons c rest ih =>
    rw [List.flatMap_cons, foldlM_append_of_some (foldlM_stringChar before done c), ih,
      List.map_cons, List.reverse_cons, List.append_assoc, List.singleton_append]

theorem lexes_stringChars (s : String) : Lexes (stringChars s) [.text s] := by
  intro before
  have opened : step? ⟨before, .between⟩ '"' = some ⟨before, .string []⟩ := rfl
  have units : (s.toList.map unit).reverse.reverse = s.toList.map unit := List.reverse_reverse _
  have closed : step? ⟨before, .string (s.toList.map unit).reverse⟩ '"' =
      some ⟨.text s :: before, .between⟩ := by
    simp only [step?, reduceIte, units, charsOfUnits?_unit, Option.map_some, String.ofList_toList]
  have inside := foldlM_flatMap_stringChar before [] s.toList
  rw [List.append_nil] at inside
  rw [stringChars, List.cons_append, foldlM_cons_of_some opened, foldlM_append_of_some inside,
    foldlM_cons_of_some closed]
  rfl

end Lexer

mutual

theorem reads_chars : ∀ j : Json, j.Whole → Lexer.Reads j.chars j.tokens
  | null, _ => Lexer.reads_word (by decide) (by simp [chars, InWord]) rfl
  | boolean value, _ => by
    cases value <;> exact Lexer.reads_word (by decide) (by simp [chars, InWord]) rfl
  | integer value, whole => by
    obtain ⟨full, inWord, scalar⟩ := exists_word whole
    exact Lexer.reads_word full inWord scalar
  | floating _, whole => whole.elim
  | text value, _ => (Lexer.lexes_stringChars value).reads
  | array items, whole => by
    have opened := Lexer.lexes_mark (c := '[') (by decide)
    have inside := opened.append_reads (reads_itemsChars items whole)
    exact (inside.mark (c := ']') (by decide)).reads
  | object fields, whole => by
    have opened := Lexer.lexes_mark (c := '\x7b') (by decide)
    have inside := opened.append_reads (reads_fieldsChars fields whole)
    exact (inside.mark (c := '\x7d') (by decide)).reads

theorem reads_itemsChars : ∀ items : List Json, WholeAll items →
    Lexer.Reads (itemsChars items) (itemsTokens items)
  | [], _ => Lexer.lexes_nil.reads
  | [item], whole => reads_chars item whole.1
  | item :: next :: rest, whole => by
    have first := (reads_chars item whole.1).mark (c := ',') (by decide)
    have others := first.append_reads (reads_itemsChars (next :: rest) whole.2)
    simpa [itemsChars, itemsTokens] using others

theorem reads_fieldsChars : ∀ fields : List (String × Json), WholeFields fields →
    Lexer.Reads (fieldsChars fields) (fieldsTokens fields)
  | [], _ => Lexer.lexes_nil.reads
  | [(key, value)], whole => by
    have name := (Lexer.lexes_stringChars key).reads.mark (c := ':') (by decide)
    have field := name.append_reads (reads_chars value whole.1)
    simpa [fieldsChars, fieldsTokens] using field
  | (key, value) :: next :: rest, whole => by
    have name := (Lexer.lexes_stringChars key).reads.mark (c := ':') (by decide)
    have field := (name.append_reads (reads_chars value whole.1)).mark (c := ',') (by decide)
    have others := field.append_reads (reads_fieldsChars (next :: rest) whole.2)
    simpa [fieldsChars, fieldsTokens] using others

end

theorem tokens?_chars {j : Json} (whole : j.Whole) : Lexer.tokens? j.chars = some j.tokens := by
  obtain ⟨l, run, ended⟩ := reads_chars j whole []
  simp [Lexer.tokens?, run, ended]

end Json

end RpcRouting
