import Mathlib.Data.String.Basic
import Mathlib.Tactic.SplitIfs
/-!
The order of texts. By their code points and by their bytes in UTF-8 texts are ordered alike: of two
characters the one with the smaller code point has the smaller first byte that differs.
-/

set_option autoImplicit false
set_option relaxedAutoImplicit false

namespace RpcRouting.Text

variable {v w count : Nat} {c d : Char}

def followers (v : Nat) : Nat :=
  if v ≤ 0x7f then 0 else if v ≤ 0x7ff then 1 else if v ≤ 0xffff then 2 else 3

def firstByte (v : Nat) : Nat :=
  if v ≤ 0x7f then v else if v ≤ 0x7ff then v / 64 + 0xc0
  else if v ≤ 0xffff then v / 4096 + 0xe0 else v / 262144 + 0xf0

def followingBytes (v : Nat) : Nat → List UInt8
  | 0 => []
  | count + 1 => .ofNat (v / 64 ^ count % 64 + 0x80) :: followingBytes v count

theorem codePoint_le (c : Char) : c.toNat ≤ 0x10ffff := by
  have valid : c.toNat.isValidChar := c.valid
  rcases valid with low | high
  · omega
  · omega

theorem utf8EncodeChar_eq (c : Char) : String.utf8EncodeChar c =
    .ofNat (firstByte c.toNat) :: followingBytes c.toNat (followers c.toNat) := by
  have bound := codePoint_le c
  have same : c.val.toNat = c.toNat := rfl
  rw [String.utf8EncodeChar]
  simp only [same, firstByte, followers]
  generalize c.toNat = v at bound
  split_ifs with one two three
  · rfl
  · have high : v / 64 % 32 = v / 64 := by omega
    simp [followingBytes, high]
  · have high : v / 4096 % 16 = v / 4096 := by omega
    simp [followingBytes, high]
  · have high : v / 262144 % 8 = v / 262144 := by omega
    simp [followingBytes, high]

theorem firstByte_lt_size (bound : v ≤ 0x10ffff) : firstByte v < UInt8.size := by
  rw [firstByte]
  split_ifs <;> simp only [UInt8.size] <;> omega

theorem followingBytes_append_lt (less : v % 64 ^ count < w % 64 ^ count) (r s : List UInt8) :
    followingBytes v count ++ r < followingBytes w count ++ s := by
  induction count with
  | zero => simp [Nat.mod_one] at less
  | succ count ih =>
    -- The highest six bits stand first and decide, unless they are the same.
    have high : v / 64 ^ count % 64 ≤ w / 64 ^ count % 64 := by
      have quotients := Nat.div_le_div_right (c := 64 ^ count) less.le
      rwa [Nat.pow_succ, Nat.mod_mul_right_div_self, Nat.mod_mul_right_div_self] at quotients
    have small : v / 64 ^ count % 64 + 0x80 < UInt8.size := by simp only [UInt8.size]; omega
    have small' : w / 64 ^ count % 64 + 0x80 < UInt8.size := by simp only [UInt8.size]; omega
    rw [followingBytes, followingBytes, List.cons_append, List.cons_append, List.cons_lt_cons_iff,
      UInt8.ofNat_lt_iff_lt small small']
    rcases Nat.lt_or_eq_of_le high with differ | same
    · left
      omega
    · right
      rw [Nat.mod_pow_succ, Nat.mod_pow_succ, same] at less
      exact ⟨by rw [same], ih (by omega)⟩

theorem firstByte_lt_or (less : v < w) (bound : w ≤ 0x10ffff) :
    firstByte v < firstByte w ∨ firstByte v = firstByte w ∧ followers v = followers w ∧
      v % 64 ^ followers v < w % 64 ^ followers w := by
  simp only [firstByte, followers]
  split_ifs <;> omega

theorem utf8EncodeChar_append_lt (less : c < d) (r s : List UInt8) :
    String.utf8EncodeChar c ++ r < String.utf8EncodeChar d ++ s := by
  have points : c.toNat < d.toNat := UInt32.lt_iff_toNat_lt.1 less
  rw [utf8EncodeChar_eq, utf8EncodeChar_eq, List.cons_append, List.cons_append,
    List.cons_lt_cons_iff,
    UInt8.ofNat_lt_iff_lt (firstByte_lt_size (codePoint_le c)) (firstByte_lt_size (codePoint_le d))]
  rcases firstByte_lt_or points (codePoint_le d) with first | ⟨first, count, rest⟩
  · exact .inl first
  · right
    rw [count] at rest ⊢
    exact ⟨by rw [first], followingBytes_append_lt rest r s⟩

theorem encode_lt_of_lt {cs ds : List Char} (less : cs < ds) :
    cs.flatMap String.utf8EncodeChar < ds.flatMap String.utf8EncodeChar := by
  induction cs generalizing ds with
  | nil =>
    cases ds with
    | nil => exact absurd less (List.lt_irrefl _)
    | cons d ds =>
      rw [List.flatMap_cons, utf8EncodeChar_eq]
      exact List.nil_lt_cons _ _
  | cons c cs ih =>
    cases ds with
    | nil => exact absurd less (List.not_lt_nil _)
    | cons d ds =>
      rw [List.flatMap_cons, List.flatMap_cons]
      rcases List.cons_lt_cons_iff.1 less with first | ⟨rfl, rest⟩
      · exact utf8EncodeChar_append_lt first _ _
      · exact List.append_left_lt (ih rest)

/-- The bytes of a text in UTF-8. -/
def octets (s : String) : List UInt8 := s.toByteArray.data.toList

theorem octets_eq (s : String) : octets s = s.toList.flatMap String.utf8EncodeChar := by
  have chars : s.toByteArray = s.toList.utf8Encode := by
    rw [← String.toByteArray_ofList, String.ofList_toList]
  rw [octets, chars, List.utf8Encode, List.data_toByteArray]

theorem octets_lt_of_lt {s t : String} (less : s < t) : octets s < octets t := by
  rw [octets_eq, octets_eq]
  exact encode_lt_of_lt (String.lt_iff.1 less)

/-- Bytes and code points put two texts into the same order. -/
theorem octets_lt_iff (s t : String) : octets s < octets t ↔ s < t := by
  constructor
  · intro less
    rcases lt_trichotomy s t with below | rfl | above
    · exact below
    · exact absurd less (List.lt_irrefl _)
    · exact absurd less (List.lt_asymm (octets_lt_of_lt above))
  · exact octets_lt_of_lt

end RpcRouting.Text
