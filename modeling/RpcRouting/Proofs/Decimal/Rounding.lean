import Mathlib.Algebra.Order.Field.Power
import Mathlib.Algebra.Order.Ring.Rat
import Mathlib.Tactic.FieldSimp
import Mathlib.Tactic.Linarith
import Mathlib.Tactic.Positivity
import Mathlib.Tactic.Ring
import RpcRouting.Decimal.Binary64
/-!
Which rational numbers read back as a binary number. They are those between the middles of the ways
to the numbers next to it (`Binary64.readsBack_iff`), and nothing reads back as two numbers.
-/

set_option autoImplicit false
set_option relaxedAutoImplicit false

namespace RpcRouting

namespace Binary64

/-- What the last bit of the mantissa counts for. -/
def grain (x : Binary64) : ℚ := 2 ^ x.scale

def magnitude (x : Binary64) : ℚ := x.mantissa * x.grain

/-- The way to the next smaller number. -/
def grainBelow (x : Binary64) : ℚ := if x.isNarrowBelow then x.grain / 2 else x.grain

/-- The numbers of 53 bits. There is no greatest one: what lies behind the middle between the
greatest finite number and the next one is not read as a finite number. -/
def IsBinary (y : ℚ) : Prop :=
  ∃ (m : ℕ) (s : ℤ), m < 0x20000000000000 ∧ -1074 ≤ s ∧ y = m * 2 ^ s

/-- No number of 53 bits is nearer to `q` than `x` is. If another one is as near, the mantissa of
`x` is even. -/
def ReadsBack (x : Binary64) (q : ℚ) : Prop :=
  ∀ y, IsBinary y → y ≠ x.magnitude →
    |q - x.magnitude| < |q - y| ∨ |q - x.magnitude| = |q - y| ∧ x.mantissa % 2 = 0

theorem fractionBits_lt (x : Binary64) : x.fractionBits < 0x10000000000000 := by
  have masked : x.fractionBits ≤ 0xFFFFFFFFFFFFF := by
    rw [fractionBits, UInt64.toNat_and]
    exact Nat.and_le_right
  omega

theorem mantissa_lt (x : Binary64) : x.mantissa < 0x20000000000000 := by
  have fraction := x.fractionBits_lt
  rw [mantissa]
  split <;> omega

theorem le_scale (x : Binary64) : -1074 ≤ x.scale := by
  rw [scale]
  split <;> omega

theorem mantissa_of_narrow {x : Binary64} (narrow : x.isNarrowBelow) :
    x.mantissa = 0x10000000000000 ∧ -1074 < x.scale := by
  rw [isNarrowBelow, Bool.and_eq_true, decide_eq_true_eq, decide_eq_true_eq] at narrow
  obtain ⟨none, normal⟩ := narrow
  have other : x.exponentBits ≠ 0 := by omega
  rw [mantissa, scale, if_neg other, if_neg other]
  omega

theorem lt_mantissa_of_wide {x : Binary64} (wide : ¬ x.isNarrowBelow) (fine : -1074 < x.scale) :
    0x10000000000000 < x.mantissa := by
  rw [isNarrowBelow, Bool.and_eq_true, decide_eq_true_eq, decide_eq_true_eq] at wide
  rw [scale] at fine
  rw [mantissa]
  split at fine <;> split <;> omega

theorem le_mantissa {x : Binary64} (fine : -1074 < x.scale) : 0x10000000000000 ≤ x.mantissa := by
  by_cases narrow : x.isNarrowBelow
  · exact (mantissa_of_narrow narrow).1.ge
  · exact (lt_mantissa_of_wide narrow fine).le

theorem grain_pos (x : Binary64) : 0 < x.grain := zpow_pos (by norm_num) _

theorem grainBelow_pos (x : Binary64) : 0 < x.grainBelow := by
  have positive := x.grain_pos
  rw [grainBelow]
  split <;> linarith

theorem grainBelow_le_grain (x : Binary64) : x.grainBelow ≤ x.grain := by
  have positive := x.grain_pos
  rw [grainBelow]
  split <;> linarith

/-- A number with a scale as large is a multiple of the grain. -/
theorem exists_multiple {x : Binary64} {s : ℤ} (coarse : x.scale ≤ s) (m : ℕ) :
    ∃ k : ℕ, (m : ℚ) * 2 ^ s = k * x.grain := by
  refine ⟨m * 2 ^ (s - x.scale).toNat, ?_⟩
  have parts : (2 : ℚ) ^ s = 2 ^ (s - x.scale).toNat * x.grain := by
    rw [grain, ← zpow_natCast, ← zpow_add₀ (by norm_num)]
    congr 1
    omega
  rw [parts]
  push_cast
  ring

/-- A number with a smaller scale is smaller by far. -/
theorem fine_le {x : Binary64} {m : ℕ} {s : ℤ} (short : m < 0x20000000000000) (fine : s < x.scale) :
    (m : ℚ) * 2 ^ s ≤ (0x10000000000000 - 1 / 2) * x.grain := by
  have half : (2 : ℚ) ^ s ≤ x.grain / 2 := by
    have step : x.grain / 2 = 2 ^ (x.scale - 1) := by
      rw [grain, zpow_sub_one₀ (by norm_num)]
      rfl
    rw [step]
    exact zpow_le_zpow_right₀ (by norm_num) (by omega)
  have most : (m : ℚ) ≤ 0x20000000000000 - 1 := by
    have most : (m : ℚ) + 1 ≤ 0x20000000000000 := by exact_mod_cast short
    linarith
  have positive : (0 : ℚ) ≤ 2 ^ s := (zpow_pos (by norm_num) s).le
  calc (m : ℚ) * 2 ^ s ≤ (0x20000000000000 - 1) * 2 ^ s := by gcongr
    _ ≤ (0x20000000000000 - 1) * (x.grain / 2) := by gcongr
    _ = (0x10000000000000 - 1 / 2) * x.grain := by ring

variable {x : Binary64} {y q : ℚ}

theorem le_of_magnitude_lt (binary : IsBinary y) (above : x.magnitude < y) :
    x.magnitude + x.grain ≤ y := by
  obtain ⟨m, s, short, least, rfl⟩ := binary
  have positive := x.grain_pos
  rcases le_or_gt x.scale s with coarse | fine
  · obtain ⟨k, multiple⟩ := exists_multiple coarse m
    rw [magnitude, multiple] at above
    have more : x.mantissa < k := by exact_mod_cast lt_of_mul_lt_mul_right above positive.le
    have next : (x.mantissa : ℚ) + 1 ≤ k := by exact_mod_cast more
    rw [magnitude, multiple]
    linarith [mul_le_mul_of_nonneg_right next positive.le]
  · have bound := fine_le short fine
    have large : (0x10000000000000 : ℚ) ≤ x.mantissa := by
      exact_mod_cast le_mantissa (x := x) (by omega)
    rw [magnitude] at above
    linarith [mul_le_mul_of_nonneg_right large positive.le]

theorem le_of_lt_magnitude (binary : IsBinary y) (below : y < x.magnitude) :
    y ≤ x.magnitude - x.grainBelow := by
  obtain ⟨m, s, short, least, rfl⟩ := binary
  have positive := x.grain_pos
  rcases le_or_gt x.scale s with coarse | fine
  · obtain ⟨k, multiple⟩ := exists_multiple coarse m
    rw [magnitude, multiple] at below
    have less : k < x.mantissa := by exact_mod_cast lt_of_mul_lt_mul_right below positive.le
    have next : (k : ℚ) + 1 ≤ x.mantissa := by exact_mod_cast less
    rw [magnitude, multiple]
    linarith [mul_le_mul_of_nonneg_right next positive.le, x.grainBelow_le_grain]
  · have bound := fine_le short fine
    rw [magnitude, grainBelow]
    split
    · next narrow =>
      rw [(mantissa_of_narrow narrow).1]
      push_cast
      linarith
    · next wide =>
      have large : (0x10000000000000 : ℚ) + 1 ≤ x.mantissa := by
        exact_mod_cast lt_mantissa_of_wide wide (by omega)
      linarith [mul_le_mul_of_nonneg_right large positive.le]

theorem isBinary_above (x : Binary64) : IsBinary (x.magnitude + x.grain) := by
  have sum : x.magnitude + x.grain = (x.mantissa + 1) * x.grain := by rw [magnitude]; ring
  have least := x.le_scale
  by_cases short : x.mantissa + 1 < 0x20000000000000
  · exact ⟨x.mantissa + 1, x.scale, short, least, by rw [sum, grain]; push_cast; rfl⟩
  · have full : x.mantissa + 1 = 0x20000000000000 := by
      have most := x.mantissa_lt
      omega
    have full : (x.mantissa : ℚ) + 1 = 0x20000000000000 := by exact_mod_cast full
    refine ⟨0x10000000000000, x.scale + 1, by norm_num, by omega, ?_⟩
    rw [sum, full, grain, zpow_add_one₀ (by norm_num)]
    push_cast
    ring

theorem isBinary_below (nonzero : x.mantissa ≠ 0) : IsBinary (x.magnitude - x.grainBelow) := by
  have least := x.le_scale
  have short := x.mantissa_lt
  rw [magnitude, grainBelow]
  split
  · next narrow =>
    obtain ⟨smallest, fine⟩ := mantissa_of_narrow narrow
    refine ⟨0x1FFFFFFFFFFFFF, x.scale - 1, by norm_num, by omega, ?_⟩
    rw [smallest, grain, zpow_sub_one₀ (by norm_num)]
    push_cast
    ring
  · refine ⟨x.mantissa - 1, x.scale, by omega, least, ?_⟩
    rw [Nat.cast_sub (by omega), grain]
    push_cast
    ring

theorem near_low_iff {a b : ℚ} (apart : a < b) : |q - a| ≤ |q - b| ↔ q ≤ (a + b) / 2 := by
  have factors : (q - b) ^ 2 - (q - a) ^ 2 = (b - a) * (a + b - 2 * q) := by ring
  rw [← sq_le_sq, ← sub_nonneg, factors, mul_nonneg_iff_of_pos_left (by linarith)]
  constructor <;> intro bound <;> linarith

theorem near_high_iff {a b : ℚ} (apart : a < b) : |q - b| ≤ |q - a| ↔ (a + b) / 2 ≤ q := by
  have factors : (q - a) ^ 2 - (q - b) ^ 2 = (b - a) * (2 * q - (a + b)) := by ring
  rw [← sq_le_sq, ← sub_nonneg, factors, mul_nonneg_iff_of_pos_left (by linarith)]
  constructor <;> intro bound <;> linarith

section Nonzero

variable (nonzero : x.mantissa ≠ 0)

include nonzero

theorem readsBack_iff_of_even (even : x.mantissa % 2 = 0) : x.ReadsBack q ↔
    x.magnitude - x.grainBelow / 2 ≤ q ∧ q ≤ x.magnitude + x.grain / 2 := by
  have up : x.magnitude < x.magnitude + x.grain := by linarith [x.grain_pos]
  have down : x.magnitude - x.grainBelow < x.magnitude := by linarith [x.grainBelow_pos]
  constructor
  · intro reads
    have above := reads _ x.isBinary_above up.ne'
    have below := reads _ (isBinary_below nonzero) down.ne
    simp only [even, and_true, ← le_iff_lt_or_eq] at above below
    rw [near_low_iff up] at above
    rw [near_high_iff down] at below
    constructor <;> linarith
  · rintro ⟨low, high⟩ y binary other
    simp only [even, and_true, ← le_iff_lt_or_eq]
    rcases lt_or_gt_of_ne other with below | above
    · rw [near_high_iff below]
      linarith [le_of_lt_magnitude binary below]
    · rw [near_low_iff above]
      linarith [le_of_magnitude_lt binary above]

theorem readsBack_iff_of_odd (odd : x.mantissa % 2 ≠ 0) : x.ReadsBack q ↔
    x.magnitude - x.grainBelow / 2 < q ∧ q < x.magnitude + x.grain / 2 := by
  have up : x.magnitude < x.magnitude + x.grain := by linarith [x.grain_pos]
  have down : x.magnitude - x.grainBelow < x.magnitude := by linarith [x.grainBelow_pos]
  constructor
  · intro reads
    have above := reads _ x.isBinary_above up.ne'
    have below := reads _ (isBinary_below nonzero) down.ne
    simp only [odd, and_false, or_false] at above below
    rw [← not_le, near_high_iff up, not_le] at above
    rw [← not_le, near_low_iff down, not_le] at below
    constructor <;> linarith
  · rintro ⟨low, high⟩ y binary other
    left
    rw [← not_le]
    rcases lt_or_gt_of_ne other with below | above
    · rw [near_low_iff below, not_le]
      linarith [le_of_lt_magnitude binary below]
    · rw [near_high_iff above, not_le]
      linarith [le_of_magnitude_lt binary above]

/-- The numbers that read back lie between the middles of the ways to the next numbers. The middles
are among them if the mantissa is even. -/
theorem readsBack_iff : x.ReadsBack q ↔
    if x.mantissa % 2 = 0 then
      x.magnitude - x.grainBelow / 2 ≤ q ∧ q ≤ x.magnitude + x.grain / 2
    else x.magnitude - x.grainBelow / 2 < q ∧ q < x.magnitude + x.grain / 2 := by
  split
  · next even => exact readsBack_iff_of_even nonzero even
  · next odd => exact readsBack_iff_of_odd nonzero odd

theorem ReadsBack.bounds (reads : x.ReadsBack q) :
    x.magnitude - x.grainBelow / 2 ≤ q ∧ q ≤ x.magnitude + x.grain / 2 := by
  by_cases even : x.mantissa % 2 = 0
  · exact (readsBack_iff_of_even nonzero even).1 reads
  · obtain ⟨low, high⟩ := (readsBack_iff_of_odd nonzero even).1 reads
    exact ⟨low.le, high.le⟩

theorem readsBack_of_inside (low : x.magnitude - x.grainBelow / 2 < q)
    (high : q < x.magnitude + x.grain / 2) : x.ReadsBack q := by
  by_cases even : x.mantissa % 2 = 0
  · exact (readsBack_iff_of_even nonzero even).2 ⟨low.le, high.le⟩
  · exact (readsBack_iff_of_odd nonzero even).2 ⟨low, high⟩

theorem readsBack_magnitude : x.ReadsBack x.magnitude := by
  have positive := x.grain_pos
  have positive' := x.grainBelow_pos
  apply readsBack_of_inside nonzero <;> linarith

theorem ReadsBack.between {p r : ℚ} (first : x.ReadsBack p) (last : x.ReadsBack r) (low : p ≤ q)
    (high : q ≤ r) : x.ReadsBack q := by
  rw [readsBack_iff nonzero] at first last ⊢
  by_cases even : x.mantissa % 2 = 0
  · rw [if_pos even] at first last ⊢
    exact ⟨first.1.trans low, high.trans last.2⟩
  · rw [if_neg even] at first last ⊢
    exact ⟨first.1.trans_le low, high.trans_lt last.2⟩

theorem ReadsBack.pos (reads : x.ReadsBack q) : 0 < q := by
  have positive := x.grain_pos
  have least : (1 : ℚ) ≤ x.mantissa := by exact_mod_cast Nat.one_le_iff_ne_zero.2 nonzero
  have whole : x.grain ≤ x.magnitude := by
    rw [magnitude]
    linarith [mul_le_mul_of_nonneg_right least positive.le]
  have lower := (reads.bounds nonzero).1
  linarith [x.grainBelow_le_grain]

end Nonzero

theorem isBinary_magnitude (x : Binary64) : IsBinary x.magnitude :=
  ⟨x.mantissa, x.scale, x.mantissa_lt, x.le_scale, rfl⟩

/-- Next to an even mantissa there is an odd one. -/
theorem odd_of_next (x' : Binary64) (even : x.mantissa % 2 = 0)
    (next : x'.magnitude = x.magnitude + x.grain) : x'.mantissa % 2 = 1 := by
  have positive := x.grain_pos
  have short := x.mantissa_lt
  rw [magnitude, magnitude] at next
  rcases lt_trichotomy x.scale x'.scale with coarse | same | fine
  · have twice : 2 * x.grain ≤ x'.grain := by
      have step : 2 * x.grain = 2 ^ (x.scale + 1) := by
        rw [grain, zpow_add_one₀ (by norm_num), mul_comm]
      rw [step]
      exact zpow_le_zpow_right₀ (by norm_num) (by omega)
    have least := x.le_scale
    have large : (0x10000000000000 : ℚ) ≤ x'.mantissa := by
      exact_mod_cast le_mantissa (x := x') (by omega)
    have small : (x.mantissa : ℚ) + 1 < 0x20000000000000 := by
      exact_mod_cast (by omega : x.mantissa + 1 < 0x20000000000000)
    have bound : 0x10000000000000 * (2 * x.grain) ≤ x'.mantissa * x'.grain := by gcongr
    linarith [mul_lt_mul_of_pos_right small positive]
  · have scales : x'.grain = x.grain := by rw [grain, grain, same]
    rw [scales, ← add_one_mul] at next
    have mantissas : x'.mantissa = x.mantissa + 1 := by
      exact_mod_cast mul_right_cancel₀ positive.ne' next
    omega
  · have bound := fine_le x'.mantissa_lt fine
    have least := x'.le_scale
    have large : (0x10000000000000 : ℚ) ≤ x.mantissa := by
      exact_mod_cast le_mantissa (x := x) (by omega)
    have above := mul_le_mul_of_nonneg_right large positive.le
    rw [← grain, next] at bound
    linarith

theorem not_lt_of_readsBack {x' : Binary64} (nonzero : x.mantissa ≠ 0) (reads : x.ReadsBack q)
    (reads' : x'.ReadsBack q) : ¬ x.magnitude < x'.magnitude := by
  intro less
  have towards := reads _ x'.isBinary_magnitude less.ne'
  have away := reads' _ x.isBinary_magnitude less.ne
  rcases towards with nearer | ⟨tied, even⟩
  · rcases away with farther | ⟨tied', -⟩
    · exact lt_asymm nearer farther
    · exact nearer.ne tied'.symm
  · rcases away with farther | ⟨-, even'⟩
    · exact farther.ne tied.symm
    · have low := (near_low_iff less).1 tied.le
      have high := (near_high_iff less).1 tied.ge
      have gap := le_of_magnitude_lt x'.isBinary_magnitude less
      have upper := (reads.bounds nonzero).2
      have odd := odd_of_next x' even (by linarith)
      omega

/-- Nothing reads back as two numbers. -/
theorem magnitude_eq_of_readsBack {x' : Binary64} (nonzero : x.mantissa ≠ 0)
    (nonzero' : x'.mantissa ≠ 0) (reads : x.ReadsBack q) (reads' : x'.ReadsBack q) :
    x.magnitude = x'.magnitude :=
  le_antisymm (not_lt.1 (not_lt_of_readsBack nonzero' reads' reads))
    (not_lt.1 (not_lt_of_readsBack nonzero reads reads'))

end Binary64

end RpcRouting
