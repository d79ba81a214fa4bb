import Mathlib.Data.Rat.Floor
import RpcRouting.Decimal.Layout
import RpcRouting.Proofs.Decimal.Rounding
/-!
The fewest decimal digits that read back as a number. They are found on the coarsest grid that has
digits which read back at all, and they are the nearest ones there.
-/

set_option autoImplicit false
set_option relaxedAutoImplicit false

namespace RpcRouting

namespace Binary64

variable {x : Binary64}

section Grid

variable (x) (e : ℤ)

theorem zpow_eq_div {b : ℚ} (nonzero : b ≠ 0) (z : ℤ) : b ^ z = b ^ z.toNat / b ^ (-z).toNat := by
  rw [← zpow_natCast, ← zpow_natCast, ← zpow_sub₀ nonzero]
  congr 1
  omega

def unit : ℕ := (x.measured e 0).2

theorem unit_pos : 0 < x.unit e := by
  have two : 0 < 2 ^ (-(x.scale - 2)).toNat := Nat.pow_pos (by norm_num)
  have ten : 0 < 10 ^ e.toNat := Nat.pow_pos (by norm_num)
  exact Nat.mul_pos two ten

theorem measured_eq (n : ℕ) :
    ((x.measured e n).1 : ℚ) = n * (x.grain / 4) / 10 ^ e * x.unit e := by
  have quarter : x.grain / 4 = 2 ^ (x.scale - 2) := by
    rw [grain, zpow_sub₀ (by norm_num)]
    norm_num
  have two : (2 : ℚ) ^ (-(x.scale - 2)).toNat ≠ 0 := by positivity
  have ten : (10 : ℚ) ^ e.toNat ≠ 0 := by positivity
  have top : ((x.measured e n).1 : ℚ) = n * 2 ^ (x.scale - 2).toNat * 10 ^ (-e).toNat := by
    simp [measured]
  have bottom : (x.unit e : ℚ) = 2 ^ (-(x.scale - 2)).toNat * 10 ^ e.toNat := by
    simp [unit, measured]
  rw [quarter, zpow_eq_div (by norm_num) (x.scale - 2), zpow_eq_div (by norm_num) e, top, bottom]
  field_simp

/-- The point `n` of the grid. -/
def point (n : ℕ) : ℚ := n * 10 ^ e

theorem measured_le_iff (n k : ℕ) :
    (x.measured e n).1 ≤ k * x.unit e ↔ n * (x.grain / 4) ≤ point e k := by
  have ten : (0 : ℚ) < 10 ^ e := zpow_pos (by norm_num) e
  have positive : (0 : ℚ) < x.unit e := by exact_mod_cast x.unit_pos e
  rw [← @Nat.cast_le ℚ, Nat.cast_mul, measured_eq, mul_le_mul_iff_left₀ positive,
    div_le_iff₀ ten, point]

theorem le_measured_iff (n k : ℕ) :
    k * x.unit e ≤ (x.measured e n).1 ↔ point e k ≤ n * (x.grain / 4) := by
  have ten : (0 : ℚ) < 10 ^ e := zpow_pos (by norm_num) e
  have positive : (0 : ℚ) < x.unit e := by exact_mod_cast x.unit_pos e
  rw [← @Nat.cast_le ℚ, Nat.cast_mul, measured_eq, mul_le_mul_iff_left₀ positive,
    le_div_iff₀ ten, point]

theorem centre_eq : ((4 * x.mantissa : ℕ) : ℚ) * (x.grain / 4) = x.magnitude := by
  rw [magnitude]
  push_cast
  ring

def lowOn : ℕ := (x.measured e (4 * x.mantissa - if x.isNarrowBelow then 1 else 2)).1

def highOn : ℕ := (x.measured e (4 * x.mantissa + 2)).1

/-- What a point is tested for. -/
def readsBackOn (n : ℕ) : Bool :=
  n ≠ 0 && if x.mantissa % 2 = 0 then x.lowOn e ≤ n * x.unit e && n * x.unit e ≤ x.highOn e
    else x.lowOn e < n * x.unit e && n * x.unit e < x.highOn e

def pointBelow : ℕ := (x.measured e (4 * x.mantissa)).1 / x.unit e

theorem onGrid?_eq : x.onGrid? e =
    let value := (x.measured e (4 * x.mantissa)).1
    let below := x.pointBelow e
    let down := value - below * x.unit e
    let up := (below + 1) * x.unit e - value
    match x.readsBackOn e below, x.readsBackOn e (below + 1) with
    | true, true => if down < up ∨ down = up ∧ below % 2 = 0 then some below else some (below + 1)
    | true, false => some below
    | false, true => some (below + 1)
    | false, false => none := rfl

theorem point_le_point {n k : ℕ} (less : n ≤ k) : point e n ≤ point e k := by
  have ten : (0 : ℚ) < 10 ^ e := zpow_pos (by norm_num) e
  have casts : (n : ℚ) ≤ k := by exact_mod_cast less
  exact mul_le_mul_of_nonneg_right casts ten.le

theorem pointBelow_le : point e (x.pointBelow e) ≤ x.magnitude := by
  rw [← centre_eq, ← le_measured_iff, pointBelow]
  exact Nat.div_mul_le_self _ _

theorem le_pointBelow_add_one : x.magnitude ≤ point e (x.pointBelow e + 1) := by
  have positive := x.unit_pos e
  rw [← centre_eq, ← measured_le_iff, pointBelow]
  exact (Nat.lt_div_mul_add positive).le.trans_eq (Nat.succ_mul _ _).symm

theorem down_eq : x.magnitude - point e (x.pointBelow e) =
    ((x.measured e (4 * x.mantissa)).1 - x.pointBelow e * x.unit e : ℕ) *
      (10 ^ e / x.unit e) := by
  have low := (le_measured_iff x e (4 * x.mantissa) (x.pointBelow e)).2
    (by rw [centre_eq]; exact x.pointBelow_le e)
  have positive : (0 : ℚ) < x.unit e := by exact_mod_cast x.unit_pos e
  have ten : (0 : ℚ) < 10 ^ e := zpow_pos (by norm_num) e
  rw [Nat.cast_sub low, measured_eq, centre_eq, point]
  push_cast
  field_simp

theorem up_eq : point e (x.pointBelow e + 1) - x.magnitude =
    ((x.pointBelow e + 1) * x.unit e - (x.measured e (4 * x.mantissa)).1 : ℕ) *
      (10 ^ e / x.unit e) := by
  have high := (measured_le_iff x e (4 * x.mantissa) (x.pointBelow e + 1)).2
    (by rw [centre_eq]; exact x.le_pointBelow_add_one e)
  have positive : (0 : ℚ) < x.unit e := by exact_mod_cast x.unit_pos e
  have ten : (0 : ℚ) < 10 ^ e := zpow_pos (by norm_num) e
  rw [Nat.cast_sub high, measured_eq, centre_eq, point]
  push_cast
  field_simp

variable {x}

theorem readsBackOn_iff (nonzero : x.mantissa ≠ 0) (n : ℕ) :
    x.readsBackOn e n ↔ x.ReadsBack (point e n) := by
  have low : ((4 * x.mantissa - if x.isNarrowBelow then 1 else 2 : ℕ) : ℚ) * (x.grain / 4) =
      x.magnitude - x.grainBelow / 2 := by
    rw [magnitude, grainBelow]
    split
    · rw [Nat.cast_sub (by omega)]
      push_cast
      ring
    · rw [Nat.cast_sub (by omega)]
      push_cast
      ring
  have high : ((4 * x.mantissa + 2 : ℕ) : ℚ) * (x.grain / 4) = x.magnitude + x.grain / 2 := by
    rw [magnitude]
    push_cast
    ring
  have full : x.ReadsBack (point e n) → n ≠ 0 := by
    rintro reads rfl
    have positive := reads.pos nonzero
    simp [point] at positive
  have inside : (if x.mantissa % 2 = 0 then
      x.lowOn e ≤ n * x.unit e && n * x.unit e ≤ x.highOn e
      else x.lowOn e < n * x.unit e && n * x.unit e < x.highOn e) = true ↔
        x.ReadsBack (point e n) := by
    rw [readsBack_iff nonzero, ← low, ← high, lowOn, highOn]
    split
    · simp only [Bool.and_eq_true, decide_eq_true_eq, measured_le_iff, le_measured_iff]
    · simp only [Bool.and_eq_true, decide_eq_true_eq, ← not_le, measured_le_iff, le_measured_iff]
  rw [readsBackOn, Bool.and_eq_true, inside, decide_eq_true_eq]
  exact and_iff_right_of_imp full

theorem readsBack_beside (nonzero : x.mantissa ≠ 0) {k : ℕ} (reads : x.ReadsBack (point e k)) :
    k ≤ x.pointBelow e ∧ x.readsBackOn e (x.pointBelow e) ∨
      x.pointBelow e < k ∧ x.readsBackOn e (x.pointBelow e + 1) := by
  have own := readsBack_magnitude nonzero
  rcases le_or_gt k (x.pointBelow e) with low | high
  · refine .inl ⟨low, (readsBackOn_iff e nonzero _).2 ?_⟩
    exact reads.between nonzero own (point_le_point e low) (x.pointBelow_le e)
  · refine .inr ⟨high, (readsBackOn_iff e nonzero _).2 ?_⟩
    exact own.between nonzero reads (x.le_pointBelow_add_one e) (point_le_point e high)

/-- The point reads back, and no other point that does is nearer to the number. -/
def IsNearestOn (x : Binary64) (e : ℤ) (n : ℕ) : Prop :=
  x.ReadsBack (point e n) ∧
    ∀ k, x.ReadsBack (point e k) → |x.magnitude - point e n| ≤ |x.magnitude - point e k|

theorem isNearestOn_below (nonzero : x.mantissa ≠ 0) (reads : x.readsBackOn e (x.pointBelow e))
    (nearer : x.readsBackOn e (x.pointBelow e + 1) →
      x.magnitude - point e (x.pointBelow e) ≤ point e (x.pointBelow e + 1) - x.magnitude) :
    x.IsNearestOn e (x.pointBelow e) := by
  refine ⟨(readsBackOn_iff e nonzero _).1 reads, ?_⟩
  intro k reads'
  rw [abs_of_nonneg (sub_nonneg.2 (x.pointBelow_le e))]
  rcases readsBack_beside e nonzero reads' with ⟨low, -⟩ | ⟨high, beside⟩
  · linarith [point_le_point e low, le_abs_self (x.magnitude - point e k)]
  · linarith [nearer beside, point_le_point e (Nat.succ_le_of_lt high),
      neg_le_abs (x.magnitude - point e k)]

theorem isNearestOn_above (nonzero : x.mantissa ≠ 0)
    (reads : x.readsBackOn e (x.pointBelow e + 1))
    (nearer : x.readsBackOn e (x.pointBelow e) →
      point e (x.pointBelow e + 1) - x.magnitude ≤ x.magnitude - point e (x.pointBelow e)) :
    x.IsNearestOn e (x.pointBelow e + 1) := by
  refine ⟨(readsBackOn_iff e nonzero _).1 reads, ?_⟩
  intro k reads'
  rw [abs_of_nonpos (sub_nonpos.2 (x.le_pointBelow_add_one e)), neg_sub]
  rcases readsBack_beside e nonzero reads' with ⟨low, beside⟩ | ⟨high, -⟩
  · linarith [nearer beside, point_le_point e low, le_abs_self (x.magnitude - point e k)]
  · linarith [point_le_point e (Nat.succ_le_of_lt high), neg_le_abs (x.magnitude - point e k)]

theorem isNearestOn_of_onGrid? {n : ℕ} (nonzero : x.mantissa ≠ 0) (found : x.onGrid? e = some n) :
    x.IsNearestOn e n := by
  have step : (0 : ℚ) ≤ 10 ^ e / x.unit e := by positivity
  have down := x.down_eq e
  have up := x.up_eq e
  rw [onGrid?_eq] at found
  dsimp only at found
  generalize (x.measured e (4 * x.mantissa)).1 - x.pointBelow e * x.unit e = d at *
  generalize (x.pointBelow e + 1) * x.unit e - (x.measured e (4 * x.mantissa)).1 = u at *
  split at found
  · next reads reads' =>
    split at found
    · next nearer =>
      obtain rfl := Option.some.inj found
      apply isNearestOn_below e nonzero reads
      intro _
      have less : (d : ℚ) ≤ u := by exact_mod_cast (by omega : d ≤ u)
      rw [down, up]
      exact mul_le_mul_of_nonneg_right less step
    · next farther =>
      obtain rfl := Option.some.inj found
      apply isNearestOn_above e nonzero reads'
      intro _
      have less : (u : ℚ) ≤ d := by exact_mod_cast (by omega : u ≤ d)
      rw [down, up]
      exact mul_le_mul_of_nonneg_right less step
  · next reads none =>
    obtain rfl := Option.some.inj found
    exact isNearestOn_below e nonzero reads fun some => absurd (some.symm.trans none) (by decide)
  · next none reads =>
    obtain rfl := Option.some.inj found
    exact isNearestOn_above e nonzero reads fun some => absurd (some.symm.trans none) (by decide)
  · cases found

theorem not_readsBack_of_onGrid? (nonzero : x.mantissa ≠ 0) (none : x.onGrid? e = none) (n : ℕ) :
    ¬ x.ReadsBack (point e n) := by
  intro reads
  have beside := readsBack_beside e nonzero reads
  rw [onGrid?_eq] at none
  dsimp only at none
  split at none
  · split at none <;> cases none
  · cases none
  · cases none
  · next notBelow notAbove =>
    rcases beside with ⟨-, own⟩ | ⟨-, own⟩
    · exact absurd (own.symm.trans notBelow) (by decide)
    · exact absurd (own.symm.trans notAbove) (by decide)

end Grid

def IsFinite (x : Binary64) : Prop := x.exponentBits < 0x7FF

theorem not_readsBack_of_coarse (finite : x.IsFinite) (nonzero : x.mantissa ≠ 0) {e : ℤ}
    (coarse : 310 ≤ e) (n : ℕ) : ¬ x.ReadsBack (point e n) := by
  intro reads
  have least : (1 : ℚ) ≤ n := by
    have positive := reads.pos nonzero
    rcases Nat.eq_zero_or_pos n with rfl | some
    · simp [point] at positive
    · exact_mod_cast some
  have most : x.mantissa + 1 ≤ (0x20000000000000 : ℚ) := by exact_mod_cast x.mantissa_lt
  have scale : x.scale ≤ 971 := by
    rw [IsFinite] at finite
    rw [scale]
    split <;> omega
  have positive := x.grain_pos
  have upper := (reads.bounds nonzero).2
  have bound : point e n < 10 ^ (310 : ℤ) := by
    calc point e n ≤ (x.mantissa + 1) * x.grain := by rw [magnitude] at upper; linarith
      _ ≤ 0x20000000000000 * 2 ^ (971 : ℤ) := by
        rw [grain]
        gcongr
        norm_num
      _ < 10 ^ (310 : ℤ) := by
        have powers : 0x20000000000000 * 2 ^ 971 < 10 ^ 310 := by decide +kernel
        exact_mod_cast powers
  have power : (10 : ℚ) ^ (310 : ℤ) ≤ 10 ^ e := zpow_le_zpow_right₀ (by norm_num) coarse
  have ten : (0 : ℚ) < 10 ^ e := zpow_pos (by norm_num) e
  rw [point] at bound
  linarith [mul_le_mul_of_nonneg_right least ten.le]

theorem exists_readsBack_of_fine (nonzero : x.mantissa ≠ 0) {e : ℤ} (fine : 10 ^ e < x.grain / 2) :
    ∃ n, x.ReadsBack (point e n) := by
  have own : 0 ≤ x.magnitude := by
    have positive := x.grain_pos
    rw [magnitude]
    positivity
  have unit : (0 : ℚ) < 10 ^ e := zpow_pos (by norm_num) _
  have below := Nat.floor_le (div_nonneg own unit.le)
  have above := Nat.lt_floor_add_one (x.magnitude / 10 ^ e)
  rw [le_div_iff₀ unit] at below
  rw [div_lt_iff₀ unit] at above
  have next : point e (⌊x.magnitude / 10 ^ e⌋₊ + 1) =
      ⌊x.magnitude / 10 ^ e⌋₊ * 10 ^ e + 10 ^ e := by
    rw [point]
    push_cast
    ring
  refine ⟨⌊x.magnitude / 10 ^ e⌋₊ + 1, ?_⟩
  have positive := x.grainBelow_pos
  rw [next]
  apply readsBack_of_inside nonzero <;> linarith

theorem fine_of_finest (x : Binary64) : (10 : ℚ) ^ (-324 : ℤ) < x.grain / 2 := by
  have least : (2 : ℚ) ^ (-1074 : ℤ) ≤ x.grain :=
    zpow_le_zpow_right₀ (by norm_num) x.le_scale
  have powers : 2 ^ 1074 * 2 < 10 ^ 324 := by decide +kernel
  have powers : (2 : ℚ) ^ 1074 * 2 < 10 ^ 324 := by exact_mod_cast powers
  have apart : (10 : ℚ) ^ (-324 : ℤ) < 2 ^ (-1074 : ℤ) / 2 := by
    rw [zpow_neg, zpow_neg, inv_eq_one_div, inv_eq_one_div, div_div,
      one_div_lt_one_div (by positivity) (by positivity)]
    exact_mod_cast powers
  linarith

theorem digitsFrom_found {finest : ℤ} : ∀ {count : ℕ},
    (∃ i < count, x.onGrid? (finest + i) ≠ none) → ∃ n, ∃ i < count,
      x.digitsFrom finest count = ⟨n, finest + i⟩ ∧ x.onGrid? (finest + i) = some n ∧
        ∀ j < count, i < j → x.onGrid? (finest + j) = none
  | 0, found => by
    obtain ⟨i, none, -⟩ := found
    omega
  | count + 1, found => by
    rw [digitsFrom]
    cases first : x.onGrid? (finest + count) with
    | some n => exact ⟨n, count, by omega, rfl, first, fun j _ _ => by omega⟩
    | none =>
      have later : ∃ i < count, x.onGrid? (finest + i) ≠ none := by
        obtain ⟨i, less, some⟩ := found
        have other : i ≠ count := by
          rintro rfl
          exact some first
        exact ⟨i, by omega, some⟩
      obtain ⟨n, i, less, digits, own, coarser⟩ := digitsFrom_found later
      refine ⟨n, i, by omega, digits, own, ?_⟩
      intro j short more
      rcases Nat.lt_succ_iff_lt_or_eq.1 short with less' | rfl
      · exact coarser j less' more
      · exact first

/-- The digits read back. None that read back stand on a coarser grid or have fewer figures, and
none on the same grid are nearer. -/
structure IsShortest (x : Binary64) (d : DecimalDigits) : Prop where
  nearest : x.IsNearestOn d.exponent d.digits
  coarsest : ∀ e n, x.ReadsBack (point e n) → e ≤ d.exponent
  fewest : ∀ e n, x.ReadsBack (point e n) → d.figures.length ≤ (Nat.toDigits 10 n).length

theorem fewest_of_coarsest {d : DecimalDigits} (nonzero : x.mantissa ≠ 0)
    (own : x.ReadsBack (point d.exponent d.digits))
    (coarsest : ∀ e n, x.ReadsBack (point e n) → e ≤ d.exponent) {e : ℤ} {n : ℕ}
    (reads : x.ReadsBack (point e n)) : d.figures.length ≤ (Nat.toDigits 10 n).length := by
  have short := coarsest e n reads
  set k := (Nat.toDigits 10 n).length with length
  have positive : 0 < k := Nat.length_toDigits_pos
  have small : n < 10 ^ k := (Nat.length_toDigits_le_iff (by norm_num) positive).1 length.ge
  by_contra fewer
  rw [DecimalDigits.figures, Nat.length_toDigits_le_iff (by norm_num) positive, not_lt] at fewer
  -- The power of ten between the two reads back as well, and it stands on a coarser grid.
  have power : point (d.exponent + k) 1 = 10 ^ k * 10 ^ d.exponent := by
    rw [point, zpow_add₀ (by norm_num), zpow_natCast]
    push_cast
    ring
  have low : point e n ≤ 10 ^ k * 10 ^ d.exponent := by
    have casts : (n : ℚ) ≤ 10 ^ k := by exact_mod_cast small.le
    have powers : (10 : ℚ) ^ e ≤ 10 ^ d.exponent := zpow_le_zpow_right₀ (by norm_num) short
    rw [point]
    gcongr
  have high : 10 ^ k * 10 ^ d.exponent ≤ point d.exponent d.digits := by
    have casts : (10 : ℚ) ^ k ≤ d.digits := by exact_mod_cast fewer
    rw [point]
    gcongr
  have between := reads.between nonzero own low high
  rw [← power] at between
  have coarser := coarsest _ _ between
  omega

theorem isShortest_shortest (finite : x.IsFinite) (nonzero : x.mantissa ≠ 0) :
    x.IsShortest x.shortest := by
  obtain ⟨least, readsLeast⟩ := exists_readsBack_of_fine nonzero x.fine_of_finest
  have found : ∃ i < 634, x.onGrid? (-324 + (i : ℕ)) ≠ none := by
    refine ⟨0, by norm_num, ?_⟩
    intro none
    exact not_readsBack_of_onGrid? (-324 + (0 : ℕ)) nonzero none least (by simpa using readsLeast)
  obtain ⟨n, i, -, digits, own, coarser⟩ := digitsFrom_found found
  have nearest := isNearestOn_of_onGrid? _ nonzero own
  have coarsest : ∀ e n, x.ReadsBack (point e n) → e ≤ -324 + (i : ℤ) := by
    intro e n reads
    by_contra more
    have less : e < 310 := by
      by_contra coarse
      exact not_readsBack_of_coarse finite nonzero (not_lt.1 coarse) n reads
    have place : -324 + ((e + 324).toNat : ℤ) = e := by omega
    have none := coarser (e + 324).toNat (by omega) (by omega)
    rw [place] at none
    exact not_readsBack_of_onGrid? e nonzero none n reads
  have first : x.ReadsBack (point (-324 + (i : ℤ)) n) := nearest.1
  rw [shortest, if_neg nonzero, digits]
  refine ⟨nearest, coarsest, ?_⟩
  intro e m reads
  exact fewest_of_coarsest (d := ⟨n, -324 + (i : ℤ)⟩) nonzero first coarsest reads

example : (⟨0x3FB999999999999A⟩ : Binary64).shortest = ⟨1, -1⟩ := by decide +kernel

/-- The shortest digits tell the numbers apart. -/
theorem magnitude_eq_of_shortest_eq {x' : Binary64} (finite : x.IsFinite) (finite' : x'.IsFinite)
    (nonzero : x.mantissa ≠ 0) (nonzero' : x'.mantissa ≠ 0) (same : x.shortest = x'.shortest) :
    x.magnitude = x'.magnitude := by
  have reads := (isShortest_shortest finite nonzero).nearest.1
  have reads' := (isShortest_shortest finite' nonzero').nearest.1
  rw [← same] at reads'
  exact magnitude_eq_of_readsBack nonzero nonzero' reads reads'

end Binary64

end RpcRouting
