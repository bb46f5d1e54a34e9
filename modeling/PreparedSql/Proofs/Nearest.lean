import Mathlib.Algebra.Order.Field.Power
import Mathlib.Data.Rat.Cast.Order
import Mathlib.Tactic.Linarith
import Mathlib.Tactic.Positivity
import Mathlib.Tactic.Ring
import PreparedSql.Double.Shortest

/-!
# The double nearest to a number

Around a double there are no others nearer than one unit in its last place, except that below a
power of two they are half as far apart. A number that is no farther away than half of that is
nearest to the double, and this is how far the interval reaches in which its shortest decimal is
looked for.

## Main definitions

* `Double.toRat`: the number that a finite double is.
* `Double.IsNearest`: the double that a number is rounded to, a number between two going to the even
  one.

## Main statements

* `Double.isNearest_of_contains`: the numbers in the interval of a double are rounded to it.
* `Shortest.contains_decimal`: the shortest decimal is one of them.
-/

namespace PreparedSql

/-! ## Numbers -/

namespace Double

variable {d : Double} {x : ℚ}

/-- The significand of a finite double. Its first bit is hidden unless the exponent field is
zero. -/
def significand (d : Double) : ℕ := if d.exponentField = 0 then d.fraction else 2 ^ 52 + d.fraction

/-- The power of two that the last bit of the significand stands for. -/
def unit (d : Double) : ℤ := max d.exponentField 1 - 1075

/-- The number that a finite double is. -/
def toRat (d : Double) : ℚ := (if d.negative then -1 else 1) * (d.significand * 2 ^ d.unit)

/-- A number is rounded to a double that no finite double is nearer to it than. Of two that are as
near, the one with the even significand is taken. -/
structure IsNearest (d : Double) (x : ℚ) : Prop where
  /-- No other double is nearer. -/
  le : ∀ d' : Double, d'.isFinite → |x - d.toRat| ≤ |x - d'.toRat|
  /-- If another double is as near, the significand is even. -/
  even : ∀ d' : Double, d'.isFinite → |x - d'.toRat| = |x - d.toRat| →
    d'.toRat = d.toRat ∨ Even d.significand

private theorem fraction_lt (d : Double) : d.fraction < 2 ^ 52 := Nat.mod_lt _ (by decide)

theorem significand_lt (d : Double) : d.significand < 2 ^ 53 := by
  have := d.fraction_lt
  rw [significand]
  split <;> omega

private theorem neg_1074_le_unit (d : Double) : -1074 ≤ d.unit := by
  rw [unit]
  omega

private theorem le_significand_or (d : Double) : 2 ^ 52 ≤ d.significand ∨ d.unit = -1074 := by
  rw [significand, unit]
  split
  · next h => exact .inr (by rw [h]; rfl)
  · exact .inl (Nat.le_add_right _ _)

theorem decode_eq (h : d.isFinite) : d.decode = .finite d.negative d.significand d.unit := by
  have finite : d.exponentField ≠ 2047 := by simpa [isFinite] using h
  rw [decode, significand, unit]
  by_cases zero : d.exponentField = 0
  · simp [zero]
  · have positive : (max d.exponentField 1 : ℤ) = d.exponentField := by omega
    simp [zero, finite, positive]

end Double

/-! ## Spacing -/

section Spacing

variable {m m' : ℕ} {q q' : ℤ}

private theorem two_zpow_sub_one (q : ℤ) : (2 : ℚ) ^ (q - 1) = 2 ^ q / 2 := by
  rw [zpow_sub_one₀ two_ne_zero, div_eq_mul_inv]

private theorem exists_mul_two_zpow (h : q ≤ q') (m' : ℕ) :
    ∃ k : ℕ, (m' : ℚ) * 2 ^ q' = k * 2 ^ q := by
  obtain ⟨n, rfl⟩ := Int.le.dest h
  refine ⟨m' * 2 ^ n, ?_⟩
  rw [zpow_add₀ two_ne_zero, zpow_natCast]
  push_cast
  ring

private theorem mul_two_zpow_le_of_lt (hm' : m' < 2 ^ 53) (h : q' < q) :
    (m' : ℚ) * 2 ^ q' ≤ 2 ^ 52 * 2 ^ q - 2 ^ (q - 1) := by
  have top : (m' : ℚ) ≤ 2 ^ 53 - 1 := by
    have : m' + 1 ≤ 2 ^ 53 := hm'
    have : ((m' + 1 : ℕ) : ℚ) ≤ ((2 ^ 53 : ℕ) : ℚ) := Nat.cast_le.mpr this
    push_cast at this
    linarith
  have units : (2 : ℚ) ^ q' ≤ 2 ^ (q - 1) := zpow_le_zpow_right₀ one_le_two (by omega)
  calc (m' : ℚ) * 2 ^ q' ≤ (2 ^ 53 - 1) * 2 ^ (q - 1) :=
        mul_le_mul top units (by positivity) (by norm_num)
    _ = 2 ^ 52 * 2 ^ q - 2 ^ (q - 1) := by rw [two_zpow_sub_one]; ring

private theorem add_two_zpow_le (hm : 2 ^ 52 ≤ m ∨ q = -1074) (hm' : m' < 2 ^ 53) (hq' : -1074 ≤ q')
    (h : (m : ℚ) * 2 ^ q < m' * 2 ^ q') : (m : ℚ) * 2 ^ q + 2 ^ q ≤ m' * 2 ^ q' := by
  have unit : (0 : ℚ) < 2 ^ q := by positivity
  rcases le_or_gt q q' with le | lt
  · obtain ⟨k, same⟩ := exists_mul_two_zpow le m'
    rw [same] at h ⊢
    have : m + 1 ≤ k := Nat.cast_lt.mp (lt_of_mul_lt_mul_right h unit.le)
    have : ((m + 1 : ℕ) : ℚ) ≤ k := Nat.cast_le.mpr this
    push_cast at this
    nlinarith
  · have wide : 2 ^ 52 ≤ m := hm.resolve_right (by omega)
    have : ((2 ^ 52 : ℕ) : ℚ) ≤ m := Nat.cast_le.mpr wide
    push_cast at this
    have half : (0 : ℚ) < 2 ^ (q - 1) := by positivity
    have := mul_two_zpow_le_of_lt hm' lt
    nlinarith

/-- How far away the next double below is. -/
def gapBelow (m : ℕ) (q : ℤ) : ℚ := if m = 2 ^ 52 ∧ -1074 < q then 2 ^ (q - 1) else 2 ^ q

private theorem gapBelow_pos (m : ℕ) (q : ℤ) : 0 < gapBelow m q := by
  rw [gapBelow]
  split <;> positivity

private theorem gapBelow_le (m : ℕ) (q : ℤ) : gapBelow m q ≤ 2 ^ q := by
  have unit : (0 : ℚ) < 2 ^ q := by positivity
  rw [gapBelow]
  split
  · rw [two_zpow_sub_one]
    linarith
  · exact le_rfl

private theorem le_sub_gapBelow (hm : 2 ^ 52 ≤ m ∨ q = -1074) (hm' : m' < 2 ^ 53) (hq' : -1074 ≤ q')
    (h : (m' : ℚ) * 2 ^ q' < m * 2 ^ q) : (m' : ℚ) * 2 ^ q' ≤ m * 2 ^ q - gapBelow m q := by
  have unit : (0 : ℚ) < 2 ^ q := by positivity
  have half : (0 : ℚ) < 2 ^ (q - 1) := by positivity
  have gap := gapBelow_le m q
  rcases le_or_gt q q' with le | lt
  · obtain ⟨k, same⟩ := exists_mul_two_zpow le m'
    rw [same] at h ⊢
    have : k + 1 ≤ m := Nat.cast_lt.mp (lt_of_mul_lt_mul_right h unit.le)
    have : ((k + 1 : ℕ) : ℚ) ≤ m := Nat.cast_le.mpr this
    push_cast at this
    nlinarith
  · have below := mul_two_zpow_le_of_lt hm' lt
    rcases (hm.resolve_right (by omega)).eq_or_lt with rfl | larger
    · rw [gapBelow, if_pos ⟨rfl, by omega⟩]
      push_cast
      exact below
    · have : ((2 ^ 52 + 1 : ℕ) : ℚ) ≤ m := Nat.cast_le.mpr larger
      push_cast at this
      nlinarith

end Spacing

/-! ## The numbers around a double -/

private theorem abs_sub_le_of_spaced {v w x below above : ℚ} (hBelow : 0 ≤ below)
    (hAbove : 0 ≤ above) (lower : v - below / 2 ≤ x) (upper : x ≤ v + above / 2)
    (spaced : w ≤ v - below ∨ w = v ∨ v + above ≤ w) : |x - v| ≤ |x - w| := by
  rcases spaced with left | rfl | right
  · refine le_trans (abs_le.mpr ⟨?_, ?_⟩) (le_abs_self _) <;> linarith
  · exact le_rfl
  · refine le_trans (abs_le.mpr ⟨?_, ?_⟩) (neg_le_abs _) <;> linarith

private theorem abs_sub_lt_of_spaced {v w x below above : ℚ} (hBelow : 0 < below)
    (hAbove : 0 < above) (lower : v - below / 2 < x) (upper : x < v + above / 2)
    (spaced : w ≤ v - below ∨ v + above ≤ w) : |x - v| < |x - w| := by
  rcases spaced with left | right
  · refine lt_of_lt_of_le (abs_lt.mpr ⟨?_, ?_⟩) (le_abs_self _) <;> linarith
  · refine lt_of_lt_of_le (abs_lt.mpr ⟨?_, ?_⟩) (neg_le_abs _) <;> linarith

namespace Shortest.Interval

/-- The numbers in an interval. -/
def Contains (i : Interval) (x : ℚ) : Prop :=
  if i.closed then i.low * 2 ^ i.unit ≤ x ∧ x ≤ i.high * 2 ^ i.unit
  else i.low * 2 ^ i.unit < x ∧ x < i.high * 2 ^ i.unit

variable {m : ℕ} {q : ℤ} {x : ℚ}

theorem low_ofValue (hm : 0 < m) :
    ((ofValue m q).low : ℚ) * 2 ^ (ofValue m q).unit = m * 2 ^ q - gapBelow m q / 2 := by
  have quarter : (2 : ℚ) ^ (q - 2) = 2 ^ q / 4 := by
    rw [zpow_sub₀ two_ne_zero]
    norm_num
  simp only [ofValue, gapBelow, quarter, Nat.pow_eq]
  split
  · rw [Nat.cast_sub (by omega), two_zpow_sub_one]
    push_cast
    ring
  · rw [Nat.cast_sub (by omega)]
    push_cast
    ring

theorem high_ofValue :
    ((ofValue m q).high : ℚ) * 2 ^ (ofValue m q).unit = m * 2 ^ q + 2 ^ q / 2 := by
  have quarter : (2 : ℚ) ^ (q - 2) = 2 ^ q / 4 := by
    rw [zpow_sub₀ two_ne_zero]
    norm_num
  simp only [ofValue, quarter]
  push_cast
  ring

theorem Contains.le (hm : 0 < m) (h : (ofValue m q).Contains x) :
    m * 2 ^ q - gapBelow m q / 2 ≤ x ∧ x ≤ m * 2 ^ q + 2 ^ q / 2 := by
  rw [Contains, low_ofValue hm, high_ofValue] at h
  split at h
  · exact h
  · exact ⟨h.1.le, h.2.le⟩

theorem Contains.lt (hm : 0 < m) (h : (ofValue m q).Contains x) (odd : ¬Even m) :
    m * 2 ^ q - gapBelow m q / 2 < x ∧ x < m * 2 ^ q + 2 ^ q / 2 := by
  have isOpen : (ofValue m q).closed = false := by
    rw [Nat.even_iff] at odd
    simpa [ofValue] using odd
  rwa [Contains, low_ofValue hm, high_ofValue, isOpen] at h

end Shortest.Interval

namespace Double

variable {d : Double}

theorem abs_toRat (d : Double) : |d.toRat| = d.significand * 2 ^ d.unit := by
  have magnitude : (0 : ℚ) ≤ d.significand * 2 ^ d.unit := by positivity
  rw [toRat]
  split <;> simp [abs_mul, abs_of_nonneg]

/-- There is no other double between the two neighbours of one. -/
theorem spaced (positive : 0 < d.significand) (d' : Double) {w : ℚ} (hw : |w| = |d'.toRat|) :
    w ≤ d.significand * 2 ^ d.unit - gapBelow d.significand d.unit ∨
      w = d.significand * 2 ^ d.unit ∨ d.significand * 2 ^ d.unit + 2 ^ d.unit ≤ w := by
  rcases le_or_gt w 0 with nonpositive | above
  · have gap := gapBelow_le d.significand d.unit
    have one : (1 : ℚ) ≤ d.significand := Nat.one_le_cast.mpr positive
    have unit : (0 : ℚ) < 2 ^ d.unit := by positivity
    exact .inl (by nlinarith)
  · rw [abs_of_pos above, abs_toRat] at hw
    rw [hw]
    rcases lt_trichotomy ((d'.significand : ℚ) * 2 ^ d'.unit) (d.significand * 2 ^ d.unit) with
      below | same | above
    · exact .inl (le_sub_gapBelow d.le_significand_or d'.significand_lt d'.neg_1074_le_unit below)
    · exact .inr (.inl same)
    · exact .inr (.inr
        (add_two_zpow_le d.le_significand_or d'.significand_lt d'.neg_1074_le_unit above))

/-- The numbers in the interval of a double are rounded to it. -/
theorem isNearest_of_contains (positive : 0 < d.significand) {x : ℚ}
    (h : (Shortest.Interval.ofValue d.significand d.unit).Contains x) :
    d.IsNearest ((if d.negative then -1 else 1) * x) := by
  have unit : (0 : ℚ) < 2 ^ d.unit := by positivity
  have gap := gapBelow_pos d.significand d.unit
  -- the sign is moved to the other double, whose value may then be of either sign
  obtain ⟨s, hs, square⟩ : ∃ s : ℚ, (if d.negative then -1 else 1) = s ∧ s * s = 1 :=
    ⟨_, rfl, by split <;> norm_num⟩
  have magnitude : |s| = 1 := by
    rw [← hs]
    split <;> simp
  have value : d.toRat = s * (d.significand * 2 ^ d.unit) := by rw [toRat, hs]
  have here : |s * x - d.toRat| = |x - d.significand * 2 ^ d.unit| := by
    rw [value, ← mul_sub, abs_mul, magnitude, one_mul]
  have there (d' : Double) : |s * x - d'.toRat| = |x - s * d'.toRat| := by
    have : s * x - d'.toRat = s * (x - s * d'.toRat) := by
      rw [mul_sub, ← mul_assoc, square, one_mul]
    rw [this, abs_mul, magnitude, one_mul]
  have others (d' : Double) :=
    spaced positive d' (show |s * d'.toRat| = |d'.toRat| by rw [abs_mul, magnitude, one_mul])
  rw [hs]
  refine ⟨fun d' _ ↦ ?_, fun d' _ tie ↦ ?_⟩
  · rw [here, there]
    obtain ⟨lower, upper⟩ := h.le positive
    exact abs_sub_le_of_spaced gap.le unit.le lower upper (others d')
  · rw [here, there] at tie
    by_contra! different
    obtain ⟨lower, upper⟩ := h.lt positive different.2
    have elsewhere : s * d'.toRat ≠ d.significand * 2 ^ d.unit := by
      intro same
      apply different.1
      rw [value, ← same, ← mul_assoc, square, one_mul]
    rcases others d' with left | same | right
    · exact (abs_sub_lt_of_spaced gap unit lower upper (.inl left)).ne' tie
    · exact elsewhere same
    · exact (abs_sub_lt_of_spaced gap unit lower upper (.inr right)).ne' tie

theorem isNearest_toRat (d : Double) : d.IsNearest d.toRat where
  le d' _ := by simp
  even d' _ h := by
    rw [sub_self, abs_zero, abs_eq_zero] at h
    exact .inl (sub_eq_zero.mp h).symm

end Double

/-! ## The shortest decimal -/

private theorem roundDiv_eq_or (tie : Tie) (num den : ℕ) :
    roundDiv tie num den = num / den ∨ roundDiv tie num den = num / den + 1 := by
  rw [roundDiv.eq_def]
  dsimp only
  split_ifs
  · exact .inl rfl
  · exact .inr rfl
  · cases tie with
    | toEven => rcases Nat.mod_two_eq_zero_or_one (num / den) with h | h <;> simp [h]
    | up => exact .inr rfl

def Decimal.toRat (d : Decimal) : ℚ := d.digits * 10 ^ d.exponent

namespace Shortest

private theorem exists_wholePowers (k u : ℤ) : ∃ c : ℚ, 0 < c ∧
    ((wholePowers k u).1 : ℚ) = 10 ^ k * c ∧ ((wholePowers k u).2 : ℚ) = 2 ^ u * c := by
  have power {b : ℚ} (hb : b ≠ 0) (k : ℤ) : b ^ k.toNat = b ^ k * b ^ (-k).toNat := by
    rw [← zpow_natCast, ← zpow_natCast, ← zpow_add₀ hb]
    congr 1
    omega
  refine ⟨10 ^ (-k).toNat * 2 ^ (-u).toNat, by positivity, ?_, ?_⟩
  · simp only [wholePowers, Nat.pow_eq]
    push_cast
    rw [power (by norm_num) k]
    ring
  · simp only [wholePowers, Nat.pow_eq]
    push_cast
    rw [power two_ne_zero u]
    ring

variable {k u : ℤ} {a n : ℕ}

private theorem mul_wholePowers_le_iff :
    a * (wholePowers k u).2 ≤ n * (wholePowers k u).1 ↔ (a : ℚ) * 2 ^ u ≤ n * 10 ^ k := by
  obtain ⟨c, positive, step, unit⟩ := exists_wholePowers k u
  rw [← @Nat.cast_le ℚ, Nat.cast_mul, Nat.cast_mul, step, unit, ← mul_assoc, ← mul_assoc]
  exact mul_le_mul_iff_of_pos_right positive

private theorem mul_wholePowers_ge_iff :
    n * (wholePowers k u).1 ≤ a * (wholePowers k u).2 ↔ (n : ℚ) * 10 ^ k ≤ a * 2 ^ u := by
  obtain ⟨c, positive, step, unit⟩ := exists_wholePowers k u
  rw [← @Nat.cast_le ℚ, Nat.cast_mul, Nat.cast_mul, step, unit, ← mul_assoc, ← mul_assoc]
  exact mul_le_mul_iff_of_pos_right positive

namespace Interval

variable {i : Interval} {tie : Tie}

/-- Whether a point of a grid lies in the interval, as the search tests it. -/
theorem contains_iff (i : Interval) (k : ℤ) (n : ℕ) :
    let powers := wholePowers k i.unit
    i.Contains (n * 10 ^ k) ↔
      (if i.closed then
          i.low * powers.2 ≤ n * powers.1 && n * powers.1 ≤ i.high * powers.2
        else i.low * powers.2 < n * powers.1 && n * powers.1 < i.high * powers.2 : Bool) := by
  dsimp only
  rw [Contains]
  simp only [← not_le, mul_wholePowers_le_iff, mul_wholePowers_ge_iff]
  split <;> simp

private theorem contains_of_onGrid?_eq_some {decimal : Decimal} (h : i.onGrid? tie k = some decimal)
    : i.Contains decimal.toRat := by
  have inside := fun n ↦ (contains_iff i k n).mpr
  rw [onGrid?] at h
  generalize wholePowers k i.unit = powers at h inside
  obtain ⟨step, unit⟩ := powers
  dsimp only at h inside
  split at h
  · next below above =>
    rw [← Option.some.inj h, Decimal.toRat]
    rcases roundDiv_eq_or tie (i.value * unit) step with same | same
    · rw [same]
      exact inside _ below
    · rw [same]
      exact inside _ above
  · next below _ =>
    rw [← Option.some.inj h]
    exact inside _ below
  · next _ above =>
    rw [← Option.some.inj h]
    exact inside _ above
  · exact nomatch h

theorem Contains.of_lt {x : ℚ} (low : i.low * 2 ^ i.unit < x) (high : x < i.high * 2 ^ i.unit) :
    i.Contains x := by
  rw [Contains]
  split
  · exact ⟨low.le, high.le⟩
  · exact ⟨low, high⟩

/-- A grid finer than the distance from the value to the upper end has a point in the interval. -/
private theorem exists_onGrid?_eq_some (hLow : i.low ≤ i.value)
    (fine : (i.value : ℚ) * 2 ^ i.unit + 10 ^ k < i.high * 2 ^ i.unit) :
    ∃ decimal, i.onGrid? tie k = some decimal := by
  -- the first point above the value
  have above : i.Contains (↑(i.value * (wholePowers k i.unit).2 / (wholePowers k i.unit).1 + 1) *
      10 ^ k) := by
    obtain ⟨c, positive, step, unit⟩ := exists_wholePowers k i.unit
    have spacing : 0 < (wholePowers k i.unit).1 := by
      rw [← @Nat.cast_pos ℚ, step]
      positivity
    have within := Nat.div_mul_le_self (i.value * (wholePowers k i.unit).2) (wholePowers k i.unit).1
    have beyond := Nat.lt_mul_div_succ (i.value * (wholePowers k i.unit).2) spacing
    rw [mul_comm (wholePowers k i.unit).1, ← not_le, mul_wholePowers_ge_iff, not_le] at beyond
    rw [mul_wholePowers_ge_iff] at within
    have low : (i.low : ℚ) * 2 ^ i.unit ≤ i.value * 2 ^ i.unit :=
      mul_le_mul_of_nonneg_right (Nat.cast_le.mpr hLow) (by positivity)
    refine .of_lt (low.trans_lt beyond) ?_
    push_cast
    linarith
  have inside := (contains_iff i k _).mp above
  rw [onGrid?]
  generalize wholePowers k i.unit = powers at inside
  obtain ⟨step, unit⟩ := powers
  dsimp only at inside ⊢
  split
  · exact ⟨_, rfl⟩
  · exact ⟨_, rfl⟩
  · exact ⟨_, rfl⟩
  · next outside =>
    rw [inside] at outside
    exact nomatch outside

private theorem lt_ten_pow_digitCount (n : ℕ) : n < 10 ^ digitCount n :=
  (Nat.length_toDigits_le_iff (by decide) Nat.length_toDigits_pos).mp le_rfl

private theorem ten_pow_digitCount_le {n : ℕ} (h : n ≠ 0) : 10 ^ (digitCount n - 1) ≤ n := by
  rcases Nat.eq_zero_or_pos (digitCount n - 1) with one | several
  · rw [one]
    exact Nat.one_le_iff_ne_zero.mpr h
  · rw [← not_lt, ← Nat.length_toDigits_le_iff (by decide) several, ← digitCount]
    omega

/-- The coarsest grid of the search is at most ten times as coarse as the upper end is large. -/
private theorem ten_zpow_topExponent_le (i : Interval) (hHigh : 0 < i.high) :
    (10 : ℚ) ^ (i.topExponent - 1) ≤ i.high * 2 ^ i.unit := by
  obtain ⟨c, positive, hOne, hUnit⟩ := exists_wholePowers 0 i.unit
  rw [topExponent]
  generalize wholePowers 0 i.unit = powers at hOne hUnit
  obtain ⟨one, unit⟩ := powers
  dsimp only at hOne hUnit ⊢
  rw [zpow_zero, one_mul] at hOne
  split
  · next small =>
    -- the number of zeros behind the point is that of the digits of the quotient of one
    have scaled : 0 < i.high * unit := by
      refine Nat.mul_pos hHigh ?_
      rw [← @Nat.cast_pos ℚ, hUnit]
      positivity
    have inverse : one ≤ 10 ^ digitCount ((one - 1) / (i.high * unit)) * (i.high * unit) := by
      have beyond := Nat.lt_mul_div_succ (one - 1) scaled
      have digits := lt_ten_pow_digitCount ((one - 1) / (i.high * unit))
      calc one ≤ i.high * unit * ((one - 1) / (i.high * unit) + 1) := by omega
        _ ≤ i.high * unit * 10 ^ digitCount ((one - 1) / (i.high * unit)) :=
          Nat.mul_le_mul_left _ digits
        _ = _ := Nat.mul_comm _ _
    generalize digitCount ((one - 1) / (i.high * unit)) = n at inverse
    have bound : c * 1 ≤ c * (i.high * 2 ^ i.unit * 10 ^ n) := by
      rw [← @Nat.cast_le ℚ] at inverse
      push_cast at inverse
      rw [hOne, hUnit] at inverse
      linarith
    rw [show (-((n : ℤ) - 1) - 1) = -n by ring, zpow_neg, zpow_natCast,
      inv_le_iff_one_le_mul₀ (by positivity)]
    exact le_of_mul_le_mul_left bound positive
  · next large =>
    have digits := ten_pow_digitCount_le large
    have several : 1 ≤ digitCount (i.high * unit / one) := Nat.length_toDigits_pos
    have bound : 10 ^ (digitCount (i.high * unit / one) - 1) * one ≤ i.high * unit :=
      (Nat.mul_le_mul_right _ digits).trans (Nat.div_mul_le_self _ _)
    generalize digitCount (i.high * unit / one) = n at bound several
    have scaled : c * 10 ^ (n - 1) ≤ c * (i.high * 2 ^ i.unit) := by
      rw [← @Nat.cast_le ℚ] at bound
      push_cast at bound
      rw [hOne, hUnit] at bound
      linarith
    rw [show (n : ℤ) - 1 = (n - 1 : ℕ) by omega, zpow_natCast]
    exact le_of_mul_le_mul_left scaled positive

end Interval

/-- Seventeen digits are always enough, so the search ends with a point of a grid. -/
private theorem exists_onGrid?_eq_some_decimal (tie : Tie) {m : ℕ} (positive : 0 < m)
    (hm : m < 2 ^ 53)
    (q : ℤ) : ∃ k, (Interval.ofValue m q).onGrid? tie k = some (decimal tie m q) := by
  have top := (Interval.ofValue m q).ten_zpow_topExponent_le (Nat.succ_pos _)
  rw [decimal]
  generalize (Interval.ofValue m q).topExponent = e at top
  have fine : ((Interval.ofValue m q).value : ℚ) * 2 ^ (Interval.ofValue m q).unit +
      10 ^ (e - 18) < (Interval.ofValue m q).high * 2 ^ (Interval.ofValue m q).unit := by
    have size : (4 * m + 2 : ℚ) < 2 * 10 ^ 17 := by
      have : 4 * m + 2 < 2 * 10 ^ 17 := by omega
      exact_mod_cast this
    have spacing : (10 : ℚ) ^ (e - 18) = 10 ^ (e - 1) / 10 ^ 17 := by
      rw [← zpow_natCast, ← zpow_sub₀ (by norm_num)]
      congr 1
      omega
    simp only [Interval.ofValue] at top ⊢
    have unit : (0 : ℚ) < 2 ^ (q - 2) := by positivity
    push_cast at top ⊢
    rw [spacing, add_mul, add_lt_add_iff_left, div_lt_iff₀ (by positivity)]
    nlinarith
  obtain ⟨point, hPoint⟩ : ∃ point, (Interval.ofValue m q).onGrid? tie (e - 18) = some point :=
    Interval.exists_onGrid?_eq_some (Nat.sub_le _ _) fine
  cases found : ((List.range 20).map fun (n : ℕ) ↦ e - (n : ℤ)).findSome?
      ((Interval.ofValue m q).onGrid? tie) with
  | none =>
    rw [List.findSome?_eq_none_iff] at found
    have missed := found (e - 18) (List.mem_map.mpr ⟨18, by decide, rfl⟩)
    rw [hPoint] at missed
    exact nomatch missed
  | some point =>
    obtain ⟨k, -, hk⟩ := List.exists_of_findSome?_eq_some found
    exact ⟨k, hk⟩

/-- **The shortest decimal reads back.** It is one of the numbers that are rounded to the double. -/
theorem contains_decimal (tie : Tie) {m : ℕ} (positive : 0 < m) (hm : m < 2 ^ 53) (q : ℤ) :
    (Interval.ofValue m q).Contains (decimal tie m q).toRat := by
  obtain ⟨k, h⟩ := exists_onGrid?_eq_some_decimal tie positive hm q
  exact Interval.contains_of_onGrid?_eq_some h

theorem digits_decimal_pos (tie : Tie) {m : ℕ} (positive : 0 < m) (hm : m < 2 ^ 53) (q : ℤ) :
    0 < (decimal tie m q).digits := by
  obtain ⟨lower, -⟩ := (contains_decimal tie positive hm q).le positive
  have gap := gapBelow_le m q
  have unit : (0 : ℚ) < 2 ^ q := by positivity
  have one : (1 : ℚ) ≤ m := Nat.one_le_cast.mpr positive
  rw [Nat.pos_iff_ne_zero]
  intro zero
  rw [Decimal.toRat, zero, Nat.cast_zero, zero_mul] at lower
  nlinarith

end Shortest

end PreparedSql
