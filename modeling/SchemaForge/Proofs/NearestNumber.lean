import Mathlib.Algebra.Order.Field.Rat
import Mathlib.Order.Monotone.Basic
import Mathlib.Tactic.FieldSimp
import Mathlib.Tactic.Linarith
import Mathlib.Tactic.MkIffOfInductiveProp
import Mathlib.Tactic.Positivity
import Mathlib.Tactic.Ring
import SchemaForge.Decimal.Shortest
import SchemaForge.Proofs.RoundingOrder

/-!
# Nearest numbers

A rational is rounded to the number that no other one is nearer to, and of two equally near numbers
to the one with the even significand. The rationals that are rounded to a positive number are those
of its interval, and intervals of greater numbers lie above.
-/

namespace SchemaForge.Binary64

/-! ### Magnitudes in order -/

/-- The units of a magnitude. Magnitudes that belong to no finite number go on as if the exponent
had more bits. -/
def unitsOf (m : Nat) : Nat :=
  if m / 2 ^ 52 = 0 then m % 2 ^ 52 else (2 ^ 52 + m % 2 ^ 52) * 2 ^ (m / 2 ^ 52 - 1)

/-- The units between a magnitude and the next one. -/
def gapOf (m : Nat) : Nat := 2 ^ (m / 2 ^ 52 - 1)

lemma gapOf_pos (m : Nat) : 0 < gapOf m := Nat.two_pow_pos _

lemma unitsOf_succ (m : Nat) : unitsOf (m + 1) = unitsOf m + gapOf m := by
  unfold unitsOf gapOf
  by_cases hlast : m % 2 ^ 52 + 1 < 2 ^ 52
  · have hdiv : (m + 1) / 2 ^ 52 = m / 2 ^ 52 := by omega
    have hmod : (m + 1) % 2 ^ 52 = m % 2 ^ 52 + 1 := by omega
    rw [hdiv, hmod]
    split_ifs with hzero
    · rw [hzero]
      rfl
    · rw [← Nat.add_assoc, Nat.add_mul, Nat.one_mul]
  · -- The significand is full, so the next magnitude has the next exponent.
    have hdiv : (m + 1) / 2 ^ 52 = m / 2 ^ 52 + 1 := by omega
    have hmod : (m + 1) % 2 ^ 52 = 0 := by omega
    have hfull : m % 2 ^ 52 = 2 ^ 52 - 1 := by omega
    rw [hdiv, hmod, hfull, if_neg (by omega)]
    split_ifs with hzero
    · rw [hzero]
      rfl
    · obtain ⟨e, he⟩ := Nat.exists_eq_succ_of_ne_zero hzero
      rw [he, Nat.succ_eq_add_one, Nat.add_sub_cancel, Nat.add_sub_cancel, Nat.pow_succ]
      omega

/-- The exponent changes between the magnitude and the one below. -/
def AtBoundary (m : Nat) : Prop := m % 2 ^ 52 = 0 ∧ 1 < m / 2 ^ 52

lemma gapOf_of_atBoundary {m : Nat} (h : AtBoundary m) : gapOf m = 2 * gapOf (m - 1) := by
  obtain ⟨hmod, hdiv⟩ := h
  have hexponent : m / 2 ^ 52 - 1 = (m - 1) / 2 ^ 52 - 1 + 1 := by omega
  rw [gapOf, gapOf, hexponent, Nat.pow_succ']

lemma gapOf_pred_of_not_atBoundary {m : Nat} (h : ¬AtBoundary m) : gapOf (m - 1) = gapOf m := by
  unfold AtBoundary at h
  have hexponent : (m - 1) / 2 ^ 52 - 1 = m / 2 ^ 52 - 1 := by omega
  rw [gapOf, gapOf, hexponent]

lemma unitsOf_of_atBoundary {m : Nat} (h : AtBoundary m) : unitsOf m = 2 ^ 52 * gapOf m := by
  obtain ⟨hmod, hdiv⟩ := h
  rw [unitsOf, if_neg (by omega), hmod, Nat.add_zero, gapOf]

lemma unitsOf_lt (m : Nat) : unitsOf m < 2 ^ 53 * gapOf m := by
  unfold unitsOf gapOf
  split_ifs with hzero
  · rw [hzero]
    omega
  · exact Nat.mul_lt_mul_of_pos_right (by omega) (Nat.two_pow_pos _)

lemma unitsOf_strictMono : StrictMono unitsOf := by
  apply strictMono_nat_of_lt_succ
  intro m
  rw [unitsOf_succ]
  exact Nat.lt_add_of_pos_right (gapOf_pos m)

lemma unitsOf_zero : unitsOf 0 = 0 := rfl

variable {x y : Binary64}

lemma units_eq_unitsOf (x : Binary64) : x.units = unitsOf x.magnitude := by
  unfold units significand scale exponentField unitsOf
  rw [Nat.pow_eq, Nat.pow_eq]
  split_ifs with hzero
  · rw [hzero]
    exact Nat.mul_one _
  · rfl

lemma significand_mod_two (x : Binary64) : x.significand % 2 = x.magnitude % 2 := by
  simp only [significand, Nat.pow_eq]
  split_ifs <;> omega

/-- What lies halfway below is found from the gap below. -/
lemma gap_below (x : Binary64) :
    (if x.isPowerBoundary then 1 else 2) * 2 ^ x.scale = 2 * gapOf (x.magnitude - 1) := by
  have hgap : gapOf x.magnitude = 2 ^ x.scale := rfl
  have hboundary : x.isPowerBoundary = true ↔ AtBoundary x.magnitude := by
    rw [isPowerBoundary, Bool.and_eq_true, beq_iff_eq, decide_eq_true_iff]
    rfl
  split_ifs with h
  · rw [Nat.one_mul, ← hgap, gapOf_of_atBoundary (hboundary.mp h)]
  · rw [← hgap, gapOf_pred_of_not_atBoundary (mt hboundary.mpr h)]

/-! ### Values -/

/-- The number without its sign. -/
def abs (x : Binary64) : Binary64 := ofMagnitude false x.magnitude

/-- The number with the other sign. -/
def neg (x : Binary64) : Binary64 := ofMagnitude (!x.isNegative) x.magnitude

lemma magnitude_lt_signWeight (x : Binary64) : x.magnitude < signWeight :=
  Nat.mod_lt _ (Nat.two_pow_pos 63)

@[simp] lemma magnitude_abs (x : Binary64) : x.abs.magnitude = x.magnitude :=
  magnitude_ofMagnitude false x.magnitude_lt_signWeight

@[simp] lemma isNegative_abs (x : Binary64) : x.abs.isNegative = false :=
  isNegative_ofMagnitude false x.magnitude_lt_signWeight

@[simp] lemma magnitude_neg (x : Binary64) : x.neg.magnitude = x.magnitude :=
  magnitude_ofMagnitude _ x.magnitude_lt_signWeight

@[simp] lemma isNaN_neg (x : Binary64) : x.neg.isNaN = x.isNaN := by
  rw [isNaN, magnitude_neg, isNaN]

@[simp] lemma isNegative_neg (x : Binary64) : x.neg.isNegative = !x.isNegative :=
  isNegative_ofMagnitude _ x.magnitude_lt_signWeight

lemma isNaN_of_isFinite (h : x.isFinite = true) : x.isNaN = false := by
  rw [isFinite, decide_eq_true_iff] at h
  rw [isNaN, decide_eq_false_iff_not]
  omega

lemma eq_of_magnitude_eq (hmagnitude : x.magnitude = y.magnitude)
    (hsign : x.isNegative = y.isNegative) : x = y := by
  have hx := x.bits.toNat_lt
  have hy := y.bits.toNat_lt
  have hbits : x.bits.toNat = y.bits.toNat := by
    unfold magnitude at hmagnitude
    unfold isNegative at hsign
    rw [decide_eq_decide] at hsign
    unfold signWeight at hmagnitude hsign
    rw [Nat.pow_eq] at hmagnitude hsign
    omega
  cases x
  cases y
  exact congrArg mk (UInt64.toNat_inj.mp hbits)

lemma abs_of_isNegative_eq_false (h : x.isNegative = false) : x.abs = x :=
  eq_of_magnitude_eq x.magnitude_abs (by rw [isNegative_abs, h])

lemma neg_abs_of_isNegative (h : x.isNegative = true) : x.abs.neg = x := by
  apply eq_of_magnitude_eq
  · rw [magnitude_neg, magnitude_abs]
  · rw [isNegative_neg, isNegative_abs, h]
    rfl

/-- The value of a number in units. -/
def signedUnits (x : Binary64) : Int :=
  if x.isNegative then -(unitsOf x.magnitude : Int) else unitsOf x.magnitude

/-- The value of a number. Infinity has the value at which the next exponent would begin. -/
def value (x : Binary64) : ℚ := x.signedUnits / 2 ^ 1074

lemma signedUnits_of_nonneg (h : x.isNegative = false) : x.signedUnits = unitsOf x.magnitude := by
  rw [signedUnits, h, if_neg (by simp)]

lemma signedUnits_abs (x : Binary64) : x.abs.signedUnits = |x.signedUnits| := by
  have hnonneg : (0 : Int) ≤ unitsOf x.magnitude := Int.natCast_nonneg _
  rw [signedUnits_of_nonneg x.isNegative_abs, magnitude_abs, signedUnits]
  split_ifs
  · rw [abs_neg, abs_of_nonneg hnonneg]
  · rw [abs_of_nonneg hnonneg]

lemma signedUnits_neg (x : Binary64) : x.neg.signedUnits = -x.signedUnits := by
  rw [signedUnits, signedUnits, isNegative_neg, magnitude_neg]
  cases x.isNegative
  · rfl
  · exact (Int.neg_neg _).symm

lemma value_neg (x : Binary64) : x.neg.value = -x.value := by
  rw [value, value, signedUnits_neg, Int.cast_neg, neg_div]

lemma value_abs (x : Binary64) : x.abs.value = |x.value| := by
  have hpos : (0 : ℚ) < 2 ^ 1074 := by positivity
  rw [value, value, signedUnits_abs, abs_div, abs_of_pos hpos, Int.cast_abs]

lemma abs_value_le_iff (x y : Binary64) : |x.value| ≤ |y.value| ↔ x.magnitude ≤ y.magnitude := by
  rw [← value_abs, ← value_abs, value, value, div_le_div_iff_of_pos_right (by positivity),
    Int.cast_le, signedUnits_of_nonneg x.isNegative_abs, signedUnits_of_nonneg y.isNegative_abs,
    magnitude_abs, magnitude_abs, Int.ofNat_le, unitsOf_strictMono.le_iff_le]

/-- A rational is rounded to a number: to the nearest one, a half to the even significand. -/
@[mk_iff]
structure IsNearest (q : ℚ) (x : Binary64) : Prop where
  le : ∀ y : Binary64, y.isNaN = false → |q - x.value| ≤ |q - y.value|
  even : ∀ y : Binary64, y.isNaN = false → y.value ≠ x.value →
    |q - y.value| = |q - x.value| → x.significand % 2 = 0

lemma abs_sub_value (q : ℚ) (x : Binary64) :
    |q - x.value| = |q * 2 ^ 1074 - x.signedUnits| / 2 ^ 1074 := by
  have hpos : (0 : ℚ) < 2 ^ 1074 := by positivity
  rw [value]
  generalize (2 : ℚ) ^ 1074 = s at *
  rw [← abs_of_pos hpos, ← abs_div, abs_of_pos hpos, sub_div, mul_div_cancel_right₀ _ hpos.ne']

lemma isNearest_iff_units (q : ℚ) (x : Binary64) :
    IsNearest q x ↔
      (∀ y : Binary64, y.isNaN = false →
        |q * 2 ^ 1074 - x.signedUnits| ≤ |q * 2 ^ 1074 - y.signedUnits|) ∧
      ∀ y : Binary64, y.isNaN = false → y.signedUnits ≠ x.signedUnits →
        |q * 2 ^ 1074 - y.signedUnits| = |q * 2 ^ 1074 - x.signedUnits| →
          x.significand % 2 = 0 := by
  have hpos : (0 : ℚ) < 2 ^ 1074 := by positivity
  have hne : ∀ y : Binary64, y.value ≠ x.value ↔ y.signedUnits ≠ x.signedUnits := by
    intro y
    rw [value, value, Ne, div_left_inj' hpos.ne', Int.cast_inj]
  simp only [isNearest_iff, hne, abs_sub_value, div_le_div_iff_of_pos_right hpos,
    div_left_inj' hpos.ne']

/-- Rounding does not look at the sign. -/
lemma IsNearest.neg {q : ℚ} (h : IsNearest q x) : IsNearest (-q) x.neg := by
  have hmirror : ∀ y : Binary64, |-q - y.value| = |q - y.neg.value| := by
    intro y
    rw [value_neg, ← abs_neg, neg_sub, sub_neg_eq_add, sub_neg_eq_add, add_comm]
  have hself : x.neg.neg = x := eq_of_magnitude_eq (by simp) (by simp)
  have heven : x.neg.significand % 2 = x.significand % 2 := by
    rw [significand_mod_two, significand_mod_two, magnitude_neg]
  constructor
  · intro y hy
    rw [hmirror, hmirror, hself]
    exact h.le y.neg (y.isNaN_neg.trans hy)
  · intro y hy hne heq
    rw [hmirror, hmirror, hself] at heq
    rw [heven]
    refine h.even y.neg (y.isNaN_neg.trans hy) ?_ heq
    rwa [value_neg, Ne, neg_eq_iff_eq_neg, ← value_neg]

lemma IsNearest.of_abs {q : ℚ} (h : IsNearest q x.abs) :
    IsNearest (if x.isNegative then -q else q) x := by
  split_ifs with hsign
  · rw [← neg_abs_of_isNegative hsign]
    exact h.neg
  · rwa [abs_of_isNegative_eq_false (Bool.eq_false_iff.mpr hsign)] at h

/-! ### Between middles -/

/-- The rational `r`, in units, lies between the middles to the magnitudes beside `m`, which belong
to the even one of two magnitudes. -/
structure Rounds (r : ℚ) (m : Nat) : Prop where
  low : (unitsOf (m - 1) + unitsOf m : ℚ) ≤ 2 * r
  high : 2 * r ≤ unitsOf m + unitsOf (m + 1)
  ends : m % 2 = 1 →
    (unitsOf (m - 1) + unitsOf m : ℚ) ≠ 2 * r ∧ 2 * r ≠ unitsOf m + unitsOf (m + 1)

variable {q r : ℚ} {m n : Nat}

lemma Rounds.lt (hq : Rounds q m) (hr : Rounds r n) (h : m < n) : q < r := by
  have hbelow : (unitsOf m : ℚ) ≤ unitsOf (n - 1) :=
    Nat.cast_le.mpr (unitsOf_strictMono.monotone (by omega))
  have habove : (unitsOf (m + 1) : ℚ) ≤ unitsOf n :=
    Nat.cast_le.mpr (unitsOf_strictMono.monotone h)
  have hle : q ≤ r := by linarith [hq.high, hr.low]
  apply lt_of_le_of_ne hle
  rintro rfl
  -- Only the middle of two neighbours is left, and one of them is odd.
  have hhigh : 2 * q = unitsOf m + unitsOf (m + 1) := by linarith [hq.high, hr.low]
  have hlow : (unitsOf (n - 1) + unitsOf n : ℚ) = 2 * q := by linarith [hq.high, hr.low]
  have hunits : unitsOf n = unitsOf (m + 1) := by
    have hcast : (unitsOf n : ℚ) = unitsOf (m + 1) := by linarith
    exact Nat.cast_injective hcast
  have hnext : n = m + 1 := unitsOf_strictMono.injective hunits
  rcases Nat.mod_two_eq_zero_or_one m with hm | hm
  · exact (hr.ends (by omega)).1 hlow
  · exact (hq.ends hm).2 hhigh

/-- Of two numbers the nearer one is on the same side of the middle. -/
lemma abs_sub_le_iff_low {a b : ℚ} (hab : a < b) : |r - b| ≤ |r - a| ↔ a + b ≤ 2 * r := by
  constructor
  · intro h
    by_contra! hlt
    have hnearer : |r - a| < b - r := abs_lt.mpr ⟨by linarith, by linarith⟩
    linarith [neg_le_abs (r - b)]
  · intro h
    have hfarther : |r - b| ≤ r - a := abs_le.mpr ⟨by linarith, by linarith⟩
    exact hfarther.trans (le_abs_self _)

lemma abs_sub_le_iff_high {a b : ℚ} (hab : a < b) : |r - a| ≤ |r - b| ↔ 2 * r ≤ a + b := by
  have hmirror : ∀ c : ℚ, |r - c| = |-r - -c| := by
    intro c
    rw [neg_sub_neg, abs_sub_comm]
  rw [hmirror a, hmirror b, abs_sub_le_iff_low (neg_lt_neg hab)]
  constructor <;> intro h <;> linarith

/-- Every number is the one in question, or at most the one below, or at least the one above. -/
lemma signedUnits_cases (m : Nat) (y : Binary64) :
    (y.signedUnits : ℚ) ≤ unitsOf (m - 1) ∨ (y.signedUnits : ℚ) = unitsOf m ∨
      (unitsOf (m + 1) : ℚ) ≤ y.signedUnits := by
  unfold signedUnits
  split_ifs
  · left
    have hy : (0 : ℚ) ≤ unitsOf y.magnitude := Nat.cast_nonneg _
    have hm : (0 : ℚ) ≤ unitsOf (m - 1) := Nat.cast_nonneg _
    push_cast
    linarith
  · rw [Int.cast_natCast]
    rcases lt_trichotomy y.magnitude m with h | h | h
    · left
      exact Nat.cast_le.mpr (unitsOf_strictMono.monotone (by omega))
    · right; left
      rw [h]
    · right; right
      exact Nat.cast_le.mpr (unitsOf_strictMono.monotone h)

lemma signedUnits_ofMagnitude (hm : m < signWeight) :
    (ofMagnitude false m).signedUnits = unitsOf m := by
  rw [signedUnits_of_nonneg (isNegative_ofMagnitude false hm), magnitude_ofMagnitude false hm]

lemma isNaN_ofMagnitude (hm : m ≤ infinityMagnitude) : (ofMagnitude false m).isNaN = false := by
  have hlt : m < signWeight := lt_of_le_of_lt hm (by decide)
  rw [isNaN, magnitude_ofMagnitude false hlt, decide_eq_false_iff_not]
  omega

lemma unitsOf_below (hm : m ≠ 0) : (unitsOf (m - 1) : ℚ) < unitsOf m :=
  Nat.cast_lt.mpr (unitsOf_strictMono (by omega))

lemma unitsOf_above (m : Nat) : (unitsOf m : ℚ) < unitsOf (m + 1) :=
  Nat.cast_lt.mpr (unitsOf_strictMono m.lt_succ_self)

/-! ### One value only -/

lemma magnitude_eq_of_signedUnits_eq (h : x.signedUnits = unitsOf m) : x.magnitude = m := by
  have hm := unitsOf_strictMono.injective.eq_iff (a := m) (b := 0)
  have hx := unitsOf_strictMono.injective.eq_iff (a := x.magnitude) (b := 0)
  rw [unitsOf_zero] at hm hx
  unfold signedUnits at h
  split_ifs at h
  · omega
  · exact unitsOf_strictMono.injective (Int.ofNat_inj.mp h)

/-- Nothing smaller is as near as a nearest positive number: a number between the two would be
nearer, and of two neighbours one is odd. -/
lemma IsNearest.not_lt_of_pos (hx : IsNearest q x) (hy : IsNearest q y) (hxnan : x.isNaN = false)
    (hynan : y.isNaN = false) (hpos : 0 < x.signedUnits) : ¬y.signedUnits < x.signedUnits := by
  intro hlt
  have hunits : x.signedUnits = unitsOf x.magnitude := by
    unfold signedUnits at hpos ⊢
    split_ifs at hpos ⊢
    · omega
    · rfl
  have hzero : x.magnitude ≠ 0 := by
    intro hzero
    rw [hunits, hzero, unitsOf_zero] at hpos
    omega
  have hbound : x.magnitude - 1 ≤ infinityMagnitude := by
    rw [isNaN, decide_eq_false_iff_not] at hxnan
    omega
  have hznan := isNaN_ofMagnitude hbound
  have hz := signedUnits_ofMagnitude (lt_of_le_of_lt hbound (by decide))
  have hbelow := unitsOf_below hzero
  have hle : (y.signedUnits : ℚ) ≤ unitsOf (x.magnitude - 1) := by
    have hlt' : (y.signedUnits : ℚ) < unitsOf x.magnitude := by
      rw [hunits] at hlt
      exact_mod_cast hlt
    have habove := unitsOf_above x.magnitude
    rcases signedUnits_cases x.magnitude y with h | h | h
    · exact h
    · linarith
    · linarith
  rw [isNearest_iff_units, significand_mod_two] at hx hy
  generalize q * 2 ^ 1074 = r at *
  rcases hle.lt_or_eq with hfar | hnext
  · have hhigh := hy.1 _ hznan
    have hlow := hx.1 _ hznan
    rw [hz, Int.cast_natCast] at hhigh hlow
    rw [abs_sub_le_iff_high hfar] at hhigh
    rw [hunits, Int.cast_natCast, abs_sub_le_iff_low hbelow] at hlow
    linarith
  · have hnext' : y.signedUnits = unitsOf (x.magnitude - 1) := by exact_mod_cast hnext
    have heq := le_antisymm (hx.1 y hynan) (hy.1 x hxnan)
    have hxeven := hx.2 y hynan hlt.ne heq.symm
    have hyeven := hy.2 x hxnan hlt.ne' heq
    have hmagnitude := magnitude_eq_of_signedUnits_eq hnext'
    omega

/-- A rational is rounded to one value only. -/
theorem IsNearest.value_eq (hx : IsNearest q x) (hy : IsNearest q y) (hxnan : x.isNaN = false)
    (hynan : y.isNaN = false) : x.value = y.value := by
  have hnotlt : ∀ {x y : Binary64}, IsNearest q x → IsNearest q y → x.isNaN = false →
      y.isNaN = false → ¬y.signedUnits < x.signedUnits := by
    intro x y hx hy hxnan hynan hlt
    by_cases hpos : 0 < x.signedUnits
    · exact hx.not_lt_of_pos hy hxnan hynan hpos hlt
    · refine hy.neg.not_lt_of_pos hx.neg ?_ ?_ ?_ ?_
      · rwa [isNaN_neg]
      · rwa [isNaN_neg]
      · rw [signedUnits_neg]
        omega
      · rw [signedUnits_neg, signedUnits_neg]
        omega
  have hunits : x.signedUnits = y.signedUnits :=
    le_antisymm (not_lt.mp (hnotlt hx hy hxnan hynan)) (not_lt.mp (hnotlt hy hx hynan hxnan))
  rw [value, value, hunits]

lemma eq_of_value_eq (hzero : x.isZero = false) (h : x.value = y.value) : x = y := by
  have hunits : x.signedUnits = y.signedUnits := by
    rw [value, value, div_left_inj' (by positivity)] at h
    exact Int.cast_injective h
  have hpos : 0 < unitsOf x.magnitude :=
    unitsOf_strictMono (Nat.pos_of_ne_zero (beq_eq_false_iff_ne.mp hzero))
  unfold signedUnits at hunits
  cases hx : x.isNegative <;> cases hy : y.isNegative <;>
    rw [hx, hy] at hunits <;>
    simp only [Bool.false_eq_true, if_true, if_false] at hunits
  · exact eq_of_magnitude_eq (unitsOf_strictMono.injective (by omega)) (hx.trans hy.symm)
  · omega
  · omega
  · exact eq_of_magnitude_eq (unitsOf_strictMono.injective (by omega)) (hx.trans hy.symm)

/-! ### Nearest and between middles -/

lemma isNearest_of_rounds (hsign : x.isNegative = false) (hx : x.magnitude ≠ 0)
    (h : Rounds (q * 2 ^ 1074) x.magnitude) : IsNearest q x := by
  rw [isNearest_iff_units, signedUnits_of_nonneg hsign, significand_mod_two, Int.cast_natCast]
  generalize q * 2 ^ 1074 = r at *
  have hbelow := unitsOf_below hx
  have habove := unitsOf_above x.magnitude
  constructor
  · intro y _
    rcases signedUnits_cases x.magnitude y with hy | hy | hy
    · exact (abs_sub_le_iff_low (by linarith)).mpr (by linarith [h.low])
    · rw [hy]
    · exact (abs_sub_le_iff_high (by linarith)).mpr (by linarith [h.high])
  · intro y _ hne heq
    -- An equally near number leaves only an end, which an odd magnitude does not have.
    by_contra hodd
    obtain ⟨hlow, hhigh⟩ := h.ends (by omega)
    rcases signedUnits_cases x.magnitude y with hy | hy | hy
    · have hle := (abs_sub_le_iff_high (by linarith)).mp heq.le
      exact hlow (by linarith [h.low])
    · exact hne (Int.cast_injective (hy.trans (Int.cast_natCast _).symm))
    · have hle := (abs_sub_le_iff_low (by linarith)).mp heq.le
      exact hhigh (by linarith [h.high])

/-- What is nearest lies between the middles, as the two neighbours show. -/
lemma rounds_of_isNearest (hfinite : x.isFinite = true) (hsign : x.isNegative = false)
    (hx : x.magnitude ≠ 0) (h : IsNearest q x) : Rounds (q * 2 ^ 1074) x.magnitude := by
  rw [isFinite, decide_eq_true_iff] at hfinite
  rw [isNearest_iff_units, signedUnits_of_nonneg hsign, significand_mod_two, Int.cast_natCast] at h
  generalize q * 2 ^ 1074 = r at *
  generalize x.magnitude = m at *
  obtain ⟨hle, heven⟩ := h
  have hweight : infinityMagnitude < signWeight := by decide
  have hneighbour : ∀ k ≤ infinityMagnitude, |r - unitsOf m| ≤ |r - unitsOf k| ∧
      (k ≠ m → |r - unitsOf k| = |r - unitsOf m| → m % 2 = 0) := by
    intro k hk
    have hunits := signedUnits_ofMagnitude (lt_of_le_of_lt hk hweight)
    have hnan := isNaN_ofMagnitude hk
    have hdistance := hle _ hnan
    have htie := heven _ hnan
    rw [hunits, Int.cast_natCast] at hdistance htie
    refine ⟨hdistance, fun hkm => htie fun heq => hkm ?_⟩
    exact unitsOf_strictMono.injective (Int.ofNat_inj.mp heq)
  obtain ⟨hlow, hlow'⟩ := hneighbour (m - 1) (by omega)
  obtain ⟨hhigh, hhigh'⟩ := hneighbour (m + 1) (by omega)
  have hbelow := unitsOf_below hx
  have habove := unitsOf_above m
  refine ⟨(abs_sub_le_iff_low hbelow).mp hlow, (abs_sub_le_iff_high habove).mp hhigh, ?_⟩
  intro hodd
  constructor
  · intro hend
    have hfar := (abs_sub_le_iff_high hbelow).mpr hend.ge
    have := hlow' (by omega) (le_antisymm hfar hlow)
    omega
  · intro hend
    have hfar := (abs_sub_le_iff_low habove).mpr hend.ge
    have := hhigh' (by omega) (le_antisymm hfar hhigh)
    omega

end SchemaForge.Binary64

namespace SchemaForge.Decimal.Interval

open Binary64

variable {x : Binary64} {q r s : ℚ}

def Holds (i : Interval) (q : ℚ) : Prop :=
  if i.closed then i.low ≤ q * i.den ∧ q * i.den ≤ i.high
  else i.low < q * i.den ∧ q * i.den < i.high

lemma Holds.between {i : Interval} (hq : i.Holds q) (hs : i.Holds s) (hqr : q ≤ r) (hrs : r ≤ s) :
    i.Holds r := by
  have hlow : q * i.den ≤ r * i.den := mul_le_mul_of_nonneg_right hqr (Nat.cast_nonneg _)
  have hhigh : r * i.den ≤ s * i.den := mul_le_mul_of_nonneg_right hrs (Nat.cast_nonneg _)
  unfold Holds at *
  split_ifs at *
  · exact ⟨hq.1.trans hlow, hhigh.trans hs.2⟩
  · exact ⟨hq.1.trans_le hlow, hhigh.trans_lt hs.2⟩

lemma contains_iff (i : Interval) (num : Nat) {den : Nat} (hden : 0 < den) :
    i.contains num den = true ↔ i.Holds (num / den) := by
  have hpos : (0 : ℚ) < den := Nat.cast_pos.mpr hden
  have hle : ∀ a : Nat, a * den ≤ num * i.den ↔ (a : ℚ) ≤ num / den * i.den := by
    intro a
    rw [div_mul_eq_mul_div, le_div_iff₀ hpos]
    exact_mod_cast Iff.rfl
  have hge : ∀ a : Nat, num * i.den ≤ a * den ↔ (num / den * i.den : ℚ) ≤ a := by
    intro a
    rw [div_mul_eq_mul_div, div_le_iff₀ hpos]
    exact_mod_cast Iff.rfl
  unfold contains Holds
  split_ifs
  · rw [Bool.and_eq_true, decide_eq_true_iff, decide_eq_true_iff, hle, hge]
  · rw [Bool.and_eq_true, decide_eq_true_iff, decide_eq_true_iff, ← not_le, ← not_le, ← not_le,
      ← not_le, hle, hge]

lemma of_value (x : Binary64) : (Interval.of x).value = 4 * unitsOf x.magnitude := by
  rw [← units_eq_unitsOf, units, ← Nat.mul_assoc]
  rfl

lemma of_den (x : Binary64) : ((Interval.of x).den : ℚ) = 4 * 2 ^ 1074 := by
  have hpow : ∀ n, (Nat.pow 2 n : ℚ) = 2 ^ n := by
    intro n
    rw [Nat.pow_eq, Nat.cast_pow, Nat.cast_ofNat]
  simp only [Interval.of, Nat.cast_mul, hpow, Nat.cast_ofNat]

lemma of_high (x : Binary64) :
    (Interval.of x).high = 2 * (unitsOf x.magnitude + unitsOf (x.magnitude + 1)) := by
  have hgap : gapOf x.magnitude = Nat.pow 2 x.scale := rfl
  have hhigh : (Interval.of x).high = (4 * x.significand + 2) * Nat.pow 2 x.scale := rfl
  rw [hhigh, unitsOf_succ, ← units_eq_unitsOf, units, hgap]
  ring

lemma of_low (hx : x.magnitude ≠ 0) :
    (Interval.of x).low = 2 * (unitsOf (x.magnitude - 1) + unitsOf x.magnitude) := by
  have hlow : (Interval.of x).low =
      (4 * x.significand - if x.isPowerBoundary then 1 else 2) * 2 ^ x.scale := rfl
  have hunits : unitsOf x.magnitude = x.significand * 2 ^ x.scale := (units_eq_unitsOf x).symm
  have hstep : unitsOf x.magnitude = unitsOf (x.magnitude - 1) + gapOf (x.magnitude - 1) := by
    rw [← unitsOf_succ, Nat.sub_add_cancel (Nat.pos_of_ne_zero hx)]
  rw [hlow, Nat.sub_mul, gap_below, Nat.mul_assoc, ← hunits]
  omega

lemma of_closed (x : Binary64) : (Interval.of x).closed = (x.magnitude % 2 == 0) := by
  rw [← significand_mod_two]
  rfl

/-- The interval of a positive number reaches from middle to middle. -/
lemma holds_of_iff (hx : x.magnitude ≠ 0) (q : ℚ) :
    (Interval.of x).Holds q ↔ Rounds (q * 2 ^ 1074) x.magnitude := by
  have hscaled : q * (Interval.of x).den = 2 * (2 * (q * 2 ^ 1074)) := by
    rw [of_den]
    generalize (2 : ℚ) ^ 1074 = s
    ring
  unfold Holds
  rw [hscaled, of_closed, of_low hx, of_high]
  push_cast
  generalize q * 2 ^ 1074 = r
  rcases Nat.mod_two_eq_zero_or_one x.magnitude with heven | hodd
  · rw [if_pos (by rw [heven]; rfl)]
    constructor
    · rintro ⟨hlow, hhigh⟩
      exact ⟨by linarith, by linarith, by omega⟩
    · rintro ⟨hlow, hhigh, -⟩
      exact ⟨by linarith, by linarith⟩
  · rw [if_neg (by rw [hodd]; simp)]
    constructor
    · rintro ⟨hlow, hhigh⟩
      exact ⟨by linarith, by linarith, fun _ => ⟨by linarith, by linarith⟩⟩
    · rintro ⟨hlow, hhigh, hends⟩
      have hlow' := lt_of_le_of_ne hlow (hends hodd).1
      have hhigh' := lt_of_le_of_ne hhigh (hends hodd).2
      exact ⟨by linarith, by linarith⟩

lemma value_div_den (x : Binary64) :
    ((Interval.of x).value / (Interval.of x).den * 2 ^ 1074 : ℚ) = unitsOf x.magnitude := by
  have hpos : (0 : ℚ) < 2 ^ 1074 := by positivity
  rw [of_value, of_den, Nat.cast_mul, Nat.cast_ofNat]
  generalize (2 : ℚ) ^ 1074 = s at *
  field_simp

lemma holds_of_value (hx : x.magnitude ≠ 0) :
    (Interval.of x).Holds ((Interval.of x).value / (Interval.of x).den) := by
  have hbelow := unitsOf_below hx
  have habove := unitsOf_above x.magnitude
  rw [holds_of_iff hx, value_div_den]
  exact ⟨by linarith, by linarith, fun _ => ⟨by linarith, by linarith⟩⟩

/-- The interval of a positive number holds the rationals that are rounded to it. -/
theorem isNearest_abs_iff (hfinite : x.isFinite = true) (hx : x.magnitude ≠ 0) (q : ℚ) :
    IsNearest q x.abs ↔ (Interval.of x).Holds q := by
  rw [holds_of_iff hx, ← magnitude_abs]
  constructor
  · apply rounds_of_isNearest _ x.isNegative_abs
    · rwa [magnitude_abs]
    · rwa [isFinite, magnitude_abs]
  · apply isNearest_of_rounds x.isNegative_abs
    rwa [magnitude_abs]

end SchemaForge.Decimal.Interval
