import Mathlib.Algebra.Order.Floor.Semiring
import Mathlib.Data.Rat.Floor
import SchemaForge.Proofs.NearestNumber

/-!
# Shortest digits

The search for a decimal goes through ever finer grids and stops at the first one that meets the
interval of the number. It meets one within seventeen digits, and no decimal with fewer digits is
rounded to the number.
-/

namespace SchemaForge.Decimal

open Binary64

/-! ### Counting digits -/

lemma digitCount_le_iff (n k : Nat) : digitCount n ≤ k ↔ n < 10 ^ k := by
  induction k generalizing n with
  | zero =>
    rw [digitCount]
    split_ifs with h
    · simp [h]
    · simp only [Nat.le_zero_eq, Nat.add_eq_zero_iff, pow_zero]
      omega
  | succ k ih =>
    rw [digitCount]
    split_ifs with h
    · simp [h]
    · rw [Nat.add_le_add_iff_right, ih, Nat.div_lt_iff_lt_mul (by omega), Nat.pow_succ]

lemma digitCount_pos {n : Nat} (hn : n ≠ 0) : 0 < digitCount n := by
  have h := digitCount_le_iff n 0
  rw [pow_zero] at h
  omega

lemma lt_pow_digitCount (n : Nat) : n < 10 ^ digitCount n :=
  (digitCount_le_iff n _).mp le_rfl

lemma pow_digitCount_le {n : Nat} (hn : n ≠ 0) : 10 ^ (digitCount n - 1) ≤ n := by
  have hpos := digitCount_pos hn
  have h := digitCount_le_iff n (digitCount n - 1)
  omega

/-- The digits that are written are as many as are counted. -/
lemma length_toDigits {n : Nat} (hn : n ≠ 0) : (Nat.toDigits 10 n).length = digitCount n := by
  have hle : ∀ k, 0 < k → ((Nat.toDigits 10 n).length ≤ k ↔ digitCount n ≤ k) := by
    intro k hk
    rw [Nat.length_toDigits_le_iff (by omega) hk, digitCount_le_iff]
  exact le_antisymm ((hle _ (digitCount_pos hn)).mpr le_rfl)
    ((hle _ Nat.length_toDigits_pos).mp le_rfl)

/-! ### Powers of ten -/

lemma ten_zpow_pos (e : Int) : (0 : ℚ) < 10 ^ e := zpow_pos (by norm_num) e

lemma ten_zpow_add (e f : Int) : (10 : ℚ) ^ (e + f) = 10 ^ e * 10 ^ f :=
  zpow_add₀ (by norm_num) e f

lemma ten_zpow_succ (e : Int) : (10 : ℚ) ^ (e + 1) = 10 ^ e * 10 := by
  rw [ten_zpow_add, zpow_one]

lemma pow_toNat_div (e : Int) : ((10 ^ e.toNat : Nat) / (10 ^ (-e).toNat : Nat) : ℚ) = 10 ^ e := by
  push_cast
  rcases le_total 0 e with h | h
  · rw [Int.toNat_of_nonpos (by omega : -e ≤ 0), pow_zero, div_one, ← zpow_natCast,
      Int.toNat_of_nonneg h]
  · rw [Int.toNat_of_nonpos h, pow_zero, ← zpow_natCast, Int.toNat_of_nonneg (by omega), zpow_neg,
      one_div, inv_inv]

/-- The rational that a decimal stands for. -/
def value (d : Decimal) : ℚ := d.digits * 10 ^ d.exponent

lemma pow_leading_le {d : Decimal} (hd : d.digits ≠ 0) : (10 : ℚ) ^ d.leading ≤ d.value := by
  have hcount := digitCount_pos hd
  have hsplit : d.leading = (digitCount d.digits - 1 : Nat) + d.exponent := by
    unfold leading
    omega
  have hdigits : ((10 ^ (digitCount d.digits - 1) : Nat) : ℚ) ≤ d.digits :=
    Nat.cast_le.mpr (pow_digitCount_le hd)
  rw [hsplit, ten_zpow_add, zpow_natCast, value]
  push_cast at hdigits
  exact mul_le_mul_of_nonneg_right hdigits (ten_zpow_pos _).le

lemma lt_pow_leading (d : Decimal) : d.value < 10 ^ (d.leading + 1) := by
  have hsplit : d.leading + 1 = (digitCount d.digits : Int) + d.exponent := by
    unfold leading
    omega
  have hdigits : (d.digits : ℚ) < (10 ^ digitCount d.digits : Nat) :=
    Nat.cast_lt.mpr (lt_pow_digitCount _)
  rw [hsplit, ten_zpow_add, zpow_natCast, value]
  push_cast at hdigits
  exact mul_lt_mul_of_pos_right hdigits (ten_zpow_pos _)

lemma leadingExponent_spec {num den : Nat} (hnum : num ≠ 0) (hden : den ≠ 0) :
    (10 : ℚ) ^ leadingExponent num den ≤ num / den ∧
      (num / den : ℚ) < 10 ^ (leadingExponent num den + 1) := by
  have hpos : (0 : ℚ) < den := Nat.cast_pos.mpr (Nat.pos_of_ne_zero hden)
  rw [le_div_iff₀ hpos, div_lt_iff₀ hpos]
  unfold leadingExponent
  split_ifs with hle
  · have hquotient : num / den ≠ 0 := (Nat.div_pos hle (Nat.pos_of_ne_zero hden)).ne'
    have hcount := digitCount_pos hquotient
    have hlow := (Nat.le_div_iff_mul_le (Nat.pos_of_ne_zero hden)).mp (pow_digitCount_le hquotient)
    have hhigh := (Nat.div_lt_iff_lt_mul (Nat.pos_of_ne_zero hden)).mp (lt_pow_digitCount (num / den))
    have hexponent : (digitCount (num / den) : Int) - 1 = (digitCount (num / den) - 1 : Nat) := by
      omega
    rw [Int.sub_add_cancel, hexponent, zpow_natCast, zpow_natCast]
    exact ⟨by exact_mod_cast hlow, by exact_mod_cast hhigh⟩
  · -- Below one the reciprocal is counted, less a little so that powers of ten come out right.
    have hquotient : (den - 1) / num ≠ 0 := (Nat.div_pos (by omega) (Nat.pos_of_ne_zero hnum)).ne'
    have hcount := digitCount_pos hquotient
    have hlow := (Nat.le_div_iff_mul_le (Nat.pos_of_ne_zero hnum)).mp (pow_digitCount_le hquotient)
    have hhigh := (Nat.div_lt_iff_lt_mul (Nat.pos_of_ne_zero hnum)).mp
      (lt_pow_digitCount ((den - 1) / num))
    have hlow' : 10 ^ (digitCount ((den - 1) / num) - 1) * num < den := by omega
    have hhigh' : den ≤ 10 ^ digitCount ((den - 1) / num) * num := by omega
    have hexponent : -(digitCount ((den - 1) / num) : Int) + 1 =
        -(digitCount ((den - 1) / num) - 1 : Nat) := by omega
    rw [hexponent, zpow_neg, zpow_neg, zpow_natCast, zpow_natCast, inv_mul_le_iff₀ (by positivity),
      lt_inv_mul_iff₀ (by positivity)]
    exact ⟨by exact_mod_cast hhigh', by exact_mod_cast hlow'⟩

/-! ### Grids -/

namespace Interval

variable {i : Interval} {tie : Tie} {e : Int}

/-- The steps of `10 ^ e` up to the value. -/
def gridFloor (i : Interval) (e : Int) : Nat :=
  i.value * Nat.pow 10 (-e).toNat / (i.den * Nat.pow 10 e.toNat)

lemma gridFloor_le (hden : i.den ≠ 0) (e : Int) :
    i.gridFloor e * 10 ^ e ≤ (i.value / i.den : ℚ) := by
  have hpos : (0 : ℚ) < i.den := Nat.cast_pos.mpr (Nat.pos_of_ne_zero hden)
  have hdown : (0 : ℚ) < (10 ^ (-e).toNat : Nat) := by positivity
  have h : i.gridFloor e * (i.den * 10 ^ e.toNat) ≤ i.value * 10 ^ (-e).toNat :=
    Nat.div_mul_le_self _ _
  rw [← pow_toNat_div e, mul_div_assoc', div_le_div_iff₀ hdown hpos]
  rw [Nat.mul_comm i.den, ← Nat.mul_assoc] at h
  exact_mod_cast h

lemma lt_gridFloor (hden : i.den ≠ 0) (e : Int) :
    (i.value / i.den : ℚ) < (i.gridFloor e + 1 : Nat) * 10 ^ e := by
  have hpos : (0 : ℚ) < i.den := Nat.cast_pos.mpr (Nat.pos_of_ne_zero hden)
  have hdown : (0 : ℚ) < (10 ^ (-e).toNat : Nat) := by positivity
  have hstep : 0 < i.den * 10 ^ e.toNat := Nat.mul_pos (Nat.pos_of_ne_zero hden) (by positivity)
  have h : i.value * 10 ^ (-e).toNat < (i.gridFloor e + 1) * (i.den * 10 ^ e.toNat) :=
    Nat.lt_mul_of_div_lt (Nat.lt_succ_self _) hstep
  rw [← pow_toNat_div e, mul_div_assoc', div_lt_div_iff₀ hpos hdown]
  rw [Nat.mul_comm i.den, ← Nat.mul_assoc] at h
  exact_mod_cast h

lemma contains_grid_iff (i : Interval) (n : Nat) (e : Int) :
    i.contains (n * Nat.pow 10 e.toNat) (Nat.pow 10 (-e).toNat) = true ↔ i.Holds (n * 10 ^ e) := by
  rw [Nat.pow_eq, Nat.pow_eq, contains_iff i _ (Nat.pow_pos (by omega)), ← pow_toNat_div e,
    ← mul_div_assoc, Nat.cast_mul]

/-- A grid gives a point of the interval beside the value, or the interval has neither of the two. -/
lemma onGrid?_cases (i : Interval) (tie : Tie) (e : Int) :
    (i.onGrid? tie e = none ∧ ¬i.Holds (i.gridFloor e * 10 ^ e) ∧
      ¬i.Holds ((i.gridFloor e + 1 : Nat) * 10 ^ e)) ∨
    ∃ d, i.onGrid? tie e = some d ∧ d.exponent = e ∧ i.Holds d.value ∧
      (d.digits = i.gridFloor e ∨ d.digits = i.gridFloor e + 1) := by
  have hlower := i.contains_grid_iff (i.gridFloor e) e
  have hupper := i.contains_grid_iff (i.gridFloor e + 1) e
  generalize h : i.onGrid? tie e = found
  unfold onGrid? at h
  dsimp only at h
  split at h
  · rename_i hl hu
    exact Or.inl ⟨h.symm, fun hq => Bool.eq_false_iff.mp hl (hlower.mpr hq),
      fun hq => Bool.eq_false_iff.mp hu (hupper.mpr hq)⟩
  · rename_i hl _
    exact Or.inr ⟨_, h.symm, rfl, hlower.mp hl, Or.inl rfl⟩
  · rename_i _ hu
    exact Or.inr ⟨_, h.symm, rfl, hupper.mp hu, Or.inr rfl⟩
  · rename_i hl hu
    -- Both are in the interval, so it does not matter which one is taken.
    have hboth : found = some ⟨i.gridFloor e, e⟩ ∨ found = some ⟨i.gridFloor e + 1, e⟩ := by
      split_ifs at h
      · exact Or.inl h.symm
      · exact Or.inr h.symm
      · cases tie with
        | up => exact Or.inr h.symm
        | toEven => exact Or.inl h.symm
      · cases tie with
        | up => exact Or.inr h.symm
        | toEven => exact Or.inr h.symm
    rcases hboth with rfl | rfl
    · exact Or.inr ⟨_, rfl, rfl, hlower.mp hl, Or.inl rfl⟩
    · exact Or.inr ⟨_, rfl, rfl, hupper.mp hu, Or.inr rfl⟩

/-- Where nothing is found, the interval lies between two points of the grid. -/
lemma not_holds_of_onGrid?_eq_none (hden : i.den ≠ 0) (hvalue : i.Holds (i.value / i.den))
    (h : i.onGrid? tie e = none) (n : Nat) : ¬i.Holds (n * 10 ^ e) := by
  rcases i.onGrid?_cases tie e with ⟨-, hlower, hupper⟩ | ⟨d, hd, -⟩
  · intro hn
    rcases Nat.lt_or_ge (i.gridFloor e) n with hlt | hle
    · refine hupper (hvalue.between hn (lt_gridFloor hden e).le ?_)
      exact mul_le_mul_of_nonneg_right (Nat.cast_le.mpr hlt) (ten_zpow_pos e).le
    · refine hlower (hn.between hvalue ?_ (gridFloor_le hden e))
      exact mul_le_mul_of_nonneg_right (Nat.cast_le.mpr hle) (ten_zpow_pos e).le
  · rw [h] at hd
    cases hd

/-- The search stops at the first grid that gives something. -/
lemma search_cases (i : Interval) (tie : Tie) (e : Int) (count : Nat) :
    (∃ j < count, i.onGrid? tie (e - j) = some (i.search tie e count) ∧
      ∀ l < j, i.onGrid? tie (e - l) = none) ∨
    ∀ j < count, i.onGrid? tie (e - j) = none := by
  induction count generalizing e with
  | zero => exact Or.inr fun j hj => absurd hj (Nat.not_lt_zero j)
  | succ count ih =>
    have hnext : ∀ j : Nat, e - ((j + 1 : Nat) : Int) = e - 1 - j := by
      intro j
      omega
    cases hgrid : i.onGrid? tie e with
    | some d =>
      refine Or.inl ⟨0, Nat.succ_pos count, ?_, fun l hl => absurd hl (Nat.not_lt_zero l)⟩
      rw [search, hgrid]
      simpa using hgrid
    | none =>
      have hfirst : i.onGrid? tie (e - (0 : Nat)) = none := by simpa using hgrid
      rcases ih (e - 1) with ⟨j, hj, hfound, hbefore⟩ | hall
      · refine Or.inl ⟨j + 1, Nat.succ_lt_succ hj, ?_, ?_⟩
        · rw [search, hgrid, hnext]
          exact hfound
        · intro l hl
          cases l with
          | zero => exact hfirst
          | succ l =>
            rw [hnext]
            exact hbefore l (Nat.lt_of_succ_lt_succ hl)
      · refine Or.inr fun j hj => ?_
        cases j with
        | zero => exact hfirst
        | succ j =>
          rw [hnext]
          exact hall j (Nat.lt_of_succ_lt_succ hj)

end Interval

/-! ### Zeros at the end -/

lemma value_strip (d : Decimal) : d.strip.value = d.value := by
  fun_induction strip d with
  | case1 d h ih =>
    have hdigits : d.digits = 10 * (d.digits / 10) := by omega
    rw [ih, value, value, hdigits, ten_zpow_succ, Nat.mul_div_cancel_left _ (by omega)]
    push_cast
    ring
  | case2 d h => rfl

lemma digits_strip_le (d : Decimal) : d.strip.digits ≤ d.digits := by
  fun_induction strip d with
  | case1 d h ih => exact ih.trans (Nat.div_le_self _ _)
  | case2 d h => exact le_rfl

lemma digits_strip_mod {d : Decimal} (hd : d.digits ≠ 0) : d.strip.digits % 10 ≠ 0 := by
  fun_induction strip d with
  | case1 d h ih => exact ih (by dsimp only; omega)
  | case2 d h => omega

/-- A power of ten is one digit without its zeros. -/
lemma digitCount_strip_le {d : Decimal} {j : Nat} (hd : d.digits ≠ 0)
    (h : d.digits ≤ 10 ^ (j + 1)) : digitCount d.strip.digits ≤ j + 1 := by
  rw [digitCount_le_iff]
  refine lt_of_le_of_ne ((digits_strip_le d).trans h) ?_
  intro heq
  apply digits_strip_mod hd
  rw [heq, Nat.pow_succ, Nat.mul_mod_left]

/-! ### The shortest decimal -/

/-- Seventeen digits are finer than the interval is wide. -/
lemma unitsOf_lt_gaps (m : Nat) : 2 * unitsOf m < 10 ^ 16 * (gapOf (m - 1) + gapOf m) := by
  by_cases h : AtBoundary m
  · -- The interval is narrower here, but the digits that fit are as many as at half the number.
    have hunits := unitsOf_of_atBoundary h
    have hgap := gapOf_pos m
    omega
  · have hunits := unitsOf_lt m
    rw [gapOf_pred_of_not_atBoundary h]
    omega

/-- Steps that are smaller than the interval is wide meet it. -/
lemma exists_rounds {m : Nat} {step : ℚ} (hm : m ≠ 0) (hpos : 0 < step)
    (hstep : 10 ^ 16 * step ≤ unitsOf m) : ∃ n : Nat, Rounds (n * step) m := by
  have hbelow : (unitsOf m : ℚ) = unitsOf (m - 1) + gapOf (m - 1) := by
    rw [← Nat.cast_add, ← unitsOf_succ, Nat.sub_add_cancel (Nat.pos_of_ne_zero hm)]
  have habove : (unitsOf (m + 1) : ℚ) = unitsOf m + gapOf m := by
    rw [← Nat.cast_add, ← unitsOf_succ]
  have hgaps : (2 * unitsOf m : ℚ) < 10 ^ 16 * (gapOf (m - 1) + gapOf m) := by
    exact_mod_cast unitsOf_lt_gaps m
  have hmiddle : (0 : ℚ) ≤ (unitsOf (m - 1) + unitsOf m) / 2 / step := by positivity
  have hfloor := Nat.floor_le hmiddle
  have hnext := Nat.lt_floor_add_one ((unitsOf (m - 1) + unitsOf m : ℚ) / 2 / step)
  rw [le_div_iff₀ hpos] at hfloor
  rw [div_lt_iff₀ hpos] at hnext
  -- The first point above the lower middle is still below the upper one.
  refine ⟨⌊(unitsOf (m - 1) + unitsOf m : ℚ) / 2 / step⌋₊ + 1, ?_⟩
  push_cast
  exact ⟨by linarith, by linarith, fun _ => ⟨by linarith, by linarith⟩⟩

section Found

variable {x : Binary64}

/-- The exponent of the leading digit of a number. -/
def topExponent (x : Binary64) : Int :=
  leadingExponent (Interval.of x).value (Interval.of x).den

lemma den_ne_zero (x : Binary64) : (Interval.of x).den ≠ 0 := by
  have hpos : (0 : ℚ) < (Interval.of x).den := by
    rw [Interval.of_den]
    positivity
  exact (Nat.cast_pos.mp hpos).ne'

lemma topExponent_spec (hx : x.magnitude ≠ 0) :
    (10 : ℚ) ^ topExponent x ≤ (Interval.of x).value / (Interval.of x).den ∧
      ((Interval.of x).value / (Interval.of x).den : ℚ) < 10 ^ (topExponent x + 1) := by
  have hunits := unitsOf_strictMono (Nat.pos_of_ne_zero hx)
  have hvalue : (Interval.of x).value ≠ 0 := by
    rw [Interval.of_value]
    omega
  exact leadingExponent_spec hvalue (den_ne_zero x)

lemma digits_ne_zero_of_holds (hx : x.magnitude ≠ 0) {d : Decimal}
    (h : (Interval.of x).Holds d.value) : d.digits ≠ 0 := by
  intro hzero
  rw [value, hzero, Nat.cast_zero, zero_mul] at h
  have hlow := ((Interval.holds_of_iff hx 0).mp h).low
  have hpos : (0 : ℚ) < unitsOf x.magnitude :=
    Nat.cast_pos.mpr (unitsOf_strictMono (Nat.pos_of_ne_zero hx))
  have hnonneg : (0 : ℚ) ≤ unitsOf (x.magnitude - 1) := Nat.cast_nonneg _
  rw [zero_mul, mul_zero] at hlow
  linarith

/-- The seventeenth grid meets the interval. -/
lemma exists_holds_seventeenth (hx : x.magnitude ≠ 0) :
    ∃ n : Nat, (Interval.of x).Holds (n * 10 ^ (topExponent x - (16 : Nat))) := by
  have hpos : (0 : ℚ) < 2 ^ 1074 := by positivity
  have hstep : (10 : ℚ) ^ 16 * (10 ^ (topExponent x - (16 : Nat)) * 2 ^ 1074) ≤
      unitsOf x.magnitude := by
    rw [← mul_assoc, ← zpow_natCast 10 16, ← ten_zpow_add, add_sub_cancel,
      ← Interval.value_div_den]
    exact mul_le_mul_of_nonneg_right (topExponent_spec hx).1 hpos.le
  obtain ⟨n, hn⟩ := exists_rounds hx (mul_pos (ten_zpow_pos _) hpos) hstep
  refine ⟨n, (Interval.holds_of_iff hx _).mpr ?_⟩
  rwa [mul_assoc]

lemma gridFloor_lt (hx : x.magnitude ≠ 0) (j : Nat) :
    (Interval.of x).gridFloor (topExponent x - j) < 10 ^ (j + 1) := by
  have hfloor := Interval.gridFloor_le (den_ne_zero x) (topExponent x - j)
  have htop := (topExponent_spec hx).2
  have hsplit : topExponent x + 1 = ((j + 1 : Nat) : Int) + (topExponent x - j) := by
    push_cast
    ring
  rw [hsplit, ten_zpow_add, zpow_natCast] at htop
  have hlt := lt_of_mul_lt_mul_right (hfloor.trans_lt htop) (ten_zpow_pos _).le
  exact_mod_cast hlt

/-- The search ends with a decimal of the interval, and no coarser grid meets the interval. -/
lemma shortest_eq_strip (hx : x.magnitude ≠ 0) (tie : Tie) :
    ∃ (d : Decimal) (j : Nat), shortest tie x = d.strip ∧ (Interval.of x).Holds d.value ∧
      d.digits ≠ 0 ∧ d.digits ≤ 10 ^ (j + 1) ∧
      ∀ l < j, ∀ n : Nat, ¬(Interval.of x).Holds (n * 10 ^ (topExponent x - l)) := by
  have hnone : ∀ {e : Int}, (Interval.of x).onGrid? tie e = none →
      ∀ n : Nat, ¬(Interval.of x).Holds (n * 10 ^ e) :=
    Interval.not_holds_of_onGrid?_eq_none (den_ne_zero x) (Interval.holds_of_value hx)
  rcases (Interval.of x).search_cases tie (topExponent x) 17 with ⟨j, -, hfound, hbefore⟩ | hall
  · rcases (Interval.of x).onGrid?_cases tie (topExponent x - j) with
      ⟨hmissing, -⟩ | ⟨d, hd, -, hholds, hdigits⟩
    · rw [hfound] at hmissing
      cases hmissing
    · have hfloor := gridFloor_lt hx j
      rw [hfound] at hd
      exact ⟨d, j, congrArg strip (Option.some.inj hd), hholds,
        digits_ne_zero_of_holds hx hholds, by omega, fun l hl => hnone (hbefore l hl)⟩
  · obtain ⟨n, hn⟩ := exists_holds_seventeenth hx
    exact absurd hn (hnone (hall 16 (by omega)) n)

theorem digits_shortest_mod (hx : x.magnitude ≠ 0) (tie : Tie) :
    (shortest tie x).digits % 10 ≠ 0 := by
  obtain ⟨d, j, heq, -, hd, -⟩ := shortest_eq_strip hx tie
  rw [heq]
  exact digits_strip_mod hd

/-- The shortest decimal is rounded to the number. -/
theorem holds_shortest (hx : x.magnitude ≠ 0) (tie : Tie) :
    (Interval.of x).Holds (shortest tie x).value := by
  obtain ⟨d, j, heq, hholds, -⟩ := shortest_eq_strip hx tie
  rwa [heq, value_strip]

/-- A decimal of the interval is on the grid of its own digits, or a power of ten above it is. -/
lemma exists_holds_of_holds (hx : x.magnitude ≠ 0) {d : Decimal} (hd : d.digits ≠ 0)
    (h : (Interval.of x).Holds d.value) : ∃ n : Nat,
      (Interval.of x).Holds (n * 10 ^ (topExponent x - (digitCount d.digits - 1 : Nat))) := by
  have hcount := digitCount_pos hd
  rcases le_or_gt (topExponent x) d.leading with hle | hlt
  · have hsplit : d.exponent = ((d.leading - topExponent x).toNat : Int) +
        (topExponent x - (digitCount d.digits - 1 : Nat)) := by
      rw [Int.toNat_of_nonneg (by omega)]
      unfold leading
      omega
    refine ⟨d.digits * 10 ^ (d.leading - topExponent x).toNat, ?_⟩
    rw [value, hsplit, ten_zpow_add, zpow_natCast, ← mul_assoc] at h
    push_cast
    exact h
  · -- The number is at least the power of ten of its leading digit, which the decimal is below.
    have hbelow : d.value ≤ 10 ^ topExponent x :=
      (lt_pow_leading d).le.trans (zpow_le_zpow_right₀ (by norm_num) hlt)
    have hpower := h.between (Interval.holds_of_value hx) hbelow (topExponent_spec hx).1
    refine ⟨10 ^ (digitCount d.digits - 1), ?_⟩
    rw [Nat.cast_pow, Nat.cast_ofNat, ← zpow_natCast, ← ten_zpow_add, add_sub_cancel]
    exact hpower

/-- No decimal that is rounded to the number has fewer digits. -/
theorem digitCount_shortest_le (hx : x.magnitude ≠ 0) (tie : Tie) {d : Decimal}
    (h : (Interval.of x).Holds d.value) :
    digitCount (shortest tie x).digits ≤ digitCount d.digits := by
  have hd := digits_ne_zero_of_holds hx h
  obtain ⟨n, hn⟩ := exists_holds_of_holds hx hd h
  obtain ⟨d', j, heq, -, hd', hle, hcoarser⟩ := shortest_eq_strip hx tie
  have hgrid : j ≤ digitCount d.digits - 1 := by
    by_contra! hlt
    exact hcoarser _ hlt n hn
  have hcount := digitCount_strip_le hd' hle
  have hpos := digitCount_pos hd
  rw [heq]
  omega

/-- A power of ten has one digit, and no other digit with a smaller exponent comes near it. -/
lemma le_leading_of_holds (hx : x.magnitude ≠ 0) (tie : Tie) {e : Int}
    (hpower : (Interval.of x).Holds (10 ^ e))
    (hbelow : ¬(Interval.of x).Holds (9 * 10 ^ (e - 1))) : e ≤ (shortest tie x).leading := by
  by_contra! hsmall
  have hholds := holds_shortest hx tie
  have hpos := digitCount_pos (digits_ne_zero_of_holds hx hholds)
  have hone : (Interval.of x).Holds (value ⟨1, e⟩) := by
    rwa [value, Nat.cast_one, one_mul]
  have hcount : digitCount (shortest tie x).digits ≤ 1 :=
    (digitCount_shortest_le hx tie hone).trans ((digitCount_le_iff 1 1).mpr (by norm_num))
  have hdigit : (shortest tie x).digits ≤ 9 := by
    have hlt := (digitCount_le_iff _ 1).mp hcount
    omega
  have hexponent : (shortest tie x).exponent ≤ e - 1 := by
    unfold leading at hsmall
    omega
  have hle : (shortest tie x).value ≤ 9 * 10 ^ (e - 1) :=
    mul_le_mul (by exact_mod_cast hdigit) (zpow_le_zpow_right₀ (by norm_num) hexponent)
      (ten_zpow_pos _).le (by norm_num)
  have hstep := ten_zpow_succ (e - 1)
  rw [Int.sub_add_cancel] at hstep
  exact hbelow (hholds.between hpower hle (by linarith [ten_zpow_pos (e - 1)]))

/-- The leading exponent changes at the number to which a power of ten is rounded. -/
theorem le_leading_shortest_iff {y : Binary64} (hx : x.magnitude ≠ 0) (hy : y.magnitude ≠ 0)
    (tie : Tie) {e : Int} (hpower : (Interval.of y).Holds (10 ^ e))
    (hbelow : ¬(Interval.of y).Holds (9 * 10 ^ (e - 1))) :
    e ≤ (shortest tie x).leading ↔ y.magnitude ≤ x.magnitude := by
  have hscale : (0 : ℚ) < 2 ^ 1074 := by positivity
  have hholds := holds_shortest hx tie
  have hlow := pow_leading_le (digits_ne_zero_of_holds hx hholds)
  have hhigh := lt_pow_leading (shortest tie x)
  have hrounds := (Interval.holds_of_iff hx _).mp hholds
  have hrounds' := (Interval.holds_of_iff hy _).mp hpower
  rcases lt_trichotomy x.magnitude y.magnitude with hlt | heq | hgt
  · have hvalue := lt_of_mul_lt_mul_right (hrounds.lt hrounds' hlt) hscale.le
    have hexponent := (zpow_lt_zpow_iff_right₀ (by norm_num)).mp (hlow.trans_lt hvalue)
    omega
  · rw [Interval.holds_of_iff hy, ← heq, ← Interval.holds_of_iff hx] at hpower hbelow
    exact iff_of_true (le_leading_of_holds hx tie hpower hbelow) heq.ge
  · have hvalue := lt_of_mul_lt_mul_right (hrounds'.lt hrounds hgt) hscale.le
    have hexponent := (zpow_lt_zpow_iff_right₀ (by norm_num)).mp (hvalue.trans hhigh)
    omega

end Found

end SchemaForge.Decimal
