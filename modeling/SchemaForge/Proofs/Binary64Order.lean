import Mathlib.Algebra.Group.Nat.Defs
import Mathlib.Tactic.Lemma
import Mathlib.Tactic.SplitIfs
import SchemaForge.Decimal.Binary64

/-!
# Order of floating-point numbers

Numbers that are not NaN are compared by their values, which bit patterns order as signed magnitudes.
Natural numbers up to `2 ^ 53` are exact, so their comparisons are those of natural numbers.
-/

namespace SchemaForge.Binary64

/-- Position in the order of numbers. Both zeros have the same one. -/
def rank (x : Binary64) : Int := if x.isNegative then -(x.magnitude : Int) else x.magnitude

def atMost (x y : Binary64) : Bool := !x.isNaN && !y.isNaN && decide (x.rank ≤ y.rank)

def below (x y : Binary64) : Bool := !x.isNaN && !y.isNaN && decide (x.rank < y.rank)

def equals (x y : Binary64) : Bool := !x.isNaN && !y.isNaN && decide (x.rank = y.rank)

lemma log2_mul_pow {n : Nat} (hn : n ≠ 0) (j : Nat) : (n * 2 ^ j).log2 = n.log2 + j := by
  have hpos : 0 < 2 ^ j := Nat.two_pow_pos j
  have hne : n * 2 ^ j ≠ 0 := Nat.mul_ne_zero hn (Nat.ne_of_gt hpos)
  refine (Nat.log2_eq_iff hne).mpr ⟨?_, ?_⟩
  · rw [Nat.pow_add]
    exact Nat.mul_le_mul_right _ (Nat.log2_self_le hn)
  · rw [Nat.add_right_comm, Nat.pow_add]
    exact Nat.mul_lt_mul_of_pos_right Nat.lt_log2_self hpos

/-- A natural number up to `2 ^ 53` has a significand of 53 bits. -/
lemma exists_significand {n : Nat} (h0 : n ≠ 0) (hn : n ≤ 2 ^ 53) :
    ∃ q, q * 2 ^ n.log2 = n * 2 ^ 52 ∧ 2 ^ 52 ≤ q ∧ q < 2 ^ 53 := by
  have hpos : 0 < 2 ^ n.log2 := Nat.two_pow_pos _
  have hdvd : 2 ^ n.log2 ∣ n * 2 ^ 52 := by
    by_cases hlog : n.log2 ≤ 52
    · exact Nat.dvd_mul_left_of_dvd (Nat.pow_dvd_pow 2 hlog) n
    · -- Only `2 ^ 53` itself has 54 bits.
      have hlow : 2 ^ 53 ≤ n := (Nat.le_log2 h0).mp (by omega)
      have heq : n = 2 ^ 53 := by omega
      have hlog' : n.log2 = 53 := (Nat.log2_eq_iff h0).mpr ⟨by omega, by omega⟩
      rw [hlog', heq]
      exact Nat.dvd_mul_right _ _
  obtain ⟨q, hq⟩ := hdvd
  rw [Nat.mul_comm (2 ^ n.log2) q] at hq
  refine ⟨q, hq.symm, ?_, ?_⟩
  · have hle : 2 ^ 52 * 2 ^ n.log2 ≤ q * 2 ^ n.log2 := by
      have hself := Nat.log2_self_le h0
      omega
    exact Nat.le_of_mul_le_mul_right hle hpos
  · have hlt : q * 2 ^ n.log2 < 2 ^ 53 * 2 ^ n.log2 := by
      have hup : n * 2 ^ 52 < 2 ^ (n.log2 + 1) * 2 ^ 52 :=
        Nat.mul_lt_mul_of_pos_right Nat.lt_log2_self (Nat.two_pow_pos 52)
      rw [Nat.pow_succ] at hup
      omega
    exact Nat.lt_of_mul_lt_mul_right hlt

lemma log2_le_of_le {n : Nat} (h0 : n ≠ 0) (hn : n ≤ 2 ^ 53) : n.log2 ≤ 53 := by
  have hlt : n.log2 < 54 := (Nat.log2_lt h0).mpr (by omega)
  omega

/-- The number is exact: its exponent is the logarithm, its significand has all the bits. -/
lemma magnitudeOfRatio_one {n q : Nat} (h0 : n ≠ 0) (hn : n ≤ 2 ^ 53)
    (hq : q * 2 ^ n.log2 = n * 2 ^ 52) (hlow : 2 ^ 52 ≤ q) (hhigh : q < 2 ^ 53) :
    magnitudeOfRatio n 1 = (n.log2 + 1022) * 2 ^ 52 + q := by
  have hlog := log2_le_of_le h0 hn
  have hpos : ∀ e, 0 < Nat.pow 2 e := fun e => Nat.two_pow_pos e
  have hshift : ∀ e, (n * Nat.pow 2 e).log2 = n.log2 + e := fun e => log2_mul_pow h0 e
  have htop : ∀ e f, e = 52 + f → n * Nat.pow 2 e = q * Nat.pow 2 (n.log2 + f) := by
    rintro e f rfl
    rw [Nat.pow_eq, Nat.pow_eq, Nat.pow_add, Nat.pow_add, ← Nat.mul_assoc, ← Nat.mul_assoc, hq]
  have hrough : (q * Nat.pow 2 (n.log2 + 1022)).log2 - Nat.log2 1 - 53 = n.log2 + 1021 := by
    rw [← htop 1074 1022 rfl, hshift 1074, show Nat.log2 1 = 0 from rfl]
    omega
  have hhalf : q * Nat.pow 2 (n.log2 + 1022) / Nat.pow 2 (n.log2 + 1021) = 2 * q := by
    have hdouble : Nat.pow 2 (n.log2 + 1022) = 2 * Nat.pow 2 (n.log2 + 1021) := Nat.pow_succ'
    rw [hdouble, ← Nat.mul_assoc, Nat.mul_comm q 2]
    exact Nat.mul_div_cancel _ (hpos _)
  unfold magnitudeOfRatio
  rw [if_neg (by omega), htop 1074 1022 rfl]
  simp only [Nat.one_mul, hrough, hhalf]
  have hunit := hpos (n.log2 + 1021 + 1)
  rw [if_neg (by rw [Nat.pow_eq]; omega : ¬2 * q < Nat.pow 2 53),
    Nat.mul_div_cancel q hunit, Nat.mul_mod_left, if_neg (by omega)]
  exact Nat.min_eq_left (by unfold infinityMagnitude; rw [Nat.pow_eq]; omega)

/-- Magnitudes of exact numbers are in the order of the numbers. -/
lemma magnitudeOfRatio_lt {n m : Nat} (hnm : n < m) (hm : m ≤ 2 ^ 53) :
    magnitudeOfRatio n 1 < magnitudeOfRatio m 1 := by
  have hm0 : m ≠ 0 := by omega
  obtain ⟨q, hq, hqlow, hqhigh⟩ := exists_significand hm0 hm
  rw [magnitudeOfRatio_one hm0 hm hq hqlow hqhigh]
  by_cases hn0 : n = 0
  · subst hn0
    rw [magnitudeOfRatio, if_pos (Or.inl rfl)]
    omega
  · have hn : n ≤ 2 ^ 53 := by omega
    obtain ⟨p, hp, hplow, hphigh⟩ := exists_significand hn0 hn
    rw [magnitudeOfRatio_one hn0 hn hp hplow hphigh]
    have hlog : n.log2 ≤ m.log2 :=
      (Nat.le_log2 hm0).mpr (Nat.le_trans (Nat.log2_self_le hn0) (Nat.le_of_lt hnm))
    rcases Nat.lt_or_eq_of_le hlog with hlt | heq
    · omega
    · have hpq : p * 2 ^ m.log2 < q * 2 ^ m.log2 := by
        rw [hq, ← heq, hp]
        exact Nat.mul_lt_mul_of_pos_right hnm (Nat.two_pow_pos 52)
      have hpq' : p < q := Nat.lt_of_mul_lt_mul_right hpq
      omega

/-- The scale alone bounds the magnitude, since the quotient has at most 53 bits. -/
lemma scaled_lt_infinity {scale q : Nat} (hscale : scale ≤ 1086) (hq : q < 2 ^ 53) (c : Prop)
    [Decidable c] :
    min (scale * Nat.pow 2 52 + if c then q + 1 else q) infinityMagnitude < infinityMagnitude := by
  refine Nat.lt_of_le_of_lt (Nat.min_le_left _ _) ?_
  unfold infinityMagnitude
  rw [Nat.pow_eq]
  split_ifs <;> omega

lemma magnitudeOfRatio_lt_infinity {n : Nat} (hn : n ≤ 2 ^ 64) :
    magnitudeOfRatio n 1 < infinityMagnitude := by
  by_cases h0 : n = 0
  · subst h0
    rw [magnitudeOfRatio, if_pos (Or.inl rfl)]
    decide
  · have hlog : n.log2 < 65 := (Nat.log2_lt h0).mpr (by omega)
    have hshift : ∀ e, (n * Nat.pow 2 e).log2 = n.log2 + e := fun e => log2_mul_pow h0 e
    have hrough : (n * Nat.pow 2 1074).log2 - Nat.log2 1 - 53 = n.log2 + 1021 := by
      rw [hshift 1074, show Nat.log2 1 = 0 from rfl]
      omega
    have hquotient : n * Nat.pow 2 1074 / Nat.pow 2 (n.log2 + 1021) < 2 ^ 54 := by
      have hlt : (n * Nat.pow 2 1074).log2 < n.log2 + 1021 + 54 := by
        rw [hshift 1074]
        omega
      have hpow : Nat.pow 2 (n.log2 + 1021) * 2 ^ 54 = 2 ^ (n.log2 + 1021 + 54) :=
        (Nat.pow_add 2 _ 54).symm
      apply Nat.div_lt_of_lt_mul
      rw [hpow]
      exact Nat.lt_of_lt_of_le Nat.lt_log2_self (Nat.pow_le_pow_right (by decide) hlt)
    have hhalf : n * Nat.pow 2 1074 / Nat.pow 2 (n.log2 + 1021 + 1) =
        n * Nat.pow 2 1074 / Nat.pow 2 (n.log2 + 1021) / 2 := by
      rw [Nat.div_div_eq_div_mul]
      rfl
    unfold magnitudeOfRatio
    rw [if_neg (by omega)]
    simp only [Nat.one_mul, hrough]
    by_cases hsmall : n * Nat.pow 2 1074 / Nat.pow 2 (n.log2 + 1021) < Nat.pow 2 53
    · simp only [if_pos hsmall]
      exact scaled_lt_infinity (by omega) hsmall _
    · simp only [if_neg hsmall]
      apply scaled_lt_infinity (by omega)
      rw [hhalf]
      exact Nat.div_lt_of_lt_mul hquotient

lemma magnitude_ofMagnitude (negative : Bool) {m : Nat} (hm : m < signWeight) :
    (ofMagnitude negative m).magnitude = m := by
  unfold signWeight at hm
  rw [Nat.pow_eq] at hm
  cases negative <;>
    simp only [ofMagnitude, magnitude, signWeight, Nat.pow_eq, UInt64.toNat_ofNat',
      Bool.false_eq_true, if_false, if_true] <;>
    omega

lemma isNegative_ofMagnitude (negative : Bool) {m : Nat} (hm : m < signWeight) :
    (ofMagnitude negative m).isNegative = negative := by
  unfold signWeight at hm
  rw [Nat.pow_eq] at hm
  cases negative <;>
    simp only [ofMagnitude, isNegative, signWeight, Nat.pow_eq, UInt64.toNat_ofNat',
      Bool.false_eq_true, if_false, if_true, decide_eq_true_eq, decide_eq_false_iff_not] <;>
    omega

lemma magnitudeOfRatio_le_infinity (num den : Nat) :
    magnitudeOfRatio num den ≤ infinityMagnitude := by
  unfold magnitudeOfRatio
  split_ifs with hzero
  · exact Nat.zero_le _
  · exact Nat.min_le_right _ _

lemma magnitudeOfRatio_lt_signWeight (num den : Nat) : magnitudeOfRatio num den < signWeight :=
  Nat.lt_of_le_of_lt (magnitudeOfRatio_le_infinity num den) (by decide)

section Naturals

variable {n m : Nat}

lemma magnitude_ofNat (n : Nat) : (ofNat n).magnitude = magnitudeOfRatio n 1 :=
  magnitude_ofMagnitude false (magnitudeOfRatio_lt_signWeight n 1)

lemma isNegative_ofNat (n : Nat) : (ofNat n).isNegative = false :=
  isNegative_ofMagnitude false (magnitudeOfRatio_lt_signWeight n 1)

lemma isNaN_ofNat (n : Nat) : (ofNat n).isNaN = false := by
  rw [isNaN, magnitude_ofNat]
  exact decide_eq_false (Nat.not_lt_of_le (magnitudeOfRatio_le_infinity n 1))

lemma isFinite_ofNat (hn : n ≤ 2 ^ 53) : (ofNat n).isFinite = true := by
  rw [isFinite, magnitude_ofNat]
  exact decide_eq_true (magnitudeOfRatio_lt_infinity (by omega))

lemma rank_ofNat (n : Nat) : (ofNat n).rank = magnitudeOfRatio n 1 := by
  rw [rank, isNegative_ofNat, magnitude_ofNat]
  rfl

theorem atMost_ofNat (hn : n ≤ 2 ^ 53) (hm : m ≤ 2 ^ 53) :
    (ofNat n).atMost (ofNat m) = decide (n ≤ m) := by
  rw [atMost, isNaN_ofNat, isNaN_ofNat, rank_ofNat, rank_ofNat]
  simp only [Bool.not_false, Bool.true_and, decide_eq_decide, Int.ofNat_le]
  constructor
  · intro hle
    rcases Nat.lt_or_ge m n with hlt | hge
    · have hrank := magnitudeOfRatio_lt hlt hn
      omega
    · exact hge
  · intro hle
    rcases Nat.lt_or_eq_of_le hle with hlt | rfl
    · exact Nat.le_of_lt (magnitudeOfRatio_lt hlt hm)
    · exact Nat.le_refl _

theorem equals_ofNat (hn : n ≤ 2 ^ 53) (hm : m ≤ 2 ^ 53) :
    (ofNat n).equals (ofNat m) = decide (n = m) := by
  rw [equals, isNaN_ofNat, isNaN_ofNat, rank_ofNat, rank_ofNat]
  simp only [Bool.not_false, Bool.true_and, decide_eq_decide, Int.ofNat_inj]
  constructor
  · intro heq
    rcases Nat.lt_trichotomy n m with hlt | rfl | hlt
    · have hrank := magnitudeOfRatio_lt hlt hm
      omega
    · rfl
    · have hrank := magnitudeOfRatio_lt hlt hn
      omega
  · rintro rfl
    rfl

theorem below_ofNat (hn : n ≤ 2 ^ 53) (hm : m ≤ 2 ^ 53) :
    (ofNat n).below (ofNat m) = decide (n < m) := by
  have hle := atMost_ofNat hm hn
  rw [atMost, isNaN_ofNat, isNaN_ofNat] at hle
  rw [below, isNaN_ofNat, isNaN_ofNat]
  simp only [Bool.not_false, Bool.true_and, decide_eq_decide] at hle ⊢
  rw [← Int.not_le, hle, Nat.not_le]

/-- The bound is sharp. -/
example : (ofNat (2 ^ 53 + 1)).equals (ofNat (2 ^ 53)) = true := by decide +kernel

end Naturals

end SchemaForge.Binary64
