import SchemaForge.Proofs.Binary64Order

/-!
# Rounding keeps the order

A quotient is rounded at the scale where it has 53 bits. A greater quotient has no smaller scale, and
at one scale it is rounded to no smaller number, so magnitudes of quotients are in the order of the
quotients. Products with a fixed factor and the next natural numbers above them follow. Sums and
products of exact natural numbers are those of natural numbers, rounded once.
-/

namespace SchemaForge.Binary64

/-! ### Quotients at one scale -/

/-- The natural number nearest to `a / u`, a half to the even one. -/
def roundQuotient (a u : Nat) : Nat :=
  if u < 2 * (a % u) ∨ (2 * (a % u) = u ∧ a / u % 2 = 1) then a / u + 1 else a / u

lemma div_le_roundQuotient (a u : Nat) : a / u ≤ roundQuotient a u := by
  unfold roundQuotient
  split_ifs <;> omega

lemma roundQuotient_le_succ (a u : Nat) : roundQuotient a u ≤ a / u + 1 := by
  unfold roundQuotient
  split_ifs <;> omega

lemma roundQuotient_mono {a b u : Nat} (hab : a ≤ b) : roundQuotient a u ≤ roundQuotient b u := by
  rcases Nat.lt_or_eq_of_le (Nat.div_le_div_right (c := u) hab) with hlt | heq
  · calc roundQuotient a u ≤ a / u + 1 := roundQuotient_le_succ a u
      _ ≤ b / u := hlt
      _ ≤ roundQuotient b u := div_le_roundQuotient b u
  · -- With equal quotients the remainders decide, and they are in the order of `a` and `b`.
    have hmod : a % u ≤ b % u := by
      have ha := Nat.div_add_mod a u
      have hb := Nat.div_add_mod b u
      rw [heq] at ha
      omega
    unfold roundQuotient
    rw [heq]
    split_ifs <;> omega

lemma roundQuotient_mul (a u : Nat) {c : Nat} (hc : 0 < c) :
    roundQuotient (a * c) (u * c) = roundQuotient a u := by
  have hlt : u * c < 2 * (a % u * c) ↔ u < 2 * (a % u) := by
    rw [← Nat.mul_assoc, Nat.mul_lt_mul_right hc]
  have heq : 2 * (a % u * c) = u * c ↔ 2 * (a % u) = u := by
    rw [← Nat.mul_assoc, Nat.mul_right_cancel_iff hc]
  unfold roundQuotient
  rw [Nat.mul_mod_mul_right, Nat.mul_div_mul_right a u hc]
  simp only [hlt, heq]

/-! ### The scale of a quotient -/

/-- The scale at which `top / den` has 53 or 54 bits. -/
def roughScale (top den : Nat) : Nat := top.log2 - den.log2 - 53

/-- The scale at which `top / den` is rounded. -/
def quotientScale (top den : Nat) : Nat :=
  if top / (den * 2 ^ roughScale top den) < 2 ^ 53 then roughScale top den
  else roughScale top den + 1

section Scale

variable {top top' den : Nat}

lemma div_lt_pow_iff (hden : den ≠ 0) (scale bits : Nat) :
    top / (den * 2 ^ scale) < 2 ^ bits ↔ top < den * 2 ^ (scale + bits) := by
  have hunit : 0 < den * 2 ^ scale := Nat.mul_pos (Nat.pos_of_ne_zero hden) (Nat.two_pow_pos scale)
  rw [Nat.div_lt_iff_lt_mul hunit, Nat.mul_comm (2 ^ bits), Nat.mul_assoc, ← Nat.pow_add]

lemma mul_pow_le_mul_pow {i j : Nat} (hij : i ≤ j) : den * 2 ^ i ≤ den * 2 ^ j :=
  Nat.mul_le_mul_left den (Nat.pow_le_pow_right (by decide) hij)

lemma log2_le_roughScale (top den : Nat) : top.log2 ≤ den.log2 + roughScale top den + 53 := by
  unfold roughScale
  omega

/-- The quotient has at most 53 bits at its scale. -/
lemma lt_of_quotientScale (top : Nat) (hden : den ≠ 0) :
    top < den * 2 ^ (quotientScale top den + 53) := by
  have hrough := log2_le_roughScale top den
  unfold quotientScale
  split_ifs with h
  · exact (div_lt_pow_iff hden _ 53).mp h
  · calc top < 2 ^ (top.log2 + 1) := Nat.lt_log2_self
      _ ≤ 2 ^ (den.log2 + (roughScale top den + 1 + 53)) :=
        Nat.pow_le_pow_right (by decide) (by omega)
      _ = 2 ^ den.log2 * 2 ^ (roughScale top den + 1 + 53) := Nat.pow_add _ _ _
      _ ≤ den * 2 ^ (roughScale top den + 1 + 53) :=
        Nat.mul_le_mul_right _ (Nat.log2_self_le hden)

/-- The quotient has 53 bits at its scale, unless that is the smallest one. -/
lemma le_of_quotientScale (htop : top ≠ 0) (hden : den ≠ 0) (hscale : quotientScale top den ≠ 0) :
    den * 2 ^ (quotientScale top den + 52) ≤ top := by
  unfold quotientScale at hscale ⊢
  split_ifs at hscale ⊢ with h
  · have hrough : den.log2 + 1 + (roughScale top den + 52) ≤ top.log2 := by
      unfold roughScale at hscale ⊢
      omega
    calc den * 2 ^ (roughScale top den + 52)
        ≤ 2 ^ (den.log2 + 1) * 2 ^ (roughScale top den + 52) :=
          Nat.mul_le_mul_right _ (Nat.le_of_lt Nat.lt_log2_self)
      _ = 2 ^ (den.log2 + 1 + (roughScale top den + 52)) := (Nat.pow_add _ _ _).symm
      _ ≤ 2 ^ top.log2 := Nat.pow_le_pow_right (by decide) hrough
      _ ≤ top := Nat.log2_self_le htop
  · rw [div_lt_pow_iff hden] at h
    rw [Nat.add_assoc, Nat.add_comm 1 52]
    exact Nat.le_of_not_lt h

lemma quotientScale_mono (htop : top ≠ 0) (hden : den ≠ 0) (h : top ≤ top') :
    quotientScale top den ≤ quotientScale top' den := by
  refine Nat.le_of_not_lt fun hlt => ?_
  have hlow := le_of_quotientScale htop hden (by omega)
  have hhigh := lt_of_quotientScale top' hden
  have hpow : den * 2 ^ (quotientScale top' den + 53) ≤ den * 2 ^ (quotientScale top den + 52) :=
    mul_pow_le_mul_pow (by omega)
  omega

/-- The scale and the rounded quotient as one number, which is the magnitude without its limit. -/
def scaledQuotient (top den : Nat) : Nat :=
  quotientScale top den * 2 ^ 52 + roundQuotient top (den * 2 ^ quotientScale top den)

lemma scaledQuotient_mono (htop : top ≠ 0) (hden : den ≠ 0) (h : top ≤ top') :
    scaledQuotient top den ≤ scaledQuotient top' den := by
  have htop' : top' ≠ 0 := by omega
  unfold scaledQuotient
  rcases Nat.lt_or_eq_of_le (quotientScale_mono htop hden h) with hlt | heq
  · -- The smaller quotient is below `2 ^ 53` units, the greater one at least `2 ^ 52` greater units.
    have hbelow : top / (den * 2 ^ quotientScale top den) < 2 ^ 53 :=
      (div_lt_pow_iff hden _ 53).mpr (lt_of_quotientScale top hden)
    have habove : ¬ top' / (den * 2 ^ quotientScale top' den) < 2 ^ 52 := by
      rw [div_lt_pow_iff hden]
      exact Nat.not_lt_of_le (le_of_quotientScale htop' hden (by omega))
    have hround := roundQuotient_le_succ top (den * 2 ^ quotientScale top den)
    have hround' := div_le_roundQuotient top' (den * 2 ^ quotientScale top' den)
    have hscale : (quotientScale top den + 1) * 2 ^ 52 ≤ quotientScale top' den * 2 ^ 52 :=
      Nat.mul_le_mul_right _ hlt
    omega
  · rw [heq]
    exact Nat.add_le_add_left (roundQuotient_mono h) _

lemma scaledQuotient_mul_pow (htop : top ≠ 0) (hden : den ≠ 0) (k : Nat) :
    scaledQuotient (top * 2 ^ k) (den * 2 ^ k) = scaledQuotient top den := by
  have hpos : 0 < 2 ^ k := Nat.two_pow_pos k
  have hunit : ∀ j, den * 2 ^ k * 2 ^ j = den * 2 ^ j * 2 ^ k := fun j => Nat.mul_right_comm _ _ _
  have hrough : roughScale (top * 2 ^ k) (den * 2 ^ k) = roughScale top den := by
    rw [roughScale, roughScale, log2_mul_pow htop, log2_mul_pow hden]
    omega
  have hscale : quotientScale (top * 2 ^ k) (den * 2 ^ k) = quotientScale top den := by
    rw [quotientScale, quotientScale, hrough, hunit, Nat.mul_div_mul_right _ _ hpos]
  rw [scaledQuotient, scaledQuotient, hscale, hunit, roundQuotient_mul _ _ hpos]

end Scale

/-! ### Magnitudes and values -/

lemma magnitudeOfRatio_eq {num den : Nat} (hnum : num ≠ 0) (hden : den ≠ 0) :
    magnitudeOfRatio num den = min (scaledQuotient (num * Nat.pow 2 1074) den) infinityMagnitude := by
  rw [magnitudeOfRatio, if_neg (by omega)]
  rfl

theorem magnitudeOfRatio_mono {num num' : Nat} (den : Nat) (h : num ≤ num') :
    magnitudeOfRatio num den ≤ magnitudeOfRatio num' den := by
  by_cases hzero : num = 0 ∨ den = 0
  · rw [magnitudeOfRatio, if_pos hzero]
    exact Nat.zero_le _
  · obtain ⟨hnum, hden⟩ := not_or.mp hzero
    have htop : ∀ e, num * Nat.pow 2 e ≠ 0 := fun e =>
      Nat.mul_ne_zero hnum (Nat.ne_of_gt (Nat.two_pow_pos e))
    rw [magnitudeOfRatio_eq hnum hden, magnitudeOfRatio_eq (by omega) hden]
    have hmono := scaledQuotient_mono (htop 1074) hden (Nat.mul_le_mul_right _ h)
    omega

/-- A power of two above and below the line makes no difference. -/
lemma magnitudeOfRatio_mul_pow (num : Nat) {u k : Nat} (hu : u = 2 ^ k) :
    magnitudeOfRatio (num * u) u = magnitudeOfRatio num 1 := by
  have hu0 : u ≠ 0 := by
    rw [hu]
    exact Nat.ne_of_gt (Nat.two_pow_pos k)
  by_cases hnum : num = 0
  · subst hnum
    rw [Nat.zero_mul, magnitudeOfRatio, magnitudeOfRatio, if_pos (Or.inl rfl), if_pos (Or.inl rfl)]
  · have htop : ∀ e, num * Nat.pow 2 e ≠ 0 := fun e =>
      Nat.mul_ne_zero hnum (Nat.ne_of_gt (Nat.two_pow_pos e))
    have hscaled := scaledQuotient_mul_pow (htop 1074) Nat.one_ne_zero k
    rw [Nat.one_mul, ← hu] at hscaled
    rw [magnitudeOfRatio_eq (Nat.mul_ne_zero hnum hu0) hu0,
      magnitudeOfRatio_eq hnum Nat.one_ne_zero, Nat.mul_right_comm, hscaled]

lemma magnitude_ofRatio (num den : Nat) :
    (ofMagnitude false (magnitudeOfRatio num den)).magnitude = magnitudeOfRatio num den :=
  magnitude_ofMagnitude false (magnitudeOfRatio_lt_signWeight num den)

/-- A number without its sign, in units of the smallest one. -/
def units (x : Binary64) : Nat := x.significand * Nat.pow 2 x.scale

/-- The least number of an exponent is no less than the numbers of smaller exponents. -/
lemma units_le_of_exponentField_lt {x : Binary64} {e : Nat} (h : x.exponentField < e) :
    x.units ≤ 2 ^ 52 * 2 ^ (e - 1) := by
  have hfraction := Nat.mod_lt x.magnitude (Nat.two_pow_pos 52)
  unfold units significand scale
  rw [Nat.pow_eq]
  split_ifs with hzero
  · rw [hzero]
    calc x.magnitude % 2 ^ 52 * 2 ^ (0 - 1) = x.magnitude % 2 ^ 52 := Nat.mul_one _
      _ ≤ 2 ^ 52 * 1 := by omega
      _ ≤ 2 ^ 52 * 2 ^ (e - 1) := Nat.mul_le_mul_left _ (Nat.two_pow_pos _)
  · calc (2 ^ 52 + x.magnitude % 2 ^ 52) * 2 ^ (x.exponentField - 1)
        ≤ (2 ^ 52 * 2) * 2 ^ (x.exponentField - 1) := Nat.mul_le_mul_right _ (by omega)
      _ = 2 ^ 52 * 2 ^ (x.exponentField - 1 + 1) := by
        rw [Nat.mul_assoc, ← Nat.pow_succ']
      _ ≤ 2 ^ 52 * 2 ^ (e - 1) :=
        Nat.mul_le_mul_left _ (Nat.pow_le_pow_right (by decide) (by omega))

lemma pow_le_units {x : Binary64} (h : x.exponentField ≠ 0) :
    2 ^ 52 * 2 ^ (x.exponentField - 1) ≤ x.units := by
  unfold units significand scale
  rw [if_neg h, Nat.pow_eq]
  exact Nat.mul_le_mul_right _ (Nat.le_add_right _ _)

lemma units_mono {x y : Binary64} (h : x.magnitude ≤ y.magnitude) : x.units ≤ y.units := by
  have hle : x.exponentField ≤ y.exponentField := Nat.div_le_div_right h
  rcases Nat.lt_or_eq_of_le hle with hlt | heq
  · exact Nat.le_trans (units_le_of_exponentField_lt hlt) (pow_le_units (by omega))
  · have hfraction : x.magnitude % Nat.pow 2 52 ≤ y.magnitude % Nat.pow 2 52 := by
      have hx := Nat.div_add_mod x.magnitude (Nat.pow 2 52)
      have hy := Nat.div_add_mod y.magnitude (Nat.pow 2 52)
      unfold exponentField at heq
      rw [heq] at hx
      omega
    have hsignificand : x.significand ≤ y.significand := by
      unfold significand
      dsimp only
      rw [heq]
      split_ifs
      · exact hfraction
      · exact Nat.add_le_add_left hfraction _
    unfold units scale
    rw [heq]
    exact Nat.mul_le_mul_right _ hsignificand

lemma units_ofRatio_mono {num num' : Nat} (den : Nat) (h : num ≤ num') :
    (ofMagnitude false (magnitudeOfRatio num den)).units ≤
      (ofMagnitude false (magnitudeOfRatio num' den)).units := by
  apply units_mono
  rw [magnitude_ofRatio, magnitude_ofRatio]
  exact magnitudeOfRatio_mono den h

/-! ### Operations -/

theorem units_ofNat_mono {n m : Nat} (h : n ≤ m) : (ofNat n).units ≤ (ofNat m).units :=
  units_ofRatio_mono 1 h

/-- The number one, in units of the smallest number. -/
def unitsOfOne : Nat := Nat.pow 2 1074

lemma mulNonneg_eq (x y : Binary64) :
    x.mulNonneg y =
      ofMagnitude false (magnitudeOfRatio (x.units * y.units) (unitsOfOne * unitsOfOne)) := by
  have hproduct : x.units * y.units =
      x.significand * y.significand * Nat.pow 2 (x.scale + y.scale) := by
    rw [units, units, Nat.mul_mul_mul_comm]
    exact congrArg (x.significand * y.significand * ·) (Nat.pow_add 2 x.scale y.scale).symm
  have hunit : unitsOfOne * unitsOfOne = Nat.pow 2 2148 := by decide +kernel
  rw [hproduct, hunit]
  rfl

theorem units_mulNonneg_mono {x x' : Binary64} (y : Binary64) (h : x.units ≤ x'.units) :
    (x.mulNonneg y).units ≤ (x'.mulNonneg y).units := by
  rw [mulNonneg_eq, mulNonneg_eq]
  exact units_ofRatio_mono _ (Nat.mul_le_mul_right _ h)

theorem ceilNonneg_mono {x y : Binary64} (h : x.units ≤ y.units) :
    x.ceilNonneg ≤ y.ceilNonneg := by
  have hunit : ∀ u, (x.units + (u - 1)) / u ≤ (y.units + (u - 1)) / u := fun u =>
    Nat.div_le_div_right (Nat.add_le_add_right h _)
  unfold units at hunit
  unfold ceilNonneg
  exact hunit (Nat.pow 2 1074)

/-! ### Exact numbers -/

/-- The rounded sum of two non-negative finite numbers. -/
def addNonneg (x y : Binary64) : Binary64 :=
  ofMagnitude false (magnitudeOfRatio (x.units + y.units) unitsOfOne)

section Exact

variable {n m : Nat}

lemma units_ofNat (hn : n ≤ 2 ^ 53) : (ofNat n).units = n * unitsOfOne := by
  by_cases h0 : n = 0
  · subst h0
    rw [Nat.zero_mul]
    rfl
  · obtain ⟨q, hq, hlow, hhigh⟩ := exists_significand h0 hn
    have hmagnitude := magnitude_ofNat n
    rw [magnitudeOfRatio_one h0 hn hq hlow hhigh] at hmagnitude
    have hexponent : (ofNat n).exponentField = n.log2 + 1023 := by
      rw [exponentField, hmagnitude, Nat.pow_eq]
      omega
    have hfraction : (ofNat n).magnitude % Nat.pow 2 52 = q - 2 ^ 52 := by
      rw [hmagnitude, Nat.pow_eq]
      omega
    have hsignificand : (ofNat n).significand = q := by
      unfold significand
      dsimp only
      rw [hexponent, hfraction, if_neg (by omega), Nat.pow_eq]
      omega
    have htop : ∀ e, q * 2 ^ (n.log2 + e) = n * (2 ^ 52 * 2 ^ e) := by
      intro e
      rw [Nat.pow_add, ← Nat.mul_assoc, hq, Nat.mul_assoc]
    have hone : unitsOfOne = 2 ^ 52 * 2 ^ 1022 := by decide +kernel
    rw [units, hsignificand, scale, hexponent, hone]
    exact htop 1022

/-- No other natural number is rounded to one below `2 ^ 53`. -/
lemma magnitudeOfRatio_one_inj (hm : m < 2 ^ 53) :
    magnitudeOfRatio n 1 = magnitudeOfRatio m 1 ↔ n = m := by
  constructor
  · intro h
    rcases Nat.lt_trichotomy n m with hlt | heq | hlt
    · have hmagnitude := magnitudeOfRatio_lt hlt (Nat.le_of_lt hm)
      omega
    · exact heq
    · have hmagnitude := magnitudeOfRatio_lt (Nat.lt_succ_self m) hm
      have hmono := magnitudeOfRatio_mono 1 (Nat.succ_le_of_lt hlt)
      omega
  · rintro rfl
    rfl

lemma ofNat_inj (hm : m < 2 ^ 53) : ofNat n = ofNat m ↔ n = m := by
  rw [← magnitudeOfRatio_one_inj hm, ← magnitude_ofNat, ← magnitude_ofNat]
  constructor
  · exact congrArg magnitude
  · intro h
    rw [magnitude_ofNat, magnitude_ofNat] at h
    rw [ofNat, ofNat, h]

lemma equals_ofNat_of_lt (n : Nat) (hm : m < 2 ^ 53) :
    (ofNat n).equals (ofNat m) = decide (n = m) := by
  rw [equals, isNaN_ofNat, isNaN_ofNat, rank_ofNat, rank_ofNat]
  simp only [Bool.not_false, Bool.true_and, decide_eq_decide, Int.ofNat_inj]
  exact magnitudeOfRatio_one_inj hm

theorem addNonneg_ofNat (hn : n ≤ 2 ^ 53) (hm : m ≤ 2 ^ 53) :
    (ofNat n).addNonneg (ofNat m) = ofNat (n + m) := by
  have hone : unitsOfOne = 2 ^ 1074 := by decide +kernel
  rw [addNonneg, units_ofNat hn, units_ofNat hm, ← Nat.add_mul, magnitudeOfRatio_mul_pow _ hone,
    ofNat]

theorem mulNonneg_ofNat (hn : n ≤ 2 ^ 53) (hm : m ≤ 2 ^ 53) :
    (ofNat n).mulNonneg (ofNat m) = ofNat (n * m) := by
  have hunit : unitsOfOne * unitsOfOne = 2 ^ 2148 := by decide +kernel
  rw [mulNonneg_eq, units_ofNat hn, units_ofNat hm, Nat.mul_mul_mul_comm,
    magnitudeOfRatio_mul_pow _ hunit, ofNat]

end Exact

end SchemaForge.Binary64
