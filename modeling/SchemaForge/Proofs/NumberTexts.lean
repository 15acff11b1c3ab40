import SchemaForge.Proofs.AddressRanges
import SchemaForge.Proofs.ShortestDigits
import SchemaForge.Schema.Literal

/-!
# Number texts

A finite number is printed with the digits of its shortest decimal, in the layout that ECMAScript
prescribes for digits and an exponent. The text denotes the decimal, and the decimal is rounded to
the number, so that a text is the text of one number only.
-/

namespace SchemaForge

/-! ### What a text denotes -/

namespace Numeral

/-- The natural number of a text that is made of digits. -/
def natural? (cs : List Char) : Option Nat :=
  if !cs.isEmpty && cs.all Char.isDigit then some (Nat.ofDigitChars 10 cs 0) else none

/-- Digits, and more digits after a point if there is one. -/
def fixed? (cs : List Char) : Option Decimal :=
  match Text.splitFirst '.' cs with
  | none => (natural? cs).map fun n => ⟨n, 0⟩
  | some (whole, fraction) =>
    if whole = [] ∨ fraction = [] then none
    else (natural? (whole ++ fraction)).map fun n => ⟨n, -fraction.length⟩

/-- Digits with a sign if there is one. -/
def exponent? (cs : List Char) : Option Int :=
  match cs with
  | '-' :: ds => (natural? ds).map fun n : Nat => -(n : Int)
  | '+' :: ds => (natural? ds).map fun n : Nat => (n : Int)
  | ds => (natural? ds).map fun n : Nat => (n : Int)

/-- A fixed decimal, and a power of ten if there is one. -/
def decimal? (cs : List Char) : Option Decimal :=
  match Text.splitFirst 'e' cs with
  | none => fixed? cs
  | some (front, back) =>
    (fixed? front).bind fun d => (exponent? back).map fun e => ⟨d.digits, d.exponent + e⟩

/-- The rational that a text denotes. -/
def value? (text : String) : Option ℚ :=
  match text.toList with
  | '-' :: cs => (decimal? cs).map fun d => -d.value
  | cs => (decimal? cs).map Decimal.value

variable {cs ds : List Char}

lemma not_mem_of_isDigit {c : Char} (hc : c.isDigit = false) (hds : ∀ c ∈ ds, c.isDigit = true) :
    c ∉ ds := by
  intro h
  rw [hds c h] at hc
  cases hc

lemma isDigit_zeros (j : Nat) : ∀ c ∈ List.replicate j '0', c.isDigit = true := by
  intro c hc
  rw [List.eq_of_mem_replicate hc]
  rfl

lemma natural?_of_isDigit (hne : ds ≠ []) (hds : ∀ c ∈ ds, c.isDigit = true) :
    natural? ds = some (Nat.ofDigitChars 10 ds 0) := by
  rw [natural?, if_pos]
  simpa [hne] using hds

lemma natural?_toDigits (n : Nat) : natural? (Nat.toDigits 10 n) = some n := by
  rw [natural?_of_isDigit Nat.toDigits_ne_nil, Nat.ofDigitChars_ten_toDigits]
  intro c hc
  exact Nat.isDigit_of_mem_toDigits (by omega) (by omega) hc

lemma fixed?_of_isDigit (hne : ds ≠ []) (hds : ∀ c ∈ ds, c.isDigit = true) :
    fixed? ds = some ⟨Nat.ofDigitChars 10 ds 0, 0⟩ := by
  have hpoint : Text.splitFirst '.' ds = none :=
    (Text.splitFirst_eq_none_iff '.' ds).mpr (not_mem_of_isDigit (by decide) hds)
  rw [fixed?, hpoint]
  dsimp only
  rw [natural?_of_isDigit hne hds]
  rfl

lemma fixed?_of_point {whole fraction : List Char} (hwhole : whole ≠ []) (hfraction : fraction ≠ [])
    (hds : ∀ c ∈ whole ++ fraction, c.isDigit = true) :
    fixed? (whole ++ '.' :: fraction) =
      some ⟨Nat.ofDigitChars 10 (whole ++ fraction) 0, -fraction.length⟩ := by
  have hpoint : Text.splitFirst '.' (whole ++ '.' :: fraction) = some (whole, fraction) := by
    refine (Text.splitFirst_eq_some_iff _ _ _ _).mpr ⟨rfl, not_mem_of_isDigit (by decide) ?_⟩
    exact fun c hc => hds c (List.mem_append_left _ hc)
  rw [fixed?, hpoint]
  dsimp only
  rw [if_neg (by simp [hwhole, hfraction]), natural?_of_isDigit (by simp [hwhole]) hds]
  rfl

lemma decimal?_of_not_mem (h : 'e' ∉ cs) : decimal? cs = fixed? cs := by
  rw [decimal?, (Text.splitFirst_eq_none_iff 'e' cs).mpr h]

lemma decimal?_zeros (hne : ds ≠ []) (hds : ∀ c ∈ ds, c.isDigit = true) (j : Nat) :
    decimal? (ds ++ List.replicate j '0') = some ⟨Nat.ofDigitChars 10 ds 0 * 10 ^ j, 0⟩ := by
  have hdigits : ∀ c ∈ ds ++ List.replicate j '0', c.isDigit = true :=
    List.forall_mem_append.mpr ⟨hds, isDigit_zeros j⟩
  rw [decimal?_of_not_mem (not_mem_of_isDigit (by decide) hdigits),
    fixed?_of_isDigit (by simp [hne]) hdigits, Nat.ofDigitChars_append,
    Nat.ofDigitChars_replicate_zero, Nat.mul_comm]

lemma not_mem_point {whole fraction : List Char}
    (hds : ∀ c ∈ whole ++ fraction, c.isDigit = true) : 'e' ∉ whole ++ '.' :: fraction := by
  have h : 'e' ∉ whole ++ fraction := not_mem_of_isDigit (by decide) hds
  simpa using h

lemma decimal?_point {whole fraction : List Char} (hwhole : whole ≠ []) (hfraction : fraction ≠ [])
    (hds : ∀ c ∈ whole ++ fraction, c.isDigit = true) :
    decimal? (whole ++ '.' :: fraction) =
      some ⟨Nat.ofDigitChars 10 (whole ++ fraction) 0, -fraction.length⟩ := by
  rw [decimal?_of_not_mem (not_mem_point hds), fixed?_of_point hwhole hfraction hds]

lemma decimal?_fraction (hne : ds ≠ []) (hds : ∀ c ∈ ds, c.isDigit = true) (j : Nat) :
    decimal? ('0' :: '.' :: (List.replicate j '0' ++ ds)) =
      some ⟨Nat.ofDigitChars 10 ds 0, -(j + ds.length : Nat)⟩ := by
  have hdigits : ∀ c ∈ ['0'] ++ (List.replicate j '0' ++ ds), c.isDigit = true :=
    List.forall_mem_append.mpr
      ⟨isDigit_zeros 1, List.forall_mem_append.mpr ⟨isDigit_zeros j, hds⟩⟩
  have hread := decimal?_point (List.cons_ne_nil '0' []) (by simp [hne]) hdigits
  have hzero : Nat.ofDigitChars 10 ['0'] 0 = 0 := rfl
  rw [Nat.ofDigitChars_append, Nat.ofDigitChars_append, hzero, Nat.ofDigitChars_replicate_zero,
    Nat.mul_zero, List.length_append, List.length_replicate] at hread
  exact hread

lemma decimal?_of_exponent (h : 'e' ∉ cs) {d : Decimal} (hd : fixed? cs = some d) (e : Int) :
    decimal? (cs ++ 'e' :: (if e < 0 then '-' else '+') :: Nat.toDigits 10 e.natAbs) =
      some ⟨d.digits, d.exponent + e⟩ := by
  have hexponent : exponent? ((if e < 0 then '-' else '+') :: Nat.toDigits 10 e.natAbs) = some e := by
    split_ifs with hsign
    · rw [exponent?, natural?_toDigits, Option.map_some, Int.ofNat_natAbs_of_nonpos hsign.le,
        Int.neg_neg]
    · rw [exponent?, natural?_toDigits, Option.map_some, Int.natAbs_of_nonneg (by omega)]
  rw [decimal?, (Text.splitFirst_eq_some_iff 'e' _ _ _).mpr ⟨rfl, h⟩]
  dsimp only
  rw [hd, hexponent]
  rfl

lemma value?_of_decimal? (negative : Bool) {d : Decimal} (hd : decimal? cs = some d)
    (hhead : cs.head? ≠ some '-') :
    value? (String.ofList ((if negative then ['-'] else []) ++ cs)) =
      some (if negative then -d.value else d.value) := by
  rw [value?, String.toList_ofList]
  cases negative
  · simp only [Bool.false_eq_true, if_false, List.nil_append]
    split
    · exact absurd rfl hhead
    · exact congrArg (Option.map Decimal.value) hd
  · exact congrArg (Option.map fun d => -d.value) hd

end Numeral

/-! ### The layout of digits -/

namespace Layout

/-- One digit, with the others after a point if there are any. -/
def mantissa (ds : List Char) : List Char :=
  if ds.length = 1 then ds else ds.take 1 ++ '.' :: ds.drop 1

/-- The text that ECMAScript gives to the digits `ds` of a number from `10 ^ (n - 1)` up to below
`10 ^ n`. -/
def ecmaScript (ds : List Char) (n : Int) : List Char :=
  if -6 < n ∧ n ≤ 21 then
    if ds.length ≤ n then ds ++ List.replicate (n - ds.length).toNat '0'
    else if 0 < n then ds.take n.toNat ++ '.' :: ds.drop n.toNat
    else '0' :: '.' :: (List.replicate (-n).toNat '0' ++ ds)
  else mantissa ds ++ 'e' :: (if n < 0 then '-' else '+') :: Nat.toDigits 10 (n - 1).natAbs

/-- Where there is a power of ten, `n` has the sign of the exponent. -/
lemma exponentSign_eq {n : Int} (h : ¬(-6 < n ∧ n ≤ 21)) :
    (if n < 0 then '-' else '+') = if n - 1 < 0 then '-' else '+' := by
  by_cases hneg : n < 0
  · rw [if_pos hneg, if_pos (by omega)]
  · rw [if_neg hneg, if_neg (by omega)]

lemma positional_eq_ecmaScript {ds : List Char} (hds : ds ≠ []) {e : Int} (hlow : -6 ≤ e)
    (hhigh : e ≤ 20) : positional false ds e = ecmaScript ds (e + 1) := by
  have hlength := List.length_pos_iff.mpr hds
  unfold positional ecmaScript
  rw [if_pos (by omega : -6 < e + 1 ∧ e + 1 ≤ 21)]
  by_cases hneg : e < 0
  · have hzeros : (-e).toNat - 1 = (-(e + 1)).toNat := by omega
    rw [if_pos hneg, if_neg (by omega), if_neg (by omega), hzeros]
  · have hwhole : e.toNat + 1 = (e + 1).toNat := by omega
    have hzeros : (e + 1).toNat - ds.length = (e + 1 - ds.length).toNat := by omega
    rw [if_neg hneg, hwhole]
    simp only [Bool.false_eq_true, if_false, List.append_nil]
    by_cases hfits : ds.length ≤ (e + 1).toNat
    · rw [if_pos hfits, if_pos (by omega), hzeros]
    · rw [if_neg hfits, if_neg (by omega), if_pos (by omega)]

lemma scientific_eq_ecmaScript {ds : List Char} (hds : ds ≠ []) {e : Int}
    (h : ¬(-6 ≤ e ∧ e ≤ 20)) : scientific ds e = ecmaScript ds (e + 1) := by
  have hrange : ¬(-6 < e + 1 ∧ e + 1 ≤ 21) := by omega
  unfold scientific ecmaScript
  rw [if_neg hrange, exponentSign_eq hrange, Int.add_sub_cancel]
  match ds with
  | [d] => rfl
  | d :: d' :: rest => rfl

/-! ### Layouts denote their digits -/

variable {ds : List Char}

/-- A layout begins with a digit. -/
lemma isDigit_of_head?_ecmaScript (hne : ds ≠ []) (hds : ∀ c ∈ ds, c.isDigit = true) {n : Int}
    {c : Char} (h : (ecmaScript ds n).head? = some c) : c.isDigit = true := by
  obtain ⟨d, rest, rfl⟩ := List.exists_cons_of_ne_nil hne
  have hd : d.isDigit = true := hds d List.mem_cons_self
  have hhead : (ecmaScript (d :: rest) n).head? = some d ∨
      (ecmaScript (d :: rest) n).head? = some '0' := by
    unfold ecmaScript mantissa
    split_ifs with hplain hfits hpoint
    · exact Or.inl rfl
    · obtain ⟨k, hk⟩ : ∃ k, n.toNat = k + 1 := ⟨n.toNat - 1, by omega⟩
      rw [hk]
      exact Or.inl rfl
    · exact Or.inr rfl
    all_goals exact Or.inl rfl
  rcases hhead with hhead | hhead
  · rw [h] at hhead
    cases hhead
    exact hd
  · rw [h] at hhead
    cases hhead
    rfl

lemma fixed?_mantissa (hne : ds ≠ []) (hds : ∀ c ∈ ds, c.isDigit = true) :
    'e' ∉ mantissa ds ∧
      Numeral.fixed? (mantissa ds) = some ⟨Nat.ofDigitChars 10 ds 0, 1 - ds.length⟩ := by
  unfold mantissa
  split_ifs with hsingle
  · refine ⟨Numeral.not_mem_of_isDigit (by decide) hds, ?_⟩
    rw [Numeral.fixed?_of_isDigit hne hds, hsingle]
    rfl
  · have hlength := List.length_pos_iff.mpr hne
    have hdigits : ∀ c ∈ ds.take 1 ++ ds.drop 1, c.isDigit = true := by
      rwa [List.take_append_drop]
    have hfront : ds.take 1 ≠ [] := by simp [hne]
    have hback : ds.drop 1 ≠ [] := by
      rw [Ne, List.drop_eq_nil_iff]
      omega
    refine ⟨Numeral.not_mem_point hdigits, ?_⟩
    rw [Numeral.fixed?_of_point hfront hback hdigits, List.take_append_drop, List.length_drop,
      show -((ds.length - 1 : Nat) : Int) = 1 - ds.length by omega]

/-- A layout denotes its digits, of which `n` stand before the point. -/
theorem decimal?_ecmaScript (hne : ds ≠ []) (hds : ∀ c ∈ ds, c.isDigit = true) (n : Int) :
    ∃ d, Numeral.decimal? (ecmaScript ds n) = some d ∧
      d.value = Nat.ofDigitChars 10 ds 0 * 10 ^ (n - ds.length) := by
  have hlength := List.length_pos_iff.mpr hne
  unfold ecmaScript
  by_cases hplain : -6 < n ∧ n ≤ 21
  · rw [if_pos hplain]
    by_cases hfits : ds.length ≤ n
    · rw [if_pos hfits]
      refine ⟨_, Numeral.decimal?_zeros hne hds _, ?_⟩
      rw [Decimal.value, zpow_zero, mul_one, Nat.cast_mul, Nat.cast_pow, Nat.cast_ofNat,
        ← zpow_natCast, Int.toNat_of_nonneg (by omega)]
    · rw [if_neg hfits]
      by_cases hpoint : 0 < n
      · rw [if_pos hpoint]
        have hback : ds.drop n.toNat ≠ [] := by
          rw [Ne, List.drop_eq_nil_iff]
          omega
        have hfront : ds.take n.toNat ≠ [] := by
          rw [Ne, List.take_eq_nil_iff]
          rintro (h | h)
          · omega
          · exact hne h
        refine ⟨_, Numeral.decimal?_point hfront hback (by rwa [List.take_append_drop]), ?_⟩
        rw [Decimal.value, List.take_append_drop, List.length_drop,
          show -((ds.length - n.toNat : Nat) : Int) = n - ds.length by omega]
      · rw [if_neg hpoint]
        refine ⟨_, Numeral.decimal?_fraction hne hds _, ?_⟩
        rw [Decimal.value, show -(((-n).toNat + ds.length : Nat) : Int) = n - ds.length by omega]
  · rw [if_neg hplain, exponentSign_eq hplain]
    obtain ⟨hletter, hfixed⟩ := fixed?_mantissa hne hds
    refine ⟨_, Numeral.decimal?_of_exponent hletter hfixed _, ?_⟩
    rw [Decimal.value, show (1 : Int) - ds.length + (n - 1) = n - ds.length by omega]

end Layout

/-! ### The limits of plain notation -/

namespace Binary64

variable {x : Binary64}

/-- A power of ten is rounded to the number, and nine tenths of it are not. -/
structure IsPowerOfTen (x : Binary64) (e : Int) : Prop where
  nonneg : x.isNegative = false
  finite : x.isFinite = true
  ne_zero : x.magnitude ≠ 0
  power : (Decimal.Interval.of x).Holds (10 ^ e)
  below : ¬(Decimal.Interval.of x).Holds (9 * 10 ^ (e - 1))

variable {y : Binary64} {e : Int}

lemma isPowerOfTen_of_contains (hsign : y.isNegative = false) (hfinite : y.isFinite = true)
    (hzero : y.magnitude ≠ 0)
    (hpower : (Decimal.Interval.of y).contains (1 * Nat.pow 10 e.toNat)
      (Nat.pow 10 (-e).toNat) = true)
    (hbelow : (Decimal.Interval.of y).contains (9 * Nat.pow 10 (e - 1).toNat)
      (Nat.pow 10 (-(e - 1)).toNat) = false) : IsPowerOfTen y e := by
  rw [Decimal.Interval.contains_grid_iff, Nat.cast_one, one_mul] at hpower
  rw [← Bool.not_eq_true, Decimal.Interval.contains_grid_iff, Nat.cast_ofNat] at hbelow
  exact ⟨hsign, hfinite, hzero, hpower, hbelow⟩

lemma isPowerOfTen_millionth : IsPowerOfTen millionth (-6) :=
  isPowerOfTen_of_contains (by decide +kernel) (by decide +kernel) (by decide +kernel)
    (by decide +kernel) (by decide +kernel)

lemma isPowerOfTen_sextillion : IsPowerOfTen sextillion 21 :=
  isPowerOfTen_of_contains (by decide +kernel) (by decide +kernel) (by decide +kernel)
    (by decide +kernel) (by decide +kernel)

lemma IsPowerOfTen.isNearest (hy : IsPowerOfTen y e) : IsNearest (10 ^ e) y := by
  have h := (Decimal.Interval.isNearest_abs_iff hy.finite hy.ne_zero _).mpr hy.power
  rwa [abs_of_isNegative_eq_false hy.nonneg] at h

/-- The leading exponent of a number tells on which side of a power of ten it is. -/
lemma IsPowerOfTen.le_leading_iff (hy : IsPowerOfTen y e) (hx : x.magnitude ≠ 0) (tie : Tie) :
    e ≤ (Decimal.shortest tie x).leading ↔ y.magnitude ≤ x.magnitude :=
  Decimal.le_leading_shortest_iff hx hy.ne_zero tie hy.power hy.below

lemma IsPowerOfTen.value_le_iff (hy : IsPowerOfTen y e) (x : Binary64) :
    y.value ≤ |x.value| ↔ y.magnitude ≤ x.magnitude := by
  rw [← abs_value_le_iff, ← value_abs y, abs_of_isNegative_eq_false hy.nonneg]

/-- Digits `s`, of which there are `k`, and the place `n` of the point are the shortest of a
number. -/
structure IsShortest (x : Binary64) (s k : Nat) (n : Int) : Prop where
  low : 10 ^ (k - 1) ≤ s
  high : s < 10 ^ k
  last : s % 10 ≠ 0
  nearest : IsNearest (s * 10 ^ (n - k)) x
  least : ∀ (t j : Nat) (e : Int), t < 10 ^ j → IsNearest (t * 10 ^ e) x → k ≤ j

lemma isShortest_shortest (hfinite : x.isFinite = true) (hx : x.magnitude ≠ 0) (tie : Tie) :
    IsShortest x.abs (Decimal.shortest tie x).digits
      (Decimal.digitCount (Decimal.shortest tie x).digits) ((Decimal.shortest tie x).leading + 1) := by
  have hholds := Decimal.holds_shortest hx tie
  have hdigits := Decimal.digits_ne_zero_of_holds hx hholds
  refine ⟨Decimal.pow_digitCount_le hdigits, Decimal.lt_pow_digitCount _,
    Decimal.digits_shortest_mod hx tie, ?_, ?_⟩
  · have hexponent : (Decimal.shortest tie x).leading + 1 -
        Decimal.digitCount (Decimal.shortest tie x).digits = (Decimal.shortest tie x).exponent := by
      unfold Decimal.leading
      omega
    rw [hexponent, Decimal.Interval.isNearest_abs_iff hfinite hx]
    exact hholds
  · intro t j e ht hnearest
    have hheld := (Decimal.Interval.isNearest_abs_iff hfinite hx _).mp hnearest
    have hle : _ ≤ Decimal.digitCount t := Decimal.digitCount_shortest_le (d := ⟨t, e⟩) hx tie hheld
    exact hle.trans ((Decimal.digitCount_le_iff t j).mpr ht)

end Binary64

namespace Schema

open Binary64

variable {x : Binary64}

/-- Plain notation is for the values between the limits. -/
lemma isPlain_iff_value (x : Binary64) :
    isPlain x = true ↔ millionth.value ≤ |x.value| ∧ |x.value| < sextillion.value := by
  rw [isPowerOfTen_millionth.value_le_iff, ← not_le, isPowerOfTen_sextillion.value_le_iff, not_le,
    isPlain, Bool.and_eq_true, decide_eq_true_eq, decide_eq_true_eq]

/-- The notation, which is chosen by the binary value, is that of the decimal exponent. -/
lemma isPlain_iff_leading (hx : x.magnitude ≠ 0) :
    isPlain x = true ↔
      -6 ≤ (Decimal.shortest .up x).leading ∧ (Decimal.shortest .up x).leading ≤ 20 := by
  have hlow := isPowerOfTen_millionth.le_leading_iff hx .up
  have hhigh := isPowerOfTen_sextillion.le_leading_iff hx .up
  rw [isPlain, Bool.and_eq_true, decide_eq_true_eq, decide_eq_true_eq, ← hlow, ← not_le, ← hhigh]
  omega

lemma number_of_isZero (hfinite : x.isFinite = true) (h : x.isZero = true) : number x = "0" := by
  simp [number, isNaN_of_isFinite hfinite, hfinite, h]

lemma number_of_isFinite (hfinite : x.isFinite = true) (hzero : x.isZero = false) :
    number x = String.ofList ((if x.isNegative then ['-'] else []) ++
      Layout.ecmaScript (Nat.toDigits 10 (Decimal.shortest .up x).digits)
        ((Decimal.shortest .up x).leading + 1)) := by
  have hne : Nat.toDigits 10 (Decimal.shortest .up x).digits ≠ [] := Nat.toDigits_ne_nil
  have hrange := isPlain_iff_leading (beq_eq_false_iff_ne.mp hzero)
  have hbody : (if isPlain x then
        Layout.positional false (Nat.toDigits 10 (Decimal.shortest .up x).digits)
          (Decimal.shortest .up x).leading
      else
        Layout.scientific (Nat.toDigits 10 (Decimal.shortest .up x).digits)
          (Decimal.shortest .up x).leading) =
      Layout.ecmaScript (Nat.toDigits 10 (Decimal.shortest .up x).digits)
        ((Decimal.shortest .up x).leading + 1) := by
    split_ifs with hplain
    · obtain ⟨hlow, hhigh⟩ := hrange.mp hplain
      exact Layout.positional_eq_ecmaScript hne hlow hhigh
    · exact Layout.scientific_eq_ecmaScript hne (mt hrange.mpr hplain)
  rw [← hbody]
  simp only [number, isNaN_of_isFinite hfinite, hfinite, hzero, Layout.signed, Layout.digitsOf]
  cases x.isNegative
  · rfl
  · rfl

lemma value?_number_of_isFinite (hfinite : x.isFinite = true) (hzero : x.isZero = false) :
    ∃ q, Numeral.value? (number x) = some q ∧ IsNearest q x := by
  have hx : x.magnitude ≠ 0 := beq_eq_false_iff_ne.mp hzero
  have hne : Nat.toDigits 10 (Decimal.shortest .up x).digits ≠ [] := Nat.toDigits_ne_nil
  have hds : ∀ c ∈ Nat.toDigits 10 (Decimal.shortest .up x).digits, c.isDigit = true := by
    intro c hc
    exact Nat.isDigit_of_mem_toDigits (by omega) (by omega) hc
  obtain ⟨d, hd, hvalue⟩ :=
    Layout.decimal?_ecmaScript hne hds ((Decimal.shortest .up x).leading + 1)
  have hnearest : IsNearest d.value x.abs := by
    rw [hvalue, Nat.ofDigitChars_ten_toDigits, Decimal.length_toDigits]
    · exact (isShortest_shortest hfinite hx .up).nearest
    · exact Decimal.digits_ne_zero_of_holds hx (Decimal.holds_shortest hx .up)
  have hhead : (Layout.ecmaScript (Nat.toDigits 10 (Decimal.shortest .up x).digits)
      ((Decimal.shortest .up x).leading + 1)).head? ≠ some '-' := by
    intro h
    exact absurd (Layout.isDigit_of_head?_ecmaScript hne hds h) (by decide)
  rw [number_of_isFinite hfinite hzero]
  exact ⟨_, Numeral.value?_of_decimal? x.isNegative hd hhead, hnearest.of_abs⟩

lemma isNearest_zero (h : x.isZero = true) : IsNearest 0 x := by
  have hmagnitude : x.magnitude = 0 := beq_iff_eq.mp h
  have hunits : x.signedUnits = 0 := by
    unfold signedUnits
    rw [hmagnitude, unitsOf_zero]
    split_ifs <;> rfl
  have hvalue : x.value = 0 := by rw [value, hunits, Int.cast_zero, zero_div]
  constructor
  · intro y _
    rw [hvalue, sub_zero, abs_zero]
    exact abs_nonneg _
  · intro y _ _ _
    rw [significand_mod_two, hmagnitude]

theorem exists_value?_number (hfinite : x.isFinite = true) :
    ∃ q, Numeral.value? (number x) = some q ∧ IsNearest q x := by
  cases hzero : x.isZero with
  | true =>
    have hread : Numeral.decimal? ['0'] = some ⟨0, 0⟩ :=
      (Numeral.decimal?_of_not_mem (by decide)).trans
        (Numeral.fixed?_of_isDigit (List.cons_ne_nil '0' []) (Numeral.isDigit_zeros 1))
    have hvalue := Numeral.value?_of_decimal? false hread (by decide)
    rw [number_of_isZero hfinite hzero]
    refine ⟨_, hvalue, ?_⟩
    simpa [Decimal.value] using isNearest_zero hzero
  | false => exact value?_number_of_isFinite hfinite hzero

/-- A finite number is printed as ECMAScript prints it, and the text is rounded to the number. -/
theorem number_prints_and_reads_back (x : Binary64) (hfinite : x.isFinite = true) :
    (IsNearest (10 ^ (-6 : Int)) millionth ∧ IsNearest (10 ^ (21 : Int)) sextillion) ∧
    (x.isZero = true → number x = "0") ∧
    (x.isZero = false → ∃ s k n, IsShortest x.abs s k n ∧
      number x = String.ofList ((if x.isNegative then ['-'] else []) ++
        Layout.ecmaScript (Nat.toDigits 10 s) n) ∧
      (-6 < n ∧ n ≤ 21 ↔ millionth.value ≤ |x.value| ∧ |x.value| < sextillion.value)) ∧
    (∃ q, Numeral.value? (number x) = some q ∧ IsNearest q x ∧
      ∀ y : Binary64, y.isNaN = false → IsNearest q y → y.value = x.value) ∧
    ∀ y : Binary64, y.isFinite = true → x.isZero = false → y.isZero = false →
      number x = number y → x = y := by
  refine ⟨⟨isPowerOfTen_millionth.isNearest, isPowerOfTen_sextillion.isNearest⟩,
    number_of_isZero hfinite, ?_, ?_, ?_⟩
  · intro hzero
    have hx : x.magnitude ≠ 0 := beq_eq_false_iff_ne.mp hzero
    refine ⟨_, _, _, isShortest_shortest hfinite hx .up, number_of_isFinite hfinite hzero, ?_⟩
    rw [← isPlain_iff_value, isPlain_iff_leading hx]
    omega
  · obtain ⟨q, hq, hnearest⟩ := exists_value?_number hfinite
    refine ⟨q, hq, hnearest, fun y hy hother => ?_⟩
    exact hother.value_eq hnearest hy (isNaN_of_isFinite hfinite)
  · intro y hy hx0 hy0 htext
    obtain ⟨q, hq, hnearest⟩ := exists_value?_number hfinite
    obtain ⟨r, hr, hother⟩ := exists_value?_number hy
    rw [htext, hr] at hq
    cases hq
    exact eq_of_value_eq hx0
      (hnearest.value_eq hother (isNaN_of_isFinite hfinite) (isNaN_of_isFinite hy))

/-- From `10 ^ 21` on a number is printed with a power of ten. -/
theorem number_prints_and_reads_back_of_sextillion :
    sextillion.isFinite = true ∧ ∃ s k n, IsShortest sextillion.abs s k n ∧
      number sextillion = String.ofList ((if sextillion.isNegative then ['-'] else []) ++
        Layout.ecmaScript (Nat.toDigits 10 s) n) ∧ ¬(-6 < n ∧ n ≤ 21) := by
  have hfinite : sextillion.isFinite = true := by decide +kernel
  obtain ⟨-, -, hdigits, -⟩ := number_prints_and_reads_back sextillion hfinite
  obtain ⟨s, k, n, hshortest, htext, hplain⟩ := hdigits (by decide +kernel)
  refine ⟨hfinite, s, k, n, hshortest, htext, ?_⟩
  intro hrange
  exact absurd (hplain.mp hrange).2 (not_lt.mpr (le_abs_self _))

end Schema

end SchemaForge
