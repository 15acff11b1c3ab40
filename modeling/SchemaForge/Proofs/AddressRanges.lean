import SchemaForge.Proofs.NetworkBounds
import SchemaForge.Proofs.PredicateMeaning

/-!
# Ranges of IPv4 addresses

Which texts are range entries, and which addresses an entry stands for. A block is computed by masks
on words of 32 bits; it consists of the addresses that agree with its base after division by its
size, for every number of fixed bits from none to all. Main statement: an entry has a range exactly
when it is spelled in one of three ways, and the range holds the addresses that this way stands for.
-/

namespace SchemaForge

/-! ### Separators -/

namespace Text

lemma splitFirst_eq_some_iff (c : Char) (cs front back : List Char) :
    splitFirst c cs = some (front, back) ↔ cs = front ++ c :: back ∧ c ∉ front := by
  induction cs generalizing front with
  | nil => simp [splitFirst]
  | cons x cs ih =>
    by_cases hx : x = c
    · rw [splitFirst, if_pos hx]
      constructor
      · intro h
        cases h
        exact ⟨by rw [hx, List.nil_append], List.not_mem_nil⟩
      · rintro ⟨hcs, hfront⟩
        cases front with
        | nil =>
          cases hcs
          rfl
        | cons y front =>
          have hy : x = y := (List.cons.inj hcs).1
          exact absurd (List.mem_cons.mpr (Or.inl (hx.symm.trans hy))) hfront
    · rw [splitFirst, if_neg hx, Option.map_eq_some_iff]
      constructor
      · rintro ⟨⟨a, b⟩, hsplit, heq⟩
        cases heq
        obtain ⟨hcs, ha⟩ := (ih a).mp hsplit
        refine ⟨by rw [hcs, List.cons_append], ?_⟩
        exact List.not_mem_cons_of_ne_of_not_mem (Ne.symm hx) ha
      · rintro ⟨hcs, hfront⟩
        cases front with
        | nil => exact absurd (List.cons.inj hcs).1 hx
        | cons y front =>
          obtain ⟨hy, hrest⟩ := List.cons.inj hcs
          have ha := List.not_mem_of_not_mem_cons hfront
          exact ⟨(front, back), (ih front).mpr ⟨hrest, ha⟩, by rw [hy]⟩

lemma splitFirst_eq_none_iff (c : Char) (cs : List Char) : splitFirst c cs = none ↔ c ∉ cs := by
  induction cs with
  | nil => simp [splitFirst]
  | cons x cs ih =>
    by_cases hx : x = c
    · simp [splitFirst, hx]
    · have hne : c ≠ x := Ne.symm hx
      simp [splitFirst, hx, hne, ih]

/-- Every character is a separator or stands in a part. -/
lemma mem_splitOn (c : Char) (cs : List Char) :
    ∀ x ∈ cs, x = c ∨ ∃ part ∈ splitOn c cs, x ∈ part := by
  induction cs with
  | nil => exact nofun
  | cons y cs ih =>
    by_cases hy : y = c
    · rw [splitOn, if_pos hy, List.forall_mem_cons]
      refine ⟨Or.inl hy, fun x hx => ?_⟩
      exact (ih x hx).imp_right fun ⟨part, hpart, hmem⟩ =>
        ⟨part, List.mem_cons_of_mem _ hpart, hmem⟩
    · rw [splitOn, if_neg hy]
      cases hparts : splitOn c cs with
      | nil =>
        rw [hparts] at ih
        rw [List.forall_mem_cons]
        refine ⟨Or.inr ⟨[y], List.mem_singleton.mpr rfl, List.mem_singleton.mpr rfl⟩, fun x hx => ?_⟩
        exact (ih x hx).imp_right fun ⟨part, hpart, _⟩ => absurd hpart List.not_mem_nil
      | cons first others =>
        rw [hparts] at ih
        rw [List.forall_mem_cons]
        refine ⟨Or.inr ⟨y :: first, List.mem_cons_self, List.mem_cons_self⟩, fun x hx => ?_⟩
        refine (ih x hx).imp_right ?_
        rintro ⟨part, hpart, hmem⟩
        rcases List.mem_cons.mp hpart with rfl | hpart
        · exact ⟨y :: part, List.mem_cons_self, List.mem_cons_of_mem y hmem⟩
        · exact ⟨part, List.mem_cons_of_mem _ hpart, hmem⟩

end Text

namespace Ipv4

/-! ### Masks -/

/-- A shift that is refused if it reaches the width of a word. -/
def shiftLeft? (w : UInt32) (count : Nat) : Option UInt32 :=
  if count < 32 then some (w <<< UInt32.ofNat count) else none

/-- A mask for which the count is checked not to be negative and the shift not to be too wide. -/
def mask? (bits : Nat) : Option UInt32 :=
  if bits = 0 then some 0
  else if bits ≤ 32 then shiftLeft? 0xffffffff (32 - bits)
  else none

lemma mask?_eq_some {bits : Nat} (h : bits ≤ 32) : mask? bits = some (mask bits) := by
  unfold mask? mask
  by_cases hbits : bits = 0
  · rw [if_pos hbits, if_pos hbits]
  · have hcount : 32 - bits < 32 := by omega
    rw [if_neg hbits, if_neg hbits, if_pos h, shiftLeft?, if_pos hcount]

section Masks

variable {bits : Nat}

lemma toNat_mask (h : bits ≤ 32) : (mask bits).toNat = (2 ^ bits - 1) <<< (32 - bits) := by
  unfold mask
  by_cases hbits : bits = 0
  · rw [if_pos hbits, hbits]
    rfl
  · have hcount : (UInt32.ofNat (32 - bits)).toNat % 32 = 32 - bits := by
      rw [UInt32.toNat_ofNat']
      omega
    have hones : (0xffffffff : UInt32).toNat = 2 ^ 32 - 1 := rfl
    rw [if_neg hbits, UInt32.toNat_shiftLeft, hcount, hones]
    -- The ones that leave the word are the first ones, as many as the shift is wide.
    apply Nat.eq_of_testBit_eq
    intro i
    simp only [Nat.testBit_mod_two_pow, Nat.testBit_shiftLeft, Nat.testBit_two_pow_sub_one,
      ← Bool.decide_and]
    apply decide_eq_decide.mpr
    omega

lemma toNat_not_mask (h : bits ≤ 32) : (~~~mask bits).toNat = 2 ^ (32 - bits) - 1 := by
  have hpow : 2 ^ bits * 2 ^ (32 - bits) = 2 ^ 32 := by
    rw [← Nat.pow_add, Nat.add_sub_cancel' h]
  have hpos : 0 < 2 ^ (32 - bits) := Nat.two_pow_pos _
  have hsize : UInt32.size = 2 ^ 32 := rfl
  rw [UInt32.toNat_not, toNat_mask h, Nat.shiftLeft_eq, Nat.sub_mul, hpow, Nat.one_mul, hsize]
  have hle : 2 ^ (32 - bits) ≤ 2 ^ 32 := Nat.pow_le_pow_right (by decide) (by omega)
  omega

variable {base : Nat}

/-- Masking clears the last bits. -/
lemma and_mask (hbase : base < 2 ^ 32) (h : bits ≤ 32) :
    (UInt32.ofNat base &&& mask bits).toNat = (base >>> (32 - bits)) <<< (32 - bits) := by
  rw [UInt32.toNat_and, toNat_mask h, UInt32.toNat_ofNat_of_lt' hbase]
  apply Nat.eq_of_testBit_eq
  intro i
  simp only [Nat.testBit_and, Nat.testBit_shiftLeft, Nat.testBit_two_pow_sub_one,
    Nat.testBit_shiftRight]
  by_cases hi : i < 32
  · by_cases hge : i ≥ 32 - bits
    · have hlast : i - (32 - bits) < bits := by omega
      have hindex : 32 - bits + (i - (32 - bits)) = i := by omega
      simp [hge, hlast, hindex]
    · simp [hge]
  · -- A base has no bits beyond the word.
    have hzero : base.testBit i = false :=
      Nat.testBit_lt_two_pow (hbase.trans_le (Nat.pow_le_pow_right (by decide) (by omega)))
    have hindex : 32 - bits + (i - (32 - bits)) = i := by omega
    simp [hzero, hindex]

/-- A block begins at the multiple of its size below its base and has that many addresses. -/
lemma block_eq (hbase : base < 2 ^ 32) (h : bits ≤ 32) :
    block base bits =
      ⟨base / 2 ^ (32 - bits) * 2 ^ (32 - bits),
        base / 2 ^ (32 - bits) * 2 ^ (32 - bits) + (2 ^ (32 - bits) - 1)⟩ := by
  have hpos : 0 < 2 ^ (32 - bits) := Nat.two_pow_pos _
  have hfirst := and_mask hbase h
  have hlast : (UInt32.ofNat base &&& mask bits ||| ~~~mask bits).toNat =
      (base >>> (32 - bits)) <<< (32 - bits) + (2 ^ (32 - bits) - 1) := by
    have hlow : 2 ^ (32 - bits) - 1 < 2 ^ (32 - bits) := by omega
    rw [UInt32.toNat_or, hfirst, toNat_not_mask h, Nat.shiftLeft_add_eq_or_of_lt hlow]
  unfold block
  dsimp only
  rw [hlast, hfirst, Nat.shiftRight_eq_div_pow, Nat.shiftLeft_eq]

end Masks

/-! ### Spellings of entries -/

/-- A text is a numeral of a number of 32 bits: digits, behind an optional plus. -/
def IsNumeral (cs : List Char) (n : Nat) : Prop :=
  ∃ digits, (cs = digits ∨ cs = '+' :: digits) ∧ digits ≠ [] ∧
    (∀ d ∈ digits, d.isDigit = true) ∧ n = Nat.ofDigitChars 10 digits 0 ∧ n < 2 ^ 32

/-- What an entry asks for. -/
inductive Entry where
  | block (base bits : Nat)
  | span (first last : Nat)
  | single (address : Nat)

namespace Entry

/-- The addresses that an entry stands for. -/
def Holds : Entry → Nat → Prop
  | block base bits, x => x / 2 ^ (32 - bits) = base / 2 ^ (32 - bits)
  | span first last, x => first ≤ x ∧ x ≤ last
  | single address, x => x = address

/-- How an entry is spelled, blanks at its ends apart. -/
inductive Spells : Entry → List Char → Prop
  | block {front back : List Char} {base bits : Nat} (hslash : '/' ∉ front)
      (hbase : addressOfChars? (Text.trimChars front) = some base)
      (hbits : IsNumeral (Text.trimChars back) bits) (hle : bits ≤ 32) :
      Spells (block base bits) (front ++ '/' :: back)
  | span {front back : List Char} {first last : Nat} (hslash : '/' ∉ front ++ '-' :: back)
      (hdash : '-' ∉ front) (hfirst : addressOfChars? (Text.trimChars front) = some first)
      (hlast : addressOfChars? (Text.trimChars back) = some last) (hle : first ≤ last) :
      Spells (span first last) (front ++ '-' :: back)
  | single {cs : List Char} {address : Nat} (h : addressOfChars? cs = some address) :
      Spells (single address) cs

end Entry

lemma decimalValue_eq (ds : List Char) : decimalValue ds = Nat.ofDigitChars 10 ds 0 := by
  unfold decimalValue Nat.ofDigitChars
  congr 1
  funext n d
  rw [Nat.mul_comm]
  rfl

lemma eq_withoutPlus (cs : List Char) : cs = withoutPlus cs ∨ cs = '+' :: withoutPlus cs := by
  unfold withoutPlus
  split
  · exact Or.inr rfl
  · exact Or.inl rfl

lemma withoutPlus_of_digits {ds : List Char} (h : ∀ d ∈ ds, d.isDigit = true) :
    withoutPlus ds = ds := by
  unfold withoutPlus
  split
  · have hplus := h '+' List.mem_cons_self
    exact absurd hplus (by decide)
  · rfl

lemma bits?_eq_some_iff (cs : List Char) (n : Nat) :
    bits? cs = some n ↔ IsNumeral cs n ∧ n ≤ 32 := by
  unfold bits?
  dsimp only
  rw [decimalValue_eq]
  constructor
  · intro h
    split at h
    · rename_i hdigits
      obtain ⟨hne, hall, hle⟩ := hdigits
      cases h
      have hlt : Nat.ofDigitChars 10 (withoutPlus cs) 0 < 2 ^ 32 := by omega
      exact ⟨⟨withoutPlus cs, eq_withoutPlus cs, hne, List.all_eq_true.mp hall, rfl, hlt⟩, hle⟩
    · cases h
  · rintro ⟨⟨digits, hcs, hne, hall, rfl, -⟩, hle⟩
    have hdigits : withoutPlus cs = digits := by
      rcases hcs with rfl | rfl
      · exact withoutPlus_of_digits hall
      · rfl
    rw [hdigits, if_pos ⟨hne, List.all_eq_true.mpr hall, hle⟩]

lemma isDigit_of_octet? {ds : List Char} {n : Nat} (h : octet? ds = some n) :
    ∀ d ∈ ds, d.isDigit = true := by
  unfold octet? at h
  split at h
  · rename_i hds
    exact List.all_eq_true.mp hds.2.2.1
  · cases h

/-- An address consists of digits and dots. -/
lemma isDigit_of_mem_address {cs : List Char} {n : Nat} (h : addressOfChars? cs = some n) :
    ∀ x ∈ cs, x = '.' ∨ x.isDigit = true := by
  intro x hx
  refine (Text.mem_splitOn '.' cs x hx).imp_right ?_
  rintro ⟨part, hpart, hmem⟩
  unfold addressOfChars? at h
  split at h
  · rename_i a b c d hparts
    simp only [Option.bind_eq_bind, Option.bind_eq_some_iff] at h
    obtain ⟨_, ha, _, hb, _, hc, _, hd, -⟩ := h
    rw [hparts] at hpart
    simp only [List.mem_cons, List.not_mem_nil, or_false] at hpart
    rcases hpart with rfl | rfl | rfl | rfl
    · exact isDigit_of_octet? ha x hmem
    · exact isDigit_of_octet? hb x hmem
    · exact isDigit_of_octet? hc x hmem
    · exact isDigit_of_octet? hd x hmem
  · cases h

lemma not_mem_address {cs : List Char} {n : Nat} (h : addressOfChars? cs = some n) {c : Char}
    (hdot : c ≠ '.') (hdigit : c.isDigit = false) : c ∉ cs := by
  intro hmem
  rcases isDigit_of_mem_address h c hmem with heq | heq
  · exact hdot heq
  · rw [hdigit] at heq
    cases heq

namespace Entry

/-- The range of an entry. -/
def range : Entry → Range
  | block base bits => Ipv4.block base bits
  | span first last => ⟨first, last⟩
  | single address => ⟨address, address⟩

end Entry

/-- The grammar of entries. A separator decides which way an entry is read: the first slash, and
without one the first dash. -/
lemma rangeOfChars?_eq_some_iff (cs : List Char) (r : Range) :
    rangeOfChars? cs = some r ↔ ∃ e : Entry, e.Spells cs ∧ r = e.range := by
  constructor
  · intro h
    unfold rangeOfChars? at h
    cases hslash : Text.splitFirst '/' cs with
    | some parts =>
      obtain ⟨front, back⟩ := parts
      obtain ⟨rfl, hfront⟩ := (Text.splitFirst_eq_some_iff '/' cs front back).mp hslash
      rw [hslash] at h
      simp only [Option.bind_eq_bind, Option.bind_eq_some_iff] at h
      obtain ⟨bits, hbits, base, hbase, hr⟩ := h
      cases hr
      obtain ⟨hnumeral, hle⟩ := (bits?_eq_some_iff _ bits).mp hbits
      exact ⟨.block base bits, .block hfront hbase hnumeral hle, rfl⟩
    | none =>
      have hno := (Text.splitFirst_eq_none_iff '/' cs).mp hslash
      rw [hslash] at h
      dsimp only at h
      cases hdash : Text.splitFirst '-' cs with
      | some parts =>
        obtain ⟨front, back⟩ := parts
        obtain ⟨rfl, hfront⟩ := (Text.splitFirst_eq_some_iff '-' cs front back).mp hdash
        rw [hdash] at h
        simp only [Option.bind_eq_bind, Option.bind_eq_some_iff] at h
        obtain ⟨first, hfirst, last, hlast, hr⟩ := h
        split at hr
        · rename_i hle
          cases hr
          exact ⟨.span first last, .span hno hfront hfirst hlast hle, rfl⟩
        · cases hr
      | none =>
        rw [hdash] at h
        obtain ⟨address, haddress, rfl⟩ := Option.map_eq_some_iff.mp h
        exact ⟨.single address, .single haddress, rfl⟩
  · rintro ⟨e, hspells, rfl⟩
    unfold rangeOfChars?
    cases hspells with
    | @block front back base bits hslash hbase hbits hle =>
      have hsplit := (Text.splitFirst_eq_some_iff '/' _ front back).mpr ⟨rfl, hslash⟩
      have hread := (bits?_eq_some_iff (Text.trimChars back) bits).mpr ⟨hbits, hle⟩
      rw [hsplit]
      dsimp only
      rw [hread, hbase]
      rfl
    | @span front back first last hslash hdash hfirst hlast hle =>
      have hnone := (Text.splitFirst_eq_none_iff '/' _).mpr hslash
      have hsplit := (Text.splitFirst_eq_some_iff '-' _ front back).mpr ⟨rfl, hdash⟩
      rw [hnone, hsplit]
      dsimp only
      rw [hfirst, hlast]
      exact if_pos hle
    | @single _ address h =>
      have hslash := (Text.splitFirst_eq_none_iff '/' cs).mpr (not_mem_address h (by decide) rfl)
      have hdash := (Text.splitFirst_eq_none_iff '-' cs).mpr (not_mem_address h (by decide) rfl)
      rw [hslash, hdash]
      dsimp only
      rw [h]
      rfl

/-! ### Addresses of entries -/

lemma block_bounds {base bits : Nat} (hbase : base < 2 ^ 32) (h : bits ≤ 32) (x : Nat) :
    (block base bits).first ≤ x ∧ x ≤ (block base bits).last ↔
      x / 2 ^ (32 - bits) = base / 2 ^ (32 - bits) := by
  have hpos : 0 < 2 ^ (32 - bits) := Nat.two_pow_pos _
  rw [block_eq hbase h, Nat.div_eq_iff hpos, Nat.add_sub_assoc hpos]

lemma block_length {base bits : Nat} (hbase : base < 2 ^ 32) (h : bits ≤ 32) :
    (block base bits).last + 1 = (block base bits).first + 2 ^ (32 - bits) := by
  have hpos : 0 < 2 ^ (32 - bits) := Nat.two_pow_pos _
  rw [block_eq hbase h]
  dsimp only
  omega

namespace Entry

lemma first_le_last_range {e : Entry} {cs : List Char} (h : e.Spells cs) :
    e.range.first ≤ e.range.last := by
  cases h with
  | @block _ _ base bits _ hbase _ hle =>
    have hlength := block_length (addressOfChars?_lt hbase) hle
    have hpos : 0 < 2 ^ (32 - bits) := Nat.two_pow_pos _
    dsimp only [range]
    omega
  | span _ _ _ _ hle => exact hle
  | single _ => exact Nat.le_refl _

lemma mem_range_iff {e : Entry} {cs : List Char} (h : e.Spells cs) (x : Nat) :
    e.range.first ≤ x ∧ x ≤ e.range.last ↔ e.Holds x := by
  cases h with
  | block _ hbase _ hle => exact block_bounds (addressOfChars?_lt hbase) hle x
  | span => rfl
  | single =>
    dsimp only [range, Holds]
    omega

end Entry

lemma Range.ext_of_mem {r s : Range} (hr : r.first ≤ r.last) (hs : s.first ≤ s.last)
    (h : ∀ x, r.first ≤ x ∧ x ≤ r.last ↔ s.first ≤ x ∧ x ≤ s.last) : r = s := by
  -- Each end of either range lies in the other one.
  have hfirst := (h r.first).mp ⟨Nat.le_refl _, hr⟩
  have hlast := (h r.last).mp ⟨hr, Nat.le_refl _⟩
  have hfirst' := (h s.first).mpr ⟨Nat.le_refl _, hs⟩
  have hlast' := (h s.last).mpr ⟨hs, Nat.le_refl _⟩
  have heq : r.first = s.first := by omega
  have heq' : r.last = s.last := by omega
  cases r
  cases s
  exact congrArg₂ Range.mk heq heq'

lemma range?_eq_some_iff (entry : String) (r : Range) :
    range? entry = some r ↔ ∃ e : Entry, e.Spells (Text.trimChars entry.toList) ∧
      r.first ≤ r.last ∧ ∀ x, r.first ≤ x ∧ x ≤ r.last ↔ e.Holds x := by
  rw [range?, rangeOfChars?_eq_some_iff]
  refine exists_congr fun e => and_congr_right fun hspells => ?_
  have hle := Entry.first_le_last_range hspells
  constructor
  · rintro rfl
    exact ⟨hle, Entry.mem_range_iff hspells⟩
  · rintro ⟨hr, hmem⟩
    apply Range.ext_of_mem hr hle
    intro x
    rw [hmem x, Entry.mem_range_iff hspells x]

end Ipv4

lemma Refinement.eval_inRanges (entries : List String) (x : Nat) :
    (inRanges entries).eval (.number x) = true ↔
      ∃ entry ∈ entries, ∃ r, Ipv4.range? entry = some r ∧ r.first ≤ x ∧ x ≤ r.last := by
  rw [inRanges, Predicate.eval, Predicate.evalAny_eq_any, List.any_map, List.any_eq_true]
  simp only [List.mem_filterMap, Function.comp_apply, Predicate.eval, Bool.and_eq_true,
    decide_eq_true_eq]
  constructor
  · rintro ⟨r, ⟨entry, hentry, hr⟩, hx⟩
    exact ⟨entry, hentry, r, hr, hx⟩
  · rintro ⟨entry, hentry, r, hr, hx⟩
    exact ⟨r, ⟨entry, hentry, hr⟩, hx⟩

namespace Ipv4

/-- Range entries and their addresses. An entry has a range exactly when it is spelled as a block, a
span or an address; the range is not empty and holds the addresses that agree with the base of the
block, that lie in the span, or that one. Masks never shift by the width of a word. A block has a
power of two of addresses: all if it fixes no bit, its base alone if it fixes all. A list of entries
admits the addresses of those of its members that are entries. -/
theorem range?_denotes :
    (∀ (entry : String) (r : Range), range? entry = some r ↔
      ∃ e : Entry, e.Spells (Text.trimChars entry.toList) ∧
        r.first ≤ r.last ∧ ∀ x, r.first ≤ x ∧ x ≤ r.last ↔ e.Holds x) ∧
    (∀ base bits : Nat, base < 2 ^ 32 → bits ≤ 32 →
      mask? bits = some (mask bits) ∧
        (∀ x, (block base bits).first ≤ x ∧ x ≤ (block base bits).last ↔
          x / 2 ^ (32 - bits) = base / 2 ^ (32 - bits)) ∧
        (block base bits).last + 1 = (block base bits).first + 2 ^ (32 - bits)) ∧
    (∀ base : Nat, base < 2 ^ 32 →
      block base 0 = ⟨0, 2 ^ 32 - 1⟩ ∧ block base 32 = ⟨base, base⟩) ∧
    ∀ (entries : List String) (x : Nat),
      (Refinement.inRanges entries).eval (.number x) = true ↔
        ∃ entry ∈ entries, ∃ e : Entry,
          e.Spells (Text.trimChars entry.toList) ∧ e.Holds x := by
  refine ⟨range?_eq_some_iff, ?_, ?_, ?_⟩
  · intro base bits hbase h
    exact ⟨mask?_eq_some h, block_bounds hbase h, block_length hbase h⟩
  · intro base hbase
    have hnone := block_eq hbase (Nat.zero_le 32)
    have hall := block_eq hbase (Nat.le_refl 32)
    rw [Nat.sub_zero, Nat.div_eq_of_lt hbase, Nat.zero_mul, Nat.zero_add] at hnone
    rw [Nat.sub_self, Nat.pow_zero, Nat.div_one, Nat.mul_one] at hall
    exact ⟨hnone, hall⟩
  · intro entries x
    rw [Refinement.eval_inRanges]
    refine exists_congr fun entry => and_congr_right fun _ => ?_
    constructor
    · rintro ⟨r, hr, hx⟩
      obtain ⟨e, hspells, -, hmem⟩ := (range?_eq_some_iff entry r).mp hr
      exact ⟨e, hspells, (hmem x).mp hx⟩
    · rintro ⟨e, hspells, hx⟩
      have hmem := Entry.mem_range_iff hspells
      have hle := Entry.first_le_last_range hspells
      exact ⟨e.range, (range?_eq_some_iff entry _).mpr ⟨e, hspells, hle, hmem⟩, (hmem x).mpr hx⟩

/-- A block with blanks, a plus and a base inside it, and the block of all addresses. -/
theorem range?_denotes_of_host_bits :
    let entry := " 10.9.9.9 / +08 "
    range? entry = some ⟨167772160, 184549375⟩ ∧
      (∃ e : Entry, e.Spells (Text.trimChars entry.toList) ∧
        ∀ x, 167772160 ≤ x ∧ x ≤ 184549375 ↔ e.Holds x) ∧
      168364297 < 2 ^ 32 ∧ mask? 8 = some 0xff000000 ∧
      (block 168364297 8).last + 1 = (block 168364297 8).first + 2 ^ 24 ∧
      block 168364297 0 = ⟨0, 4294967295⟩ ∧
      ∃ other ∈ ["10.0.0.0/33", entry], ∃ e : Entry,
        e.Spells (Text.trimChars other.toList) ∧ e.Holds 184549375 := by
  intro entry
  obtain ⟨hentry, hblock, hends, hlist⟩ := range?_denotes
  have hrange : range? entry = some ⟨167772160, 184549375⟩ := by decide +kernel
  have hbase : 168364297 < 2 ^ 32 := by decide
  obtain ⟨e, hspells, -, hmem⟩ := (hentry entry _).mp hrange
  obtain ⟨hmask, -, hlength⟩ := hblock 168364297 8 hbase (by decide)
  refine ⟨hrange, ⟨e, hspells, hmem⟩, hbase, hmask, hlength, (hends _ hbase).1, ?_⟩
  exact (hlist _ _).mp (by decide +kernel)

end Ipv4

end SchemaForge
