import SchemaForge.Proofs.RoundingOrder
import SchemaForge.Schema.Leaf

/-!
# Bounds on bytes as bounds on characters

Encodings that cut the bits of a payload into groups write one character for each group, the last one
filled with zeros. No two numbers of bytes take the same number of characters, so the bounds on
characters that a schema has are met by exactly the payloads that meet the bounds on bytes.
-/

namespace SchemaForge

/-! ### Groups of bits -/

/-- The bits of a byte, the highest first. -/
def byteBits (b : UInt8) : List Bool := (List.range 8).map fun i => b.toNat.testBit (7 - i)

def payloadBits (payload : List UInt8) : List Bool := payload.flatMap byteBits

/-- Cut bits into groups of `width`, of which the first is begun by `group`. The last group is filled
with zeros. -/
def cut (width : Nat) (group : List Bool) : List Bool → List (List Bool)
  | [] => if group.isEmpty then [] else [group ++ List.replicate (width - group.length) false]
  | bit :: bits =>
    if group.length + 1 = width then (group ++ [bit]) :: cut width [] bits
    else cut width (group ++ [bit]) bits

/-- The number that the bits of a group stand for. -/
def groupValue (group : List Bool) : Nat := group.foldl (fun n bit => 2 * n + bit.toNat) 0

/-- An alphabet with a character for each group of bits. The bits of a block of bytes fill a whole
number of characters. -/
structure BitAlphabet where
  width : Nat
  letters : String
  blockBytes : Nat
  blockCharacters : Nat
  width_le : width ≤ 8
  bytes_pos : 0 < blockBytes
  bits_eq : width * blockCharacters = 8 * blockBytes

/-- The text of a payload, without padding. -/
def BitAlphabet.encode (a : BitAlphabet) (payload : List UInt8) : List Char :=
  (cut a.width [] (payloadBits payload)).map fun group =>
    a.letters.toList.getD (groupValue group) '='

/-- Base 64 with its last two characters. -/
def BitAlphabet.base64 (last : String) : BitAlphabet :=
  { width := 6
    letters := "ABCDEFGHIJKLMNOPQRSTUVWXYZabcdefghijklmnopqrstuvwxyz0123456789" ++ last
    blockBytes := 3
    blockCharacters := 4
    width_le := by decide
    bytes_pos := by decide
    bits_eq := rfl }

/-- The alphabet of an encoding that groups bits. Base 36 does not. -/
def Encoding.alphabet? : Encoding → Option BitAlphabet
  | base32 => some
    { width := 5
      letters := "ABCDEFGHIJKLMNOPQRSTUVWXYZ234567"
      blockBytes := 5
      blockCharacters := 8
      width_le := by decide
      bytes_pos := by decide
      bits_eq := rfl }
  | base36 => none
  | base64 => some (.base64 "+/")
  | base64url => some (.base64 "-_")
  | hex => some
    { width := 4
      letters := "0123456789abcdef"
      blockBytes := 1
      blockCharacters := 2
      width_le := by decide
      bytes_pos := by decide
      bits_eq := rfl }

lemma length_payloadBits (payload : List UInt8) :
    (payloadBits payload).length = 8 * payload.length := by
  induction payload with
  | nil => rfl
  | cons b payload ih =>
    have hbyte : (byteBits b).length = 8 := by
      rw [byteBits, List.length_map, List.length_range]
    rw [payloadBits, List.flatMap_cons, List.length_append, hbyte, ← payloadBits, ih,
      List.length_cons]
    omega

/-- Every group is full, and the groups hold the bits and then fewer zeros than a group has. -/
lemma cut_spec {width : Nat} (bits group : List Bool) (h : group.length < width) :
    (∀ g ∈ cut width group bits, g.length = width) ∧
      ∃ zeros < width,
        (cut width group bits).flatten = group ++ bits ++ List.replicate zeros false := by
  induction bits generalizing group with
  | nil =>
    unfold cut
    by_cases hempty : group = []
    · subst hempty
      exact ⟨nofun, 0, h, rfl⟩
    · have hpos := List.length_pos_iff.mpr hempty
      rw [if_neg (by simpa using hempty)]
      refine ⟨?_, width - group.length, by omega, by simp⟩
      intro g hg
      rw [List.mem_singleton.mp hg, List.length_append, List.length_replicate]
      omega
  | cons bit bits ih =>
    unfold cut
    have hlength : (group ++ [bit]).length = group.length + 1 := List.length_append
    by_cases hfull : group.length + 1 = width
    · obtain ⟨hgroups, zeros, hzeros, hflatten⟩ := ih [] (by rw [List.length_nil]; omega)
      rw [if_pos hfull]
      refine ⟨List.forall_mem_cons.mpr ⟨hlength.trans hfull, hgroups⟩, zeros, hzeros, ?_⟩
      rw [List.flatten_cons, hflatten]
      simp
    · obtain ⟨hgroups, zeros, hzeros, hflatten⟩ := ih (group ++ [bit]) (by omega)
      rw [if_neg hfull]
      refine ⟨hgroups, zeros, hzeros, ?_⟩
      rw [hflatten]
      simp

lemma length_flatten_of_forall {α : Type} {w : Nat} {gs : List (List α)}
    (h : ∀ g ∈ gs, g.length = w) : gs.flatten.length = w * gs.length := by
  induction gs with
  | nil => rfl
  | cons g gs ih =>
    obtain ⟨hg, hgs⟩ := List.forall_mem_cons.mp h
    rw [List.flatten_cons, List.length_append, hg, ih hgs, List.length_cons, Nat.mul_succ,
      Nat.add_comm]

/-! ### Quotients rounded up -/

/-- `q` is `x / y` rounded up. -/
def IsCeil (q x y : Nat) : Prop := x ≤ y * q ∧ y * q < x + y

lemma IsCeil.unique {q r x y : Nat} (hq : IsCeil q x y) (hr : IsCeil r x y) : q = r := by
  have hle : ∀ {q r}, IsCeil q x y → IsCeil r x y → q ≤ r := by
    intro q r hq hr
    refine Nat.le_of_not_lt fun hlt => ?_
    have hmul : y * (r + 1) ≤ y * q := Nat.mul_le_mul_left y hlt
    rw [Nat.mul_succ] at hmul
    have hlow := hr.1
    have hhigh := hq.2
    omega
  exact Nat.le_antisymm (hle hq hr) (hle hr hq)

/-- Multiples of a factor that is no less than the divisor have distinct quotients, in order. -/
lemma IsCeil.le_iff {q r c n m y : Nat} (hc : y ≤ c) (hq : IsCeil q (c * n) y)
    (hr : IsCeil r (c * m) y) : q ≤ r ↔ n ≤ m := by
  obtain ⟨hqlow, hqhigh⟩ := hq
  obtain ⟨hrlow, hrhigh⟩ := hr
  constructor
  · intro hqr
    refine Nat.le_of_not_lt fun hlt => ?_
    have hmul : y * q ≤ y * r := Nat.mul_le_mul_left y hqr
    have hstep : c * (m + 1) ≤ c * n := Nat.mul_le_mul_left c hlt
    rw [Nat.mul_succ] at hstep
    omega
  · intro hnm
    refine Nat.le_of_not_lt fun hlt => ?_
    have hmul : y * (r + 1) ≤ y * q := Nat.mul_le_mul_left y hlt
    have hstep : c * n ≤ c * m := Nat.mul_le_mul_left c hnm
    rw [Nat.mul_succ] at hmul
    omega

namespace BitAlphabet

variable (a : BitAlphabet)

lemma bytes_le : a.blockBytes ≤ a.blockCharacters := by
  have hmul := Nat.mul_le_mul_right a.blockCharacters a.width_le
  rw [a.bits_eq] at hmul
  omega

/-- The text of a payload has one character for each begun group of bits. -/
lemma isCeil_length_encode (payload : List UInt8) :
    IsCeil (a.encode payload).length (a.blockCharacters * payload.length) a.blockBytes := by
  have hpos := a.bytes_pos
  have hle := a.bytes_le
  have hwidth : 0 < a.width := by
    refine Nat.pos_of_ne_zero fun hzero => ?_
    have hbits := a.bits_eq
    rw [hzero, Nat.zero_mul] at hbits
    omega
  obtain ⟨hgroups, zeros, hzeros, hflatten⟩ := cut_spec (payloadBits payload) [] hwidth
  have hlength : a.width * (a.encode payload).length = 8 * payload.length + zeros := by
    rw [encode, List.length_map, ← length_flatten_of_forall hgroups, hflatten]
    simp [length_payloadBits]
  have hblock : 8 * (a.blockBytes * (a.encode payload).length) =
      8 * (a.blockCharacters * payload.length) + a.blockCharacters * zeros := by
    rw [← Nat.mul_assoc, ← a.bits_eq, Nat.mul_right_comm, hlength, Nat.add_mul, Nat.mul_comm zeros,
      Nat.mul_assoc 8, Nat.mul_comm payload.length]
  have hfill : a.blockCharacters * zeros < 8 * a.blockBytes := by
    rw [← a.bits_eq, Nat.mul_comm a.width]
    exact Nat.mul_lt_mul_of_pos_left hzeros (by omega)
  unfold IsCeil
  omega

end BitAlphabet

/-! ### Lengths that are computed -/

namespace Encoding

variable {e : Encoding} {a : BitAlphabet} {b c : UInt64}

/-- Where the product with the characters of a block is below `2 ^ 64`, nothing saturates. -/
lemma isCeil_encodedLength (ha : e.alphabet? = some a) (hb : a.blockCharacters * b.toNat < 2 ^ 64) :
    IsCeil (e.encodedLength b) (a.blockCharacters * b.toNat) a.blockBytes := by
  cases e with
  | base36 => cases ha
  | base32 | base64 | base64url | hex =>
    cases ha
    simp only [BitAlphabet.base64, IsCeil, encodedLength, saturate, maxCount, Nat.pow_eq] at hb ⊢
    omega

theorem encodedLength_lt (e : Encoding) (b : UInt64) : e.encodedLength b < 2 ^ 64 := by
  cases e <;>
    simp only [encodedLength, saturate, maxCount, Nat.pow_eq] <;>
    omega

theorem encodedLength_mono (e : Encoding) (h : b ≤ c) : e.encodedLength b ≤ e.encodedLength c := by
  have hle : b.toNat ≤ c.toNat := UInt64.le_iff_toNat_le.mp h
  cases e with
  | base36 =>
    have hceil := Binary64.ceilNonneg_mono
      (Binary64.units_mulNonneg_mono base36Ratio (Binary64.units_ofNat_mono hle))
    simp only [encodedLength, saturate]
    omega
  | base32 | base64 | base64url | hex =>
    simp only [encodedLength, saturate, maxCount, Nat.pow_eq]
    omega

end Encoding

/-! ### Bounds in a schema -/

/-- A chained call that bounds the length of a text. -/
inductive LengthCall where
  | min (n : Nat)
  | max (n : Nat)

namespace LengthCall

def text : LengthCall → String
  | min n => Schema.call "min" n.repr
  | max n => Schema.call "max" n.repr

def Accepts (length : Nat) : LengthCall → Prop
  | min n => n ≤ length
  | max n => length ≤ n

end LengthCall

/-- The inclusive bounds hold of a count. -/
def Bounds.Admit (bounds : Bounds) (n : Nat) : Prop :=
  (∀ least ∈ bounds.least, least.toNat ≤ n) ∧ ∀ greatest ∈ bounds.greatest, n ≤ greatest.toNat

namespace Encoding

/-- The calls that bounds on bytes become. -/
def lengthCalls (e : Encoding) (bounds : Bounds) : List LengthCall :=
  (bounds.least.map fun b => .min (e.encodedLength b)).toList ++
    (bounds.greatest.map fun b => .max (e.encodedLength b)).toList

lemma schema_binary (e : Encoding) (bounds : Bounds) :
    (Leaf.binary e bounds).schema =
      Schema.encodingBase e ++ String.join ((e.lengthCalls bounds).map LengthCall.text) := by
  obtain ⟨least, greatest⟩ := bounds
  cases least <;> cases greatest <;>
    simp [Leaf.schema, Schema.binary, Schema.callWith, lengthCalls, LengthCall.text,
      String.append_assoc]

/-- Bounds on characters and bounds on bytes agree on the payloads of an encoding. -/
lemma accepts_iff_admit {e : Encoding} {a : BitAlphabet} (ha : e.alphabet? = some a)
    {bounds : Bounds} (hleast : ∀ b ∈ bounds.least, a.blockCharacters * b.toNat < 2 ^ 64)
    (hgreatest : ∀ b ∈ bounds.greatest, a.blockCharacters * b.toNat < 2 ^ 64)
    (payload : List UInt8) :
    (∀ call ∈ e.lengthCalls bounds, call.Accepts (a.encode payload).length) ↔
      bounds.Admit payload.length := by
  have hpayload := a.isCeil_length_encode payload
  have hmin : ∀ b ∈ bounds.least,
      (e.encodedLength b ≤ (a.encode payload).length ↔ b.toNat ≤ payload.length) := fun b hb =>
    (isCeil_encodedLength ha (hleast b hb)).le_iff a.bytes_le hpayload
  have hmax : ∀ b ∈ bounds.greatest,
      ((a.encode payload).length ≤ e.encodedLength b ↔ payload.length ≤ b.toNat) := fun b hb =>
    hpayload.le_iff a.bytes_le (isCeil_encodedLength ha (hgreatest b hb))
  obtain ⟨least, greatest⟩ := bounds
  cases least <;> cases greatest <;> simp_all [lengthCalls, Bounds.Admit, LengthCall.Accepts]

end Encoding

/-- For the encodings that group bits, and counts whose product with the characters of a block is
below `2 ^ 64`, the computed length is that of the text of any payload of so many bytes, and a text
meets the bounds in the schema exactly when its payload meets the bounds on bytes. For every encoding
and every count the length is below `2 ^ 64`, and it does not fall when the count grows. -/
theorem Leaf.schema_binary_bounds_bytes (e : Encoding) :
    (∀ a, e.alphabet? = some a →
      (∀ (b : UInt64) (payload : List UInt8), payload.length = b.toNat →
        a.blockCharacters * b.toNat < 2 ^ 64 →
        (a.encode payload).length = e.encodedLength b ∧
          IsCeil (e.encodedLength b) (a.blockCharacters * b.toNat) a.blockBytes) ∧
      ∀ bounds : Bounds, (∀ b ∈ bounds.least, a.blockCharacters * b.toNat < 2 ^ 64) →
        (∀ b ∈ bounds.greatest, a.blockCharacters * b.toNat < 2 ^ 64) →
        ∃ calls : List LengthCall,
          (Leaf.binary e bounds).schema =
            Schema.encodingBase e ++ String.join (calls.map LengthCall.text) ∧
          ∀ payload : List UInt8,
            (∀ call ∈ calls, call.Accepts (a.encode payload).length) ↔
              bounds.Admit payload.length) ∧
    (∀ b, e.encodedLength b < 2 ^ 64) ∧
    ∀ b c, b ≤ c → e.encodedLength b ≤ e.encodedLength c := by
  refine ⟨?_, e.encodedLength_lt, fun b c => e.encodedLength_mono⟩
  intro a ha
  constructor
  · intro b payload hlength hb
    have hceil := Encoding.isCeil_encodedLength ha hb
    rw [← hlength] at hceil ⊢
    exact ⟨(a.isCeil_length_encode payload).unique hceil, hceil⟩
  · intro bounds hleast hgreatest
    exact ⟨e.lengthCalls bounds, e.schema_binary bounds,
      Encoding.accepts_iff_admit ha hleast hgreatest⟩

/-- Four bytes in base 64 take six characters, which are between the bounds for three and for six
bytes; and base 36 keeps the order up to the greatest count. -/
theorem Leaf.schema_binary_bounds_bytes_of_four :
    (∃ a, Encoding.base64.alphabet? = some a ∧
      String.ofList (a.encode [102, 111, 111, 98]) = "Zm9vYg" ∧
      (a.encode [102, 111, 111, 98]).length = Encoding.base64.encodedLength 4 ∧
      ∃ calls : List LengthCall,
        "z.string().base64().min(4).max(8)" =
            Schema.encodingBase .base64 ++ String.join (calls.map LengthCall.text) ∧
          ((∀ call ∈ calls, call.Accepts (a.encode [102, 111, 111, 98]).length) ↔
            Bounds.Admit ⟨some 3, some 6⟩ 4)) ∧
      Encoding.base36.encodedLength 8 ≤ Encoding.base36.encodedLength 18446744073709551615 := by
  have hschema : (Leaf.binary .base64 ⟨some 3, some 6⟩).schema =
      "z.string().base64().min(4).max(8)" := by decide +kernel
  obtain ⟨hgroups, -⟩ := schema_binary_bounds_bytes .base64
  obtain ⟨hlength, hbounds⟩ := hgroups (.base64 "+/") rfl
  obtain ⟨calls, htext, hcalls⟩ := hbounds ⟨some 3, some 6⟩
    (by rintro b ⟨⟩; decide) (by rintro b ⟨⟩; decide)
  refine ⟨⟨_, rfl, by decide +kernel, (hlength 4 _ rfl (by decide)).1, calls, ?_, hcalls _⟩,
    (schema_binary_bounds_bytes .base36).2.2 _ _ (by decide)⟩
  rw [← hschema, htext]

end SchemaForge
