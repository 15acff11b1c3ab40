import SchemaForge.Proofs.AddressRanges

/-!
# Dotted quads

Which texts are addresses, and which numbers they are: four groups of digits with a dot between them.
Every number of 32 bits is written as one.
-/

namespace SchemaForge

/-! ### Splitting -/

section Splitting

variable {α : Type} [DecidableEq α] {a b : α} {xs ys : List α}

lemma splitOn_cons_self (a : α) (xs : List α) : (a :: xs).splitOn a = [] :: xs.splitOn a := by
  simp [List.splitOn_eq_splitOnP, List.splitOnP_cons_eq_if_modifyHead]

lemma splitOn_cons_of_ne (h : b ≠ a) (xs : List α) :
    (b :: xs).splitOn a = (xs.splitOn a).modifyHead (b :: ·) := by
  simp [List.splitOn_eq_splitOnP, List.splitOnP_cons_eq_if_modifyHead, h]

lemma splitOn_append_of_not_mem (h : a ∉ xs) (ys : List α) :
    (xs ++ ys).splitOn a = (ys.splitOn a).modifyHead (xs ++ ·) := by
  induction xs with
  | nil =>
    rw [List.nil_append]
    cases ys.splitOn a <;> rfl
  | cons x xs ih =>
    obtain ⟨hx, hxs⟩ := not_or.mp (mt List.mem_cons.mpr h)
    rw [List.cons_append, splitOn_cons_of_ne (Ne.symm hx), ih hxs, List.modifyHead_modifyHead]
    rfl

lemma not_mem_of_mem_splitOn {part : List α} (h : part ∈ xs.splitOn a) : a ∉ part := by
  induction xs generalizing part with
  | nil =>
    rw [List.splitOn_nil, List.mem_singleton] at h
    exact h ▸ List.not_mem_nil
  | cons x xs ih =>
    by_cases hx : x = a
    · rw [hx, splitOn_cons_self] at h
      rcases List.mem_cons.mp h with rfl | h
      · exact List.not_mem_nil
      · exact ih h
    · rw [splitOn_cons_of_ne hx] at h
      cases hparts : xs.splitOn a with
      | nil =>
        rw [hparts] at h
        cases h
      | cons first others =>
        rw [hparts, List.modifyHead_cons] at h
        rcases List.mem_cons.mp h with rfl | h
        · have hfirst : a ∉ first := ih (hparts ▸ List.mem_cons_self)
          exact List.not_mem_cons_of_ne_of_not_mem (Ne.symm hx) hfirst
        · exact ih (hparts ▸ List.mem_cons_of_mem first h)

lemma splitOn_eq_iff {parts : List (List α)} (hne : parts ≠ []) :
    xs.splitOn a = parts ↔ xs = [a].intercalate parts ∧ ∀ part ∈ parts, a ∉ part := by
  constructor
  · rintro rfl
    exact ⟨(List.intercalate_splitOn a).symm, fun part => not_mem_of_mem_splitOn⟩
  · rintro ⟨rfl, hparts⟩
    exact List.splitOn_intercalate a hparts hne

end Splitting

lemma Text.splitOn_eq (c : Char) (cs : List Char) : Text.splitOn c cs = cs.splitOn c := by
  induction cs with
  | nil => exact (List.splitOn_nil c).symm
  | cons x cs ih =>
    rw [Text.splitOn, ih]
    by_cases hx : x = c
    · rw [if_pos hx, hx, splitOn_cons_self]
    · rw [if_neg hx, splitOn_cons_of_ne hx]
      cases hparts : cs.splitOn c with
      | nil => exact absurd hparts (List.splitOn_ne_nil c cs)
      | cons first others => rfl

namespace Ipv4

/-! ### The grammar -/

/-- One to three digits with a value of at most 255. -/
def IsOctet (ds : List Char) (v : Nat) : Prop :=
  1 ≤ ds.length ∧ ds.length ≤ 3 ∧ (∀ d ∈ ds, d.isDigit = true) ∧
    v = Nat.ofDigitChars 10 ds 0 ∧ v ≤ 255

lemma octet?_eq_some_iff {ds : List Char} {v : Nat} : octet? ds = some v ↔ IsOctet ds v := by
  unfold octet? IsOctet
  rw [decimalValue_eq]
  constructor
  · intro h
    split at h
    · rename_i hds
      obtain ⟨hpos, hlength, hdigits, hle⟩ := hds
      cases h
      exact ⟨hpos, hlength, List.all_eq_true.mp hdigits, rfl, hle⟩
    · cases h
  · rintro ⟨hpos, hlength, hdigits, rfl, hle⟩
    rw [if_pos ⟨hpos, hlength, List.all_eq_true.mpr hdigits, hle⟩]

lemma decimalValue_lt {ds : List Char} (h : ∀ d ∈ ds, d.isDigit = true) :
    decimalValue ds < 10 ^ ds.length := by
  induction ds using List.reverseRecOn with
  | nil => decide
  | append_singleton ds d ih =>
    obtain ⟨hds, hd⟩ := List.forall_mem_append.mp h
    have hlt := ih hds
    have hle := (Char.isDigit_iff_toNat.mp (hd d (List.mem_singleton.mpr rfl))).2
    have h9 : '9'.toNat = 57 := rfl
    have hconcat : decimalValue (ds ++ [d]) = decimalValue ds * 10 + (d.toNat - 48) := by
      unfold decimalValue
      rw [List.foldl_concat]
    rw [hconcat, List.length_append, List.length_singleton, Nat.pow_succ]
    omega

/-- Appends a group to the groups before it. -/
def pushOctet? (n : Nat) (ds : List Char) : Option Nat := (octet? ds).map (n * 256 + ·)

lemma pushOctet?_lt {n m k : Nat} {ds : List Char} (hn : n < 256 ^ k)
    (h : pushOctet? n ds = some m) : m < 256 ^ (k + 1) := by
  obtain ⟨v, hv, rfl⟩ := Option.map_eq_some_iff.mp h
  have hle := octet?_le hv
  rw [Nat.pow_succ]
  omega

/-- An address is read from left to right. -/
lemma addressOfChars?_eq (cs : List Char) :
    addressOfChars? cs =
      if (cs.splitOn '.').length = 4 then (cs.splitOn '.').foldlM pushOctet? 0 else none := by
  unfold addressOfChars?
  rw [Text.splitOn_eq]
  split
  · rename_i a b c d hparts
    have hlength : [a, b, c, d].length = 4 := rfl
    rw [hparts, if_pos hlength]
    simp only [List.foldlM_cons, List.foldlM_nil, pushOctet?, Option.bind_eq_bind,
      Option.bind_map, Option.pure_def]
    simp
  · rename_i hparts
    rw [if_neg]
    intro hlength
    obtain ⟨a, b, c, d, heq⟩ := List.length_eq_four.mp hlength
    exact hparts a b c d heq

lemma IsOctet.dot_not_mem {ds : List Char} {v : Nat} (h : IsOctet ds v) : '.' ∉ ds := by
  obtain ⟨-, -, hdigits, -⟩ := h
  intro hmem
  have hdot : '.'.isDigit = false := by decide
  rw [hdigits '.' hmem] at hdot
  cases hdot

/-- A text of four groups with a dot between them. -/
def IsQuad (cs : List Char) (n : Nat) : Prop :=
  ∃ a b c d v₁ v₂ v₃ v₄, cs = a ++ ['.'] ++ b ++ ['.'] ++ c ++ ['.'] ++ d ∧
    IsOctet a v₁ ∧ IsOctet b v₂ ∧ IsOctet c v₃ ∧ IsOctet d v₄ ∧
    n = v₁ * 2 ^ 24 + v₂ * 2 ^ 16 + v₃ * 2 ^ 8 + v₄

lemma splitOn_eq_four_iff {cs a b c d : List Char} :
    cs.splitOn '.' = [a, b, c, d] ↔
      cs = a ++ ['.'] ++ b ++ ['.'] ++ c ++ ['.'] ++ d ∧
        '.' ∉ a ∧ '.' ∉ b ∧ '.' ∉ c ∧ '.' ∉ d := by
  rw [splitOn_eq_iff (List.cons_ne_nil a _)]
  simp

lemma foldlM_pushOctet?_eq_some_iff {a b c d : List Char} {n : Nat} :
    [a, b, c, d].foldlM pushOctet? 0 = some n ↔
      ∃ v₁ v₂ v₃ v₄, IsOctet a v₁ ∧ IsOctet b v₂ ∧ IsOctet c v₃ ∧ IsOctet d v₄ ∧
        n = v₁ * 2 ^ 24 + v₂ * 2 ^ 16 + v₃ * 2 ^ 8 + v₄ := by
  simp only [List.foldlM_cons, List.foldlM_nil, pushOctet?, Option.bind_eq_bind,
    Option.bind_eq_some_iff, Option.map_eq_some_iff, Option.pure_def, Option.some.injEq,
    octet?_eq_some_iff]
  constructor
  · rintro ⟨_, ⟨v₁, h₁, rfl⟩, _, ⟨v₂, h₂, rfl⟩, _, ⟨v₃, h₃, rfl⟩, _, ⟨v₄, h₄, rfl⟩, rfl⟩
    exact ⟨v₁, v₂, v₃, v₄, h₁, h₂, h₃, h₄, by omega⟩
  · rintro ⟨v₁, v₂, v₃, v₄, h₁, h₂, h₃, h₄, rfl⟩
    exact ⟨_, ⟨v₁, h₁, rfl⟩, _, ⟨v₂, h₂, rfl⟩, _, ⟨v₃, h₃, rfl⟩, _, ⟨v₄, h₄, rfl⟩, by omega⟩

theorem addressOfChars?_eq_some_iff {cs : List Char} {n : Nat} :
    addressOfChars? cs = some n ↔ IsQuad cs n := by
  rw [addressOfChars?_eq]
  constructor
  · intro h
    split_ifs at h with hlength
    obtain ⟨a, b, c, d, hparts⟩ := List.length_eq_four.mp hlength
    rw [hparts, foldlM_pushOctet?_eq_some_iff] at h
    obtain ⟨v₁, v₂, v₃, v₄, hoctets⟩ := h
    exact ⟨a, b, c, d, v₁, v₂, v₃, v₄, (splitOn_eq_four_iff.mp hparts).1, hoctets⟩
  · rintro ⟨a, b, c, d, v₁, v₂, v₃, v₄, hcs, ha, hb, hc, hd, hn⟩
    have hparts : cs.splitOn '.' = [a, b, c, d] :=
      splitOn_eq_four_iff.mpr
        ⟨hcs, ha.dot_not_mem, hb.dot_not_mem, hc.dot_not_mem, hd.dot_not_mem⟩
    have hlength : [a, b, c, d].length = 4 := rfl
    rw [hparts, if_pos hlength, foldlM_pushOctet?_eq_some_iff]
    exact ⟨v₁, v₂, v₃, v₄, ha, hb, hc, hd, hn⟩

/-! ### Addresses as texts -/

/-- How an address is written. -/
def dottedQuad (n : UInt32) : String :=
  (n.toNat / 2 ^ 24).repr ++ "." ++ (n.toNat / 2 ^ 16 % 256).repr ++ "." ++
    (n.toNat / 2 ^ 8 % 256).repr ++ "." ++ (n.toNat % 256).repr

lemma isOctet_repr {v : Nat} (h : v ≤ 255) : IsOctet v.repr.toList v := by
  rw [Nat.toList_repr]
  refine ⟨Nat.length_toDigits_pos, ?_, ?_, Nat.ofDigitChars_ten_toDigits.symm, h⟩
  · rw [Nat.length_toDigits_le_iff (by omega) (by omega)]
    omega
  · intro d hd
    exact Nat.isDigit_of_mem_toDigits (by omega) (by omega) hd

lemma isQuad_dottedQuad (n : UInt32) : IsQuad (dottedQuad n).toList n.toNat := by
  have hlt := n.toNat_lt
  refine ⟨_, _, _, _, _, _, _, _, ?_, isOctet_repr (v := n.toNat / 2 ^ 24) (by omega),
    isOctet_repr (v := n.toNat / 2 ^ 16 % 256) (by omega),
    isOctet_repr (v := n.toNat / 2 ^ 8 % 256) (by omega),
    isOctet_repr (v := n.toNat % 256) (by omega), by omega⟩
  simp [dottedQuad]

end Ipv4

end SchemaForge
