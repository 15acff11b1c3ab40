import Mathlib.Algebra.Group.Nat.Defs
import Mathlib.Tactic.Lemma
import SchemaForge.Network.Ipv4

/-!
# Bounds of addresses

Every IPv4 address and both ends of a range are numbers below `2 ^ 32`.
-/

namespace SchemaForge

namespace Ipv4

lemma octet?_le {ds : List Char} {n : Nat} (h : octet? ds = some n) : n ≤ 255 := by
  unfold octet? at h
  split at h
  · rename_i hds
    cases h
    exact hds.2.2.2
  · cases h

lemma addressOfChars?_lt {cs : List Char} {n : Nat} (h : addressOfChars? cs = some n) :
    n < 2 ^ 32 := by
  unfold addressOfChars? at h
  split at h
  · simp only [Option.bind_eq_bind, Option.bind_eq_some_iff] at h
    obtain ⟨a, ha, b, hb, c, hc, d, hd, hn⟩ := h
    cases hn
    have hale := octet?_le ha
    have hble := octet?_le hb
    have hcle := octet?_le hc
    have hdle := octet?_le hd
    omega
  · cases h

lemma block_lt (base bits : Nat) :
    (block base bits).first < 2 ^ 32 ∧ (block base bits).last < 2 ^ 32 :=
  ⟨UInt32.toNat_lt _, UInt32.toNat_lt _⟩

lemma rangeOfChars?_lt {cs : List Char} {r : Range} (h : rangeOfChars? cs = some r) :
    r.first < 2 ^ 32 ∧ r.last < 2 ^ 32 := by
  unfold rangeOfChars? at h
  split at h
  · simp only [Option.bind_eq_bind, Option.bind_eq_some_iff] at h
    obtain ⟨bits, -, base, -, hr⟩ := h
    cases hr
    exact block_lt base bits
  · split at h
    · simp only [Option.bind_eq_bind, Option.bind_eq_some_iff] at h
      obtain ⟨first, hfirst, last, hlast, hr⟩ := h
      split at hr
      · cases hr
        exact ⟨addressOfChars?_lt hfirst, addressOfChars?_lt hlast⟩
      · cases hr
    · obtain ⟨a, ha, rfl⟩ := Option.map_eq_some_iff.mp h
      exact ⟨addressOfChars?_lt ha, addressOfChars?_lt ha⟩

end Ipv4

end SchemaForge
