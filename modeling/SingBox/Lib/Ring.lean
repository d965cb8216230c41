import Mathlib.Data.BitVec
/-!
# Walking a ring of numbers

`RingWalk.succ lo hi` counts up and goes from `hi - 1` back to `lo`. Started just
below `lo`, a window of fewer than `hi - lo` steps never meets a number twice.
The second part counts inside a block of bit vectors that share their leading
bits.
-/
namespace RingWalk

def succ (lo hi x : ℕ) : ℕ := if x + 1 = hi then lo else x + 1

lemma iterate_mem {m hi : ℕ} (h : m + 1 < hi) (i : ℕ) :
    m ≤ (succ (m + 1) hi)^[i] m ∧ (succ (m + 1) hi)^[i] m < hi := by
  induction i with
  | zero => exact ⟨le_rfl, by simpa using by omega⟩
  | succ i ih =>
    rw [Function.iterate_succ_apply', succ]
    split <;> omega

lemma iterate_eq {m hi : ℕ} (h : m + 1 < hi) (i : ℕ) :
    (succ (m + 1) hi)^[i + 1] m = m + 1 + i % (hi - (m + 1)) := by
  induction i with
  | zero => rw [Function.iterate_one, succ, if_neg (by omega), Nat.zero_mod]
  | succ i ih =>
    have hlt : i % (hi - (m + 1)) < hi - (m + 1) := Nat.mod_lt _ (by omega)
    rw [Function.iterate_succ_apply', ih, succ, ← Nat.mod_add_mod i]
    split
    · rw [show i % (hi - (m + 1)) + 1 = hi - (m + 1) by omega, Nat.mod_self]
    · rw [Nat.mod_eq_of_lt (show i % (hi - (m + 1)) + 1 < hi - (m + 1) by omega), Nat.add_assoc]

lemma iterate_ne {m hi i j : ℕ} (h : m + 1 < hi) (hi0 : 0 < i) (hij : i < j) (hw : j < i + (hi - (m + 1))) :
    (succ (m + 1) hi)^[i] m ≠ (succ (m + 1) hi)^[j] m := by
  obtain ⟨i, rfl⟩ := Nat.exists_eq_succ_of_ne_zero hi0.ne'
  obtain ⟨j, rfl⟩ := Nat.exists_eq_succ_of_ne_zero (hi0.trans hij).ne'
  rw [Nat.succ_eq_add_one, Nat.succ_eq_add_one, iterate_eq h, iterate_eq h]
  intro heq
  have hmod : i ≡ j [MOD hi - (m + 1)] := Nat.add_left_cancel heq
  have hdvd := (Nat.modEq_iff_dvd' (by omega)).1 hmod
  exact absurd (Nat.le_of_dvd (by omega) hdvd) (by omega)

end RingWalk

namespace BitVec

lemma xor_ushiftRight_eq_zero_iff {w : ℕ} (n b : BitVec w) (h : ℕ) :
    (n ^^^ b) >>> h = 0 ↔ n.toNat / 2 ^ h = b.toNat / 2 ^ h := by
  change _ = 0#w ↔ _
  rw [BitVec.ushiftRight_xor_distrib, BitVec.xor_eq_zero_iff, ← BitVec.toNat_inj, BitVec.toNat_ushiftRight,
    BitVec.toNat_ushiftRight, Nat.shiftRight_eq_div_pow, Nat.shiftRight_eq_div_pow]

lemma toNat_or_allOnes_ushiftRight {w k : ℕ} (hk : k ≤ w) (n : BitVec w) :
    (n ||| (allOnes w >>> k)).toNat = n.toNat / 2 ^ (w - k) * 2 ^ (w - k) + (2 ^ (w - k) - 1) := by
  have hmask : (allOnes w >>> k).toNat = 2 ^ (w - k) - 1 := by
    apply Nat.eq_of_testBit_eq
    intro i
    rw [BitVec.testBit_toNat, BitVec.getLsbD_ushiftRight, BitVec.getLsbD_allOnes, Nat.testBit_two_pow_sub_one]
    exact decide_eq_decide.2 (by omega)
  have hpos : 0 < 2 ^ (w - k) := Nat.two_pow_pos _
  have hlow : n.toNat % 2 ^ (w - k) ||| (2 ^ (w - k) - 1) = 2 ^ (w - k) - 1 := by
    apply Nat.eq_of_testBit_eq
    intro i
    rw [Nat.testBit_or, Nat.testBit_mod_two_pow, Nat.testBit_two_pow_sub_one]
    by_cases hi : i < w - k <;> simp [hi]
  -- split `n` into its leading and its trailing bits
  have hsplit : n.toNat = (n.toNat / 2 ^ (w - k)) <<< (w - k) ||| n.toNat % 2 ^ (w - k) := by
    rw [← Nat.shiftLeft_add_eq_or_of_lt (Nat.mod_lt _ hpos), Nat.shiftLeft_eq, Nat.div_add_mod']
  rw [BitVec.toNat_or, hmask]
  conv_lhs => rw [hsplit]
  rw [Nat.or_assoc, hlow, ← Nat.shiftLeft_add_eq_or_of_lt (Nat.sub_lt hpos one_pos), Nat.shiftLeft_eq]

end BitVec
