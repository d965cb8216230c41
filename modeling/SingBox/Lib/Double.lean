import Mathlib.Data.Nat.Log
import Mathlib.Tactic.Ring
/-!
# Doubles of at least one

A double of at least one is a multiple of `2⁻⁵²`, and is kept here as the number
of these units. An operation is exact in fractions and rounded to the nearest
double, ties to even.
-/
namespace Double

def one : Nat := 2 ^ 52

/-- The double nearest to `num / den`, which is at least one: 53 bits are kept, so the last of them is
worth the leading one in units. -/
def round (num den : Nat) : Nat :=
  let unit := 2 ^ (num / den).log2
  let q := num * one / (den * unit)
  let r := num * one % (den * unit)
  (if den * unit < 2 * r ∨ 2 * r = den * unit ∧ q % 2 = 1 then q + 1 else q) * unit

lemma floor_le_round (num den : Nat) :
    num * one / (den * 2 ^ (num / den).log2) * 2 ^ (num / den).log2 ≤ round num den := by
  unfold round
  dsimp only
  split
  · exact Nat.mul_le_mul_right _ (Nat.le_succ _)
  · exact le_rfl

/-- Rounding does not go below a number that is representable and below the leading bit. -/
lemma le_round {num den w : Nat} (hden : 0 < den) (hw : 0 < w) (h : w * den ≤ num) (hlt : w ≤ 2 ^ 52) :
    w * one ≤ round num den := by
  refine le_trans ?_ (floor_le_round num den)
  set e := (num / den).log2 with he
  have hv : w ≤ num / den := (Nat.le_div_iff_mul_le hden).2 h
  have hpow : 2 ^ e ≤ num / den := Nat.log2_self_le (by omega)
  have hpos : 0 < 2 ^ e := Nat.two_pow_pos e
  rcases Nat.le_total e 52 with hle | hge
  · -- the units of the last place divide one
    obtain ⟨d, hd⟩ := Nat.exists_eq_add_of_le hle
    have hone : one = 2 ^ e * 2 ^ d := by rw [one, hd, pow_add]
    have hq : w * 2 ^ d ≤ num * one / (den * 2 ^ e) := by
      rw [Nat.le_div_iff_mul_le (Nat.mul_pos hden hpos), hone]
      calc w * 2 ^ d * (den * 2 ^ e) = w * den * (2 ^ e * 2 ^ d) := by ring
        _ ≤ num * (2 ^ e * 2 ^ d) := Nat.mul_le_mul_right _ h
    calc w * one = w * 2 ^ d * 2 ^ e := by rw [hone]; ring
      _ ≤ num * one / (den * 2 ^ e) * 2 ^ e := Nat.mul_le_mul_right _ hq
  · -- the leading bit alone is enough
    have hq : one ≤ num * one / (den * 2 ^ e) := by
      rw [Nat.le_div_iff_mul_le (Nat.mul_pos hden hpos)]
      calc one * (den * 2 ^ e) = 2 ^ e * den * one := by ring
        _ ≤ num * one := Nat.mul_le_mul_right _ ((Nat.le_div_iff_mul_le hden).1 hpow)
    calc w * one = one * w := Nat.mul_comm _ _
      _ ≤ one * 2 ^ e := Nat.mul_le_mul_left _ (hlt.trans (Nat.pow_le_pow_right (by decide) hge))
      _ ≤ num * one / (den * 2 ^ e) * 2 ^ e := Nat.mul_le_mul_right _ hq

end Double
