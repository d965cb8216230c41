import Mathlib.Data.List.Basic
import Mathlib.Tactic.Ring
/-!
# Numbers as bytes

Fixed-width big-endian numbers, and numbers of seven bits a byte; and the outcome of a
call that may panic on a slice of bytes.
-/
namespace Bytes

/-- The low `n` bytes of a number, highest first. -/
def bigEndian : Nat → Nat → List UInt8
  | 0, _ => []
  | n + 1, x => UInt8.ofNat (x / 256 ^ n) :: bigEndian n x

/-- The number whose bytes are `l`, highest first. -/
def ofBigEndian (l : List UInt8) : Nat := l.foldl (fun x b => x * 256 + b.toNat) 0

@[simp] lemma length_bigEndian (n x : Nat) : (bigEndian n x).length = n := by
  induction n with
  | zero => rfl
  | succ n ih => simp [bigEndian, ih]

lemma foldl_bigEndian (n x acc : Nat) :
    (bigEndian n x).foldl (fun y b => y * 256 + b.toNat) acc = acc * 256 ^ n + x % 256 ^ n := by
  induction n generalizing acc with
  | zero => simp [bigEndian, Nat.mod_one]
  | succ n ih =>
    rw [bigEndian, List.foldl_cons, ih, pow_succ, Nat.mod_mul, UInt8.toNat_ofNat']
    ring

lemma ofBigEndian_bigEndian {n x : Nat} (h : x < 256 ^ n) : ofBigEndian (bigEndian n x) = x := by
  rw [ofBigEndian, foldl_bigEndian, Nat.mod_eq_of_lt h, Nat.zero_mul, Nat.zero_add]

lemma bigEndian_two (x y : UInt8) : bigEndian 2 (x.toNat * 256 + y.toNat) = [x, y] := by
  have hx := x.toNat_lt
  have hy := y.toNat_lt
  have hhigh : (x.toNat * 256 + y.toNat) / 256 ^ 1 = x.toNat := by omega
  have hlow : UInt8.ofNat ((x.toNat * 256 + y.toNat) / 256 ^ 0) = y := by
    rw [← UInt8.toNat_inj, UInt8.toNat_ofNat']
    omega
  rw [bigEndian, bigEndian, bigEndian, hhigh, hlow, UInt8.ofNat_toNat]

/-- At most `k` bytes of seven bits, the lowest first, each but the last marked by its high bit. -/
def uvarintLoop : Nat → Nat → List UInt8
  | 0, _ => []
  | k + 1, x => if x < 128 then [UInt8.ofNat x] else UInt8.ofNat (x % 128 + 128) :: uvarintLoop k (x / 128)

def uvarint (x : Nat) : List UInt8 := uvarintLoop 10 x

end Bytes

/-! ## Calls that may panic -/

namespace Slices

/-- A call that has no result panicked, or was still running when its fuel was used up. -/
inductive Stop
  | panic
  | running
  deriving DecidableEq

abbrev Go := Except Stop

@[simp] lemma ok_bind {α β : Type} (a : α) (f : α → Go β) : (Except.ok a >>= f) = f a := rfl

end Slices
