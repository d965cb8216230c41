import SingBox.FakeIP.Store
import SingBox.Lib.Ring
/-!
# The ring of a range

`nextAddress` walks a ring: from the address after the network address up to
the one before the broadcast address, then back to the second one after the
network address. A window shorter than the ring holds no address twice
(`position_ne`).
-/
namespace SingBox

def Addr.toNat : Addr → Nat
  | .invalid => 0
  | .v4 b => b.toNat
  | .v6 b => b.toNat

end SingBox

namespace SingBox.FakeIP

def usable (range : Prefix) : Nat := (broadcastAddress range).toNat - range.addr.toNat - 2

/-- An address family: what IPv4 and IPv6 addresses have in common. -/
structure Family (w : Nat) where
  addr : BitVec w → Addr
  injective : Function.Injective addr
  isValid : ∀ b, (addr b).isValid = true
  toNat : ∀ b, (addr b).toNat = b.toNat
  next : ∀ b, (addr b).next = if b = BitVec.allOnes w then .invalid else addr (b + 1)
  prefixValid : ∀ n bits, (Prefix.mk (addr n) bits).isValid = decide (bits ≤ w)
  contains : ∀ n b bits, bits ≤ w → (Prefix.mk (addr n) bits).contains (addr b) = ((n ^^^ b) >>> (w - bits) == 0)
  broadcast : ∀ n bits, broadcastAddress ⟨addr n, bits⟩ = addr (n ||| (BitVec.allOnes w >>> bits))

def Family.v4 : Family 32 where
  addr := .v4
  injective _ _ h := Addr.v4.inj h
  isValid _ := rfl
  toNat _ := rfl
  next _ := rfl
  prefixValid _ _ := rfl
  contains n b bits h := by simp [Prefix.contains, Prefix.isValid, h]
  broadcast _ _ := rfl

def Family.v6 : Family 128 where
  addr := .v6
  injective _ _ h := Addr.v6.inj h
  isValid _ := rfl
  toNat _ := rfl
  next _ := rfl
  prefixValid _ _ := rfl
  contains n b bits h := by simp [Prefix.contains, Prefix.isValid, h]
  broadcast _ _ := rfl

open BitVec

namespace Family
variable {w : Nat} (F : Family w)

def ofNat (x : Nat) : Addr := F.addr (BitVec.ofNat w x)

lemma ofNat_inj {x y : Nat} (hx : x < 2 ^ w) (hy : y < 2 ^ w) (h : F.ofNat x = F.ofNat y) : x = y := by
  have := congrArg BitVec.toNat (F.injective h)
  rwa [toNat_ofNat, toNat_ofNat, Nat.mod_eq_of_lt hx, Nat.mod_eq_of_lt hy] at this

lemma next_ofNat {x : Nat} (hx : x + 1 < 2 ^ w) : (F.ofNat x).next = F.ofNat (x + 1) := by
  have hne : BitVec.ofNat w x ≠ allOnes w := by
    intro h
    have := congrArg BitVec.toNat h
    rw [toNat_ofNat, toNat_allOnes, Nat.mod_eq_of_lt (by omega)] at this
    omega
  rw [ofNat, F.next, if_neg hne, ofNat, ofNat_add]
  rfl

variable {F} {n : BitVec w} {bits : Nat}

lemma contains_ofNat (hbits : bits ≤ w) {x : Nat} (hn : n.toNat ≤ x) (hx : x ≤ (n ||| (allOnes w >>> bits)).toNat) :
    (Prefix.mk (F.addr n) bits).contains (F.ofNat x) = true := by
  have hlt : x < 2 ^ w := hx.trans_lt (isLt _)
  rw [toNat_or_allOnes_ushiftRight hbits] at hx
  rw [ofNat, F.contains _ _ _ hbits, beq_iff_eq, xor_ushiftRight_eq_zero_iff, toNat_ofNat,
    Nat.mod_eq_of_lt hlt]
  -- both numbers lie in the block that starts at the prefix
  have hpos : 0 < 2 ^ (w - bits) := Nat.two_pow_pos _
  refine le_antisymm (Nat.div_le_div_right hn) (Nat.le_of_lt_succ ?_)
  rw [Nat.div_lt_iff_lt_mul hpos, Nat.succ_mul]
  omega

lemma nextAddress_ofNat (hbits : bits ≤ w) {x : Nat}
    (hroom : n.toNat + 2 < (n ||| (allOnes w >>> bits)).toNat) (hn : n.toNat < x)
    (hx : x < (n ||| (allOnes w >>> bits)).toNat) :
    nextAddress ⟨F.addr n, bits⟩ (broadcastAddress ⟨F.addr n, bits⟩) (F.ofNat x) =
      F.ofNat (RingWalk.succ (n.toNat + 2) (n ||| (allOnes w >>> bits)).toNat x) := by
  have hlast : (n ||| (allOnes w >>> bits)).toNat < 2 ^ w := isLt _
  have hbase : F.addr n = F.ofNat n.toNat := by rw [ofNat, ofNat_toNat, setWidth_eq]
  have hbroad : broadcastAddress ⟨F.addr n, bits⟩ = F.ofNat (n ||| (allOnes w >>> bits)).toNat := by
    rw [F.broadcast, ofNat, ofNat_toNat, setWidth_eq]
  rw [nextAddress, F.next_ofNat (by omega), hbroad, RingWalk.succ]
  by_cases hwrap : x + 1 = (n ||| (allOnes w >>> bits)).toNat
  · rw [if_pos (.inl (by rw [hwrap])), if_pos hwrap, hbase, F.next_ofNat (by omega), F.next_ofNat (by omega)]
  rw [if_neg, if_neg hwrap]
  rintro (h | h)
  · exact hwrap (F.ofNat_inj (by omega) hlast h)
  rw [contains_ofNat hbits (by omega) (by omega)] at h
  cases h

end Family

variable (range : Prefix)

/-- The address a walk of a range is at after `k` steps; it begins at the
address after the network address. -/
def position (k : Nat) : Addr :=
  (advance range)^[k] (if range.isValid then range.addr.next else .invalid)

lemma position_succ (k : Nat) : position range (k + 1) = advance range (position range k) :=
  Function.iterate_succ_apply' ..

lemma advance_iterate_position (j k : Nat) : (advance range)^[j] (position range k) = position range (k + j) := by
  rw [position, position, ← Function.iterate_add_apply, Nat.add_comm]

lemma position_of_not_isValid {range : Prefix} (h : range.isValid = false) (k : Nat) :
    position range k = .invalid := by
  induction k with
  | zero => simp [position, h]
  | succ k ih =>
    rw [position_succ, ih]
    rfl

lemma position_eq_ofNat {w : Nat} {F : Family w} {n : BitVec w} {bits : Nat} (hbits : bits ≤ w)
    (hroom : n.toNat + 2 < (n ||| (allOnes w >>> bits)).toNat) (k : Nat) : position ⟨F.addr n, bits⟩ k =
      F.ofNat ((RingWalk.succ (n.toNat + 2) (n ||| (allOnes w >>> bits)).toNat)^[k] (n.toNat + 1)) := by
  have hlast : (n ||| (allOnes w >>> bits)).toNat < 2 ^ w := isLt _
  have hvalid : (Prefix.mk (F.addr n) bits).isValid = true := by rw [F.prefixValid, decide_eq_true hbits]
  induction k with
  | zero =>
    have hbase : F.addr n = F.ofNat n.toNat := by rw [Family.ofNat, ofNat_toNat, setWidth_eq]
    rw [position, if_pos hvalid, Function.iterate_zero_apply, Function.iterate_zero_apply, hbase,
      F.next_ofNat (by omega)]
  | succ k ih =>
    have hmem := RingWalk.iterate_mem (show n.toNat + 1 + 1 < _ from hroom) k
    rw [position_succ, ih, Function.iterate_succ_apply', advance, Family.ofNat, if_pos (F.isValid _), lastAddress, if_pos hvalid]
    exact Family.nextAddress_ofNat hbits hroom hmem.1 hmem.2

lemma exists_family (h : 0 < usable range) :
    ∃ w, ∃ (F : Family w) (n : BitVec w), range = ⟨F.addr n, range.bits⟩ ∧ range.bits ≤ w := by
  obtain ⟨addr, bits⟩ := range
  have key : ∀ {w} (n : BitVec w), 0 < (n ||| (allOnes w >>> bits)).toNat - n.toNat - 2 → bits ≤ w := by
    intro w n h
    by_contra hw
    have hz : allOnes w >>> bits = 0 := ushiftRight_eq_zero (by omega)
    simp [hz] at h
  cases addr with
  | invalid => simp [usable, broadcastAddress, Addr.toNat] at h
  | v4 n => exact ⟨32, .v4, n, rfl, key n h⟩
  | v6 n => exact ⟨128, .v6, n, rfl, key n h⟩

lemma position_ne {i j : Nat} (hi : 0 < i) (hij : i < j) (hw : j < i + usable range) :
    position range i ≠ position range j := by
  obtain ⟨w, F, n, hr, hbits⟩ := exists_family range (by omega)
  have husable : usable range = (n ||| (allOnes w >>> range.bits)).toNat - n.toNat - 2 := by
    rw [usable, hr, F.broadcast, F.toNat, F.toNat]
  have hroom : n.toNat + 1 + 1 < (n ||| (allOnes w >>> range.bits)).toNat := by omega
  have hlt := isLt (n ||| (allOnes w >>> range.bits))
  rw [hr, position_eq_ofNat hbits hroom, position_eq_ofNat hbits hroom]
  intro h
  exact RingWalk.iterate_ne hroom hi hij (by omega) (F.ofNat_inj ((RingWalk.iterate_mem hroom i).2.trans hlt)
    ((RingWalk.iterate_mem hroom j).2.trans hlt) h)

end SingBox.FakeIP
