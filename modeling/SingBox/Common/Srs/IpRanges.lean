import SingBox.Common.Srs.Binary
/-!
# Membership in a stored IP set

`readIPSet` accepts its records exactly if no range is reversed and no two ranges
of a family overlap. The set it builds then holds the addresses of the records.
-/
namespace SingBox
variable {ranges4 : List (IPRange 32)} {ranges6 : List (IPRange 128)}

/-- `compare16`, on the two halves of an address. -/
def compare16 (a b : BitVec 128) : Int :=
  let aHigh := a.extractLsb' 64 64
  let bHigh := b.extractLsb' 64 64
  let aLow := a.extractLsb' 0 64
  let bLow := b.extractLsb' 0 64
  if aHigh ≠ bHigh then if aHigh.toNat < bHigh.toNat then -1 else 1
  else if aLow ≠ bLow then if aLow.toNat < bLow.toNat then -1 else 1
  else 0

def IPRange.Overlaps {w : Nat} (r r' : IPRange w) : Prop := r.lo.toNat ≤ r'.hi.toNat ∧ r'.lo.toNat ≤ r.hi.toNat

namespace NetRange

def Reversed : NetRange → Prop
  | .v4 r => r.hi.toNat < r.lo.toNat
  | .v6 r => r.hi.toNat < r.lo.toNat

def Overlaps : NetRange → NetRange → Prop
  | .v4 r, .v4 r' => r.Overlaps r'
  | .v6 r, .v6 r' => r.Overlaps r'
  | _, _ => False

end NetRange

open NetRange

namespace Srs
open Decoder

/-- The records of `readIPSet`, up to the sort. -/
def readIPRanges : Decoder (List NetRange) := do
  let version ← byte
  if version ≠ 1 then throw "invalid argument"
  else
    let length ← bigEndian 8
    repeatFrom (fun _ => readIPRange) 0 length

lemma compare16_spec (a b : BitVec 128) :
    (0 < compare16 a b ↔ b.toNat < a.toNat) ∧ (compare16 a b < 0 ↔ a.toNat < b.toNat) := by
  simp only [compare16, ne_eq, ← BitVec.toNat_inj, BitVec.extractLsb'_toNat, Nat.shiftRight_eq_div_pow]
  have ha := a.isLt
  have hb := b.isLt
  repeat' split
  all_goals omega

lemma readIPSet_eq : readIPSet = readIPRanges >>= fun ranges =>
    match fromRanges (sortRanges (ranges.filterMap range4?))
      (sortRanges (ranges.filterMap range6?)) with
    | .ok set => pure set
    | .error e => throw e := by
  rw [readIPSet, readIPRanges, bind_assoc]
  congr
  funext version
  split
  · rfl
  · exact (bind_assoc ..).symm

lemma readIPSet_run (input : List UInt8) : readIPSet.run input =
    match readIPRanges.run input with
    | .error e => .error e
    | .ok (ranges, rest) => (fromRanges (sortRanges (ranges.filterMap range4?))
        (sortRanges (ranges.filterMap range6?))).map (·, rest) := by
  rw [readIPSet_eq, StateT.run_bind]
  cases readIPRanges.run input with
  | error e => rfl
  | ok r =>
    obtain ⟨ranges, rest⟩ := r
    dsimp only [bind, Except.bind]
    cases fromRanges (sortRanges (ranges.filterMap range4?))
      (sortRanges (ranges.filterMap range6?)) <;> rfl

lemma rangesOk_sortRanges {w : Nat} (ranges : List (IPRange w)) : RangesOk (sortRanges ranges) ↔
    (∀ r ∈ ranges, r.lo.toNat ≤ r.hi.toNat) ∧ ranges.Pairwise fun r r' => ¬ r.Overlaps r' := by
  have hperm : (sortRanges ranges).Perm ranges := List.mergeSort_perm _ _
  have hsorted : (sortRanges ranges).Pairwise fun r r' => r.lo.toNat ≤ r'.lo.toNat := by
    have h : (ranges.mergeSort fun a b => decide (a.lo.toNat ≤ b.lo.toNat)).Pairwise fun a b =>
        decide (a.lo.toNat ≤ b.lo.toNat) = true :=
      List.pairwise_mergeSort (by simpa using fun a b c => Nat.le_trans) (by simpa using fun a b => Nat.le_total _ _) ranges
    simpa [sortRanges] using h
  have hsymm : ∀ {r r' : IPRange w}, ¬ r.Overlaps r' → ¬ r'.Overlaps r := fun h ho => h ho.symm
  rw [RangesOk, ← hperm.pairwise_iff hsymm]
  simp only [hperm.mem_iff]
  refine and_congr_right fun hle => ⟨fun h => ?_, fun h => ?_⟩
  · exact h.imp fun hlt ho => absurd ho.2 (Nat.not_le.2 hlt)
  refine (hsorted.and h).imp_of_mem fun {r r'} hr hr' hboth => ?_
  -- the first end is below, so it is the other one that keeps them apart
  have hle' := hle r' (hperm.mem_iff.1 hr')
  by_contra hover
  exact hboth.2 ⟨hboth.1.trans hle', Nat.not_lt.1 hover⟩

lemma fromRanges_ok_iff {set : IPSet} :
    fromRanges ranges4 ranges6 = .ok set ↔ set.ranges4 = ranges4 ∧ set.ranges6 = ranges6 := by
  constructor
  · intro h
    unfold fromRanges at h
    split at h <;> cases h
    exact ⟨rfl, rfl⟩
  · rintro ⟨rfl, rfl⟩
    exact fromRanges_ranges set

lemma fromRanges_isOk_iff :
    (∃ set, fromRanges ranges4 ranges6 = .ok set) ↔ RangesOk ranges4 ∧ RangesOk ranges6 := by
  simp only [fromRanges_ok_iff]
  constructor
  · rintro ⟨set, rfl, rfl⟩
    exact ⟨set.ok4, set.ok6⟩
  · exact fun h => ⟨⟨ranges4, ranges6, h.1, h.2⟩, rfl, rfl⟩

/-- The checks on the ranges of either family, in terms of all ranges. -/
lemma ranges_ok_iff (ranges : List NetRange) : RangesOk (sortRanges (ranges.filterMap range4?)) ∧
      RangesOk (sortRanges (ranges.filterMap range6?)) ↔
    (∀ r ∈ ranges, ¬ r.Reversed) ∧ ranges.Pairwise fun r r' => ¬ r.Overlaps r' := by
  have hordered : (∀ r ∈ ranges, ¬ r.Reversed) ↔
      (∀ r ∈ ranges.filterMap range4?, r.lo.toNat ≤ r.hi.toNat) ∧
      ∀ r ∈ ranges.filterMap range6?, r.lo.toNat ≤ r.hi.toNat := by
    simp only [mem_range4, mem_range6]
    constructor
    · exact fun h => ⟨fun r hr => Nat.not_lt.1 (h _ hr), fun r hr => Nat.not_lt.1 (h _ hr)⟩
    rintro ⟨h4, h6⟩ (r | r) hr
    · exact Nat.not_lt.2 (h4 r hr)
    · exact Nat.not_lt.2 (h6 r hr)
  have hapart : (ranges.Pairwise fun r r' => ¬ r.Overlaps r') ↔
      ((ranges.filterMap range4?).Pairwise fun r r' => ¬ r.Overlaps r') ∧
      (ranges.filterMap range6?).Pairwise fun r r' => ¬ r.Overlaps r' := by
    rw [List.pairwise_filterMap, List.pairwise_filterMap, ← List.pairwise_and_iff]
    refine ⟨fun h => h.imp fun {r r'} hr => ?_, fun h => h.imp fun {r r'} hr => ?_⟩ <;> cases r <;> cases r' <;>
      simp_all [NetRange.Overlaps, range4?, range6?]
  rw [rangesOk_sortRanges, rangesOk_sortRanges, hordered, hapart]
  exact and_and_and_comm

/-- `readIPSet` refuses an input exactly for a malformed record, a reversed range or two ranges of one family that
overlap. The set it makes of any other input holds an address exactly if a range of the input does. The comparisons
of IPv6 addresses are those of the numbers. -/
theorem ip_set_membership (input : List UInt8) :
    (∀ set rest, readIPSet.run input = .ok (set, rest) → ∃ ranges, readIPRanges.run input = .ok (ranges, rest) ∧
      ∀ a : Addr, a.isValid = true → (set.contains a = true ↔ ∃ r ∈ ranges, r.Holds a)) ∧
    ((∃ e, readIPSet.run input = .error e) ↔ (∃ e, readIPRanges.run input = .error e) ∨
      ∃ ranges rest, readIPRanges.run input = .ok (ranges, rest) ∧
        ((∃ r ∈ ranges, r.Reversed) ∨ ¬ ranges.Pairwise fun r r' => ¬ r.Overlaps r')) ∧
    ∀ a b, (0 < compare16 a b ↔ b.toNat < a.toNat) ∧ (compare16 a b < 0 ↔ a.toNat < b.toNat) := by
  have hrun := readIPSet_run input
  cases hread : readIPRanges.run input with
  | error e =>
    rw [hread] at hrun
    rw [hrun]
    exact ⟨nofun, by simp, compare16_spec⟩
  | ok r =>
    obtain ⟨ranges, rest⟩ := r
    simp only [hread] at hrun
    have hok := fromRanges_isOk_iff.trans (ranges_ok_iff ranges)
    cases hset : fromRanges (sortRanges (ranges.filterMap range4?))
        (sortRanges (ranges.filterMap range6?)) with
    | error e =>
      have hnot : ¬ ((∀ r ∈ ranges, ¬ r.Reversed) ∧ ranges.Pairwise fun r r' => ¬ r.Overlaps r') := by
        rw [← hok, hset]
        exact fun ⟨_, h⟩ => nomatch h
      rw [hrun, hset]
      refine ⟨nofun, ⟨fun _ => .inr ⟨ranges, rest, rfl, ?_⟩, fun _ => ⟨e, rfl⟩⟩, compare16_spec⟩
      rw [not_and_or] at hnot
      simpa using hnot
    | ok set =>
      obtain ⟨hordered, hapart⟩ := hok.1 ⟨set, hset⟩
      obtain ⟨h4, h6⟩ := fromRanges_ok_iff.1 hset
      rw [hrun, hset]
      refine ⟨?_, ?_, compare16_spec⟩
      · intro _ _ h
        cases h
        refine ⟨ranges, rfl, fun a ha => IPSet.contains_iff (fun r => ?_) (fun r => ?_) ha⟩
        · rw [h4, sortRanges, List.mem_mergeSort, mem_range4]
        · rw [h6, sortRanges, List.mem_mergeSort, mem_range6]
      constructor
      · rintro ⟨_, h⟩
        cases h
      rintro (⟨_, h⟩ | ⟨_, _, h, hbad⟩)
      · cases h
      · cases h
        rcases hbad with ⟨r, hr, hreversed⟩ | hoverlap
        · exact absurd hreversed (hordered r hr)
        · exact absurd hapart hoverlap

/-- One record, for the addresses from 1.0.0.0 to 1.0.0.255. -/
theorem ip_set_membership_one_range : ∃ set,
    readIPSet.run [1, 0, 0, 0, 0, 0, 0, 0, 1, 4, 1, 0, 0, 0, 4, 1, 0, 0, 255] = .ok (set, []) ∧
    set.contains (.v4 0x01000007#32) = true := by
  obtain ⟨hreads, hrejects, -⟩ := ip_set_membership [1, 0, 0, 0, 0, 0, 0, 0, 1, 4, 1, 0, 0, 0, 4, 1, 0, 0, 255]
  have hread : readIPRanges.run [1, 0, 0, 0, 0, 0, 0, 0, 1, 4, 1, 0, 0, 0, 4, 1, 0, 0, 255] =
    .ok ([.v4 ⟨0x01000000#32, 0x010000ff#32⟩], []) := by rfl
  cases hset : readIPSet.run [1, 0, 0, 0, 0, 0, 0, 0, 1, 4, 1, 0, 0, 0, 4, 1, 0, 0, 255] with
  | error e => simp [hread, hset, NetRange.Reversed] at hrejects
  | ok r =>
    obtain ⟨set, rest⟩ := r
    obtain ⟨ranges, hread', hcontains⟩ := hreads set rest hset
    cases hread.symm.trans hread'
    exact ⟨set, rfl, (hcontains (.v4 0x01000007#32) rfl).2 ⟨_, List.mem_singleton_self _, by simp [NetRange.Holds]⟩⟩

end Srs
end SingBox
