import SingBox.Netip
/-!
# IP sets

`common/ipset`: sorted, disjoint ranges for each family, searched by halving.
-/
namespace SingBox
open List

/-- A range of addresses of one family, both ends included. -/
structure IPRange (w : Nat) where
  lo : BitVec w
  hi : BitVec w

/-- What `FromRanges` checks: no range is malformed, none out of order. -/
def RangesOk {w : Nat} (ranges : List (IPRange w)) : Prop :=
  (∀ r ∈ ranges, r.lo.toNat ≤ r.hi.toNat) ∧ ranges.Pairwise fun a b => a.hi.toNat < b.lo.toNat

instance {w : Nat} (ranges : List (IPRange w)) : Decidable (RangesOk ranges) :=
  inferInstanceAs (Decidable (_ ∧ _))

lemma RangesOk.nil4 : RangesOk ([] : List (IPRange 32)) := by decide
lemma RangesOk.nil6 : RangesOk ([] : List (IPRange 128)) := by decide

/-- `ipset.Set`. -/
structure IPSet where
  ranges4 : List (IPRange 32) := []
  ranges6 : List (IPRange 128) := []
  ok4 : RangesOk ranges4 := by first | exact RangesOk.nil4 | decide
  ok6 : RangesOk ranges6 := by first | exact RangesOk.nil6 | decide

/-- The comparison both searches use: 1 when the range is above the target,
-1 when it is below, 0 when it holds the target. -/
def compareRange {w : Nat} (r : IPRange w) (target : BitVec w) : Int :=
  if r.lo.toNat > target.toNat then 1 else if r.hi.toNat < target.toNat then -1 else 0

/-- The loop of `slices.BinarySearchFunc` on the window from `i` to `j`. The
window halves, so `fuel` at least its length never runs out. -/
def binarySearchLoop {α : Type} (cmp : α → Int) (x : List α) : Nat → Nat → Nat → Nat
  | 0, i, _ => i
  | fuel + 1, i, j =>
    if i < j then
      let h := (i + j) / 2
      match x[h]? with
      | some e => if cmp e < 0 then binarySearchLoop cmp x fuel (h + 1) j else binarySearchLoop cmp x fuel i h
      | none => i
    else i

/-- `slices.BinarySearchFunc`, its `found` result. -/
def binarySearchFound {α : Type} (cmp : α → Int) (x : List α) : Bool :=
  match x[binarySearchLoop cmp x x.length 0 x.length]? with
  | some e => cmp e == 0
  | none => false

/-- `Set.Contains`. `As16` of the zero address is all zeroes. -/
def IPSet.contains (s : IPSet) : Addr → Bool
  | .v4 a => binarySearchFound (compareRange · a) s.ranges4
  | .v6 a => binarySearchFound (compareRange · a) s.ranges6
  | .invalid => binarySearchFound (compareRange · 0) s.ranges6

/-! ## Search -/

section Search
variable {α : Type} {cmp : α → Int} {x : List α}

lemma binarySearchLoop_spec (hmono : ∀ a b : Nat, a ≤ b → ∀ e ∈ x[b]?, cmp e < 0 → ∀ e' ∈ x[a]?, cmp e' < 0) :
    ∀ (fuel i j : Nat), j - i ≤ fuel → i ≤ j → j ≤ x.length →
      (∀ m < i, ∀ e ∈ x[m]?, cmp e < 0) → (∀ m, j ≤ m → ∀ e ∈ x[m]?, 0 ≤ cmp e) →
      (∀ m < binarySearchLoop cmp x fuel i j, ∀ e ∈ x[m]?, cmp e < 0) ∧
        ∀ m, binarySearchLoop cmp x fuel i j ≤ m → ∀ e ∈ x[m]?, 0 ≤ cmp e := by
  intro fuel
  induction fuel with
  | zero =>
    intro i j hf hij _ hlo hhi
    exact ⟨hlo, fun m hm => hhi m (by simp only [binarySearchLoop] at hm; omega)⟩
  | succ fuel ih =>
    intro i j hf hij hj hlo hhi
    rw [binarySearchLoop]
    by_cases hlt : i < j
    · rw [if_pos hlt]
      have hmid : (i + j) / 2 < x.length := by omega
      simp only [getElem?_eq_getElem hmid]
      have hget : x[(i + j) / 2] ∈ x[(i + j) / 2]? := getElem?_eq_getElem hmid
      by_cases hc : cmp x[(i + j) / 2] < 0
      · rw [if_pos hc]
        refine ih _ _ (by omega) (by omega) hj (fun m hm e he => ?_) hhi
        exact hmono m ((i + j) / 2) (by omega) _ hget hc e he
      rw [if_neg hc]
      refine ih _ _ (by omega) (by omega) (by omega) hlo (fun m hm e he => ?_)
      by_contra hneg
      exact hc (hmono ((i + j) / 2) m hm e he (by omega) _ hget)
    · rw [if_neg hlt]
      exact ⟨hlo, fun m hm => hhi m (by omega)⟩

end Search

/-- Searching ranges in order finds the range that holds the target, if there is one. -/
lemma binarySearchFound_iff {w : Nat} {ranges : List (IPRange w)} (h : RangesOk ranges) (a : BitVec w) :
    binarySearchFound (compareRange · a) ranges = true ↔
      ∃ r ∈ ranges, r.lo.toNat ≤ a.toNat ∧ a.toNat ≤ r.hi.toNat := by
  have hord : ∀ {m k : Nat} {e e' : IPRange w}, m < k → ranges[m]? = some e → ranges[k]? = some e' →
      e.hi.toNat < e'.lo.toNat := by
    intro m k e e' hmk he he'
    obtain ⟨hm, rfl⟩ := List.getElem?_eq_some_iff.1 he
    obtain ⟨hk, rfl⟩ := List.getElem?_eq_some_iff.1 he'
    exact pairwise_iff_getElem.1 h.2 m k hm hk hmk
  have hneg : ∀ r : IPRange w, r.lo.toNat ≤ r.hi.toNat → (compareRange r a < 0 ↔ r.hi.toNat < a.toNat) := by
    intro r hr
    unfold compareRange
    split <;> [skip; split] <;> omega
  have hzero : ∀ r : IPRange w, compareRange r a = 0 ↔ r.lo.toNat ≤ a.toNat ∧ a.toNat ≤ r.hi.toNat := by
    intro r
    unfold compareRange
    split <;> [skip; split] <;> omega
  have hmono : ∀ m k : Nat, m ≤ k → ∀ e ∈ ranges[k]?, compareRange e a < 0 →
      ∀ e' ∈ ranges[m]?, compareRange e' a < 0 := by
    intro m k hmk e he hc e' he'
    have hm := h.1 e (mem_of_getElem? he)
    have hm' := h.1 e' (mem_of_getElem? he')
    rcases Nat.eq_or_lt_of_le hmk with rfl | hlt
    · rwa [Option.some.inj (he'.symm.trans he)]
    have := hord hlt he' he
    rw [hneg e' hm']
    rw [hneg e hm] at hc
    omega
  obtain ⟨hbelow, habove⟩ := binarySearchLoop_spec hmono ranges.length 0 ranges.length (by omega) (by omega)
    le_rfl (fun m hm => absurd hm (by omega)) (fun m hm e he => by
      rw [getElem?_eq_none hm] at he
      cases he)
  unfold binarySearchFound
  constructor
  · intro hf
    split at hf
    next e he => exact ⟨e, mem_of_getElem? he, (hzero e).1 (by simpa using hf)⟩
    · cases hf
  rintro ⟨r, hr, hin⟩
  obtain ⟨m, hm, rfl⟩ := mem_iff_getElem.1 hr
  have hget : ranges[m]? = some ranges[m] := getElem?_eq_getElem hm
  -- The place the search ends at can be neither after the range nor before it.
  have hk : binarySearchLoop (compareRange · a) ranges ranges.length 0 ranges.length = m := by
    rcases Nat.lt_trichotomy (binarySearchLoop (compareRange · a) ranges ranges.length 0 ranges.length) m
      with hlt | heq | hgt
    · have hlen := hlt.trans hm
      have hget' := getElem?_eq_getElem hlen
      have h0 := habove _ le_rfl _ hget'
      have hhi := hord hlt hget' hget
      have := (hneg _ (h.1 _ (getElem_mem hlen))).not.1 (by omega)
      omega
    · exact heq
    · have := hbelow m hgt _ hget
      rw [(hzero _).2 hin] at this
      omega
  rw [hk, hget]
  simpa using (hzero _).2 hin

lemma IPSet.contains_v4 (s : IPSet) (a : BitVec 32) : s.contains (.v4 a) = true ↔
    ∃ r ∈ s.ranges4, r.lo.toNat ≤ a.toNat ∧ a.toNat ≤ r.hi.toNat := binarySearchFound_iff s.ok4 a

lemma IPSet.contains_v6 (s : IPSet) (a : BitVec 128) : s.contains (.v6 a) = true ↔
    ∃ r ∈ s.ranges6, r.lo.toNat ≤ a.toNat ∧ a.toNat ≤ r.hi.toNat := binarySearchFound_iff s.ok6 a

/-! ## Construction -/

/-- The check of `FromRanges` on the ranges of one family from index `i` on; `prev` is the range before. -/
def checkRanges {w : Nat} (i : Nat) (prev : Option (IPRange w)) : List (IPRange w) → Except String Unit
  | [] => .ok ()
  | r :: rest =>
    if r.lo.toNat > r.hi.toNat then .error ("ipset: malformed range " ++ toString i)
    else if prev.any (fun p => p.hi.toNat ≥ r.lo.toNat) then .error ("ipset: unordered range " ++ toString i)
    else checkRanges (i + 1) (some r) rest

lemma checkRanges_ok_iff {w : Nat} (i : Nat) (prev : Option (IPRange w)) (ranges : List (IPRange w)) :
    checkRanges i prev ranges = .ok () ↔
      RangesOk ranges ∧ ∀ p ∈ prev, ∀ r ∈ ranges, p.hi.toNat < r.lo.toNat := by
  induction ranges generalizing i prev with
  | nil => simp [checkRanges, RangesOk]
  | cons r rest ih =>
    rw [checkRanges]
    by_cases hm : r.lo.toNat > r.hi.toNat
    · rw [if_pos hm]
      refine ⟨nofun, fun h => absurd (h.1.1 r (by simp)) (by omega)⟩
    rw [if_neg hm]
    by_cases hp : prev.any (fun p => p.hi.toNat ≥ r.lo.toNat) = true
    · rw [if_pos hp]
      refine ⟨nofun, fun h => ?_⟩
      obtain ⟨p, rfl, hp⟩ := (Option.any_eq_true ..).1 hp
      have := h.2 p rfl r (by simp)
      simp at hp
      omega
    · rw [if_neg hp, ih]
      have hp : ∀ p ∈ prev, p.hi.toNat < r.lo.toNat := by
        rintro p rfl
        simpa using hp
      constructor
      · rintro ⟨⟨hle, hord⟩, hr⟩
        have hr := hr r rfl
        refine ⟨⟨forall_mem_cons.2 ⟨by omega, hle⟩, pairwise_cons.2 ⟨hr, hord⟩⟩, ?_⟩
        rintro p hpm r' hr'
        have := hp p hpm
        rcases mem_cons.1 hr' with rfl | hr'
        · exact this
        have := hr r' hr'
        omega
      · rintro ⟨⟨hle, hord⟩, hprev⟩
        obtain ⟨hr, hord⟩ := pairwise_cons.1 hord
        refine ⟨⟨(forall_mem_cons.1 hle).2, hord⟩, ?_⟩
        intro p hpr
        rw [← Option.mem_some.1 hpr]
        exact hr

def fromRanges (ranges4 : List (IPRange 32)) (ranges6 : List (IPRange 128)) : Except String IPSet :=
  match h4 : checkRanges 0 none ranges4, h6 : checkRanges 0 none ranges6 with
  | .error e, _ => .error e
  | .ok (), .error e => .error e
  | .ok (), .ok () =>
    .ok ⟨ranges4, ranges6, ((checkRanges_ok_iff ..).1 h4).1, ((checkRanges_ok_iff ..).1 h6).1⟩

lemma fromRanges_ranges (s : IPSet) : fromRanges s.ranges4 s.ranges6 = .ok s := by
  have h4 : checkRanges 0 none s.ranges4 = .ok () := (checkRanges_ok_iff ..).2 ⟨s.ok4, nofun⟩
  have h6 : checkRanges 0 none s.ranges6 = .ok () := (checkRanges_ok_iff ..).2 ⟨s.ok6, nofun⟩
  unfold fromRanges
  split
  next h => simp [h4] at h
  next h => simp [h6] at h
  · rfl

/-! ## Sets of the netipx library -/

/-- A range of either family. -/
inductive NetRange where
  | v4 (r : IPRange 32)
  | v6 (r : IPRange 128)

namespace NetRange

def range4? : NetRange → Option (IPRange 32)
  | .v4 r => some r
  | .v6 _ => none

def range6? : NetRange → Option (IPRange 128)
  | .v4 _ => none
  | .v6 r => some r

def Holds : NetRange → Addr → Prop
  | .v4 r, .v4 a => r.lo.toNat ≤ a.toNat ∧ a.toNat ≤ r.hi.toNat
  | .v6 r, .v6 a => r.lo.toNat ≤ a.toNat ∧ a.toNat ≤ r.hi.toNat
  | _, _ => False

end NetRange

/-- `netipx.IPSet`, as its `Ranges` gives it: sorted, none touching another. -/
structure NetipxSet where
  ranges : List NetRange
  ok4 : RangesOk (ranges.filterMap NetRange.range4?)
  ok6 : RangesOk (ranges.filterMap NetRange.range6?)
  length_lt : ranges.length < 2 ^ 63

def fromIPSet (set : NetipxSet) : IPSet :=
  ⟨set.ranges.filterMap NetRange.range4?, set.ranges.filterMap NetRange.range6?, set.ok4, set.ok6⟩

section
variable {ranges : List NetRange}

lemma mem_range4 {r : IPRange 32} : r ∈ ranges.filterMap NetRange.range4? ↔ .v4 r ∈ ranges := by
  rw [mem_filterMap]
  constructor
  · rintro ⟨n, hn, hr⟩
    cases n <;> cases hr
    exact hn
  · exact fun hr => ⟨_, hr, rfl⟩

lemma mem_range6 {r : IPRange 128} : r ∈ ranges.filterMap NetRange.range6? ↔ .v6 r ∈ ranges := by
  rw [mem_filterMap]
  constructor
  · rintro ⟨n, hn, hr⟩
    cases n <;> cases hr
    exact hn
  · exact fun hr => ⟨_, hr, rfl⟩

/-- A set of the ranges of a list holds the addresses of the list. -/
lemma IPSet.contains_iff {set : IPSet} (h4 : ∀ r, r ∈ set.ranges4 ↔ .v4 r ∈ ranges)
    (h6 : ∀ r, r ∈ set.ranges6 ↔ .v6 r ∈ ranges) {a : Addr} (ha : a.isValid = true) :
    set.contains a = true ↔ ∃ r ∈ ranges, r.Holds a := by
  cases a with
  | invalid => cases ha
  | v4 a =>
    rw [IPSet.contains_v4]
    constructor
    · exact fun ⟨r, hr, hin⟩ => ⟨.v4 r, (h4 r).1 hr, hin⟩
    rintro ⟨_ | _, hr, hin⟩
    · exact ⟨_, (h4 _).2 hr, hin⟩
    · cases hin
  | v6 a =>
    rw [IPSet.contains_v6]
    constructor
    · exact fun ⟨r, hr, hin⟩ => ⟨.v6 r, (h6 r).1 hr, hin⟩
    rintro ⟨_ | _, hr, hin⟩
    · cases hin
    · exact ⟨_, (h6 _).2 hr, hin⟩

end

lemma fromIPSet_contains (set : NetipxSet) {a : Addr} (ha : a.isValid = true) :
    (fromIPSet set).contains a = true ↔ ∃ r ∈ set.ranges, r.Holds a :=
  IPSet.contains_iff (fun _ => mem_range4) (fun _ => mem_range6) ha

lemma fromIPSet_length (set : NetipxSet) :
    (fromIPSet set).ranges4.length + (fromIPSet set).ranges6.length = set.ranges.length := by
  simp only [fromIPSet]
  induction set.ranges with
  | nil => rfl
  | cons n l ih =>
    cases n <;> simp only [filterMap_cons, NetRange.range4?, NetRange.range6?, length_cons] <;> omega

end SingBox
