import Mathlib.Algebra.Ring.Nat
import Mathlib.Algebra.Ring.Int.Defs
import Mathlib.Order.Nat
/-!
# Versions

`GreaterThan` compares the numbers and the pre-release and does not look at the commit, which the equality in
`LessThan` does. One parser reads what the two printers write.
-/
namespace SingBox.Badversion
open List

structure Version where
  major : Int
  minor : Int
  patch : Int
  commit : List Char
  preReleaseIdentifier : List Char
  preReleaseVersion : Int
  deriving DecidableEq

def parsePreReleaseIdentifier (identifier : List Char) : Nat :=
  if "rc".toList.isPrefixOf identifier then 1
  else if "beta".toList.isPrefixOf identifier then 2
  else if "alpha".toList.isPrefixOf identifier then 3
  else 0

/-- The last part of `GreaterThan`, on the identifiers `p`, `q` and the versions `m`, `n` of the pre-releases. -/
def preReleaseGreater (p q : List Char) (m n : Int) : Bool :=
  if p = [] ∧ q ≠ [] then true else if p ≠ [] ∧ q = [] then false
  else if p ≠ [] ∧ q ≠ [] then
    if p = q ∧ m > n then true else if p = q ∧ m < n then false
    else parsePreReleaseIdentifier p < parsePreReleaseIdentifier q
  else false

section
variable (v w : Version)

def greaterThan : Bool :=
  if v.major > w.major then true else if v.major < w.major then false
  else if v.minor > w.minor then true else if v.minor < w.minor then false
  else if v.patch > w.patch then true else if v.patch < w.patch then false
  else preReleaseGreater v.preReleaseIdentifier w.preReleaseIdentifier v.preReleaseVersion w.preReleaseVersion

def greaterThanOrEqual : Bool := v = w || greaterThan v w
def lessThan : Bool := !greaterThanOrEqual v w

end

variable {u v w : Version} {p q : List Char} {m n : Int}

lemma preReleaseGreater_iff : preReleaseGreater p q m n = true ↔
    q ≠ [] ∧ (p = [] ∨ p = q ∧ n < m ∨ parsePreReleaseIdentifier p < parsePreReleaseIdentifier q) := by
  unfold preReleaseGreater
  by_cases hp : p = [] <;> by_cases hq : q = []
  · simp [hp, hq]
  · simp [hp, hq]
  · simp [hp, hq]
  · simp only [hp, hq, ne_eq, not_false_eq_true, and_false, and_true, if_false, if_true, false_or, true_and]
    grind

lemma compare_iff {c : Bool} :
    (if m > n then true else if m < n then false else c) = true ↔ n < m ∨ m = n ∧ c = true := by
  rcases Int.lt_trichotomy m n with h | rfl | h
  · simp [h, Int.lt_asymm h, Int.ne_of_lt h]
  · simp
  · simp [h]

lemma greaterThan_iff : greaterThan v w = true ↔ w.major < v.major ∨ v.major = w.major ∧ (w.minor < v.minor ∨
    v.minor = w.minor ∧ (w.patch < v.patch ∨ v.patch = w.patch ∧ preReleaseGreater v.preReleaseIdentifier
      w.preReleaseIdentifier v.preReleaseVersion w.preReleaseVersion = true)) := by
  rw [greaterThan, compare_iff, compare_iff, compare_iff]

lemma greaterThan_trans (h : greaterThan u v = true) (h' : greaterThan v w = true) : greaterThan u w = true := by
  rw [greaterThan_iff, preReleaseGreater_iff] at *
  grind

lemma greaterThan_irrefl : greaterThan v v = false := by
  rw [Bool.eq_false_iff, Ne, greaterThan_iff, preReleaseGreater_iff]
  grind

/-- The two have the same numbers and pre-releases of the same rank. -/
def Tied (v w : Version) : Prop :=
  v.major = w.major ∧ v.minor = w.minor ∧ v.patch = w.patch ∧
    (v.preReleaseIdentifier = [] ↔ w.preReleaseIdentifier = []) ∧
    parsePreReleaseIdentifier v.preReleaseIdentifier = parsePreReleaseIdentifier w.preReleaseIdentifier ∧
    (v.preReleaseIdentifier = w.preReleaseIdentifier → v.preReleaseIdentifier ≠ [] →
      v.preReleaseVersion = w.preReleaseVersion)

lemma tied_iff : Tied v w ↔ greaterThan v w = false ∧ greaterThan w v = false := by
  rw [Bool.eq_false_iff, Bool.eq_false_iff, Ne, Ne, greaterThan_iff, greaterThan_iff, preReleaseGreater_iff,
    preReleaseGreater_iff, Tied]
  grind

/-- `GreaterThan` is a strict order. `LessThan` is its converse, and asymmetric, on all versions but two different ones
that are tied. -/
theorem version_order (u v w : Version) :
    ((lessThan v w = true ↔ greaterThan w v = true) ↔ ¬(Tied v w ∧ v ≠ w)) ∧
    (¬(lessThan v w = true ∧ lessThan w v = true) ↔ ¬(Tied v w ∧ v ≠ w)) ∧
    greaterThan v v = false ∧ ¬(greaterThan v w = true ∧ greaterThan w v = true) ∧
    (greaterThan u v = true → greaterThan v w = true → greaterThan u w = true) := by
  have hasymm : ¬(greaterThan v w = true ∧ greaterThan w v = true) := by
    rintro ⟨h, h'⟩
    simpa [greaterThan_irrefl] using greaterThan_trans h h'
  refine ⟨?_, ?_, greaterThan_irrefl, hasymm, greaterThan_trans⟩ <;>
  · rw [tied_iff, lessThan, greaterThanOrEqual]
    grind [lessThan, greaterThanOrEqual]

def itoa (n : Int) : List Char := if n < 0 then '-' :: Nat.toDigits 10 n.natAbs else Nat.toDigits 10 n.natAbs

/-- `ParseUint`: a character that is no digit gives zero, an overflow the largest value. -/
def parseUint (n : Nat) : List Char → Nat
  | [] => n
  | c :: s =>
    let n := 10 * n + (c.toNat - '0'.toNat)
    if !c.isDigit then 0 else if 2 ^ 64 ≤ n then 2 ^ 64 - 1 else parseUint n s

/-- The value `Atoi` returns beside an error that `Parse` does not read. -/
def atoi : List Char → Int
  | '-' :: s => -min (2 ^ 63) (parseUint 0 s)
  | '+' :: s => min (2 ^ 63 - 1) (parseUint 0 s)
  | s => min (2 ^ 63 - 1) (parseUint 0 s)

section
variable (v : Version)

def string : List Char :=
  let version := itoa v.major ++ '.' :: (itoa v.minor ++ '.' :: itoa v.patch)
  if v.preReleaseIdentifier ≠ [] then
    version ++ '-' :: (v.preReleaseIdentifier ++ '.' :: itoa v.preReleaseVersion)
  else version

def badString : List Char :=
  let version := itoa v.major ++ '.' :: (itoa v.minor ++ if v.patch > 0 then '.' :: itoa v.patch else [])
  if v.preReleaseIdentifier ≠ [] then
    version ++ '-' :: (v.preReleaseIdentifier ++ if v.preReleaseVersion > 0 then itoa v.preReleaseVersion else [])
  else version

end

def parseIdentifier (identifier : List Char) : Version :=
  match identifier.splitOn '.' with
  | name :: number :: _ => ⟨0, 0, 0, [], name, atoi number⟩
  | _ =>
    if "alpha".toList.isPrefixOf identifier then ⟨0, 0, 0, [], "alpha".toList, atoi (identifier.drop 5)⟩
    else if "beta".toList.isPrefixOf identifier then ⟨0, 0, 0, [], "beta".toList, atoi (identifier.drop 4)⟩
    else ⟨0, 0, 0, identifier, [], 0⟩

def parseElements (versionElements : List (List Char)) (version : Version) : Version :=
  { version with
    major := atoi (versionElements.getD 0 [])
    minor := atoi (versionElements.getD 1 [])
    patch := atoi (versionElements.getD 2 []) }

def parse (versionName : List Char) : Version :=
  let versionName := if ['v'].isPrefixOf versionName then versionName.drop 1 else versionName
  match versionName.splitOn '-' with
  | name :: identifier :: _ => parseElements (name.splitOn '.') (parseIdentifier identifier)
  | _ => parseElements (versionName.splitOn '.') ⟨0, 0, 0, [], [], 0⟩

/-- Two builds of one release, each below the other. -/
theorem builds_below_each_other :
    lessThan (parse "1.0.0-a".toList) (parse "1.0.0-b".toList) = true ∧
    lessThan (parse "1.0.0-b".toList) (parse "1.0.0-a".toList) = true := by decide

section
variable (h : 0 ≤ n)
include h

lemma isDigit_of_mem_itoa (c : Char) (hc : c ∈ itoa n) : c.isDigit = true := by
  rw [itoa, if_neg (Int.not_lt.2 h)] at hc
  exact Nat.isDigit_of_mem_toDigits (by decide) (by decide) hc

lemma notMem_itoa (c : Char) (hc : c.isDigit = false) : c ∉ itoa n := fun hm => by
  simp [isDigit_of_mem_itoa h c hm] at hc

end

lemma parseUint_digits {s : List Char} {m : Nat} (hs : ∀ c ∈ s, c.isDigit = true)
    (hm : Nat.ofDigitChars 10 s m < 2 ^ 64) : parseUint m s = Nat.ofDigitChars 10 s m := by
  induction s generalizing m with
  | nil => rfl
  | cons c s ih =>
    obtain ⟨hc, hs⟩ := forall_mem_cons.1 hs
    rw [Nat.ofDigitChars_cons] at *
    have hle : 10 * m + (c.toNat - '0'.toNat) ≤ Nat.ofDigitChars 10 s (10 * m + (c.toNat - '0'.toNat)) := by
      rw [Nat.ofDigitChars_eq_ofDigitChars_zero]
      exact (Nat.le_mul_of_pos_left _ (Nat.pow_pos (by decide))).trans (Nat.le_add_right _ _)
    rw [parseUint, hc, if_neg (by decide), if_neg (by omega)]
    exact ih hs hm

lemma atoi_itoa (h : 0 ≤ n ∧ n < 2 ^ 63) : atoi (itoa n) = n := by
  have hv : parseUint 0 (itoa n) = n.natAbs := by
    have hd := parseUint_digits (m := 0) (isDigit_of_mem_itoa h.1)
    rw [itoa, if_neg (Int.not_lt.2 h.1), Nat.ofDigitChars_ten_toDigits] at *
    exact hd (by omega)
  unfold atoi
  split
  · next hs => exact absurd (hs ▸ mem_cons_self) (notMem_itoa h.1 '-' rfl)
  · next hs => exact absurd (hs ▸ mem_cons_self) (notMem_itoa h.1 '+' rfl)
  · rw [hv]
    omega

/-- A version without a commit, whose pre-release is one the printers are for. -/
structure Printable (v : Version) : Prop where
  major : 0 ≤ v.major ∧ v.major < 2 ^ 63
  minor : 0 ≤ v.minor ∧ v.minor < 2 ^ 63
  patch : 0 ≤ v.patch ∧ v.patch < 2 ^ 63
  commit : v.commit = []
  identifier : v.preReleaseIdentifier ∈ [[], "alpha".toList, "beta".toList, "rc".toList]
  number : 0 ≤ v.preReleaseVersion ∧ v.preReleaseVersion < 2 ^ 63

section
variable (hv : Printable v) {s identifier : List Char}
include hv

/-- The numbers are read back, from a text with the patch or, when that is zero, without it. -/
lemma parse_numbers (hs : s = '.' :: itoa v.patch ∨ s = [] ∧ v.patch = 0) (hi : '-' ∉ identifier) :
    parse (let version := itoa v.major ++ '.' :: (itoa v.minor ++ s)
      if v.preReleaseIdentifier ≠ [] then version ++ '-' :: identifier else version) =
    { if v.preReleaseIdentifier ≠ [] then parseIdentifier identifier else ⟨0, 0, 0, [], [], 0⟩ with
      major := v.major, minor := v.minor, patch := v.patch } := by
  have ha := notMem_itoa hv.major.1
  have hb := notMem_itoa hv.minor.1
  have hc := notMem_itoa hv.patch.1
  obtain ⟨hd, he⟩ : '-' ∉ itoa v.major ++ '.' :: (itoa v.minor ++ s) ∧
      ∀ x, parseElements ((itoa v.major ++ '.' :: (itoa v.minor ++ s)).splitOn '.') x =
        { x with major := v.major, minor := v.minor, patch := v.patch } := by
    rcases hs with rfl | ⟨rfl, h0⟩
    · simp [ha, hb, hc, splitOn_append_cons_self_of_not_mem, splitOn_eq_singleton, parseElements, atoi_itoa hv.major,
        atoi_itoa hv.minor, atoi_itoa hv.patch]
    · simp [ha, hb, splitOn_append_cons_self_of_not_mem, splitOn_eq_singleton, parseElements, atoi_itoa hv.major,
        atoi_itoa hv.minor, h0, show atoi [] = 0 from rfl]
  have hp (t : List Char) : ['v'].isPrefixOf (itoa v.major ++ '.' :: (itoa v.minor ++ s) ++ t) = false := by
    have hm := ha 'v' rfl
    rw [append_assoc]
    generalize itoa v.major = l at hm
    cases l <;> simp_all [isPrefixOf]
  by_cases h : v.preReleaseIdentifier = []
  · have hp := hp []
    rw [append_nil] at hp
    simp only [h, ne_eq, not_true_eq_false, if_false, parse, hp, Bool.false_eq_true, splitOn_eq_singleton hd, he]
  · simp only [h, ne_eq, not_false_eq_true, if_true, parse, hp, Bool.false_eq_true, if_false,
      splitOn_append_cons_self_of_not_mem hd, splitOn_eq_singleton hi, he]

lemma parse_string : parse (string v) =
    { v with preReleaseVersion := if v.preReleaseIdentifier = [] then 0 else v.preReleaseVersion } := by
  have hd := notMem_itoa hv.number.1
  have hc := hv.commit
  have hi := hv.identifier
  simp only [mem_cons, not_mem_nil, or_false] at hi
  have hmem : '.' ∉ v.preReleaseIdentifier ∧ '-' ∉ v.preReleaseIdentifier := by
    rcases hi with h | h | h | h <;> rw [h] <;> decide
  refine (parse_numbers hv (.inl rfl) (by simp [hmem, hd])).trans ?_
  rw [parseIdentifier, splitOn_append_cons_self_of_not_mem hmem.1, splitOn_eq_singleton (hd _ rfl)]
  by_cases hp : v.preReleaseIdentifier = [] <;> simp [hp, hc, atoi_itoa hv.number]

lemma parse_badString : parse (badString v) =
    if v.preReleaseIdentifier = "rc".toList then
      ⟨v.major, v.minor, v.patch, "rc".toList ++ if v.preReleaseVersion > 0 then itoa v.preReleaseVersion else [], [], 0⟩
    else { v with preReleaseVersion := if v.preReleaseIdentifier = [] then 0 else v.preReleaseVersion } := by
  have hc := hv.commit
  have hi := hv.identifier
  simp only [mem_cons, not_mem_nil, or_false] at hi
  obtain ⟨t, ht, hd, ha⟩ : ∃ t, (if v.preReleaseVersion > 0 then itoa v.preReleaseVersion else []) = t ∧
      (∀ c : Char, c.isDigit = false → c ∉ t) ∧ atoi t = v.preReleaseVersion := by
    split
    · exact ⟨_, rfl, notMem_itoa hv.number.1, atoi_itoa hv.number⟩
    · exact ⟨_, rfl, fun _ _ => not_mem_nil, by have := hv.number; rw [show atoi [] = 0 from rfl]; omega⟩
  have hmem : '.' ∉ v.preReleaseIdentifier ++ t ∧ '-' ∉ v.preReleaseIdentifier ++ t := by
    rcases hi with h | h | h | h <;> simp [h, hd]
  rw [ht]
  refine (congrArg parse (by rw [badString, ht])).trans ((parse_numbers hv ?_ hmem.2).trans ?_)
  · split
    · exact .inl rfl
    · exact .inr ⟨rfl, by have := hv.patch; omega⟩
  rw [parseIdentifier, splitOn_eq_singleton hmem.1]
  rcases hi with h | h | h | h <;> simp [h, isPrefixOf, ha, hc]

end

/-- `String` round-trips. `BadString` does for all but the release candidates, which are read back as a commit. -/
theorem parse_printed (v : Version) (hv : Printable v) :
    (parse (string v) = v ↔ (v.preReleaseIdentifier = [] → v.preReleaseVersion = 0)) ∧
    (parse (badString v) = v ↔ v.preReleaseIdentifier ≠ "rc".toList ∧
      (v.preReleaseIdentifier = [] → v.preReleaseVersion = 0)) := by
  rw [parse_string hv, parse_badString hv]
  obtain ⟨a, b, c, d, p, n⟩ := v
  obtain rfl : d = [] := hv.commit
  refine ⟨by simp; grind, ?_⟩
  by_cases h : p = "rc".toList
  · simp [h]
  · simp only [if_neg h]
    simp; grind

theorem parse_printed_beta : parse (badString ⟨1, 8, 0, [], "beta".toList, 2⟩) = ⟨1, 8, 0, [], "beta".toList, 2⟩ :=
  (parse_printed _ ⟨by decide, by decide, by decide, rfl, by decide, by decide⟩).2.2 (by decide)

theorem release_candidate_read_as_commit :
    parse (badString ⟨1, 0, 0, [], "rc".toList, 1⟩) = ⟨1, 0, 0, "rc1".toList, [], 0⟩ := by decide

end SingBox.Badversion
