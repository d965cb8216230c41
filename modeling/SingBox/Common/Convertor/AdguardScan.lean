import Mathlib.Data.List.ReduceOption
import Mathlib.Data.List.TakeWhile
import SingBox.Common.Convertor.Adguard
import SingBox.Lib.Lists
/-!
# Truncated AdGuard lists

The scanner stops at the end of the stream, when the reader fails, and at a line
that does not fit its buffer. `ToOptions` does not ask which of these it was.
-/
namespace SingBox.Adguard
open List
open Srs (Str)
open Text (splitLines)
variable {ruleLine : Str} {found : List (Option AgdguardRuleLine)}

/-- What a reader gives, and whether it then fails instead of reporting the end. The last line is given in both
cases. -/
structure Stream where
  text : Str
  fails : Bool := false

def Stream.lines (r : Stream) : List Str := splitLines 10 r.text

inductive ScanError
  | tooLong
  | read
  deriving DecidableEq

/-- `scanner.Err`. -/
def Stream.err (r : Stream) : Option ScanError :=
  if r.lines.any fun line => decide (maxScanTokenSize ≤ line.length) then some .tooLong
  else if r.fails then some .read
  else none

section
variable (lib : Library)

/-- Empty lines, comments and hosts lines of other addresses. -/
def isSkipped (ruleLine : Str) : Bool :=
  ruleLine = [] || ((bytes "!").isPrefixOf ruleLine || (bytes "#").isPrefixOf ruleLine) ||
    (!lib.isDomainName ruleLine && parseAdGuardHostLine lib ruleLine = some [])

/-- The accumulators of the loop over the lines. -/
structure Loop where
  ruleLines : List AgdguardRuleLine := []
  ignoredLines : Nat := 0

def Loop.round (s : Loop) (ruleLine : Str) : Except Error Loop :=
  match parseLine lib ruleLine with
  | .error e => .error e
  | .ok (some line) => .ok { s with ruleLines := s.ruleLines ++ [line] }
  | .ok none => .ok (if isSkipped lib ruleLine then s else { s with ignoredLines := s.ignoredLines + 1 })

/-- Every line up to the end of the stream was read, and is recorded, skipped or counted as ignored. -/
def Complete (r : Stream) : Prop :=
  r.fails = false ∧ scanLines r.text = r.lines.map dropCR ∧
    ∃ s, (scanLines r.text).foldlM (Loop.round lib) {} = .ok s ∧ ruleLines lib r.text = .ok s.ruleLines ∧
      s.ruleLines.length + (scanLines r.text).countP (isSkipped lib) + s.ignoredLines = r.lines.length

variable {lib}

lemma not_isSkipped {line : AgdguardRuleLine} (h : parseLine lib ruleLine = .ok (some line)) :
    isSkipped lib ruleLine = false := by
  unfold parseLine at h
  split at h
  · cases h
  next hne =>
    split at h
    · cases h
    next hcomment =>
      rw [Bool.not_eq_true] at hcomment
      rw [isSkipped, hcomment]
      split at h
      next hdomain => simp [hne, hdomain]
      split at h
      next host hhost =>
        split at h
        next hhost' => simp [hne, hhost, hhost']
        · cases h
      next hhost => simp [hne, hhost]

variable (s : Loop) (r : Stream)

lemma Loop.round_counts {found : Option AgdguardRuleLine}
    (h : parseLine lib ruleLine = .ok found) : ∃ s', s.round lib ruleLine = .ok s' ∧
      s'.ruleLines = s.ruleLines ++ found.toList ∧
      s'.ruleLines.length + (isSkipped lib ruleLine).toNat + s'.ignoredLines =
        s.ruleLines.length + s.ignoredLines + 1 := by
  unfold Loop.round
  rw [h]
  cases found with
  | some line =>
    refine ⟨_, rfl, rfl, ?_⟩
    rw [not_isSkipped h, Bool.toNat_false]
    simp only [length_append, length_singleton]
    omega
  | none =>
    refine ⟨_, rfl, ?_⟩
    cases isSkipped lib ruleLine with
    | false => exact ⟨(append_nil _).symm, rfl⟩
    | true => exact ⟨(append_nil _).symm, Nat.add_right_comm ..⟩

lemma loop_counts {lines : List Str} (h : Forall₂ (fun line parsed => parseLine lib line = .ok parsed) lines found) :
    ∃ s', lines.foldlM (Loop.round lib) s = .ok s' ∧ s'.ruleLines = s.ruleLines ++ found.reduceOption ∧
      s'.ruleLines.length + lines.countP (isSkipped lib) + s'.ignoredLines =
        s.ruleLines.length + s.ignoredLines + lines.length := by
  induction h generalizing s with
  | nil => exact ⟨s, rfl, (append_nil _).symm, rfl⟩
  | @cons line parsed lines rest hline _ ih =>
    obtain ⟨s₁, hround, hlines₁, hcount₁⟩ := s.round_counts hline
    obtain ⟨s', hs', hlines, hcount⟩ := ih s₁
    refine ⟨s', ?_, ?_, ?_⟩
    · rw [foldlM_cons, hround]
      exact hs'
    · rw [hlines, hlines₁, append_assoc]
      cases parsed <;> rfl
    rw [countP_cons, length_cons]
    cases hskip : isSkipped lib line <;> simp [hskip] at hcount₁ ⊢ <;> omega

lemma scanLines_eq_iff : scanLines r.text = r.lines.map dropCR ↔
    ∀ line ∈ r.lines, line.length < maxScanTokenSize := by
  rw [scanLines]
  change (takeWhile _ r.lines).map dropCR = r.lines.map dropCR ↔ _
  constructor
  · intro h
    have hlength := congrArg length h
    rw [length_map, length_map] at hlength
    have heq := ( takeWhile_prefix (fun line : Str => decide (line.length < maxScanTokenSize))
      (l := r.lines)).eq_of_length hlength
    simpa [takeWhile_eq_self_iff] using heq
  · intro h
    rw [takeWhile_eq_self_iff.2 (by simpa using h)]

lemma err_eq_none_iff :
    r.err = none ↔ r.fails = false ∧ ∀ line ∈ r.lines, line.length < maxScanTokenSize := by
  unfold Stream.err
  split
  next hlong =>
    obtain ⟨line, hmem, hline⟩ := any_eq_true.1 hlong
    simp only [reduceCtorEq, false_iff, not_and]
    exact fun _ h => absurd (h line hmem) (by simpa using hline)
  next hshort =>
    have hall : ∀ line ∈ r.lines, line.length < maxScanTokenSize := by simpa using hshort
    cases r.fails with
    | false => exact ⟨fun _ => ⟨rfl, hall⟩, fun _ => rfl⟩
    | true => simp

/-- The lines of the list make `ToOptions` fail: one of them is refused, or none gives a rule. -/
def Refused (lib : Library) (r : Stream) : Prop :=
  (∃ line ∈ scanLines r.text, ∃ e, parseLine lib line = .error e) ∨
    ∀ line ∈ scanLines r.text, parseLine lib line = .ok none

lemma toOptions_error {e : Error} (h : (scanLines r.text).mapM (parseLine lib) = .error e) :
    toOptions lib r.text = .error e ∧ Refused lib r := by
  obtain ⟨line, hline, he⟩ := Lists.mapM_error h
  exact ⟨by simp [toOptions, ruleLines, h, Except.map, bind, Except.bind], .inl ⟨line, hline, e, he⟩⟩

lemma refused_iff
    (h : (scanLines r.text).mapM (parseLine lib) = .ok found) : Refused lib r ↔ found.reduceOption = [] := by
  have hnone : (∀ line ∈ scanLines r.text, parseLine lib line = .ok none) ↔ found.reduceOption = [] := by
    have hfound := Lists.mapM_ok h
    clear h
    generalize scanLines r.text = lines at hfound ⊢
    induction hfound with
    | nil => simp
    | @cons line parsed _ _ hline _ ih => cases parsed <;> simp [hline, ih]
  rw [← hnone, Refused, or_iff_right]
  rintro ⟨line, hline, e, he⟩
  obtain ⟨parsed, hok⟩ := Lists.mapM_ok_mem h hline
  exact nomatch he.symm.trans hok

/-- A list is read to its end, or refused, exactly if the scanner meets no error or the lines before the error are
refused anyway. -/
theorem truncation_refused_iff (lib : Library) (r : Stream) :
    (∀ rules, toOptions lib r.text = .ok rules → Complete lib r) ↔ r.err = none ∨ Refused lib r := by
  cases hfound : (scanLines r.text).mapM (parseLine lib) with
  | error e =>
    obtain ⟨herror, hrefused⟩ := toOptions_error r hfound
    exact iff_of_true (fun rules h => nomatch herror.symm.trans h) (.inr hrefused)
  | ok found =>
    rw [refused_iff r hfound]
    have hlines : ruleLines lib r.text = .ok found.reduceOption := by rw [ruleLines, hfound]; rfl
    by_cases hempty : found.reduceOption = []
    · refine iff_of_true (fun rules h => ?_) (.inr hempty)
      rw [toOptions, hlines, hempty] at h
      cases h
    obtain ⟨rules, hrules⟩ : ∃ rules, toOptions lib r.text = .ok rules := by
      simp only [toOptions, hlines, bind, Except.bind]
      rw [if_neg (by simpa using hempty)]
      split <;> exact ⟨_, rfl⟩
    rw [err_eq_none_iff, ← scanLines_eq_iff]
    refine ⟨fun h => .inl ⟨(h rules hrules).1, (h rules hrules).2.1⟩, fun h _ _ => ?_⟩
    obtain ⟨hfails, hscan⟩ := h.resolve_right hempty
    obtain ⟨s, hs, hfoundLines, hcount⟩ := loop_counts {} (Lists.mapM_ok hfound)
    refine ⟨hfails, hscan, s, hs, hlines.trans (by rw [hfoundLines]; rfl), ?_⟩
    rw [hcount, hscan, length_map]
    simp

end

/-- A library that knows one domain and no address. -/
def oneDomain : Library where
  isDomainName s := s = bytes "example.com"
  isUnspecified _ := false
  parseAddr _ := none
  emptyIsNil := true
  compile _ := none
  domainMatcher _ _ := false
  adGuardMatcher _ _ := false

/-- The reader fails in the second line. -/
def cutList : Stream := ⟨bytes "example.com\n||exam", true⟩

theorem cut_list_accepted : cutList.err = some .read ∧ (toOptions oneDomain cutList.text).isOk = true := by
  decide +kernel

end SingBox.Adguard
