import Mathlib.Data.List.Induction
import SingBox.Lib.Machine
/-!
# Closing a URL-test group

`Touch` makes a ticker and starts its loop, and an idle loop or `Close` removes
it. Each of them holds the lock of the group, so that a run is a list of them; the
flag that `Touch` loads before is never taken back.
-/
namespace SingBox.UrlTest
open List Machine

/-- A ticker and its pause callback have one number. `tickers` are those that are not stopped, `callbacks` those of the
pause manager. -/
structure URLTestGroup where
  started : Bool := false
  ticker : Option Nat := none
  pauseCallback : Option Nat := none
  closed : Bool := false
  next : Nat := 0
  tickers : List Nat := []
  callbacks : List Nat := []

inductive Event
  | postStart
  | touch
  | idle (ticker : Nat)
  | close

def URLTestGroup.stop (g : URLTestGroup) : URLTestGroup :=
  { g with
    tickers := g.tickers.filter (g.ticker ≠ some ·)
    ticker := none
    callbacks := g.callbacks.filter (g.pauseCallback ≠ some ·)
    pauseCallback := none }

/-- The next state, or nothing if the call panics. -/
def step (g : URLTestGroup) : Event → Option URLTestGroup
  | .postStart => some { g with started := true }
  | .touch =>
    if !g.started || g.ticker.isSome then some g
    else some { g with
      ticker := some g.next
      pauseCallback := some g.next
      next := g.next + 1
      tickers := g.next :: g.tickers
      callbacks := g.next :: g.callbacks }
  | .idle ticker => if g.ticker = some ticker then some g.stop else some g
  | .close =>
    if g.ticker = none then some g
    -- the channel may be closed once
    else if g.closed then none
    else some { g.stop with closed := true }

section
variable {es : List Event} {e : Event} {g g' : URLTestGroup}

/-- What a state shows of the calls before it. -/
structure Tracked (es : List Event) (g : URLTestGroup) : Prop where
  started : g.started = true ↔ .postStart ∈ es
  tickers : g.tickers = g.ticker.toList
  callbacks : g.callbacks = g.ticker.toList
  pauseCallback : g.pauseCallback = g.ticker

lemma Tracked.step (h : Tracked es g) (hs : UrlTest.step g e = some g') : Tracked (es ++ [e]) g' := by
  have hstop : g.stop.tickers = [] ∧ g.stop.callbacks = [] := by
    simp [URLTestGroup.stop, h.tickers, h.callbacks, h.pauseCallback, filter_eq_nil_iff]
  have hkeep (he : e ≠ .postStart) : g.started = true ↔ .postStart ∈ es ++ [e] := by
    simpa [he.symm] using h.started
  cases e <;> simp only [UrlTest.step] at hs
  case postStart =>
    cases hs
    exact ⟨by simp, h.tickers, h.callbacks, h.pauseCallback⟩
  case touch =>
    split at hs <;> cases hs
    · exact { h with started := hkeep (by simp) }
    next hnone =>
      obtain ⟨-, hticker⟩ : g.started = true ∧ g.ticker = none := by simpa using hnone
      exact ⟨hkeep (by simp), by simp [h.tickers, hticker], by simp [h.callbacks, hticker], rfl⟩
  case idle ticker =>
    split at hs <;> cases hs
    · exact ⟨hkeep (by simp), hstop.1, hstop.2, rfl⟩
    · exact { h with started := hkeep (by simp) }
  case close =>
    split at hs
    · cases hs
      exact { h with started := hkeep (by simp) }
    split at hs <;> cases hs
    exact ⟨hkeep (by simp), hstop.1, hstop.2, rfl⟩

lemma run_concat : run step g (es ++ [e]) = (run step g es).bind (step · e) := by
  simp only [run, foldlM_append, foldlM_cons, foldlM_nil, bind_pure]
  rfl

lemma tracked (h : run step {} es = some g) : Tracked es g := by
  induction es using reverseRecOn generalizing g with
  | nil =>
    cases h
    exact ⟨by simp, rfl, rfl, rfl⟩
  | append_singleton es e ih =>
    rw [run_concat] at h
    obtain ⟨g₁, hrun, hs⟩ := Option.bind_eq_some_iff.1 h
    exact (ih hrun).step hs

end

end SingBox.UrlTest
