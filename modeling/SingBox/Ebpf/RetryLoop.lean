import Mathlib.Algebra.Ring.Nat
import SingBox.Lib.Machine
/-!
# The retry scheduler of the interface updates

`runTCInterfaceUpdateLoopWithHealth` wakes for a notification, for a health
check or for its own timer, runs one update and backs off each of the update's
three components by itself. There is one physical timer for all of them.

Times and durations are nanoseconds. Time `0` is Go's zero time, the deadline of a
component without one.
-/
namespace SingBox.Ebpf
open Machine

/-- What one component of an update reported (`tcSharedRewriteOutcome`), in the order of its values. -/
inductive Outcome
  | unknown
  | settled
  | recoverable
  | unrecoverable
  deriving DecidableEq

/-- The components that are backed off on their own (`tcRetryComponent`). -/
inductive Component
  | sharedRewrite
  | general
  | bypassRuleSet
  deriving DecidableEq

def components : List Component := [.sharedRewrite, .general, .bypassRuleSet]

structure UpdateOutcome where
  sharedRewrite : Outcome := .unknown
  general : Outcome := .unknown
  bypassRuleSet : Outcome := .unknown

def UpdateOutcome.of (o : UpdateOutcome) : Component → Outcome
  | .sharedRewrite => o.sharedRewrite
  | .general => o.general
  | .bypassRuleSet => o.bypassRuleSet

def second : Nat := 1000000000
def tcRetryInitialDelay : Nat := 2 * second
def tcRetryMaximumDelay : Nat := 60 * second

def nextTCRetryDelay (current : Nat) : Nat :=
  if current ≤ 0 then tcRetryInitialDelay
  else if current * 2 > tcRetryMaximumDelay then tcRetryMaximumDelay
  else current * 2

structure RetryState where
  delay : Nat := 0
  deadline : Nat := 0

/-- What a round makes of one component: its next state, and whether the timer has to be touched. -/
def RetryState.next (component : Component) (triggeredByTimer : Bool) (now : Nat) (outcome : Outcome)
    (s : RetryState) : RetryState × Bool :=
  match outcome with
  | .recoverable => (⟨nextTCRetryDelay s.delay, now + nextTCRetryDelay s.delay⟩, true)
  | .unknown =>
    if triggeredByTimer && decide (s.delay > 0) then ({ s with deadline := now + s.delay }, true) else (s, false)
  | .settled | .unrecoverable => ({}, component == .sharedRewrite || s.deadline != 0)

/-- A call of `Arm(delay)`, made by the round that read the clock at `now`. -/
structure Armed where
  now : Nat
  delay : Nat
  deriving DecidableEq

/-- The loop between two wakes. `retryChannel` says whether it selects on the timer, `nextRetryAt` is the last
report to `onScheduleChange`. -/
structure Loop where
  states : Component → RetryState := fun _ => {}
  timer : Option Armed := none
  retryChannel : Bool := false
  nextRetryAt : Option Nat := none

def earliest (states : Component → RetryState) : Option Component :=
  components.foldl (fun earliest component =>
    if (states component).deadline = 0 then earliest
    else match earliest with
      | none => some component
      | some e => if (states component).deadline < (states e).deadline then some component else some e) none

/-- The end of a round that touches the timer: it is armed for the earliest component, or disarmed. -/
def Loop.rearm (states : Component → RetryState) (now : Nat) : Loop :=
  match earliest states with
  | none => { states, timer := none, retryChannel := false, nextRetryAt := some 0 }
  | some c =>
    -- truncated subtraction: a deadline that has passed arms the timer to fire at once
    { states, timer := some ⟨now, (states c).deadline - now⟩, retryChannel := true,
      nextRetryAt := some (states c).deadline }

def Loop.afterUpdate (l : Loop) (triggeredByTimer : Bool) (now : Nat) (outcome : UpdateOutcome) : Loop :=
  let next := fun c => (l.states c).next c triggeredByTimer now (outcome.of c)
  let states := fun c => (next c).1
  if !components.any fun c => (next c).2 then { l with states } else Loop.rearm states now

inductive Trigger
  | event
  | healthCheck
  | timer
  deriving DecidableEq

/-- Receiving the signal. The timer's one is there to receive while the timer is armed and selected on. -/
def Loop.receive (l : Loop) : Trigger → Option Loop
  | .timer => if l.retryChannel && l.timer.isSome then some { l with timer := none } else none
  | _ => some l

structure Round where
  trigger : Trigger
  now : Nat
  outcome : UpdateOutcome

/-- One iteration: a health check that found nothing to do, or a round. -/
inductive Wake
  | healthy
  | round (r : Round)

def Loop.step (l : Loop) : Wake → Option Loop
  | .healthy => some l
  | .round r => (l.receive r.trigger).map (·.afterUpdate (r.trigger == .timer) r.now r.outcome)

/-! ## One component -/

/-- The delays of the backoff: 2, 4, 8, ... seconds, at most 60. -/
def backoff (n : Nat) : Nat := min (2 ^ (n + 1)) 60 * second

open Loop RetryState

lemma nextTCRetryDelay_zero : nextTCRetryDelay 0 = backoff 0 := by decide

lemma backoff_pos (n : Nat) : 0 < backoff n := by
  have hpos : 1 ≤ 2 ^ (n + 1) := Nat.one_le_two_pow
  simp only [backoff, second]
  omega

lemma nextTCRetryDelay_backoff (n : Nat) : nextTCRetryDelay (backoff n) = backoff (n + 1) := by
  have hpos := backoff_pos n
  have hpow : 2 ^ (n + 1 + 1) = 2 ^ (n + 1) * 2 := rfl
  rw [nextTCRetryDelay, if_neg (by omega)]
  split <;> simp only [backoff, tcRetryMaximumDelay, second, hpow] at * <;> omega

lemma backoff_le_succ (n : Nat) : backoff n ≤ backoff (n + 1) := by
  have hpow : 2 ^ (n + 1 + 1) = 2 ^ (n + 1) * 2 := rfl
  simp only [backoff, second, hpow]
  omega

/-- A component waits for a deadline with a delay of the backoff, or for nothing. -/
def RetryState.Good (s : RetryState) : Prop := s = {} ∨ s.deadline ≠ 0 ∧ ∃ n, s.delay = backoff n

variable {s : RetryState} {l₁ : Loop} {tr : Trigger}

lemma RetryState.Good.delay_pos (h : s.Good) (hd : s.deadline ≠ 0) : 0 < s.delay := by
  obtain rfl | ⟨-, n, hn⟩ := h
  · exact absurd rfl hd
  · exact hn ▸ backoff_pos n

lemma RetryState.Good.failed (h : s.Good) :
    ∃ n, nextTCRetryDelay s.delay = backoff n ∧ s.delay ≤ backoff n := by
  obtain rfl | ⟨-, n, hn⟩ := h
  · exact ⟨0, nextTCRetryDelay_zero, Nat.zero_le _⟩
  rw [hn]
  exact ⟨n + 1, nextTCRetryDelay_backoff n, backoff_le_succ n⟩

section Component
variable {c : Component} {t : Bool} {now : Nat} {o : Outcome} {s : RetryState}

namespace RetryState.Good

lemma next (h : s.Good) : (s.next c t now o).1.Good := by
  cases o with
  | unknown =>
    simp only [next]
    split
    · obtain rfl | ⟨-, n, hn⟩ := h
      · simp_all
      · exact .inr ⟨by have := backoff_pos n; dsimp only; omega, n, hn⟩
    · exact h
  | recoverable =>
    obtain ⟨n, hn, -⟩ := h.failed
    exact .inr ⟨by have := backoff_pos n; simp only [next]; omega, n, hn⟩
  | settled | unrecoverable => exact .inl rfl

lemma next_unchanged (h : s.Good) (hn : (s.next c t now o).2 = false) :
    (s.next c t now o).1 = s := by
  have hcleared : s.deadline = 0 → ({} : RetryState) = s := by
    intro hd
    obtain rfl | ⟨hne, -⟩ := h
    · rfl
    · exact absurd hd hne
  cases o with
  | unknown =>
    simp only [RetryState.next] at hn ⊢
    split
    · simp_all
    · rfl
  | recoverable => simp [RetryState.next] at hn
  | settled | unrecoverable => exact hcleared (by simp_all [RetryState.next])

/-- The timer's signal is never dropped: a component with a deadline touches the timer again. -/
lemma next_timer (h : s.Good) (hd : s.deadline ≠ 0) : (s.next c true now o).2 = true := by
  have hpos := h.delay_pos hd
  cases o <;> simp [RetryState.next, hpos, hd]

lemma next_deadline (h : s.Good) :
    (s.next c t now o).1.deadline ≠ 0 ↔ (if o = .unknown then s.deadline ≠ 0 else o = .recoverable) := by
  cases o with
  | unknown =>
    simp only [RetryState.next, if_true]
    split
    · obtain rfl | ⟨hne, n, hn⟩ := h
      · simp_all
      have := backoff_pos n
      exact ⟨fun _ => hne, fun _ => by dsimp only; omega⟩
    · exact Iff.rfl
  | recoverable =>
    obtain ⟨n, hn, -⟩ := h.failed
    have := backoff_pos n
    simp only [RetryState.next, hn]
    simp only [reduceCtorEq, if_false, iff_true]
    omega
  | settled | unrecoverable => simp [RetryState.next]

lemma next_delay (h : s.Good) (hs : o ≠ .settled) (hu : o ≠ .unrecoverable) :
    s.delay ≤ (s.next c t now o).1.delay := by
  cases o with
  | unknown => simp only [RetryState.next]; split <;> exact Nat.le_refl _
  | recoverable =>
    obtain ⟨n, hn, hle⟩ := h.failed
    simp only [RetryState.next, hn, hle]
  | settled => exact absurd rfl hs
  | unrecoverable => exact absurd rfl hu

end RetryState.Good

lemma RetryState.next_unknown : s.next c false now .unknown = (s, false) := by simp [next]

end Component

/-! ## The one timer -/

lemma mem_components (c : Component) : c ∈ components := by cases c <;> decide

/-- `c` has a deadline and no other component has a sooner one. -/
def Soonest (states : Component → RetryState) (c : Component) : Prop :=
  (states c).deadline ≠ 0 ∧ ∀ c', (states c').deadline ≠ 0 → (states c).deadline ≤ (states c').deadline

variable {states : Component → RetryState} {c : Component} {l l' : Loop} {ws : List Wake} {clocks : List Nat}

lemma earliest_none : earliest states = none ↔ ∀ c, (states c).deadline = 0 := by
  constructor
  · intro h c
    simp only [earliest, components, List.foldl_cons, List.foldl_nil] at h
    cases c <;> grind
  · intro h
    simp [earliest, components, h]

lemma earliest_some (h : earliest states = some c) : Soonest states c := by
  simp only [earliest, components, List.foldl_cons, List.foldl_nil] at h
  refine ⟨by grind, fun c' hc' => ?_⟩
  cases c' <;> grind

/-- The timer is armed for the soonest deadline, by a round that read the clock at one of `clocks`, and not armed
when there is none. -/
structure Loop.TimerMatches (clocks : List Nat) (l : Loop) : Prop where
  armed : ∀ c, Soonest l.states c → ∃ now ∈ clocks, l.timer = some ⟨now, (l.states c).deadline - now⟩ ∧
    l.nextRetryAt = some (l.states c).deadline
  disarmed : (∀ c, (l.states c).deadline = 0) → l.timer = none

structure Loop.Good (clocks : List Nat) (l : Loop) : Prop where
  states : ∀ c, (l.states c).Good
  timer : l.TimerMatches clocks
  channel : l.retryChannel = l.timer.isSome

lemma Loop.good_init : Good [] {} where
  states _ := .inl rfl
  timer := ⟨fun _ h => absurd rfl h.1, fun _ => rfl⟩
  channel := rfl

lemma Soonest.deadline_unique {c' : Component} (h : Soonest states c)
    (h' : Soonest states c') : (states c).deadline = (states c').deadline :=
  Nat.le_antisymm (h.2 c' h'.1) (h'.2 c h.1)

lemma Loop.rearm_states (states : Component → RetryState) (now : Nat) : (rearm states now).states = states := by
  unfold rearm
  split <;> rfl

lemma Loop.rearm_good {now : Nat} (hnow : now ∈ clocks) (h : ∀ c, (states c).Good) :
    (rearm states now).Good clocks := by
  cases he : earliest states with
  | none =>
    simp only [rearm, he]
    exact ⟨h, ⟨fun c hc => absurd (earliest_none.1 he c) hc.1, fun _ => rfl⟩, rfl⟩
  | some e =>
    have hs := earliest_some he
    simp only [rearm, he]
    refine ⟨h, ⟨fun c hc => ⟨now, hnow, ?_⟩, fun h => absurd (h e) hs.1⟩, rfl⟩
    have heq : (states e).deadline = (states c).deadline := hs.deadline_unique hc
    exact ⟨by simp only [heq], by simp only [heq]⟩

lemma Loop.afterUpdate_states (l : Loop) (t : Bool) (now : Nat) (o : UpdateOutcome) (c : Component) :
    (l.afterUpdate t now o).states c = ((l.states c).next c t now (o.of c)).1 := by
  simp only [afterUpdate]
  split
  · rfl
  · rw [rearm_states]

/-- The invariant after a round: when no component touched the timer, the timer has to have matched before. -/
lemma Loop.afterUpdate_good {t : Bool} {now : Nat} {o : UpdateOutcome} (hnow : now ∈ clocks)
    (hs : ∀ c, (l.states c).Good)
    (huntouched : (∀ c, ((l.states c).next c t now (o.of c)).2 = false) → l.Good clocks) :
    (l.afterUpdate t now o).Good clocks := by
  by_cases hany : (components.any fun c => ((l.states c).next c t now (o.of c)).2) = true
  · simp only [afterUpdate, hany, Bool.not_true, Bool.false_eq_true, if_false]
    exact rearm_good hnow fun c => (hs c).next
  have hall : ∀ c, ((l.states c).next c t now (o.of c)).2 = false := by
    intro c
    by_contra hne
    exact hany (List.any_eq_true.2 ⟨c, mem_components c, by simpa using hne⟩)
  have hsame : l.afterUpdate t now o = l := by
    have : (fun c => ((l.states c).next c t now (o.of c)).1) = l.states :=
      funext fun c => (hs c).next_unchanged (hall c)
    simp only [afterUpdate, hany, Bool.not_false, if_true, this]
  rw [hsame]
  exact huntouched hall

lemma Loop.Good.exists_deadline (h : l.Good clocks) (ht : l.timer ≠ none) : ∃ c, (l.states c).deadline ≠ 0 := by
  by_contra hno
  exact ht (h.timer.disarmed fun c => by by_contra hc; exact hno ⟨c, hc⟩)

lemma Loop.Good.mono {clocks' : List Nat} (h : l.Good clocks) (hsub : clocks ⊆ clocks') : l.Good clocks' := by
  refine { h with timer := { h.timer with armed := fun c hc => ?_ } }
  obtain ⟨now, hnow, htimer⟩ := h.timer.armed c hc
  exact ⟨now, hsub hnow, htimer⟩

lemma Loop.Good.round (h : l.Good clocks) (hr : l.receive tr = some l₁) {now : Nat}
    (hnow : now ∈ clocks) (o : UpdateOutcome) : (l₁.afterUpdate (tr == .timer) now o).Good clocks := by
  cases tr with
  | timer =>
    simp only [receive] at hr
    split at hr
    · cases hr
      obtain ⟨c, hc⟩ := h.exists_deadline (by intro hn; simp_all)
      refine afterUpdate_good hnow h.states fun hall => ?_
      have htouched : ((l.states c).next c true now (o.of c)).2 = true := (h.states c).next_timer hc
      exact absurd (hall c) (by simp [htouched])
    · cases hr
  | event | healthCheck =>
    cases hr
    exact afterUpdate_good hnow h.states fun _ => h

lemma Loop.receive_states (h : l.receive tr = some l₁) : l₁.states = l.states := by
  cases tr with
  | timer =>
    simp only [receive] at h
    split at h
    · exact Option.some.inj h ▸ rfl
    · cases h
  | event | healthCheck => exact Option.some.inj h ▸ rfl

/-! ## Steps and runs -/

/-- What an iteration says about a component, when it says anything. -/
def Wake.known (c : Component) : Wake → Option Outcome
  | .healthy => none
  | .round r => if r.outcome.of c = .unknown then none else some (r.outcome.of c)

def lastKnown (c : Component) (ws : List Wake) : Option Outcome := (ws.filterMap (Wake.known c)).getLast?

/-- When the round of an iteration reads the clock. -/
def Wake.now : Wake → Option Nat
  | .healthy => none
  | .round r => some r.now

lemma Loop.step_spec {w : Wake} (h : l.Good clocks) (hw : l.step w = some l') :
    l'.Good (clocks ++ w.now.toList) ∧ ∀ c,
      ((l'.states c).deadline ≠ 0 ↔ ((w.known c).elim ((l.states c).deadline ≠ 0) (· = .recoverable))) ∧
      (w.known c ≠ some .settled → w.known c ≠ some .unrecoverable → (l.states c).delay ≤ (l'.states c).delay) := by
  cases w with
  | healthy =>
    cases hw
    exact ⟨h.mono (by simp), fun c => ⟨Iff.rfl, fun _ _ => Nat.le_refl _⟩⟩
  | round r =>
    obtain ⟨l₁, hl₁, rfl⟩ := Option.map_eq_some_iff.1 hw
    refine ⟨(h.mono (by simp)).round hl₁ (by simp [Wake.now]) _, fun c => ?_⟩
    simp only [afterUpdate_states, receive_states hl₁]
    refine ⟨(h.states c).next_deadline.trans ?_, fun hs hu => (h.states c).next_delay ?_ ?_⟩
    · by_cases ho : r.outcome.of c = .unknown <;> simp [Wake.known, ho]
    · intro ho; simp [Wake.known, ho] at hs
    · intro ho; simp [Wake.known, ho] at hu

lemma Loop.Good.run (h : l.Good clocks) (hr : run step l ws = some l') :
    l'.Good (clocks ++ ws.filterMap Wake.now) := by
  induction ws generalizing l clocks with
  | nil => exact Option.some.inj hr ▸ h.mono (by simp)
  | cons w ws ih =>
    obtain ⟨l₁, hw, hr⟩ := run_cons hr
    refine (ih (step_spec h hw).1 hr).mono ?_
    cases hnow : w.now <;> simp [hnow]

lemma Loop.run_deadline (h : l.Good clocks) (hr : Machine.run step l ws = some l') (c : Component) :
    (l'.states c).deadline ≠ 0 ↔ (lastKnown c ws).elim ((l.states c).deadline ≠ 0) (· = .recoverable) := by
  induction ws generalizing l clocks with
  | nil => exact Option.some.inj hr ▸ Iff.rfl
  | cons w ws ih =>
    obtain ⟨l₁, hw, hr⟩ := run_cons hr
    obtain ⟨hg, hc⟩ := step_spec h hw
    rw [ih hg hr]
    cases hk : w.known c with
    | none =>
      have hc := hk ▸ (hc c).1
      simp only [lastKnown, List.filterMap_cons, hk]
      cases (ws.filterMap (Wake.known c)).getLast? with
      | none => exact hc
      | some o' => rfl
    | some o =>
      simp only [lastKnown, List.filterMap_cons, hk, List.getLast?_cons]
      cases hl : (ws.filterMap (Wake.known c)).getLast? with
      | none => simpa [hk] using (hc c).1
      | some o' => rfl

lemma Loop.run_delay (h : l.Good clocks) (hr : Machine.run step l ws = some l')
    (hc : ∀ w ∈ ws, w.known c ≠ some .settled ∧ w.known c ≠ some .unrecoverable) :
    (l.states c).delay ≤ (l'.states c).delay := by
  induction ws generalizing l clocks with
  | nil => exact Option.some.inj hr ▸ Nat.le_refl _
  | cons w ws ih =>
    obtain ⟨l₁, hw, hr⟩ := run_cons hr
    obtain ⟨hg, hs⟩ := step_spec h hw
    have hhead := hc w List.mem_cons_self
    exact Nat.le_trans ((hs c).2 hhead.1 hhead.2) (ih hg hr fun w hw => hc w (List.mem_cons_of_mem _ hw))

/-- Between any two iterations of any run: the timer is armed for the soonest deadline, counted from the clock of a
round of the run, and disarmed without one; a component has a deadline iff its last known outcome was recoverable; its
delay is then one of the backoff and does not go down while the outcome is neither settled nor unrecoverable; and a
round that the timer did not start leaves the deadline of a component whose outcome was unknown. -/
theorem timer_matches_state {ws : List Wake} {l : Loop} (h : run Loop.step {} ws = some l) :
    l.TimerMatches (ws.filterMap Wake.now) ∧
    (∀ c, (l.states c).deadline ≠ 0 ↔ lastKnown c ws = some .recoverable) ∧
    (∀ c, (l.states c).deadline ≠ 0 → ∃ n, (l.states c).delay = min (2 ^ (n + 1)) 60 * second) ∧
    (∀ ws' l', run Loop.step l ws' = some l' → ∀ c,
      (∀ w ∈ ws', w.known c ≠ some .settled ∧ w.known c ≠ some .unrecoverable) →
      (l.states c).delay ≤ (l'.states c).delay) ∧
    (∀ r l', l.step (.round r) = some l' → r.trigger ≠ .timer → ∀ c, r.outcome.of c = .unknown →
      (l'.states c).deadline = (l.states c).deadline) := by
  have hg := good_init.run h
  refine ⟨hg.timer, fun c => ?_, fun c hc => ?_, fun ws' l' hr c hc => run_delay hg hr hc,
    fun r l' hr ht c hc => ?_⟩
  · rw [run_deadline good_init h c]
    cases hl : lastKnown c ws <;> simp
  · obtain he | ⟨-, n, hn⟩ := hg.states c
    · exact absurd (he ▸ rfl) hc
    · exact ⟨n, hn⟩
  obtain ⟨l₁, hl₁, rfl⟩ := Option.map_eq_some_iff.1 hr
  have hevent : (r.trigger == Trigger.timer) = false := by simpa using ht
  rw [afterUpdate_states, receive_states hl₁, hevent, hc, next_unknown]

/-- Two failures of the general component, then a notification on which nothing of it ran. -/
theorem timer_matches_state_twoFailures : ∃ l : Loop,
    run Loop.step {} [.round ⟨.event, 5, ⟨.settled, .recoverable, .settled⟩⟩,
      .round ⟨.timer, 7, ⟨.settled, .recoverable, .settled⟩⟩, .round ⟨.event, 8, {}⟩] = some l ∧
    l.TimerMatches [5, 7, 8] ∧ l.timer = some ⟨7, 4 * second⟩ := by
  have h : run step {} [.round ⟨.event, 5, ⟨.settled, .recoverable, .settled⟩⟩,
      .round ⟨.timer, 7, ⟨.settled, .recoverable, .settled⟩⟩, .round ⟨.event, 8, {}⟩] = some _ := rfl
  exact ⟨_, h, (timer_matches_state h).1, by decide⟩

/-- Two failures, an unrecoverable outcome and a failure again: from 4 seconds the delay goes back to 2, and the
component has not settled. -/
theorem unrecoverable_restarts_delay : ∃ l l' : Loop,
    run Loop.step {} [.round ⟨.event, 5, ⟨.settled, .recoverable, .settled⟩⟩,
      .round ⟨.timer, 7, ⟨.settled, .recoverable, .settled⟩⟩] = some l ∧
    (l.states .general).delay = 4 * second ∧
    run Loop.step l [.round ⟨.timer, 11, ⟨.settled, .unrecoverable, .settled⟩⟩,
      .round ⟨.event, 12, ⟨.settled, .recoverable, .settled⟩⟩] = some l' ∧
    (l'.states .general).delay = 2 * second :=
  ⟨_, _, rfl, by decide, rfl, by decide⟩

end SingBox.Ebpf
