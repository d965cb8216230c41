import SingBox.Ebpf.Policy
/-!
# The two scopes under the retry scheduler

A round of the interface updates first retries the refreshes that are still
outstanding, of the local scope and of the shared one. The scheduler sees one
outcome for both of them. Rule-set callbacks run at any time, also between a
round's retry and its end.
-/
namespace SingBox.Ebpf
open Machine Scope
variable {P : Type}

def Outcome.rank : Outcome → Nat
  | .unknown => 0
  | .settled => 1
  | .recoverable => 2
  | .unrecoverable => 3

/-- Go's `max` of two outcomes. -/
def Outcome.max (a b : Outcome) : Outcome := if a.rank < b.rank then b else a

/-- The step of the shared packet-rewrite data plane. -/
inductive SharedStep
  | absent
  | reconciled
  | failed (closed rebuild : Bool)

/-- What the other steps of an update meet: each flag is an error of its step, `attachments` is the error of the
inspection (`none`) or whether the attachments changed. -/
structure Steps where
  inventory : Bool := false
  localInterface : Bool := false
  shared : SharedStep := .absent
  infrastructure : Bool := false
  attachments : Option Bool := some false
  tcHostAddresses : Bool := false
  cgroupHostAddresses : Bool := false
  reconcile : Bool := false

def SharedStep.outcome : SharedStep → Outcome
  | .absent | .reconciled => .settled
  | .failed closed rebuild => if closed || rebuild then .unrecoverable else .recoverable

/-- The steps of `updateTCInterfaces` after the retry of the scopes. -/
def Steps.outcome (st : Steps) (bypassRuleSet : Outcome) : UpdateOutcome :=
  let failed := fun (general : Outcome) (step : Bool) => if step then .recoverable else general
  let settle := fun (general : Outcome) => if general = .unknown then .settled else general
  let general := failed .unknown st.inventory
  if st.localInterface then { bypassRuleSet, general := .recoverable }
  else
    let sharedRewrite := st.shared.outcome
    let general := failed general st.infrastructure
    match st.attachments with
    | none => { bypassRuleSet, sharedRewrite, general := .recoverable }
    | some false =>
      let general := failed (failed general st.tcHostAddresses) st.cgroupHostAddresses
      { bypassRuleSet, sharedRewrite, general := settle general }
    | some true =>
      if st.reconcile then { bypassRuleSet, sharedRewrite, general := .recoverable }
      else { bypassRuleSet, sharedRewrite, general := settle (failed general st.cgroupHostAddresses) }

lemma Steps.outcome_bypassRuleSet (st : Steps) (o : Outcome) : (st.outcome o).bypassRuleSet = o := by
  simp only [Steps.outcome]
  split
  · rfl
  split
  · rfl
  · rfl
  · split <;> rfl

/-- Where the loop is. `left` is what the round's retry left in the `needsRetry` of each scope. -/
inductive Phase
  | idle
  | received (triggeredByTimer : Bool) (now : Nat)
  | updated (triggeredByTimer : Bool) (now : Nat) (outcome : UpdateOutcome) (left : Bool → Bool)

/-- The part of the inbound the scheduler works on. A scope is named by `shared`. -/
structure Inbound (P : Type) where
  loop : Loop := {}
  scope : Bool → Scope P
  phase : Phase := .idle
  cancelled : Bool := false

inductive Event (P : Type)
  | healthy
  | wake (trigger : Trigger) (now : Nat)
  | update (refresh : Bool → Refresh P) (steps : Steps)
  | finish
  | callback (shared : Bool) (refresh : Refresh P)
  | rebuild (shared : Bool) (backend : Nat) (required : Bool)
  | cancel
  | stop

def ruleSetScope (shared : Bool) : String := if shared then "shared.bypass_rule_set" else "local.bypass_rule_set"

def Inbound.setScope (i : Inbound P) (shared : Bool) (s : Scope P) : Inbound P :=
  { i with scope := fun b => if b = shared then s else i.scope b }

def Scope.setRebuild (s : Scope P) (backend : Nat) (required : Bool) : Scope P :=
  { s with backends := s.backends.modify backend fun b => { b with requiresRebuild := required } }

section
variable [DecidableEq P]

def Inbound.retryBypassRuleSetIfNeededLocked (i : Inbound P) (refresh : Bool → Refresh P) : Inbound P × Outcome :=
  let retried := fun b => (i.scope b).retryRuleSetLocked (ruleSetScope b) (refresh b)
  ({ i with scope := fun b => (retried b).1 }, (retried false).2.max (retried true).2)

def Inbound.step (i : Inbound P) : Event P → Option (Inbound P)
  | .healthy => match i.phase with
    | .idle => if i.cancelled then none else some i
    | _ => none
  | .wake trigger now => match i.phase with
    | .idle =>
      if i.cancelled then none
      else (i.loop.receive trigger).map fun loop => { i with loop, phase := .received (trigger == .timer) now }
    | _ => none
  | .update refresh steps => match i.phase with
    | .received timer now =>
      -- a cancelled update returns before its first step
      if i.cancelled then some { i with phase := .updated timer now {} fun _ => false }
      else
        let retried := i.retryBypassRuleSetIfNeededLocked refresh
        some { retried.1 with
          phase := .updated timer now (steps.outcome retried.2) fun b => (retried.1.scope b).needsRetry }
    | _ => none
  | .finish => match i.phase with
    | .updated timer now outcome _ => some { i with loop := i.loop.afterUpdate timer now outcome, phase := .idle }
    | _ => none
  | .callback shared refresh =>
    some (i.setScope shared ((i.scope shared).updateRuleSet (ruleSetScope shared) refresh).1)
  | .rebuild shared backend required => some (i.setScope shared ((i.scope shared).setRebuild backend required))
  | .cancel => some { i with cancelled := true }
  | .stop => if i.cancelled then some { i with scope := fun b => { i.scope b with started := false } } else none

end

/-! ## One scope in one round -/

section
variable [DecidableEq P] {s : Scope P}

/-- What a retry can do, `t` being the scope after the refresh it makes when one is outstanding. -/
lemma Scope.retryRuleSetLocked_cases (s : Scope P) (name : String) (r : Refresh P) :
    ∃ t : Scope P, t = (refreshRuleSetsLocked { s with retryCount := s.retryCount + 1 } name r).1 ∧
    (s.started = false ∧ s.retryRuleSetLocked name r = (s, .settled) ∨
      s.requiresRebuild = true ∧ s.retryRuleSetLocked name r = ({ s with needsRetry := false }, .unrecoverable) ∨
      s.needsRetry = false ∧ s.retryRuleSetLocked name r = (s, .settled) ∨
      s.needsRetry = true ∧
        (t.requiresRebuild = true ∧ s.retryRuleSetLocked name r = ({ t with needsRetry := false }, .unrecoverable) ∨
          s.retryRuleSetLocked name r = (t, .recoverable) ∨
          s.retryRuleSetLocked name r = ({ t with needsRetry := false }, .settled))) := by
  refine ⟨_, rfl, ?_⟩
  unfold retryRuleSetLocked
  split
  next h => exact .inl ⟨by simpa using h, rfl⟩
  split
  next h => exact .inr (.inl ⟨h, rfl⟩)
  split
  next h => exact .inr (.inr (.inl ⟨by simpa using h, rfl⟩))
  next h =>
    refine .inr (.inr (.inr ⟨by simpa using h, ?_⟩))
    split
    next heq =>
      simp only [heq]
      split
      next hrebuild => exact .inl ⟨hrebuild, rfl⟩
      · exact .inr (.inl rfl)
    next heq => exact .inr (.inr (by rw [heq]))

variable (name : String)

lemma Scope.retryRuleSetLocked_left (r : Refresh P) (hs : s.started = true)
    (h : (s.retryRuleSetLocked name r).1.needsRetry = true) : (s.retryRuleSetLocked name r).2 = .recoverable := by
  obtain ⟨t, -, ⟨hstopped, -⟩ | ⟨-, heq⟩ | ⟨hneeds, heq⟩ | ⟨-, ⟨-, heq⟩ | heq | heq⟩⟩ :=
    s.retryRuleSetLocked_cases name r
  · rw [hs] at hstopped
    cases hstopped
  · rw [heq] at h
    cases h
  · rw [heq, hneeds] at h
    cases h
  · rw [heq] at h
    cases h
  · rw [heq]
  · rw [heq] at h
    cases h

lemma Scope.refreshRuleSetsLocked_started (s : Scope P) (name : String) (r : Refresh P) :
    (s.refreshRuleSetsLocked name r).1.started = s.started := by
  unfold refreshRuleSetsLocked
  split
  · rfl
  · exact (s.apply_cases name _ _).1.started

lemma Scope.retryRuleSetLocked_started (r : Refresh P) : (s.retryRuleSetLocked name r).1.started = s.started := by
  obtain ⟨t, rfl, ⟨-, heq⟩ | ⟨-, heq⟩ | ⟨-, heq⟩ | ⟨-, ⟨-, heq⟩ | heq | heq⟩⟩ :=
    s.retryRuleSetLocked_cases name r
  all_goals rw [heq]
  all_goals exact refreshRuleSetsLocked_started _ name r

/-- Whether the round may find that a backend of the scope has to be rebuilt: one has to be already, or an answer to
the refresh that is still outstanding breaks one. -/
def Scope.MayBreak (s : Scope P) (r : Refresh P) : Prop :=
  s.requiresRebuild = true ∨ s.needsRetry = true ∧
    ∃ i, i < s.backends.length ∧ ((r.replies.forward i).isBroken = true ∨ (r.replies.revert i).isBroken = true)

instance (s : Scope P) (r : Refresh P) : Decidable (s.MayBreak r) :=
  inferInstanceAs (Decidable (_ ∨ _ ∧ ∃ i, i < s.backends.length ∧ _))

lemma Scope.refreshRuleSetsLocked_requiresRebuild {r : Refresh P}
    (hr : ∀ i, i < s.backends.length → (r.replies.forward i).isBroken = false ∧ (r.replies.revert i).isBroken = false)
    (h : s.requiresRebuild = false) : (s.refreshRuleSetsLocked name r).1.requiresRebuild = false := by
  unfold refreshRuleSetsLocked
  split
  · exact h
  rw [requiresRebuild, List.any_eq_false] at h ⊢
  simp only [Bool.not_eq_true] at h ⊢
  refine applyTo_requiresRebuild _ name _ (fun i hi => hr i ?_) (fun b hb => absurd hb List.not_mem_nil) h
  simpa using hi

lemma Scope.retryRuleSetLocked_not_unrecoverable {r : Refresh P} (h : ¬ s.MayBreak r) :
    (s.retryRuleSetLocked name r).2 ≠ .unrecoverable := by
  obtain ⟨t, rfl, ⟨-, heq⟩ | ⟨hbefore, -⟩ | ⟨-, heq⟩ | ⟨hneeds, ⟨hafter, -⟩ | heq | heq⟩⟩ :=
    s.retryRuleSetLocked_cases name r
  · simp [heq]
  · exact absurd (.inl hbefore) h
  · simp [heq]
  · have hbefore : s.requiresRebuild = false := by
      by_contra hne
      exact h (.inl (by simpa using hne))
    have hreplies : ∀ i, i < s.backends.length →
        (r.replies.forward i).isBroken = false ∧ (r.replies.revert i).isBroken = false := by
      intro i hi
      by_contra hbroken
      refine h (.inr ⟨hneeds, i, hi, ?_⟩)
      by_contra hno
      exact hbroken (by simpa using hno)
    have hnot := refreshRuleSetsLocked_requiresRebuild (s := { s with retryCount := s.retryCount + 1 }) name
      hreplies hbefore
    rw [hnot] at hafter
    cases hafter
  · simp [heq]
  · simp [heq]

lemma Scope.updateRuleSet_started (r : Refresh P) : (s.updateRuleSet name r).1.started = s.started := by
  unfold updateRuleSet
  split
  · rfl
  · exact s.refreshRuleSetsLocked_started name r

end

lemma Outcome.max_recoverable {a b : Outcome} (h : a = .recoverable ∧ b ≠ .unrecoverable ∨
    b = .recoverable ∧ a ≠ .unrecoverable) : a.max b = .recoverable := by
  cases a <;> cases b <;> simp_all [Outcome.max, Outcome.rank]

/-! ## Runs -/

def Loop.Received (l : Loop) (triggeredByTimer : Bool) : Prop :=
  ∃ clocks l₀ tr, Loop.Good clocks l₀ ∧ l₀.receive tr = some l ∧ triggeredByTimer = (tr == .timer)

def Inbound.PhaseGood (loop : Loop) : Phase → Prop
  | .idle => ∃ clocks, loop.Good clocks
  | .received timer _ => loop.Received timer
  | .updated timer _ outcome left =>
    loop.Received timer ∧ ∀ b, left b = true → outcome.bypassRuleSet = .recoverable

structure Inbound.Good (i : Inbound P) : Prop where
  phase : PhaseGood i.loop i.phase
  started : i.cancelled = false → ∀ b, (i.scope b).started = true

/-- The inbound when the loop starts: both scopes have been started. -/
structure Inbound.Start (i : Inbound P) : Prop where
  loop : i.loop = {}
  phase : i.phase = .idle
  started : ∀ b, (i.scope b).started = true

lemma Inbound.Start.good {i : Inbound P} (h : i.Start) : i.Good :=
  ⟨by rw [h.phase, h.loop]; exact ⟨[], Loop.good_init⟩, fun _ => h.started⟩

lemma Loop.Good.armed {l : Loop} {clocks : List Nat} (h : l.Good clocks) {c : Component}
    (hc : (l.states c).deadline ≠ 0) : l.timer.isSome = true := by
  cases he : earliest l.states with
  | none => exact absurd (earliest_none.1 he c) hc
  | some e =>
    obtain ⟨now, -, htimer, -⟩ := h.timer.armed e (earliest_some he)
    rw [htimer]
    rfl

lemma Loop.Received.afterUpdate {l : Loop} {t : Bool} (h : l.Received t) (now : Nat) (o : UpdateOutcome) :
    ∃ clocks, (l.afterUpdate t now o).Good clocks := by
  obtain ⟨clocks, l₀, tr, hg, hr, rfl⟩ := h
  exact ⟨now :: clocks, (hg.mono (by simp)).round hr (by simp) o⟩

lemma Loop.Received.armed {l : Loop} {t : Bool} (h : l.Received t) (now : Nat) {o : UpdateOutcome}
    (ho : o.bypassRuleSet = .recoverable) : (l.afterUpdate t now o).timer.isSome = true := by
  obtain ⟨_, hafter⟩ := h.afterUpdate now o
  refine hafter.armed (c := .bypassRuleSet) ?_
  obtain ⟨clocks, l₀, tr, hg, hr, rfl⟩ := h
  rw [Loop.afterUpdate_states, Loop.receive_states hr, (hg.states _).next_deadline]
  simp [UpdateOutcome.of, ho]

section
variable [DecidableEq P]

/-- No round meets one scope that is outstanding and another one with a backend to rebuild. -/
def Inbound.Separate (i : Inbound P) : Event P → Prop
  | .update refresh _ => ∀ b, (i.scope b).needsRetry = true → ¬ (i.scope (!b)).MayBreak (refresh (!b))
  | _ => True

instance (i : Inbound P) (e : Event P) : Decidable (i.Separate e) :=
  match e with
  | .update refresh _ =>
    inferInstanceAs (Decidable (∀ b, (i.scope b).needsRetry = true → ¬ (i.scope (!b)).MayBreak (refresh (!b))))
  | .healthy | .wake _ _ | .finish | .callback _ _ | .rebuild _ _ _ | .cancel | .stop => isTrue trivial

lemma Inbound.retry_left {i : Inbound P} {refresh : Bool → Refresh P} (hs : ∀ b, (i.scope b).started = true)
    (hsep : ∀ b, (i.scope b).needsRetry = true → ¬ (i.scope (!b)).MayBreak (refresh (!b))) {b : Bool}
    (hb : ((i.retryBypassRuleSetIfNeededLocked refresh).1.scope b).needsRetry = true) :
    (i.retryBypassRuleSetIfNeededLocked refresh).2 = .recoverable := by
  have hrec := retryRuleSetLocked_left (ruleSetScope b) (refresh b) (hs b) hb
  have hneeds : (i.scope b).needsRetry = true := by
    by_contra hne
    obtain ⟨t, -, ⟨-, heq⟩ | ⟨-, heq⟩ | ⟨-, heq⟩ | ⟨h, -⟩⟩ :=
      (i.scope b).retryRuleSetLocked_cases (ruleSetScope b) (refresh b)
    · simp [heq] at hrec
    · simp [heq] at hrec
    · simp [heq] at hrec
    · exact hne h
  have hother := retryRuleSetLocked_not_unrecoverable (ruleSetScope (!b)) (hsep b hneeds)
  refine Outcome.max_recoverable ?_
  cases b with
  | false => exact .inl ⟨hrec, hother⟩
  | true => exact .inr ⟨hrec, hother⟩

lemma Inbound.step_good {i i' : Inbound P} {e : Event P} (h : i.Good) (hsep : i.Separate e)
    (he : i.step e = some i') : i'.Good := by
  obtain ⟨hphase, hstarted⟩ := h
  cases e with
  | healthy =>
    simp only [Inbound.step] at he
    split at he <;> simp at he
    obtain ⟨-, rfl⟩ := he
    exact ⟨hphase, hstarted⟩
  | wake trigger now =>
    simp only [Inbound.step] at he
    split at he
    next hidle =>
      split at he
      · cases he
      obtain ⟨l, hl, rfl⟩ := Option.map_eq_some_iff.1 he
      rw [hidle] at hphase
      obtain ⟨clocks, hgood⟩ := hphase
      exact ⟨⟨clocks, _, _, hgood, hl, rfl⟩, hstarted⟩
    · cases he
  | update refresh steps =>
    simp only [Inbound.step] at he
    split at he
    next hreceived =>
      rw [hreceived] at hphase
      split at he
      · cases he
        exact ⟨⟨hphase, fun b hb => by cases hb⟩, hstarted⟩
      next hrun =>
        cases he
        have hs := hstarted (by simpa using hrun)
        refine ⟨⟨hphase, fun b hb => ?_⟩, fun _ b => ?_⟩
        · rw [Steps.outcome_bypassRuleSet]
          exact Inbound.retry_left hs hsep hb
        · exact (retryRuleSetLocked_started _ _).trans (hs b)
    · cases he
  | finish =>
    simp only [Inbound.step] at he
    split at he
    next hupdated =>
      cases he
      rw [hupdated] at hphase
      exact ⟨hphase.1.afterUpdate _ _, hstarted⟩
    · cases he
  | callback shared refresh =>
    cases he
    refine ⟨hphase, fun hc b => ?_⟩
    simp only [Inbound.setScope]
    split
    · exact (updateRuleSet_started _ _).trans (hstarted hc shared)
    · exact hstarted hc b
  | rebuild shared backend required =>
    cases he
    refine ⟨hphase, fun hc b => ?_⟩
    simp only [Inbound.setScope]
    split
    · exact hstarted hc shared
    · exact hstarted hc b
  | cancel =>
    cases he
    exact ⟨hphase, fun hc => by cases hc⟩
  | stop =>
    simp only [Inbound.step] at he
    split at he
    next hcancelled =>
      cases he
      exact ⟨hphase, fun hc => by simp [hcancelled] at hc⟩
    · cases he

/-- In every run in which no round meets an outstanding scope next to a backend of the other scope that has to be
rebuilt: after every completed round, a scope that still has its retry outstanding has the timer armed. -/
theorem outstanding_retry_armed {i₀ i i' : Inbound P} {es : List (Event P)} (hstart : i₀.Start)
    (hsep : Along Inbound.step Inbound.Separate i₀ es) (hrun : run Inbound.step i₀ es = some i)
    {timer : Bool} {now : Nat} {outcome : UpdateOutcome} {left : Bool → Bool}
    (hround : i.phase = .updated timer now outcome left) (hfinish : i.step .finish = some i') :
    ∀ shared, left shared = true → (i'.scope shared).needsRetry = true → i'.loop.timer.isSome = true := by
  intro shared hleft _
  have hgood : i.Good := run_inv (fun _ _ _ hg hs he => Inbound.step_good hg hs he) hstart.good hsep hrun
  have hphase := hgood.phase
  simp only [Inbound.step, hround] at hfinish hphase
  cases hfinish
  exact hphase.1.armed now (hphase.2 shared hleft)

end

/-- A local scope on the cgroup backend and a shared one on packet rewriting. -/
def twoScopes : Inbound Nat where
  scope shared :=
    { policy := 1, expectedPolicy := 1, backends := [⟨if shared then "packet_rewrite" else "cgroup", some 1, false, {}⟩] }

def refusing : Refresh Nat := { compiled := .ok 2, replies := { forward := fun _ => .refused "busy" } }

/-- The callback of the shared scope fails and the round it notifies fails again. -/
theorem outstanding_retry_armed_shared : ∃ i i' : Inbound Nat,
    run Inbound.step twoScopes [.callback true refusing, .wake .event 5, .update (fun _ => refusing) {}] = some i ∧
    i.step .finish = some i' ∧ (i'.scope true).needsRetry = true ∧ i'.loop.timer.isSome = true := by
  have hrun : run Inbound.step twoScopes
      [.callback true refusing, .wake .event 5, .update (fun _ => refusing) {}] = some _ := rfl
  exact ⟨_, _, hrun, rfl, rfl, outstanding_retry_armed ⟨rfl, rfl, by decide⟩ (by decide) hrun rfl rfl true rfl rfl⟩

/-- The same round while the local backend has to be rebuilt: the shared scope is left outstanding with no timer. -/
theorem outstanding_retry_not_armed : ∃ (i₀ i i' : Inbound Nat) (es : List (Event Nat)) (timer : Bool) (now : Nat)
    (outcome : UpdateOutcome) (left : Bool → Bool), i₀.Start ∧ run Inbound.step i₀ es = some i ∧
    i.phase = .updated timer now outcome left ∧ i.step .finish = some i' ∧
    left true = true ∧ (i'.scope true).needsRetry = true ∧ i'.loop.timer = none :=
  ⟨twoScopes, _, _, [.callback true refusing, .rebuild false 0 true, .wake .event 5, .update (fun _ => refusing) {}],
    _, _, _, _, ⟨rfl, rfl, by decide⟩, rfl, rfl, rfl, rfl, rfl, rfl⟩

end SingBox.Ebpf
