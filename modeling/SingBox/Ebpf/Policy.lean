import SingBox.Ebpf.RetryLoop
/-!
# The bypass policy of a scope and its backends

A scope (local or shared) gives the policy compiled from its rule-sets to every
backend in turn. When one of them refuses, the ones before it are given the
confirmed policy back. Versions number the policies the scope has expected.

`P` is the type of compiled policies (`[]CIDRDecision`, compared with
`reflect.DeepEqual`). Log lines are left out.
-/
namespace SingBox.Ebpf
open List
variable {P : Type}

/-- A backend's answer to one call of `apply`. A failed apply leaves the
backend as it was, or requiring a rebuild with anything in it, also no whole policy. -/
inductive Reply (P : Type)
  | accepted
  | refused (err : String)
  | broken (err : String) (left : Option P)

def Reply.isBroken : Reply P → Bool
  | .broken _ _ => true
  | _ => false

structure BackendVersion where
  version : Nat := 0
  known : Bool := false

/-- A backend with the policy it really holds, and what the scope has recorded of it. -/
structure Backend (P : Type) where
  name : String
  holds : Option P
  requiresRebuild : Bool := false
  state : BackendVersion := {}

section
variable (b : Backend P)

def Backend.apply (policy : P) : Reply P → Backend P × Option String
  | .accepted => ({ b with holds := some policy }, none)
  | .refused err => (b, some err)
  | .broken err left => ({ b with holds := left, requiresRebuild := true }, some err)

def Backend.forget : Backend P := { b with state := { b.state with known := false } }

/-- The record of a backend that refused: it is worth nothing once the backend has to be rebuilt. -/
def Backend.afterFailure : Backend P := if b.requiresRebuild then b.forget else b
def Backend.record (version : Nat) : Backend P := { b with state := ⟨version, true⟩ }

end

/-- `bypassRuleSetState` -/
structure Scope (P : Type) where
  started : Bool := true
  policy : P
  expectedPolicy : P
  policyVersion : Nat := 0
  expectedVersion : Nat := 0
  retryCount : Nat := 0
  needsRetry : Bool := false
  inconsistent : Bool := false
  backends : List (Backend P)

/-- The answers of the backends in one refresh, by position: to the new policy, and to the confirmed one when it is
given back. -/
structure Replies (P : Type) where
  forward : Nat → Reply P := fun _ => .accepted
  revert : Nat → Reply P := fun _ => .accepted

/-- The closure `revert` of one applied backend, and whether it failed. -/
def Scope.revert (s : Scope P) (b : Backend P) (reply : Reply P) : Backend P × Option String :=
  match b.apply s.policy reply with
  | (b, some err) => (b.forget, some err)
  | (b, none) => (b.record s.policyVersion, none)

/-- The applied backends, last one first, after the confirmed policy was given back, and the names of those that
refused it. -/
def revertBypassCIDRBackends (s : Scope P) (reply : Nat → Reply P) : List (Backend P) → List (Backend P) × List String
  | [] => ([], [])
  | b :: applied =>
    let b' := s.revert b (reply applied.length)
    let rest := revertBypassCIDRBackends s reply applied
    (b'.1 :: rest.1, if b'.2.isSome then b.name :: rest.2 else rest.2)

/-- The loop over the targets, with the applied backends last one first. -/
def Scope.applyTo (s : Scope P) (name : String) (policy : P) (r : Replies P) (applied : List (Backend P)) :
    List (Backend P) → Scope P × Option String
  | [] =>
    ({ s with policy, policyVersion := s.expectedVersion, inconsistent := false, backends := applied.reverse }, none)
  | b :: targets =>
    match b.apply policy (r.forward applied.length) with
    | (b, some err) =>
      let b := b.afterFailure
      let reverted := revertBypassCIDRBackends s r.revert applied
      ({ s with
          inconsistent := s.inconsistent || b.requiresRebuild || !reverted.2.isEmpty
          backends := reverted.1.reverse ++ b :: targets },
        if reverted.2.isEmpty then some err
        else some (name ++ " left inconsistent on: " ++ ", ".intercalate reverted.2 ++ ": " ++ err))
    | (b, none) => s.applyTo name policy r (b.record s.expectedVersion :: applied) targets

section
variable [DecidableEq P]
variable (s : Scope P)

/-- The expected generation of a new policy: the version moves when the policy is another one. -/
def Scope.expect (policy : P) : Scope P :=
  { s with
    expectedVersion := if s.expectedPolicy = policy then s.expectedVersion else s.expectedVersion + 1
    expectedPolicy := policy }

variable (name : String)

def Scope.applyRuleSetPolicyToBackends (policy : P) (r : Replies P) : Scope P × Option String :=
  (s.expect policy).applyTo name policy r [] s.backends

/-- What a refresh meets: the policy compiled from the rule-sets, or the error of compiling it, and the answers of
the backends. -/
structure Refresh (P : Type) where
  compiled : Except String P
  replies : Replies P := {}

def Scope.refreshRuleSetsLocked (r : Refresh P) : Scope P × Option String :=
  match r.compiled with
  | .error err => (s, some err)
  | .ok policy => s.applyRuleSetPolicyToBackends name policy r.replies

/-- The rule-set callback, and whether it notifies the interface updates. -/
def Scope.updateRuleSet (r : Refresh P) : Scope P × Bool :=
  if !s.started then (s, false)
  else
    let refreshed := s.refreshRuleSetsLocked name r
    ({ refreshed.1 with needsRetry := refreshed.2.isSome }, refreshed.2.isSome)

def Scope.requiresRebuild : Bool := s.backends.any (·.requiresRebuild)

def Scope.retryRuleSetLocked (r : Refresh P) : Scope P × Outcome :=
  if !s.started then (s, .settled)
  else if s.requiresRebuild then ({ s with needsRetry := false }, .unrecoverable)
  else if !s.needsRetry then (s, .settled)
  else
    match Scope.refreshRuleSetsLocked { s with retryCount := s.retryCount + 1 } name r with
    | (s, some _) =>
      if s.requiresRebuild then ({ s with needsRetry := false }, .unrecoverable) else (s, .recoverable)
    | (s, none) => ({ s with needsRetry := false }, .settled)

end

/-! ## One call -/

/-- The record of a backend says the truth: when it is known it names the confirmed version, and the backend holds
the confirmed policy. -/
def Scope.Recorded (s : Scope P) (b : Backend P) : Prop :=
  b.state.known = true → b.state.version = s.policyVersion ∧ b.holds = some s.policy

open Backend

variable (s : Scope P) (b : Backend P)

lemma Scope.recorded_forget (b : Backend P) : s.Recorded b.forget :=
  fun h => absurd h (by simp [forget])

lemma Backend.afterFailure_requiresRebuild : b.afterFailure.requiresRebuild = b.requiresRebuild := by
  unfold afterFailure
  split <;> rfl

lemma Scope.revert_spec (b : Backend P) (reply : Reply P) :
    s.Recorded (s.revert b reply).1 ∧ ((s.revert b reply).2 = none → (s.revert b reply).1.holds = some s.policy) := by
  cases reply with
  | accepted => exact ⟨fun _ => ⟨rfl, rfl⟩, fun _ => rfl⟩
  | refused err
  | broken err left => exact ⟨s.recorded_forget _, fun h => absurd h (by simp [Scope.revert, apply])⟩

lemma revertBypassCIDRBackends_spec (reply : Nat → Reply P) (applied : List (Backend P)) :
    (∀ b ∈ (revertBypassCIDRBackends s reply applied).1, s.Recorded b) ∧
    ((revertBypassCIDRBackends s reply applied).2 = [] →
      ∀ b ∈ (revertBypassCIDRBackends s reply applied).1, b.holds = some s.policy) := by
  induction applied with
  | nil => exact ⟨fun b hb => absurd hb not_mem_nil, fun _ b hb => absurd hb not_mem_nil⟩
  | cons b applied ih =>
    obtain ⟨hrec, hheld⟩ := s.revert_spec b (reply applied.length)
    simp only [revertBypassCIDRBackends]
    refine ⟨forall_mem_cons.2 ⟨hrec, ih.1⟩, fun hfailed => forall_mem_cons.2 ?_⟩
    cases herr : (s.revert b (reply applied.length)).2 with
    | some err => simp [herr] at hfailed
    | none =>
      simp only [herr, Option.isSome_none, Bool.false_eq_true, if_false] at hfailed
      exact ⟨hheld herr, ih.2 hfailed⟩

/-- A call that every backend accepted. -/
structure Scope.Confirmed (s t : Scope P) (policy : P) (r : Replies P) (first n : Nat) : Prop where
  accepted : ∀ i, i < n → r.forward (first + i) = .accepted
  policy_eq : t.policy = policy
  version_eq : t.policyVersion = s.expectedVersion
  backends : ∀ b ∈ t.backends, b.state = ⟨s.expectedVersion, true⟩ ∧ b.holds = some policy

/-- A call that some backend refused. -/
structure Scope.Kept (s t : Scope P) (targets : List (Backend P)) : Prop where
  policy_eq : t.policy = s.policy
  version_eq : t.policyVersion = s.policyVersion
  recorded : (∀ b ∈ targets, s.Recorded b) → ∀ b ∈ t.backends, s.Recorded b
  held : t.inconsistent = false → s.inconsistent = false ∧
    ((∀ b ∈ targets, b.holds = some s.policy) → ∀ b ∈ t.backends, b.holds = some s.policy)

/-- The fields that no call touches in the loop over the targets. -/
structure Scope.Framed (s t : Scope P) : Prop where
  expectedPolicy : t.expectedPolicy = s.expectedPolicy
  expectedVersion : t.expectedVersion = s.expectedVersion
  started : t.started = s.started
  needsRetry : t.needsRetry = s.needsRetry

variable {reply : Reply P} {applied : List (Backend P)}

/-- The backend that refused, as it is left: it is the old one unless it requires a rebuild. -/
lemma Backend.apply_failed {b b' : Backend P} {policy : P} {err : String}
    (h : b.apply policy reply = (b', some err)) (s : Scope P) :
    (s.Recorded b → s.Recorded b'.afterFailure) ∧ (b'.requiresRebuild = false → b'.afterFailure = b) := by
  cases reply with
  | accepted => simp [apply] at h
  | refused e =>
    obtain ⟨rfl, -⟩ : b = b' ∧ some e = some err := Prod.mk.inj h
    refine ⟨fun hb => ?_, fun hb => by simp [afterFailure, hb]⟩
    unfold afterFailure
    split
    · exact s.recorded_forget _
    · exact hb
  | broken e left =>
    obtain ⟨rfl, -⟩ : ({ b with holds := left, requiresRebuild := true } : Backend P) = b' ∧ some e = some err :=
      Prod.mk.inj h
    exact ⟨fun _ => s.recorded_forget _, fun hb => absurd hb (by simp)⟩

lemma Scope.applyTo_spec (name : String) (policy : P) (r : Replies P) (applied targets : List (Backend P))
    (happlied : ∀ b ∈ applied, b.state = ⟨s.expectedVersion, true⟩ ∧ b.holds = some policy) :
    s.Framed (s.applyTo name policy r applied targets).1 ∧
    (s.Confirmed (s.applyTo name policy r applied targets).1 policy r applied.length targets.length ∨
      s.Kept (s.applyTo name policy r applied targets).1 targets) := by
  induction targets generalizing applied with
  | nil =>
    exact ⟨⟨rfl, rfl, rfl, rfl⟩, .inl ⟨fun i hi => absurd hi (Nat.not_lt_zero i), rfl, rfl,
      fun b hb => happlied b (mem_reverse.1 hb)⟩⟩
  | cons b targets ih =>
    rw [Scope.applyTo]
    cases hb : b.apply policy (r.forward applied.length) with
    | mk b' err =>
      cases err with
      | none =>
        have haccepted : r.forward applied.length = .accepted ∧ b'.holds = some policy := by
          cases hr : r.forward applied.length <;> simp [hr, apply] at hb
          exact ⟨rfl, hb ▸ rfl⟩
        obtain ⟨hframe, hres⟩ := ih (b'.record s.expectedVersion :: applied)
          (forall_mem_cons.2 ⟨⟨rfl, haccepted.2⟩, happlied⟩)
        refine ⟨hframe, hres.imp (fun hc => ⟨fun i hi => ?_, hc.policy_eq, hc.version_eq, hc.backends⟩) fun hk => ?_⟩
        · rcases i with _ | i
          · exact haccepted.1
          have := hc.accepted i (Nat.lt_of_succ_lt_succ hi)
          rwa [length_cons, Nat.add_right_comm] at this
        · exact ⟨hk.policy_eq, hk.version_eq, fun h => hk.recorded fun x hx => h x (mem_cons_of_mem _ hx),
            fun h => ⟨(hk.held h).1, fun hx => (hk.held h).2 fun x h' => hx x (mem_cons_of_mem _ h')⟩⟩
      | some err =>
        obtain ⟨hrec, hheld⟩ := revertBypassCIDRBackends_spec s r.revert applied
        obtain ⟨hbrec, hbheld⟩ := apply_failed hb s
        refine ⟨⟨rfl, rfl, rfl, rfl⟩, .inr ⟨rfl, rfl, fun h x hx => ?_, fun hcons => ?_⟩⟩
        · simp only [mem_append, mem_reverse, mem_cons] at hx
          rcases hx with hx | rfl | hx
          · exact hrec x hx
          · exact hbrec (h b mem_cons_self)
          · exact h x (mem_cons_of_mem _ hx)
        simp only [Bool.or_eq_false_iff, Bool.not_eq_false', List.isEmpty_iff] at hcons
        obtain ⟨⟨hs, hrebuild⟩, hnone⟩ := hcons
        refine ⟨hs, fun h x hx => ?_⟩
        rw [afterFailure_requiresRebuild] at hrebuild
        simp only [hbheld hrebuild, mem_append, mem_reverse, mem_cons] at hx
        rcases hx with hx | rfl | hx
        · exact hheld hnone x hx
        · exact h x mem_cons_self
        · exact h x (mem_cons_of_mem _ hx)

/-! ## Backends that have to be rebuilt -/

lemma Backend.apply_requiresRebuild (policy : P) (h : reply.isBroken = false) :
    (b.apply policy reply).1.requiresRebuild = b.requiresRebuild := by
  cases reply with
  | accepted | refused err => rfl
  | broken err left => cases h

lemma Scope.revert_requiresRebuild (b : Backend P) (h : reply.isBroken = false) :
    (s.revert b reply).1.requiresRebuild = b.requiresRebuild := by
  cases reply with
  | accepted | refused err => rfl
  | broken err left => cases h

lemma revertBypassCIDRBackends_requiresRebuild {reply : Nat → Reply P}
    (hr : ∀ i, i < applied.length → (reply i).isBroken = false) (h : ∀ b ∈ applied, b.requiresRebuild = false) :
    ∀ b ∈ (revertBypassCIDRBackends s reply applied).1, b.requiresRebuild = false := by
  induction applied with
  | nil => exact fun b hb => absurd hb not_mem_nil
  | cons b applied ih =>
    have hb := s.revert_requiresRebuild b (hr applied.length (Nat.lt_succ_self _))
    exact forall_mem_cons.2 ⟨hb.trans (h b mem_cons_self),
      ih (fun i hi => hr i (Nat.lt_succ_of_lt hi)) fun b hb => h b (mem_cons_of_mem _ hb)⟩

lemma Scope.applyTo_requiresRebuild (name : String) (policy : P) {r : Replies P} {targets : List (Backend P)}
    (hr : ∀ i, i < applied.length + targets.length → (r.forward i).isBroken = false ∧ (r.revert i).isBroken = false)
    (ha : ∀ b ∈ applied, b.requiresRebuild = false) (ht : ∀ b ∈ targets, b.requiresRebuild = false) :
    ∀ b ∈ (s.applyTo name policy r applied targets).1.backends, b.requiresRebuild = false := by
  induction targets generalizing applied with
  | nil => exact fun b hb => ha b (mem_reverse.1 hb)
  | cons b targets ih =>
    have hhere := b.apply_requiresRebuild policy (hr applied.length (by simp)).1
    rw [ht b mem_cons_self] at hhere
    have hrest := fun x hx => ht x (mem_cons_of_mem b hx)
    rw [Scope.applyTo]
    cases hb : b.apply policy (r.forward applied.length) with
    | mk b' err =>
      rw [hb] at hhere
      cases err with
      | none =>
        refine ih (fun i hi => hr i ?_) (forall_mem_cons.2 ⟨hhere, ha⟩) hrest
        simpa [Nat.add_assoc, Nat.add_comm 1] using hi
      | some err =>
        intro x hx
        simp only [mem_append, mem_reverse, mem_cons] at hx
        rcases hx with hx | rfl | hx
        · exact revertBypassCIDRBackends_requiresRebuild s (fun i hi => (hr i (by omega)).2) ha x hx
        · exact b'.afterFailure_requiresRebuild.trans hhere
        · exact hrest x hx

/-! ## Any sequence of calls -/

section
variable [DecidableEq P] {s : Scope P}

/-- What a scope keeps between two calls. -/
structure Scope.Good (s : Scope P) : Prop where
  recorded : ∀ b ∈ s.backends, s.Recorded b
  held : s.inconsistent = false → ∀ b ∈ s.backends, b.holds = some s.policy
  version_le : s.policyVersion ≤ s.expectedVersion
  version_eq : s.policyVersion = s.expectedVersion → s.policy = s.expectedPolicy

lemma Scope.Good.expect_version (h : s.Good) (policy : P) : s.policyVersion ≤ (s.expect policy).expectedVersion ∧
    (s.policyVersion = (s.expect policy).expectedVersion → s.policy = policy) := by
  have hle := h.version_le
  simp only [Scope.expect]
  split
  next heq => exact ⟨hle, fun hv => (h.version_eq hv).trans heq⟩
  · exact ⟨by omega, fun hv => by omega⟩

lemma Scope.apply_cases (s : Scope P) (name : String) (policy : P) (r : Replies P) :
    (s.expect policy).Framed (s.applyRuleSetPolicyToBackends name policy r).1 ∧
    ((s.expect policy).Confirmed (s.applyRuleSetPolicyToBackends name policy r).1 policy r 0 s.backends.length ∨
      (s.expect policy).Kept (s.applyRuleSetPolicyToBackends name policy r).1 s.backends) :=
  (s.expect policy).applyTo_spec name policy r [] s.backends (fun b hb => absurd hb not_mem_nil)

lemma Scope.Good.apply (h : s.Good) (name : String) (policy : P) (r : Replies P) :
    (s.applyRuleSetPolicyToBackends name policy r).1.Good := by
  obtain ⟨hframe, hc | hk⟩ := s.apply_cases name policy r
  · refine ⟨fun b hb _ => ?_, fun _ b hb => ?_, ?_, fun _ => ?_⟩
    · obtain ⟨hstate, hholds⟩ := hc.backends b hb
      rw [hstate, hholds, hc.version_eq, hc.policy_eq]
      exact ⟨rfl, rfl⟩
    · rw [(hc.backends b hb).2, hc.policy_eq]
    · exact Nat.le_of_eq (hc.version_eq.trans hframe.expectedVersion.symm)
    · rw [hc.policy_eq, hframe.expectedPolicy]
      rfl
  · have hversion := h.expect_version policy
    refine ⟨fun b hb hknown => ?_, fun hcons b hb => ?_, ?_, fun hv => ?_⟩
    · rw [hk.policy_eq, hk.version_eq]
      exact hk.recorded h.recorded b hb hknown
    · rw [hk.policy_eq]
      exact (hk.held hcons).2 (h.held (hk.held hcons).1) b hb
    · rw [hk.version_eq, hframe.expectedVersion]
      exact hversion.1
    rw [hk.version_eq, hframe.expectedVersion] at hv
    rw [hk.policy_eq, hframe.expectedPolicy]
    exact hversion.2 hv

lemma Scope.Good.apply_version (h : s.Good) (name : String) (policy : P) (r : Replies P) :
    s.policyVersion ≤ (s.applyRuleSetPolicyToBackends name policy r).1.policyVersion ∧
    (s.policyVersion = (s.applyRuleSetPolicyToBackends name policy r).1.policyVersion →
      s.policy = (s.applyRuleSetPolicyToBackends name policy r).1.policy) := by
  obtain ⟨-, hc | hk⟩ := s.apply_cases name policy r
  · rw [hc.version_eq, hc.policy_eq]
    exact h.expect_version policy
  rw [hk.version_eq, hk.policy_eq]
  exact ⟨Nat.le_refl _, fun _ => rfl⟩

def Scope.after (s : Scope P) (name : String) (calls : List (P × Replies P)) : Scope P :=
  calls.foldl (fun s call => (s.applyRuleSetPolicyToBackends name call.1 call.2).1) s

lemma Scope.after_append (s : Scope P) (name : String) (early late : List (P × Replies P)) :
    s.after name (early ++ late) = (s.after name early).after name late := foldl_append

lemma Scope.Good.after (h : s.Good) (name : String) (calls : List (P × Replies P)) : (s.after name calls).Good := by
  induction calls generalizing s with
  | nil => exact h
  | cons call calls ih => exact ih (h.apply name call.1 call.2)

lemma Scope.Good.after_version (h : s.Good) (name : String) (calls : List (P × Replies P)) :
    s.policyVersion ≤ (s.after name calls).policyVersion ∧
    (s.policyVersion = (s.after name calls).policyVersion → s.policy = (s.after name calls).policy) := by
  induction calls generalizing s with
  | nil => exact ⟨Nat.le_refl _, fun _ => rfl⟩
  | cons call calls ih =>
    have hone := h.apply_version name call.1 call.2
    have hrest := ih (h.apply name call.1 call.2)
    simp only [Scope.after, foldl_cons] at hrest ⊢
    exact ⟨Nat.le_trans hone.1 hrest.1, fun hv => (hone.2 (by omega)).trans (hrest.2 (by omega))⟩

/-- Where a sequence of calls may start: every backend holds the confirmed policy, and nothing recorded says
otherwise. -/
structure Scope.Start (s : Scope P) : Prop where
  held : ∀ b ∈ s.backends, b.holds = some s.policy
  recorded : ∀ b ∈ s.backends, b.state.known = true → b.state.version = s.policyVersion
  version_le : s.policyVersion ≤ s.expectedVersion
  version_eq : s.policyVersion = s.expectedVersion → s.policy = s.expectedPolicy

lemma Scope.Start.good (h : s.Start) : s.Good :=
  ⟨fun b hb hk => ⟨h.recorded b hb hk, h.held b hb⟩, fun _ => h.held, h.version_le, h.version_eq⟩

/-- After any sequence of calls: the next one changes the confirmed policy or its version only when every backend
accepts the new policy; a scope that is not inconsistent has all its backends at the confirmed policy; and a backend
with a known record holds the policy that was the confirmed one under the recorded version. -/
theorem policy_all_or_nothing (name : String) (h : s.Start) (calls : List (P × Replies P)) :
    (∀ policy r, ((s.after name calls).applyRuleSetPolicyToBackends name policy r).1.policy ≠
          (s.after name calls).policy ∨
        ((s.after name calls).applyRuleSetPolicyToBackends name policy r).1.policyVersion ≠
          (s.after name calls).policyVersion →
      ((s.after name calls).applyRuleSetPolicyToBackends name policy r).1.policy = policy ∧
      ∀ i, i < (s.after name calls).backends.length → r.forward i = .accepted) ∧
    ((s.after name calls).inconsistent = false →
      ∀ b ∈ (s.after name calls).backends, b.holds = some (s.after name calls).policy) ∧
    (∀ b ∈ (s.after name calls).backends, b.state.known = true →
      (∃ early, early <+: calls ∧ (s.after name early).policyVersion = b.state.version) ∧
      ∀ early, early <+: calls → (s.after name early).policyVersion = b.state.version →
        b.holds = some (s.after name early).policy) := by
  have hg := h.good.after name calls
  refine ⟨fun policy r hne => ?_, hg.held, fun b hb hk => ?_⟩
  · obtain ⟨-, hc | hk⟩ := (s.after name calls).apply_cases name policy r
    · exact ⟨hc.policy_eq, fun i hi => by simpa using hc.accepted i hi⟩
    · exact absurd hne (by rw [hk.policy_eq, hk.version_eq]; simp [Scope.expect])
  obtain ⟨hversion, hholds⟩ := hg.recorded b hb hk
  refine ⟨⟨calls, prefix_refl _, hversion.symm⟩, fun early hearly hv => ?_⟩
  -- the policy under that version has not changed since `early`
  obtain ⟨late, rfl⟩ := hearly
  have hsince := (h.good.after name early).after_version name late
  rw [← Scope.after_append] at hsince
  rw [hholds, hsince.2 (hv.trans hversion)]

end

/-- Two backends at version 5 of which the second one refuses the next policy: the first one is given the confirmed
policy back. -/
theorem policy_all_or_nothing_reverted :
    let s : Scope Nat :=
      { policy := 1, expectedPolicy := 1, policyVersion := 5, expectedVersion := 5
        backends := [⟨"TC", some 1, false, ⟨5, true⟩⟩, ⟨"cgroup", some 1, false, {}⟩] }
    let calls : List (Nat × Replies Nat) :=
      [(2, { forward := fun i => if i = 1 then .refused "closed" else .accepted })]
    (s.after "local.bypass_rule_set" calls).expectedVersion = 6 ∧
    ∀ b ∈ (s.after "local.bypass_rule_set" calls).backends, b.holds = some 1 := by
  refine ⟨by decide, ?_⟩
  exact (policy_all_or_nothing "local.bypass_rule_set" (by constructor <;> decide) _).2.1 (by decide)

end SingBox.Ebpf
