import SingBox.Dns.Walk
/-!
# Looking changes little

Settling futures, looking at them and matching a rule move the clock, the
settled responses and the rule-match metadata. The plan of the walk (its
position, its futures, the armed rules, what was done) stays: `Looked`.
-/
namespace SingBox.Dns

/-- The second state is a later one of the same plan. -/
structure Looked (s s' : WalkState) : Prop where
  effectiveOptions : s'.effectiveOptions = s.effectiveOptions
  ruleIndex : s'.ruleIndex = s.ruleIndex
  anonymousFuture : s'.anonymousFuture = s.anonymousFuture
  namedFutures : s'.namedFutures = s.namedFutures
  futures : s'.futures = s.futures
  armedRules : s'.armedRules = s.armedRules
  terminalFuture : s'.terminalFuture = s.terminalFuture
  terminalIndex : s'.terminalIndex = s.terminalIndex
  trace : s'.trace = s.trace
  clock : s.clock ≤ s'.clock

namespace Looked

lemma refl (s : WalkState) : Looked s s := ⟨rfl, rfl, rfl, rfl, rfl, rfl, rfl, rfl, rfl, le_rfl⟩

lemma trans {s t u : WalkState} (h : Looked s t) (h' : Looked t u) : Looked s u where
  effectiveOptions := h'.effectiveOptions.trans h.effectiveOptions
  ruleIndex := h'.ruleIndex.trans h.ruleIndex
  anonymousFuture := h'.anonymousFuture.trans h.anonymousFuture
  namedFutures := h'.namedFutures.trans h.namedFutures
  futures := h'.futures.trans h.futures
  armedRules := h'.armedRules.trans h.armedRules
  terminalFuture := h'.terminalFuture.trans h.terminalFuture
  terminalIndex := h'.terminalIndex.trans h.terminalIndex
  trace := h'.trace.trans h.trace
  clock := h.clock.trans h'.clock

lemma tick (s : WalkState) : Looked s s.tick := ⟨rfl, rfl, rfl, rfl, rfl, rfl, rfl, rfl, rfl, Nat.le_succ _⟩

end Looked

namespace WalkState
variable (sched : Schedule)

@[simp] lemma tick_clock (s : WalkState) : s.tick.clock = s.clock + 1 := rfl

lemma settleFuture_looked (s : WalkState) (f : Future × Nat) : Looked s (s.settleFuture sched f) := by
  simp only [settleFuture]
  split
  · exact Looked.tick s
  · split <;> exact ⟨rfl, rfl, rfl, rfl, rfl, rfl, rfl, rfl, rfl, Nat.le_succ _⟩

lemma settleFuture_clock (s : WalkState) (f : Future × Nat) : (s.settleFuture sched f).clock = s.clock + 1 := by
  simp only [settleFuture]
  split
  · rfl
  · split <;> rfl

lemma foldl_settleFuture_looked (fs : List (Future × Nat)) (s : WalkState) :
    Looked s (fs.foldl (settleFuture sched) s) := by
  induction fs generalizing s with
  | nil => exact Looked.refl s
  | cons f fs ih => exact (settleFuture_looked sched s f).trans (ih _)

lemma settle_looked (s : WalkState) : Looked s (s.settleDNSFutures sched) := foldl_settleFuture_looked sched _ s

lemma awaitFuture_looked (ks : List Nat) (s : WalkState) : Looked s (awaitFuture sched ks s).2 := by
  induction ks generalizing s with
  | nil => exact Looked.refl s
  | cons k ks ih =>
    simp only [awaitFuture]
    split
    · exact (Looked.tick s).trans (ih s.tick)
    · exact Looked.tick s

variable {ks : List Nat} {s : WalkState} {k : Nat}

lemma awaitFuture_none (h : (awaitFuture sched ks s).1 = none) :
    ∀ k ∈ ks, sched k ≤ (awaitFuture sched ks s).2.clock := by
  induction ks generalizing s with
  | nil => simp
  | cons k ks ih =>
    simp only [awaitFuture] at h ⊢
    split at h
    next hk =>
      rw [if_pos hk]
      refine List.forall_mem_cons.2 ⟨?_, ih h⟩
      have hresolved : sched k ≤ s.clock := by simpa [resolved] using hk
      exact hresolved.trans ((Nat.le_succ _).trans (awaitFuture_looked sched ks s.tick).clock)
    next => cases h

/-- A future to wait for is one of those looked at, and not resolved before its look. -/
lemma awaitFuture_some (h : (awaitFuture sched ks s).1 = some k) : k ∈ ks ∧ s.clock < sched k := by
  induction ks generalizing s with
  | nil => cases h
  | cons k' ks ih =>
    simp only [awaitFuture] at h
    split at h
    next =>
      obtain ⟨hk, hlt⟩ := ih h
      exact ⟨List.mem_cons_of_mem _ hk, by rw [tick_clock] at hlt; omega⟩
    next hk =>
      cases h
      exact ⟨List.mem_cons_self, by simpa [resolved] using hk⟩

lemma awaitFuture_of_resolved (h : ∀ k ∈ ks, sched k ≤ s.clock) : (awaitFuture sched ks s).1 = none := by
  cases hk : (awaitFuture sched ks s).1 with
  | none => rfl
  | some k =>
    obtain ⟨hmem, hlt⟩ := awaitFuture_some sched hk
    exact absurd (h k hmem) (by omega)

lemma pendingFutures_looked (ks : List Nat) (s : WalkState) : Looked s (pendingFutures sched ks s).2 := by
  induction ks generalizing s with
  | nil => exact Looked.refl s
  | cons k ks ih => exact (Looked.tick s).trans (ih s.tick)

lemma pendingFutures_mem (h : k ∈ (pendingFutures sched ks s).1) : k ∈ ks ∧ s.clock < sched k := by
  induction ks generalizing s with
  | nil => cases h
  | cons k' ks ih =>
    have later (h : k ∈ (pendingFutures sched ks s.tick).1) : k ∈ k' :: ks ∧ s.clock < sched k := by
      obtain ⟨hk, hlt⟩ := ih h
      exact ⟨List.mem_cons_of_mem _ hk, by rw [tick_clock] at hlt; omega⟩
    simp only [pendingFutures] at h
    split at h
    next => exact later h
    next hk =>
      rcases List.mem_cons.1 h with rfl | h
      · exact ⟨List.mem_cons_self, by simpa [resolved] using hk⟩
      · exact later h

lemma boundFutures_looked {s' : WalkState} (h : Looked s s') (rule : Rule) :
    s'.boundFutures rule = s.boundFutures rule := by
  simp only [boundFutures, h.namedFutures, h.anonymousFuture]

lemma visit_some {rule : Rule} (h : (s.visit sched rule).1 = some k) :
    k ∈ s.boundFutures rule ∧ s.clock < sched k := by
  obtain ⟨hk, hlt⟩ := awaitFuture_some sched h
  rw [boundFutures_looked (settle_looked sched s)] at hk
  exact ⟨hk, (settle_looked sched s).clock.trans_lt hlt⟩

lemma visit_looked (rule : Rule) (s : WalkState) : Looked s (s.visit sched rule).2 :=
  (settle_looked sched s).trans (awaitFuture_looked sched _ _)

lemma bindings_looked (rule : Rule) (s : WalkState) :
    Looked s (if hasBindings rule then s.visit sched rule else (none, s)).2 := by
  split
  · exact visit_looked sched rule s
  · exact .refl s

lemma examine_looked (env : Env) (rule : Rule) (response : Option Msg) (s : WalkState) :
    Looked s (examine env rule response s).2 := ⟨rfl, rfl, rfl, rfl, rfl, rfl, rfl, rfl, rfl, Nat.le_succ _⟩

end WalkState
end SingBox.Dns
